/-
The statement cache of a server and the statements on the backend.

The cache is brought up to date when a packet is sent, the backend when it answers
one.  In between, the cache is what the backend is going to have once it has dealt
with everything that is on its way, in that order: no packet on its way prepares a
name that exists by then, or uses or closes one that does not.
-/
import PgBouncer.Proofs.LockstepRun

namespace PgBouncer

open UndoLog

/-! ### Packets on their way -/

/-- The `PGBOUNCER_n` statement a Bind or Describe is about. -/
def Pkt.uses : Pkt StmtRef → Option QueryId
  | .bind _ (.pgbouncer id) => some id
  | .describe _ (.pgbouncer id) => some id
  | _ => none

/-- A packet that names a `PGBOUNCER_n` statement. -/
def Pkt.namesStatement (p : Pkt StmtRef) : Bool :=
  p.op ≠ .keep ∨ p.uses ≠ none

/-- A packet prepares a name that is free, or uses or closes one that exists. -/
structure Fits (stmts : List QueryId) (p : Pkt StmtRef) : Prop where
  legal : Legal stmts p.op
  uses : ∀ id, p.uses = some id → id ∈ stmts

/-- The statements left by a sequence of packets. -/
def stmtsBehind (stmts : List QueryId) (ps : List (Pkt StmtRef)) : List QueryId :=
  applyAll stmts (ps.map Pkt.op)

/-- Each packet fits the statements the ones ahead of it leave. -/
def FitAll : List QueryId → List (Pkt StmtRef) → Prop
  | _, [] => True
  | stmts, p :: ps => Fits stmts p ∧ FitAll (apply stmts p.op) ps

theorem stmtsBehind_append (stmts : List QueryId) (ps qs : List (Pkt StmtRef)) :
    stmtsBehind stmts (ps ++ qs) = stmtsBehind (stmtsBehind stmts ps) qs := by
  rw [stmtsBehind, List.map_append, applyAll_append]
  rfl

variable {ps : List (Pkt StmtRef)}

theorem fitAll_append {qs : List (Pkt StmtRef)} :
    ∀ {stmts : List QueryId}, FitAll stmts (ps ++ qs) ↔
      FitAll stmts ps ∧ FitAll (stmtsBehind stmts ps) qs := by
  induction ps with
  | nil => intro stmts; simp [FitAll, stmtsBehind, applyAll]
  | cons p ps ih =>
    intro stmts
    rw [List.cons_append, FitAll, FitAll, ih, and_assoc]
    rfl

theorem FitAll.legalAll :
    ∀ {stmts : List QueryId}, FitAll stmts ps → LegalAll stmts (ps.map Pkt.op) := by
  induction ps with
  | nil => intro stmts _; trivial
  | cons p ps ih => intro stmts h; exact ⟨h.1.legal, ih h.2⟩

theorem FitAll.perm :
    ∀ {stmts stmts' : List QueryId}, stmts.Perm stmts' → FitAll stmts ps → FitAll stmts' ps := by
  induction ps with
  | nil => intro stmts stmts' _ _; trivial
  | cons p ps ih =>
    intro stmts stmts' hperm h
    refine ⟨⟨legal_perm hperm h.1.legal, fun id hid => hperm.mem_iff.mp (h.1.uses id hid)⟩, ?_⟩
    exact ih (apply_perm hperm _) h.2

variable {p : Pkt StmtRef}

theorem op_of_not_names (h : p.namesStatement = false) :
    p.op = .keep ∧ p.uses = none := by
  simpa [Pkt.namesStatement] using h

/-- Packets that name no statement do not matter. -/
theorem fitAll_of_not_names (h : ∀ p ∈ ps, p.namesStatement = false) (stmts : List QueryId) :
    FitAll stmts ps ∧ stmtsBehind stmts ps = stmts := by
  induction ps with
  | nil => exact ⟨trivial, rfl⟩
  | cons p ps ih =>
    obtain ⟨hop, huses⟩ := op_of_not_names (h p List.mem_cons_self)
    obtain ⟨hfit, hbehind⟩ := ih fun q hq => h q (List.mem_cons_of_mem p hq)
    refine ⟨⟨⟨?_, ?_⟩, ?_⟩, ?_⟩
    · rw [hop]
      trivial
    · intro id hid
      exact absurd (huses.symm.trans hid) (by simp)
    · rw [hop]
      exact hfit
    · rw [stmtsBehind, List.map_cons, hop]
      exact hbehind

theorem not_names_of_not_request (h : p.type.isRequest = false) :
    p.namesStatement = false := by
  cases p <;> first | rfl | exact absurd (show true = false from h) (by simp)

theorem not_names_of_ready (h : p.type.isReady = true) :
    p.namesStatement = false := by
  cases p <;> first | rfl | exact absurd (show false = true from h) (by simp)

@[simp] theorem forwarded_not_names (p : Pkt Bytes) : p.forwarded.namesStatement = false := by
  cases p <;> rfl

/-! ### What a packet of the client sends fits the cache -/

variable {l : Link} {others cache : List QueryId} {id : QueryId} {cfg : Config}

theorem mem_cache_of_not_fresh (h : l.Sound others) (hid : id ∈ l.server.serverPreparedStatements) :
    ∃ ps ∈ l.stmts.preparedStatements, ps.queryId = id := by
  refine (h.counted.mem_iff id).mpr (List.count_pos_iff.mpr ?_)
  simp [Server.refs, hid]

/-- A statement that was not in the table is not in the cache either. -/
theorem get_not_mem_cache (h : l.Sound others) {query : Bytes} {ps : PgPreparedStatement}
    {found : Bool} {g : Statements} (hget : getPreparedStatement l.stmts query = (ps, found, g))
    (hmem : found = true → ps.queryId ∉ l.server.serverPreparedStatements) :
    ps.queryId ∉ l.server.serverPreparedStatements := by
  intro hin
  unfold getPreparedStatement at hget
  split at hget
  · exact hmem (Prod.mk.inj (Prod.mk.inj hget).2).1.symm hin
  · obtain rfl := (Prod.mk.inj hget).1
    obtain ⟨ps', hps', hid⟩ := mem_cache_of_not_fresh h hin
    have hle := h.counted.queryId_le ps' hps'
    rw [hid] at hle
    exact absurd hle (Nat.not_succ_le_self _)

theorem map_op_closePkts (ids : List QueryId) :
    (ids.map closePkt).map Pkt.op = ids.map Op.remove := by
  rw [List.map_map]
  rfl

theorem fitAll_closePkts {ids : List QueryId} (h : LegalAll cache (ids.map .remove)) :
    FitAll cache (ids.map closePkt) := by
  induction ids generalizing cache with
  | nil => trivial
  | cons id ids ih =>
    refine ⟨⟨h.1, fun x hx => absurd hx (by simp [Pkt.uses, closePkt])⟩, ih h.2⟩

/-- A Parse and the evictions behind it. -/
theorem fitAll_parsed (cfg : Config) (query : Bytes) (hid : id ∉ cache) :
    FitAll cache (.parse (.pgbouncer id) query :: (evicted cfg (cache ++ [id])).map closePkt) ∧
      stmtsBehind cache
        (.parse (.pgbouncer id) query :: (evicted cfg (cache ++ [id])).map closePkt) =
      kept cfg (cache ++ [id]) := by
  have hadd : apply cache (.add id) = evicted cfg (cache ++ [id]) ++ kept cfg (cache ++ [id]) := by
    rw [evicted_append_kept, apply, if_neg hid]
  refine ⟨⟨⟨hid, fun x hx => absurd hx (by simp [Pkt.uses])⟩, ?_⟩, ?_⟩
  · refine fitAll_closePkts ?_
    show LegalAll (apply cache (.add id)) _
    rw [hadd]
    exact legalAll_remove _ _
  · rw [stmtsBehind, List.map_cons, map_op_closePkts]
    show applyAll (apply cache (.add id)) _ = _
    rw [hadd]
    exact applyAll_remove _ _

/-- The statement prepared last is not evicted. -/
theorem mem_kept (hmax : cfg.maxPreparedStatements ≠ 0) (cache : List QueryId) (id : QueryId) :
    id ∈ kept cfg (cache ++ [id]) := by
  have hle : (cache ++ [id]).length - cfg.maxPreparedStatements ≤ cache.length := by
    rw [List.length_append, List.length_singleton]
    omega
  rw [kept, List.drop_append_of_le_length hle]
  simp

theorem maxPreparedStatements_of_psAction {p : Pkt Bytes} (h : psAction cfg p = true) :
    cfg.isPreparedStatementsEnabled = true ∧ cfg.maxPreparedStatements ≠ 0 := by
  have henabled : cfg.isPreparedStatementsEnabled = true := by
    unfold psAction at h
    split at h <;> first | exact (Bool.and_eq_true_iff.mp h).1 | exact absurd h (by simp)
  refine ⟨henabled, ?_⟩
  simpa using (Bool.and_eq_true_iff.mp henabled).2

theorem addOutstandingRequest_cache (sv : Server) (type : ReqType) (action : ResponseAction) :
    (addOutstandingRequest sv type action).serverPreparedStatements =
      sv.serverPreparedStatements := by
  unfold addOutstandingRequest
  split
  · rw [queueFakeResponse_eq]
  · rfl

theorem touched_perm (h : id ∈ l.server.serverPreparedStatements) :
    (l.touched id).server.serverPreparedStatements.Perm l.server.serverPreparedStatements := by
  simp only [Link.touched]
  split
  · refine List.perm_iff_count.mpr fun x => ?_
    have hc := count_eraseLast h x
    rw [List.count_cons] at hc
    rw [List.count_append, List.count_singleton]
    exact hc
  · exact .refl _

/-- Packets that fit the cache, and the cache they leave. -/
structure CacheStep (cfg : Config) (cache cache' : List QueryId) (sent : List (Pkt StmtRef)) :
    Prop where
  fit : FitAll cache sent
  perm : cache'.Perm (stmtsBehind cache sent)
  disabled : cfg.isPreparedStatementsEnabled = false → ∀ q ∈ sent, q.namesStatement = false

theorem CacheStep.quiet {cache' : List QueryId} {sent : List (Pkt StmtRef)}
    (hcache : cache' = cache) (h : ∀ q ∈ sent, q.namesStatement = false) :
    CacheStep cfg cache cache' sent := by
  obtain ⟨hfit, hbehind⟩ := fitAll_of_not_names h cache
  exact ⟨hfit, by rw [hcache, hbehind], fun _ => h⟩

theorem fits_use {p : Pkt Bytes} {name : Bytes} {type : ReqType} {pkt : StmtRef → Pkt StmtRef}
    (huses : Uses p name type pkt) (h : id ∈ cache) :
    Fits cache (pkt (.pgbouncer id)) := by
  cases huses with
  | bind | describe => exact ⟨trivial, fun x hx => Option.some.inj hx ▸ h⟩

/-- **What a packet of the client sends fits the cache**, and leaves it as the backend's
statements are going to be. -/
theorem accepts_cacheStep {l' : Link} {p : Pkt Bytes} {sent : List (Pkt StmtRef)}
    (ha : Accepts cfg l p l') (hs : l.Sound others) (hsent : l'.toServer = l.toServer ++ sent) :
    CacheStep cfg l.server.serverPreparedStatements l'.server.serverPreparedStatements sent := by
  have henabled : psAction cfg p = true → ∀ {P : Prop},
      cfg.isPreparedStatementsEnabled = false → P := by
    intro hps P hoff
    exact absurd ((maxPreparedStatements_of_psAction hps).1.symm.trans hoff) (by simp)
  cases ha with
  | forward _ _ _ =>
    obtain rfl : [p.forwarded] = sent := List.append_cancel_left hsent
    refine .quiet ?_ (by simp)
    unfold forwardPacket
    simp only
    split
    · rw [addOutstandingRequest_cache]
      rfl
    · rfl
  | close _ =>
    have hnil : sent = [] := by
      unfold handleCloseStatementCommand at hsent
      simp only at hsent
      split at hsent <;> exact List.self_eq_append_right.mp hsent
    refine .quiet ?_ (by simp [hnil])
    unfold handleCloseStatementCommand
    simp only
    split
    · rfl
    · rw [addOutstandingRequest_cache]
  | parseKnown =>
    obtain rfl : sent = [] := List.self_eq_append_right.mp hsent
    exact .quiet (addOutstandingRequest_cache _ _ _) (by simp)
  | @parse _ _ ps _ _ hps _ hget hmem =>
    obtain rfl : _ = sent := List.append_cancel_left hsent
    have hid := get_not_mem_cache hs hget hmem
    obtain ⟨hfit, hbehind⟩ := fitAll_parsed cfg ps.queryAndParameters hid
    exact ⟨hfit, .of_eq hbehind.symm, henabled hps⟩
  | @useKnown _ _ _ _ e hps huses _ hmem =>
    obtain rfl : _ = sent := List.append_cancel_left hsent
    refine ⟨⟨fits_use huses hmem, trivial⟩, ?_, henabled hps⟩
    rw [stmtsBehind, List.map_singleton, (huses.type_eq (.pgbouncer e.ps)).2.2.1]
    exact touched_perm hmem
  | @use _ _ _ _ e hps huses _ hmem =>
    obtain rfl : _ = sent :=
      List.append_cancel_left ((List.append_assoc _ _ _).symm.trans hsent)
    have hcache : (tagDirty l).server.serverPreparedStatements =
        l.server.serverPreparedStatements := rfl
    have hid : (l.deref e).queryId ∉ l.server.serverPreparedStatements := by
      rw [deref_queryId]
      exact hmem
    obtain ⟨hfit, hbehind⟩ := fitAll_parsed cfg (l.deref e).queryAndParameters hid
    have hkept := mem_kept (maxPreparedStatements_of_psAction hps).2
      l.server.serverPreparedStatements (l.deref e).queryId
    refine ⟨fitAll_append.mpr ⟨hfit, ?_⟩, ?_, henabled hps⟩
    · rw [hcache, hbehind]
      rw [deref_queryId] at hkept ⊢
      exact ⟨fits_use huses hkept, trivial⟩
    · rw [hcache, stmtsBehind_append, hbehind, stmtsBehind, List.map_singleton,
        (huses.type_eq (.pgbouncer e.ps)).2.2.1]
      exact .refl _

end PgBouncer
