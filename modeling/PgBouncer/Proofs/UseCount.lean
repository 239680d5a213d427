/-
Reference counting of the shared statements.

A `PgPreparedStatement` is pointed at from three places: the maps of the clients,
the caches of the servers, and the outstanding Close requests that carry a cache
entry on its way out.  Ownership moves between them in three files.  `Counted`
says that the table agrees with a list of references, and every operation on the
table has one lemma that says which reference it adds or takes away.  A packet
handler is then a matter of following the references of the client and the server
it works on, while leaving alone those held elsewhere.
-/
import Mathlib.Data.List.Count
import Mathlib.Data.List.Nodup
import PgBouncer.Proofs.ServerWork

namespace PgBouncer

/-! ### The table against a list of references -/

/-- The statement table is what the references `refs` call for. -/
structure Counted (g : Statements) (refs : List QueryId) : Prop where
  useCount : ∀ ps ∈ g.preparedStatements, ps.useCount = refs.count ps.queryId
  mem_iff : ∀ id, (∃ ps ∈ g.preparedStatements, ps.queryId = id) ↔ 0 < refs.count id
  queryId_nodup : (g.preparedStatements.map (·.queryId)).Nodup
  text_nodup : (g.preparedStatements.map (·.queryAndParameters)).Nodup
  /-- Ids are handed out in order, so the next one is new. -/
  queryId_le : ∀ ps ∈ g.preparedStatements, ps.queryId ≤ g.nextUniqueQueryId
  queryId_pos : ∀ ps ∈ g.preparedStatements, 0 < ps.queryId

variable {g : Statements} {id : QueryId} {cache others : List QueryId}

theorem Counted.congr {refs refs' : List QueryId} (h : Counted g refs)
    (hc : ∀ id, refs'.count id = refs.count id) : Counted g refs' where
  __ := h
  useCount ps hps := by rw [hc, h.useCount ps hps]
  mem_iff id := by rw [hc, h.mem_iff id]

theorem Counted.nil : Counted {} [] where
  useCount := by simp
  mem_iff := by simp
  queryId_nodup := by simp
  text_nodup := by simp
  queryId_le := by simp
  queryId_pos := by simp

@[simp] theorem incUseCount_queryIds (g : Statements) (id : QueryId) :
    (g.incUseCount id).preparedStatements.map (·.queryId)
      = g.preparedStatements.map (·.queryId) := by
  simp only [Statements.incUseCount, List.map_map]
  refine List.map_congr_left fun ps _ => ?_
  simp only [Function.comp_apply]
  split <;> rfl

@[simp] theorem incUseCount_texts (g : Statements) (id : QueryId) :
    (g.incUseCount id).preparedStatements.map (·.queryAndParameters)
      = g.preparedStatements.map (·.queryAndParameters) := by
  simp only [Statements.incUseCount, List.map_map]
  refine List.map_congr_left fun ps _ => ?_
  simp only [Function.comp_apply]
  split <;> rfl

theorem mem_incUseCount {ps' : PgPreparedStatement} :
    ps' ∈ (g.incUseCount id).preparedStatements ↔
      ∃ ps ∈ g.preparedStatements, ps' =
        { ps with useCount := ps.useCount + if ps.queryId = id then 1 else 0 } := by
  simp only [Statements.incUseCount, List.mem_map]
  constructor
  · rintro ⟨ps, hps, rfl⟩
    refine ⟨ps, hps, ?_⟩
    split <;> rfl
  · rintro ⟨ps, hps, rfl⟩
    refine ⟨ps, hps, ?_⟩
    split <;> rfl

/-- One more reference to a statement of the table. -/
theorem Counted.incUseCount {refs : List QueryId} (h : Counted g refs) (hid : 0 < refs.count id) :
    Counted (g.incUseCount id) (id :: refs) where
  useCount ps' hps' := by
    obtain ⟨ps, hps, rfl⟩ := mem_incUseCount.mp hps'
    simp only [h.useCount ps hps, List.count_cons, beq_iff_eq, eq_comm (a := id)]
  mem_iff id' := by
    have hmem : (∃ ps ∈ (g.incUseCount id).preparedStatements, ps.queryId = id') ↔
        ∃ ps ∈ g.preparedStatements, ps.queryId = id' := by
      have := incUseCount_queryIds g id
      rw [← List.mem_map, ← List.mem_map, this]
    rw [hmem, h.mem_iff id', List.count_cons]
    by_cases hEq : id = id'
    · subst hEq; simp [hid]
    · simp [hEq]
  queryId_nodup := by rw [incUseCount_queryIds]; exact h.queryId_nodup
  text_nodup := by rw [incUseCount_texts]; exact h.text_nodup
  queryId_le ps' hps' := by
    obtain ⟨ps, hps, rfl⟩ := mem_incUseCount.mp hps'
    exact h.queryId_le ps hps
  queryId_pos ps' hps' := by
    obtain ⟨ps, hps, rfl⟩ := mem_incUseCount.mp hps'
    exact h.queryId_pos ps hps

theorem mem_decUseCount {ps' : PgPreparedStatement} :
    ps' ∈ (g.decUseCount id).preparedStatements ↔
      ∃ ps ∈ g.preparedStatements,
        (ps.queryId ≠ id ∧ ps' = ps) ∨
        (ps.queryId = id ∧ ps.useCount - 1 ≠ 0 ∧
          ps' = { ps with useCount := ps.useCount - 1 }) := by
  simp only [Statements.decUseCount, List.mem_filterMap]
  constructor
  · rintro ⟨ps, hps, h⟩
    refine ⟨ps, hps, ?_⟩
    by_cases hid : ps.queryId = id
    · rw [if_pos hid] at h
      by_cases hz : ps.useCount - 1 = 0
      · rw [if_pos hz] at h
        exact absurd h (by simp)
      · rw [if_neg hz, Option.some.injEq] at h
        exact .inr ⟨hid, hz, h.symm⟩
    · rw [if_neg hid, Option.some.injEq] at h
      exact .inl ⟨hid, h.symm⟩
  · rintro ⟨ps, hps, ⟨hid, rfl⟩ | ⟨hid, hz, rfl⟩⟩
    · exact ⟨ps', hps, by rw [if_neg hid]⟩
    · exact ⟨ps, hps, by rw [if_pos hid, if_neg hz]⟩

theorem decUseCount_sublist {α : Type} (f : PgPreparedStatement → α)
    (hf : ∀ (ps : PgPreparedStatement) (n : Nat), f { ps with useCount := n } = f ps)
    (g : Statements) (id : QueryId) :
    List.Sublist ((g.decUseCount id).preparedStatements.map f) (g.preparedStatements.map f) := by
  simp only [Statements.decUseCount]
  induction g.preparedStatements with
  | nil => simp
  | cons ps rest ih =>
    by_cases hid : ps.queryId = id
    · by_cases hz : ps.useCount - 1 = 0
      · simp only [List.filterMap_cons, if_pos hid, if_pos hz, List.map_cons]
        exact ih.trans (List.sublist_cons_self _ _)
      · simp only [List.filterMap_cons, if_pos hid, if_neg hz, List.map_cons, hf]
        exact ih.cons_cons _
    · simp only [List.filterMap_cons, if_neg hid, List.map_cons]
      exact ih.cons_cons _

/-- One reference less.  The statement goes when it was the last one. -/
theorem Counted.decUseCount {refs : List QueryId} (h : Counted g (id :: refs)) :
    Counted (g.decUseCount id) refs where
  useCount ps' hps' := by
    obtain ⟨ps, hps, ⟨hid, rfl⟩ | ⟨hid, _, rfl⟩⟩ := mem_decUseCount.mp hps'
    · rw [h.useCount ps' hps, List.count_cons_of_ne (Ne.symm hid)]
    · show ps.useCount - 1 = refs.count ps.queryId
      rw [h.useCount ps hps, hid, List.count_cons_self, Nat.add_sub_cancel]
  mem_iff id' := by
    constructor
    · rintro ⟨ps', hps', rfl⟩
      obtain ⟨ps, hps, ⟨hid, rfl⟩ | ⟨hid, hz, rfl⟩⟩ := mem_decUseCount.mp hps'
      · have hpos := (h.mem_iff ps'.queryId).mp ⟨ps', hps, rfl⟩
        rwa [List.count_cons_of_ne (Ne.symm hid)] at hpos
      · show 0 < refs.count ps.queryId
        rw [h.useCount ps hps, hid, List.count_cons_self, Nat.add_sub_cancel] at hz
        rw [hid]
        omega
    · intro hpos
      have hpos' : 0 < (id :: refs).count id' := by
        rw [List.count_cons]; omega
      obtain ⟨ps, hps, rfl⟩ := (h.mem_iff id').mpr hpos'
      by_cases hid : ps.queryId = id
      · refine ⟨{ ps with useCount := ps.useCount - 1 }, mem_decUseCount.mpr
          ⟨ps, hps, .inr ⟨hid, ?_, rfl⟩⟩, rfl⟩
        rw [h.useCount ps hps, hid, List.count_cons_self, Nat.add_sub_cancel, ← hid]
        omega
      · exact ⟨ps, mem_decUseCount.mpr ⟨ps, hps, .inl ⟨hid, rfl⟩⟩, rfl⟩
  queryId_nodup := h.queryId_nodup.sublist (decUseCount_sublist _ (fun _ _ => rfl) g id)
  text_nodup := h.text_nodup.sublist (decUseCount_sublist _ (fun _ _ => rfl) g id)
  queryId_le ps' hps' := by
    obtain ⟨ps, hps, ⟨_, rfl⟩ | ⟨_, _, rfl⟩⟩ := mem_decUseCount.mp hps'
    · exact h.queryId_le ps' hps
    · exact h.queryId_le ps hps
  queryId_pos ps' hps' := by
    obtain ⟨ps, hps, ⟨_, rfl⟩ | ⟨_, _, rfl⟩⟩ := mem_decUseCount.mp hps'
    · exact h.queryId_pos ps' hps
    · exact h.queryId_pos ps hps

/-- Freeing a list of cache entries. -/
theorem Counted.freeServerPreparedStatements :
    ∀ {g : Statements} {refs : List QueryId}, Counted g (cache ++ refs) →
      Counted (freeServerPreparedStatements cache g) refs := by
  induction cache with
  | nil => intro g refs h; exact h
  | cons id rest ih => intro g refs h; exact ih h.decUseCount

/-- Freeing a client's map. -/
theorem Counted.freeClientPreparedStatements {names : List PgClientPreparedStatement} :
    ∀ {g : Statements} {refs : List QueryId}, Counted g (names.map (·.ps) ++ refs) →
      Counted (freeClientPreparedStatements names g) refs := by
  induction names with
  | nil => intro g refs h; exact h
  | cons e rest ih => intro g refs h; exact ih h.decUseCount

/-- Looking a query up and referring to the statement found or made for it. -/
theorem Counted.getPreparedStatement {refs : List QueryId} (h : Counted g refs) (query : Bytes) :
    Counted ((getPreparedStatement g query).2.2.incUseCount
      (getPreparedStatement g query).1.queryId)
      ((getPreparedStatement g query).1.queryId :: refs) := by
  unfold PgBouncer.getPreparedStatement
  cases hfind : g.find? query with
  | some ps =>
    have hps : ps ∈ g.preparedStatements := List.mem_of_find?_eq_some hfind
    exact h.incUseCount ((h.mem_iff _).mp ⟨ps, hps, rfl⟩)
  | none =>
    -- the new id is above all others, so nothing refers to it yet
    have hnone : ∀ ps ∈ g.preparedStatements, ps.queryAndParameters ≠ query := by
      intro ps hps
      simpa using List.find?_eq_none.mp hfind ps hps
    have hnew : ∀ ps ∈ g.preparedStatements, ps.queryId ≠ g.nextUniqueQueryId + 1 := by
      intro ps hps
      exact Nat.ne_of_lt (Nat.lt_succ_of_le (h.queryId_le ps hps))
    have hzero : refs.count (g.nextUniqueQueryId + 1) = 0 := by
      by_contra hpos
      obtain ⟨ps, hps, hid⟩ := (h.mem_iff _).mpr (Nat.pos_of_ne_zero hpos)
      exact hnew ps hps hid
    exact {
      useCount := by
        intro ps' hps'
        obtain ⟨ps, hps, rfl⟩ := mem_incUseCount.mp hps'
        rcases List.mem_append.mp hps with hold | hmade
        · have hne := hnew ps hold
          simp [Statements.create, hne, h.useCount ps hold, Ne.symm hne]
        · rw [List.mem_singleton] at hmade
          subst hmade
          simp [Statements.create, hzero]
      mem_iff := by
        intro id
        rw [← List.mem_map, incUseCount_queryIds, List.map_append, List.mem_append, List.mem_map,
          h.mem_iff id, List.count_cons]
        by_cases hid : g.nextUniqueQueryId + 1 = id
        · simp [Statements.create, hid]
        · simp [Statements.create, hid, Ne.symm hid]
      queryId_nodup := by
        rw [incUseCount_queryIds, List.map_append, List.nodup_append]
        refine ⟨h.queryId_nodup, by simp, ?_⟩
        intro id hid id' hid'
        obtain ⟨ps, hps, rfl⟩ := List.mem_map.mp hid
        simp only [List.map_cons, List.map_nil, List.mem_singleton] at hid'
        subst hid'
        exact hnew ps hps
      text_nodup := by
        rw [incUseCount_texts, List.map_append, List.nodup_append]
        refine ⟨h.text_nodup, by simp, ?_⟩
        intro q hq q' hq'
        obtain ⟨ps, hps, rfl⟩ := List.mem_map.mp hq
        simp only [List.map_cons, List.map_nil, List.mem_singleton] at hq'
        subst hq'
        exact hnone ps hps
      queryId_le := by
        intro ps' hps'
        obtain ⟨ps, hps, rfl⟩ := mem_incUseCount.mp hps'
        rcases List.mem_append.mp hps with hold | hmade
        · exact Nat.le_succ_of_le (h.queryId_le ps hold)
        · rw [List.mem_singleton] at hmade
          subst hmade
          exact Nat.le_refl _
      queryId_pos := by
        intro ps' hps'
        obtain ⟨ps, hps, rfl⟩ := mem_incUseCount.mp hps'
        rcases List.mem_append.mp hps with hold | hmade
        · exact h.queryId_pos ps hold
        · rw [List.mem_singleton] at hmade
          subst hmade
          exact Nat.succ_pos _ }

/-! ### The references of a client and a server -/

def Client.refs (c : Client) : List QueryId :=
  c.clientPreparedStatements.map (·.ps)

def Server.refs (sv : Server) : List QueryId :=
  sv.serverPreparedStatements ++ requestRefs sv.outstandingRequests

/-- The references of a server's client, if it has one. -/
def optRefs : Option Client → List QueryId
  | none => []
  | some c => c.refs

/-- Only Close requests of pgbouncer's own carry a cache entry. -/
def ClosesOnly (requests : List OutstandingRequest) : Prop :=
  ∀ r ∈ requests, r.serverPs ≠ none → r.type = .close ∧ r.action = .skip

/-- The table accounts for a server, its client, and the references `others` held
elsewhere. -/
structure Sound (c : Option Client) (sv : Server) (g : Statements) (others : List QueryId) :
    Prop where
  counted : Counted g (optRefs c ++ sv.refs ++ others)
  closes : ClosesOnly sv.outstandingRequests

@[simp] theorem requestRefs_append (q q' : List OutstandingRequest) :
    requestRefs (q ++ q') = requestRefs q ++ requestRefs q' :=
  List.filterMap_append

@[simp] theorem requestRefs_cons (r : OutstandingRequest) (q : List OutstandingRequest) :
    requestRefs (r :: q) = r.serverPs.toList ++ requestRefs q := by
  cases h : r.serverPs <;> simp [requestRefs, h]

@[simp] theorem requestRefs_nil : requestRefs [] = [] := rfl

@[simp] theorem requestRefs_closeRequests (ids : List QueryId) :
    requestRefs (ids.map closeRequest) = ids := by
  simp [requestRefs, closeRequest, List.filterMap_map, Function.comp_def]

theorem ClosesOnly.append {q q' : List OutstandingRequest} (h : ClosesOnly q)
    (h' : ClosesOnly q') : ClosesOnly (q ++ q') := by
  intro r hr
  rcases List.mem_append.mp hr with hq | hq'
  · exact h r hq
  · exact h' r hq'

theorem ClosesOnly.of_suffix {q q' : List OutstandingRequest} (h : ClosesOnly q)
    (hs : q' <:+ q) : ClosesOnly q' :=
  fun r hr => h r (hs.mem hr)

theorem closesOnly_singleton {r : OutstandingRequest} (h : r.serverPs = none) :
    ClosesOnly [r] := by
  intro r' hr' hne
  rw [List.mem_singleton.mp hr'] at hne
  exact absurd h hne

theorem closesOnly_closeRequests (ids : List QueryId) : ClosesOnly (ids.map closeRequest) := by
  intro r hr _
  obtain ⟨id, _, rfl⟩ := List.mem_map.mp hr
  exact ⟨rfl, rfl⟩

/-! ### Dropping requests -/

theorem count_eraseLast (hid : id ∈ cache) (x : QueryId) :
    (id :: eraseLast cache id).count x = cache.count x := by
  have hperm : (id :: cache.reverse.erase id).Perm cache.reverse :=
    (List.perm_cons_erase (List.mem_reverse.mpr hid)).symm
  have hcount := hperm.count_eq x
  rw [List.count_cons, List.count_reverse] at hcount
  rw [List.count_cons, eraseLast, List.count_reverse, hcount]

/-- Undoing one request moves its reference or gives it up. -/
theorem counted_undoRequest {r : OutstandingRequest} (others : List QueryId)
    (hclose : r.serverPs ≠ none → r.type = .close ∧ r.action = .skip)
    (h : Counted g (cache ++ (r.serverPs.toList ++ others))) :
    Counted (undoRequest r cache g).2 ((undoRequest r cache g).1 ++ others) := by
  unfold undoRequest
  by_cases hparse : r.type = .parse ∧ r.serverPsQueryId > 0
  · have hnone : r.serverPs = none := by
      by_contra hne
      exact absurd (hclose hne).1 (by simp [hparse.1])
    rw [if_pos hparse, unregisterPreparedStatement]
    rw [hnone, Option.toList_none, List.nil_append] at h
    split
    · rename_i hmem
      refine Counted.decUseCount (h.congr fun x => ?_)
      have hc := count_eraseLast hmem x
      rw [List.count_cons] at hc
      simp only [List.count_cons, List.count_append]
      omega
    · exact h
  · rw [if_neg hparse]
    cases hps : r.serverPs with
    | none =>
      rw [hps, Option.toList_none, List.nil_append] at h
      split <;> exact h
    | some id =>
      rw [if_pos (hclose (by simp [hps])).1]
      rw [hps, Option.toList_some] at h
      simpa [addPreparedStatement] using h

theorem counted_clearRequestsUntil (types : List ReqType) :
    ∀ (q : List OutstandingRequest) (cache : List QueryId) (g : Statements)
      (others : List QueryId), ClosesOnly q → Counted g (cache ++ (requestRefs q ++ others)) →
      Counted (clearRequestsUntil types q cache g).2.2
        ((clearRequestsUntil types q cache g).2.1 ++
          (requestRefs (clearRequestsUntil types q cache g).1 ++ others)) := by
  intro q
  induction q with
  | nil => intro cache g others _ h; exact h
  | cons r rest ih =>
    intro cache g others hq h
    have hundo := counted_undoRequest (requestRefs rest ++ others)
      (hq r List.mem_cons_self) (by simpa using h)
    rw [clearRequestsUntil]
    split
    · exact hundo
    · exact ih _ _ _ (hq.of_suffix (List.suffix_cons r rest)) hundo

/-! ### A message from the server -/

namespace Sound

variable {c : Option Client} {sv sv' : Server} {g g' : Statements} {others : List QueryId}

theorem pop {types : List ReqType} {skip : Bool} (h : Sound c sv g others)
    (hpop : popOutstandingRequest sv g types = some (sv', g', skip)) : Sound c sv' g' others := by
  obtain ⟨r, rest, hq, _, _, rfl, rfl, _⟩ := popOutstandingRequest_some hpop
  refine ⟨?_, (hq ▸ h.closes).of_suffix (List.suffix_cons r rest)⟩
  have hc := h.counted
  cases hps : r.serverPs with
  | none => simpa [Server.refs, hq, hps, freeServerPreparedStatement] using hc
  | some id =>
    refine Counted.decUseCount (hc.congr fun x => ?_)
    simp only [Server.refs, hq, hps, requestRefs_cons, Option.toList_some,
      List.count_append, List.count_cons, List.count_nil]
    omega

theorem clear (types : List ReqType) (h : Sound c sv g others) :
    Sound c (clearOutstandingRequestsUntil sv g types).1
      (clearOutstandingRequestsUntil sv g types).2 others := by
  refine ⟨?_, h.closes.of_suffix (by
    simpa [clearOutstandingRequestsUntil] using dropUntil_suffix types _)⟩
  have hc : Counted g (sv.serverPreparedStatements ++
      (requestRefs sv.outstandingRequests ++ (optRefs c ++ others))) := by
    refine h.counted.congr fun x => ?_
    simp only [Server.refs, List.count_append]
    omega
  refine (counted_clearRequestsUntil types _ _ _ _ h.closes hc).congr fun x => ?_
  simp only [Server.refs, clearOutstandingRequestsUntil, List.count_append]
  omega

theorem sendFakes :
    ∀ (q : List OutstandingRequest) (sv : Server),
      Sound c { sv with outstandingRequests := q } g others →
      Sound c (sendFakes q sv) g others := by
  intro q
  induction q with
  | nil => intro sv h; exact h
  | cons r rest ih =>
    intro sv h
    rw [PgBouncer.sendFakes]
    split
    · rename_i hfake
      have hnone : r.serverPs = none := by
        by_contra hne
        exact absurd (h.closes r List.mem_cons_self hne).2 (by simp [hfake])
      have hrest : ClosesOnly rest := h.closes.of_suffix (List.suffix_cons r rest)
      refine ih _ ⟨?_, hrest⟩
      have hc := h.counted
      cases hty : r.type <;> simpa [Server.refs, hnone, queueFakeResponse] using hc
    · exact h

end Sound

/-- The table accounts for what a handler has in hand. -/
def Handled.Sound (h : Handled) (others : List QueryId) : Prop :=
  PgBouncer.Sound h.client h.server h.stmts others

namespace Handled.Sound

variable {h : Handled} {others : List QueryId}

theorem pop (hs : h.Sound others) (types : List ReqType) : (h.pop types).Sound others := by
  unfold Handled.pop
  cases hpop : popOutstandingRequest h.server h.stmts types with
  | none => exact hs
  | some r => exact PgBouncer.Sound.pop hs hpop

theorem clearUntil (hs : h.Sound others) (types : List ReqType) :
    (h.clearUntil types).Sound others :=
  PgBouncer.Sound.clear types hs

theorem endCopy (hs : h.Sound others) (types : List ReqType) : (h.endCopy types).Sound others := by
  unfold Handled.endCopy
  split
  · refine clearUntil ?_ types
    exact ⟨hs.counted, hs.closes⟩
  · exact hs

theorem dropStatements (hs : h.Sound others) : h.dropStatements.Sound others := by
  refine ⟨?_, hs.closes⟩
  have hc : Counted h.stmts (h.server.serverPreparedStatements ++
      (optRefs h.client ++ (requestRefs h.server.outstandingRequests ++ others))) := by
    refine hs.counted.congr fun x => ?_
    simp only [Server.refs, List.count_append]
    omega
  have hfree := hc.freeServerPreparedStatements
  cases hcl : h.client with
  | none =>
    rw [hcl] at hfree
    simpa [Handled.dropStatements, hcl, optRefs, Server.refs] using hfree
  | some c =>
    rw [hcl] at hfree
    simpa [Handled.dropStatements, hcl, optRefs, Server.refs, Client.refs]
      using hfree.freeClientPreparedStatements

theorem startCopy (hs : h.Sound others) : h.startCopy.Sound others := by
  refine ⟨?_, hs.closes⟩
  have hc := hs.counted
  cases hcl : h.client <;> rw [hcl] at hc <;>
    simpa [Handled.startCopy, hcl, optRefs, Client.refs, Server.refs] using hc

theorem readyForQuery (hs : h.Sound others) : h.readyForQuery.Sound others := by
  have hpopped : h.popReady.Sound others := by
    unfold Handled.popReady
    cases hpop : popOutstandingRequest h.server h.stmts Handled.readyTypes with
    | some r => exact PgBouncer.Sound.pop hs hpop
    | none =>
      simp only
      split
      · exact hs.clearUntil _
      · exact hs
  exact ⟨hpopped.counted, hpopped.closes⟩

theorem commandComplete (hs : h.Sound others) (cfg : Config) (tag : Tag) :
    (h.commandComplete cfg tag).Sound others := by
  refine pop ?_ _
  unfold Handled.checkTag
  split
  · exact (hs.endCopy _).dropStatements
  · exact hs.endCopy _

theorem errorResponse (hs : h.Sound others) : h.errorResponse.Sound others :=
  ⟨(hs.endCopy _).counted, (hs.endCopy _).closes⟩

theorem setState (hs : h.Sound others) (ready idleTx : Bool) :
    (h.setState ready idleTx).Sound others :=
  ⟨hs.counted, hs.closes⟩

end Handled.Sound

/-- **No message from a server upsets the counts.** -/
theorem sound_serverSwitch {c : Option Client} {sv : Server} (cfg : Config) (m : ServerMsg)
    (h : Sound c sv g others) :
    (serverSwitch cfg sv c g m).Sound others := by
  have hs : Handled.Sound { server := sv, client := c, stmts := g } others := h
  cases m with
  | readyForQuery state =>
    cases state with
    | idle => exact hs.readyForQuery.setState _ _
    | inTransaction | failed =>
      simp only [serverSwitch]
      split
      · exact hs.readyForQuery
      · exact hs.readyForQuery.setState _ _
  | errorResponse =>
    simp only [serverSwitch]
    split
    · exact hs
    · exact hs.errorResponse.setState _ _
  | commandComplete tag => exact (hs.commandComplete cfg tag).setState _ _
  | copyInResponse | copyBothResponse => exact hs.startCopy.setState _ _
  | parseComplete | bindComplete | closeComplete | noData | rowDescription | emptyQueryResponse
  | portalSuspended => exact (hs.pop _).setState _ _
  | notificationResponse | unknown => exact hs
  | parameterStatus | noticeResponse | copyOutResponse | parameterDescription | copyDone
  | copyFail | functionCallResponse | copyData | dataRow => exact hs.setState _ _

/-- The table accounts for both ends of a link. -/
def Link.Sound (l : Link) (others : List QueryId) : Prop :=
  PgBouncer.Sound (some l.client) l.server l.stmts others

variable {l : Link}

theorem sound_handleServerWork (cfg : Config) (m : ServerMsg) (h : l.Sound others) :
    (handleServerWork cfg l m).1.Sound others := by
  have hs := sound_serverSwitch cfg m h
  have hclient : (serverSwitch cfg l.server (some l.client) l.stmts m).client =
      some ((serverSwitch cfg l.server (some l.client) l.stmts m).client.getD l.client) := by
    rw [serverSwitch_client]
    rfl
  unfold Handled.Sound at hs
  rw [hclient] at hs
  unfold handleServerWork
  simp only
  split
  · exact hs
  · split
    · exact hs
    · exact Sound.sendFakes _ _ hs

theorem sound_processServerPacket (cfg : Config) (m : ServerMsg) (h : l.Sound others) :
    (processServerPacket cfg l m).1.Sound others := by
  have hs := sound_handleServerWork (l := flushExtraPackets l) cfg m ⟨h.counted, h.closes⟩
  unfold processServerPacket
  split
  · rename_i hwork
    rw [hwork] at hs
    exact ⟨hs.counted, hs.closes⟩
  · exact hs

/-! ### A packet from the client -/

namespace Link.Sound

variable {l : Link} {others : List QueryId}

theorem tagDirty (h : l.Sound others) : (tagDirty l).Sound others :=
  ⟨h.counted, h.closes⟩

theorem queueFakeResponse (h : l.Sound others) (type : ReqType) :
    Link.Sound { l with server := queueFakeResponse l.server type } others := by
  cases type <;> exact ⟨h.counted, h.closes⟩

theorem addOutstandingRequest (h : l.Sound others) (type : ReqType) (action : ResponseAction) :
    Link.Sound { l with server := addOutstandingRequest l.server type action } others := by
  unfold PgBouncer.addOutstandingRequest
  split
  · exact h.queueFakeResponse type
  · refine ⟨?_, h.closes.append (closesOnly_singleton rfl)⟩
    simpa [Server.refs] using h.counted

theorem forwarded (h : l.Sound others) (type : ReqType) (pkt : Pkt StmtRef) :
    (l.forwarded type pkt).Sound others := by
  refine ⟨?_, h.closes.append (closesOnly_singleton rfl)⟩
  simpa [Server.refs, Link.forwarded] using h.counted

theorem forwardPacket (h : l.Sound others) (p : Pkt Bytes) : (forwardPacket l p).Sound others := by
  have hadd := h.addOutstandingRequest p.type .forward
  unfold PgBouncer.forwardPacket
  constructor
  · by_cases htrack : trackOutstanding l.server.copyMode p.type = true
    · have hc := hadd.counted
      rw [if_pos htrack]
      split <;> exact hc
    · rw [if_neg htrack]
      split <;> exact h.counted
  · by_cases htrack : trackOutstanding l.server.copyMode p.type = true
    · rw [if_pos htrack]
      exact hadd.closes
    · rw [if_neg htrack]
      exact h.closes

/-- A client's name for a statement counts. -/
theorem named (h : l.Sound others) {query : Bytes} {ps : PgPreparedStatement} {found : Bool}
    (hget : getPreparedStatement l.stmts query = (ps, found, g)) (name : Bytes) :
    (l.named name ps.queryId g).Sound others := by
  refine ⟨?_, h.closes⟩
  have hc := h.counted.getPreparedStatement query
  rw [hget] at hc
  refine hc.congr fun x => ?_
  simp only [Link.named, createClientPreparedStatement, optRefs, Client.refs, List.map_append,
    List.map_cons, List.map_nil, List.count_append, List.count_cons, List.count_nil]
  omega

/-- A Parse moves nothing but the evicted statements, from the cache to the queue. -/
theorem parsed (h : l.Sound others) (cfg : Config) (ps : PgPreparedStatement)
    (action : ResponseAction) (hid : ps.queryId ∈ l.client.refs) :
    (l.parsed cfg ps action).Sound others := by
  refine ⟨?_, h.closes.append ?_⟩
  · have hpos : 0 < (optRefs (some l.client) ++ l.server.refs ++ others).count ps.queryId :=
      List.count_pos_iff.mpr (by simp [optRefs, hid])
    refine (h.counted.incUseCount hpos).congr fun x => ?_
    have hsplit := congrArg (List.count x)
      (evicted_append_kept cfg (l.server.serverPreparedStatements ++ [ps.queryId]))
    simp only [List.count_append, List.count_cons, List.count_nil] at hsplit
    simp only [Link.parsed, Server.refs, requestRefs_append, requestRefs_cons, parseRequest,
      Option.toList_none, requestRefs_closeRequests, List.nil_append, List.count_append,
      List.count_cons]
    omega
  · exact (closesOnly_singleton rfl).append (closesOnly_closeRequests _)

theorem touched (h : l.Sound others) (hid : id ∈ l.server.serverPreparedStatements) :
    (l.touched id).Sound others := by
  refine ⟨h.counted.congr fun x => ?_, h.closes⟩
  have hc := count_eraseLast hid x
  rw [List.count_cons] at hc
  simp only [Link.touched, Server.refs, List.count_append]
  split
  · simp only [List.count_append, List.count_cons, List.count_nil]
    omega
  · rfl

end Link.Sound

theorem Client.ps_mem_refs {c : Client} {name : Bytes} {e : PgClientPreparedStatement}
    (h : c.find? name = some e) : e.ps ∈ c.refs :=
  List.mem_map_of_mem (List.mem_of_find?_eq_some h)

/-- Forgetting a client's name gives up its reference. -/
theorem counted_forgetStatement {c : Client} (others : List QueryId) (name : Bytes)
    (h : Counted g (c.refs ++ others)) :
    Counted (forgetStatement c g name).2 ((forgetStatement c g name).1.refs ++ others) := by
  unfold forgetStatement
  cases hfind : c.find? name with
  | none => exact h
  | some e =>
    refine Counted.decUseCount (h.congr fun x => ?_)
    have hperm := (List.perm_cons_erase (List.mem_of_find?_eq_some hfind)).map (·.ps)
    have hc := hperm.count_eq x
    simp only [List.map_cons, List.count_cons] at hc
    simp only [Client.refs, List.count_append, List.count_cons]
    omega

theorem sound_handleCloseStatementCommand (name : Bytes) (h : l.Sound others) :
    (handleCloseStatementCommand l name).Sound others := by
  have hl : Link.Sound { l with
      client := (forgetStatement l.client l.stmts name).1
      stmts := (forgetStatement l.client l.stmts name).2 } others := by
    refine ⟨?_, h.closes⟩
    have hc := counted_forgetStatement (l.server.refs ++ others) name
      (by simpa [optRefs] using h.counted)
    simpa [optRefs] using hc
  unfold handleCloseStatementCommand
  simp only
  split
  · exact ⟨hl.counted, hl.closes⟩
  · exact hl.addOutstandingRequest _ _

/-- **No packet from a client upsets the counts.** -/
theorem sound_accepts {cfg : Config} {l' : Link} {p : Pkt Bytes} (ha : Accepts cfg l p l')
    (h : l.Sound others) : l'.Sound others := by
  cases ha with
  | forward _ _ _ => exact h.tagDirty.forwardPacket p
  | close _ => exact sound_handleCloseStatementCommand _ h
  | parseKnown _ _ hget _ => exact (h.tagDirty.named hget _).addOutstandingRequest _ _
  | parse _ _ hget _ =>
    refine (h.tagDirty.named hget _).parsed cfg _ _ ?_
    simp [createClientPreparedStatement, Client.refs]
  | useKnown _ _ hname hmem => exact (h.tagDirty.touched hmem).forwarded _ _
  | @use _ _ _ _ e _ _ hname _ =>
    refine (h.tagDirty.parsed cfg _ _ ?_).forwarded _ _
    rw [deref_queryId]
    exact Client.ps_mem_refs hname

end PgBouncer
