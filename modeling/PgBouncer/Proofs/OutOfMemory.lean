/-
What a failing allocation leaves behind.

After a failure the tables should still be in order: nothing in them points to freed
memory, and every shared statement counts those who hold it.  `handle_parse_command` is in
order as long as nothing has been made for the client.  From `create_client_prepared_statement`
on it is not.  The label `oom` frees the client's entry, which by then counts as a holder and
from the next step on stands in the client's map, and it frees the server's entry, which may
stand in the server's cache, even where the entry has been there before.  Bind and Describe have
no entry of the client to free, and they are in order unless it is an eviction that fails,
where the new entry has just been put into the cache.
-/
import PgBouncer.OutOfMemory
import PgBouncer.Proofs.PoolUseCount

namespace PgBouncer

/-! ### Counts and pointers -/

/-- Every statement counts its references, and no reference is to a statement that is gone. -/
structure Accounted (g : Statements) (refs : List QueryId) : Prop where
  useCount : ∀ ps ∈ g.preparedStatements, ps.useCount = refs.count ps.queryId
  alive : ∀ id ∈ refs, ∃ ps ∈ g.preparedStatements, ps.queryId = id

variable {g : Statements}

theorem Counted.accounted {refs : List QueryId} (h : Counted g refs) :
    Accounted g refs :=
  ⟨h.useCount, fun id hid => (h.mem_iff id).mpr (List.count_pos_iff.mpr hid)⟩

theorem Accounted.congr {refs refs' : List QueryId} (h : Accounted g refs)
    (hc : ∀ id, refs'.count id = refs.count id) : Accounted g refs' := by
  refine ⟨fun ps hps => by rw [hc, h.useCount ps hps], fun id hid => h.alive id ?_⟩
  rw [← List.count_pos_iff, ← hc, List.count_pos_iff]
  exact hid

/-- A statement that is new in the table and held by nobody does no harm. -/
theorem Counted.accounted_getPreparedStatement {refs : List QueryId} (h : Counted g refs)
    (query : Bytes) :
    Accounted (PgBouncer.getPreparedStatement g query).2.2 refs := by
  unfold PgBouncer.getPreparedStatement
  cases hfind : g.find? query with
  | some ps => exact h.accounted
  | none =>
    have hzero : refs.count (g.nextUniqueQueryId + 1) = 0 := by
      by_contra hpos
      obtain ⟨ps, hps, hid⟩ := (h.mem_iff _).mpr (Nat.pos_of_ne_zero hpos)
      have hle := h.queryId_le ps hps
      rw [hid] at hle
      exact Nat.not_succ_le_self _ hle
    constructor
    · intro ps hps
      rcases List.mem_append.mp hps with hold | hnew
      · exact h.useCount ps hold
      · rw [List.mem_singleton.mp hnew]
        exact hzero.symm
    · intro id hid
      obtain ⟨ps, hps, heq⟩ := h.accounted.alive id hid
      exact ⟨ps, List.mem_append_left _ hps, heq⟩

/-- What a link refers to, with the references held elsewhere. -/
def Link.refs (l : Link) (others : List QueryId) : List QueryId :=
  optRefs (some l.client) ++ l.server.refs ++ others

/-- The tables are in order. -/
structure Aftermath.Safe (a : Aftermath) (others : List QueryId) : Prop where
  dangling : a.dangling = []
  accounted : Accounted a.link.stmts (a.link.refs others)

/-- One of the allocations of the eviction loop. -/
def Alloc.isEviction : Alloc → Bool
  | .closePacket _ | .closeRequest _ => true
  | _ => false

/-- One of the allocations of a Parse up to the entry of the client. -/
def Alloc.isEarly : Alloc → Bool
  | .preparedStatement | .addPrepared | .clientStatement => true
  | _ => false

/-- The allocations that may fail on the way of a packet and leave the tables in order. -/
def Alloc.harmless (fail : Alloc) : Pkt Bytes → Bool
  | .parse _ _ => fail.isEarly
  | .bind _ _ | .describe _ _ => !fail.isEviction
  | _ => true

namespace OutOfMemory

variable {fail : Alloc} {cfg : Config} {l l' : Link} {others : List QueryId}

/-! ### Registering a statement -/

variable {id : QueryId} {b : Broken} {name query : Bytes} {ps : PgPreparedStatement} {p : Pkt Bytes}

/-- An eviction that fails: the statement that was added last is still in the cache. -/
theorem evictLoop_error {max : Nat} (hmax : 0 < max) :
    ∀ (pre : List QueryId) (n : Nat) (l : Link),
      l.server.serverPreparedStatements = pre ++ [id] →
      evictLoop fail max n (pre ++ [id]) l = .error l' →
      fail.isEviction = true ∧ l'.client = l.client ∧
        id ∈ l'.server.serverPreparedStatements := by
  intro pre
  induction pre with
  | nil =>
    intro n l hcache h
    rw [List.nil_append] at hcache h
    rw [evictLoop, if_pos (by rw [hcache]; exact hmax)] at h
    nomatch h
  | cons x xs ih =>
    intro n l hcache h
    have hlast : id ∈ l.server.serverPreparedStatements := by
      rw [hcache]
      exact List.mem_append_right _ (List.mem_singleton_self id)
    rw [List.cons_append] at hcache
    rw [List.cons_append, evictLoop] at h
    split_ifs at h with _ hpacket hrequest
    · obtain rfl := Except.error.inj h
      exact ⟨by rw [hpacket]; rfl, rfl, hlast⟩
    · obtain rfl := Except.error.inj h
      exact ⟨by rw [hrequest]; rfl, rfl, hlast⟩
    · rw [evictStatement_eq hcache] at h
      obtain ⟨hfail, hclient, hmem⟩ := ih (n + 1) (l.evict [x] (xs ++ [id])) rfl h
      exact ⟨hfail, hclient, hmem⟩

/-- How making and registering the entry of a server fails. -/
inductive RegisterFails (fail : Alloc) (l : Link) (id : QueryId) : Broken → Prop
  | statement (hfail : fail = .serverStatement) : RegisterFails fail l id { link := l }
  | add (hfail : fail = .addServer) :
      RegisterFails fail l id
        { link := tieRequest { l with stmts := l.stmts.incUseCount id } id, serverPs := some id }
  | evict {l' : Link} (hfail : fail.isEviction = true) (hclient : l'.client = l.client)
      (hmem : id ∈ l'.server.serverPreparedStatements) :
      RegisterFails fail l id { link := l', serverPs := some id }

theorem registerNew_error (hmax : 0 < cfg.maxPreparedStatements)
    (h : registerNew fail cfg l id = .error b) : RegisterFails fail l id b := by
  unfold registerNew at h
  by_cases hstatement : fail = .serverStatement
  · rw [if_pos hstatement] at h
    obtain rfl := Except.error.inj h
    exact .statement hstatement
  rw [if_neg hstatement] at h
  unfold registerPreparedStatement at h
  dsimp only at h
  by_cases hadd : fail = .addServer
  · rw [if_pos hadd] at h
    obtain rfl := Except.error.inj h
    exact .add hadd
  rw [if_neg hadd] at h
  split at h
  · rename_i l' hloop
    obtain rfl := Except.error.inj h
    obtain ⟨hfail, hclient, hmem⟩ := evictLoop_error hmax _ 0 _ rfl hloop
    exact .evict hfail hclient hmem
  · nomatch h

/-- Without a failure the loop is the usual one. -/
theorem evictLoop_ok {max : Nat} :
    ∀ (cache : List QueryId) (n : Nat) (l : Link), evictLoop fail max n cache l = .ok l' →
      l' = PgBouncer.evictLoop max cache l := by
  intro cache
  induction cache with
  | nil =>
    intro n l h
    exact (Except.ok.inj h).symm
  | cons current rest ih =>
    intro n l h
    rw [evictLoop] at h
    rw [PgBouncer.evictLoop]
    split_ifs at h with hfits
    · rw [if_pos hfits]
      exact (Except.ok.inj h).symm
    · rw [if_neg hfits]
      exact ih (n + 1) _ h

theorem registerNew_ok (h : registerNew fail cfg l id = .ok l') :
    l' = PgBouncer.registerPreparedStatement cfg
      { l with stmts := l.stmts.incUseCount id } id := by
  unfold registerNew registerPreparedStatement at h
  dsimp only at h
  split_ifs at h
  split at h
  · nomatch h
  · rename_i l₁ hloop
    obtain rfl := Except.ok.inj h
    exact evictLoop_ok _ 0 _ hloop

/-! ### The label `oom` -/

theorem safe_of_sound (h : l.Sound others) : Accounted l.stmts (l.refs others) :=
  h.counted.accounted

/-- Nothing is freed. -/
theorem oom_none_safe (h : l.Sound others) : (oom l none none).Safe others :=
  ⟨rfl, safe_of_sound h⟩

theorem requestRefs_modifyLast (q : List OutstandingRequest) (id : QueryId) :
    requestRefs (q.modifyLast fun r => { r with serverPsQueryId := id }) = requestRefs q := by
  rcases List.eq_nil_or_concat q with rfl | ⟨init, r, rfl⟩
  · rfl
  · rw [List.concat_eq_append, List.modifyLast_concat]
    simp

/-- The entry of a server that could not be added to its cache is freed for good. -/
theorem oom_server_safe (h : l.Sound others) (hid : id ∈ l.client.refs)
    (hnot : id ∉ l.server.serverPreparedStatements) :
    (oom (tieRequest { l with stmts := l.stmts.incUseCount id } id) none (some id)).Safe
      others := by
  have hpos : 0 < (l.refs others).count id :=
    List.count_pos_iff.mpr (by simp [Link.refs, optRefs, hid])
  have hback : Counted ((l.stmts.incUseCount id).decUseCount id) (l.refs others) :=
    (h.counted.incUseCount hpos).decUseCount
  constructor
  · simp [oom, tieRequest, hnot]
  · refine hback.accounted.congr fun x => ?_
    simp [oom, tieRequest, Link.refs, Server.refs, requestRefs_modifyLast]

/-- The entry of a server that is freed in its cache. -/
theorem oom_server_not_safe {clientPs : Option Bytes}
    (hmem : id ∈ l.server.serverPreparedStatements) :
    ¬(oom l clientPs (some id)).Safe others := by
  intro h
  have hdangling := h.dangling
  simp [oom, hmem] at hdangling

/-- The entry of a client that is freed in its map. -/
theorem oom_client_not_safe {serverPs : Option QueryId} (hname : (l.client.find? name).isSome) :
    ¬(oom l (some name) serverPs).Safe others := by
  intro h
  have hdangling := h.dangling
  simp only [oom, List.append_eq_nil_iff, Option.toList_eq_nil_iff, Option.map_eq_none_iff,
    Option.filter_some, hname, if_true] at hdangling
  nomatch hdangling.1

/-! ### Bind and Describe -/

/-- How preparing a statement for a Bind or a Describe fails. -/
inductive EnsureFails (fail : Alloc) (l : Link) (ps : PgPreparedStatement) : Broken → Prop
  | request (hfail : fail = .parseRequest) : EnsureFails fail l ps { link := l }
  | packet (hfail : fail = .parsePacket) :
      EnsureFails fail l ps { link := trackParse l .skip }
  | register {b : Broken}
      (hbroken : RegisterFails fail (queueParse (trackParse l .skip) ps) ps.queryId b) :
      EnsureFails fail l ps b

theorem ensure_error (hmax : 0 < cfg.maxPreparedStatements)
    (h : ensureStatementIsPreparedOnServer fail cfg l ps = .error b) :
    ps.queryId ∉ l.server.serverPreparedStatements ∧ EnsureFails fail l ps b := by
  unfold ensureStatementIsPreparedOnServer at h
  by_cases hmem : ps.queryId ∈ l.server.serverPreparedStatements
  · rw [if_pos hmem] at h
    nomatch h
  refine ⟨hmem, ?_⟩
  rw [if_neg hmem] at h
  dsimp only at h
  split_ifs at h with hrequest hpacket
  · obtain rfl := Except.error.inj h
    exact .request hrequest
  · obtain rfl := Except.error.inj h
    exact .packet hpacket
  · exact .register (registerNew_error hmax h)

theorem ensure_ok (h : ensureStatementIsPreparedOnServer fail cfg l ps = .ok l') :
    l' = PgBouncer.ensureStatementIsPreparedOnServer cfg l ps := by
  unfold ensureStatementIsPreparedOnServer at h
  by_cases hmem : ps.queryId ∈ l.server.serverPreparedStatements
  · rw [if_pos hmem] at h
    exact (Except.ok.inj h).symm
  · rw [if_neg hmem] at h
    dsimp only at h
    split_ifs at h
    rw [PgBouncer.ensureStatementIsPreparedOnServer, if_neg hmem]
    exact registerNew_ok h

/-- The usual way of preparing a statement keeps the counts. -/
theorem sound_ensure (h : l.Sound others) (hid : ps.queryId ∈ l.client.refs) :
    (PgBouncer.ensureStatementIsPreparedOnServer cfg l ps).Sound others := by
  rw [ensureStatementIsPreparedOnServer_eq]
  by_cases hmem : ps.queryId ∈ l.server.serverPreparedStatements
  · rw [if_pos hmem]
    exact h.touched hmem
  · rw [if_neg hmem]
    exact h.parsed cfg ps .skip hid

theorem ensure_oom_safe_iff (h : l.Sound others) (hid : ps.queryId ∈ l.client.refs)
    (hnot : ps.queryId ∉ l.server.serverPreparedStatements) (hb : EnsureFails fail l ps b) :
    (oom b.link none b.serverPs).Safe others ↔ fail.isEviction = false := by
  have htrack : (trackParse l .skip).Sound others := h.addOutstandingRequest .parse .skip
  have hqueue : (queueParse (trackParse l .skip) ps).Sound others :=
    ⟨htrack.counted, htrack.closes⟩
  have hcache : (queueParse (trackParse l .skip) ps).server.serverPreparedStatements =
      l.server.serverPreparedStatements := by
    simp [queueParse, trackParse, addOutstandingRequest]
  cases hb with
  | request hfail =>
    subst hfail
    exact iff_of_true (oom_none_safe h) rfl
  | packet hfail =>
    subst hfail
    exact iff_of_true (oom_none_safe htrack) rfl
  | register hbroken =>
    cases hbroken with
    | statement hfail =>
      subst hfail
      exact iff_of_true (oom_none_safe hqueue) rfl
    | add hfail =>
      subst hfail
      exact iff_of_true (oom_server_safe hqueue hid (by rw [hcache]; exact hnot)) rfl
    | evict hfail hclient hmem =>
      exact iff_of_false (oom_server_not_safe hmem) (by rw [hfail]; exact Bool.noConfusion)

/-- **Bind and Describe** leave the tables in order unless an eviction fails. -/
theorem useStatement_safe_iff (hmax : 0 < cfg.maxPreparedStatements) (h : l.Sound others)
    {type : ReqType} {pkt : StmtRef → Pkt StmtRef}
    (hfail : (useStatement fail cfg l name type pkt).failed = true) :
    (useStatement fail cfg l name type pkt).Safe others ↔ fail.isEviction = false := by
  unfold useStatement getClientPreparedStatement at hfail ⊢
  cases hfind : l.client.find? name with
  | none =>
    rw [hfind] at hfail
    nomatch hfail
  | some e =>
    rw [hfind, Option.map_some] at hfail
    rw [Option.map_some]
    dsimp only at hfail ⊢
    have hid : (l.deref e).queryId ∈ l.client.refs := by
      rw [deref_queryId]
      exact Client.ps_mem_refs hfind
    cases hensure : ensureStatementIsPreparedOnServer fail cfg l (l.deref e) with
    | error b =>
      obtain ⟨hnot, hb⟩ := ensure_error hmax hensure
      exact ensure_oom_safe_iff h hid hnot hb
    | ok l₁ =>
      have hl₁ : l₁.Sound others := ensure_ok hensure ▸ sound_ensure h hid
      rw [hensure] at hfail
      dsimp only at hfail ⊢
      by_cases hrequest : fail = .request
      · subst hrequest
        exact iff_of_true (oom_none_safe hl₁) rfl
      rw [if_neg hrequest] at hfail ⊢
      by_cases hpacket : fail = .packet
      · subst hpacket
        have hadd := hl₁.addOutstandingRequest type .forward
        refine iff_of_true ?_ rfl
        rw [if_pos rfl]
        split
        · exact ⟨rfl, safe_of_sound hadd⟩
        · exact oom_none_safe hadd
      · rw [if_neg hpacket] at hfail
        nomatch hfail

/-! ### Parse -/

theorem find?_createClient (l : Link) (name : Bytes) (id : QueryId) :
    ((createClientPreparedStatement l name id).client.find? name).isSome := by
  simp [createClientPreparedStatement, Client.find?]

/-- The entry of the client stays where it is when the Parse cannot be sent. -/
theorem sendParse_error (hmax : 0 < cfg.maxPreparedStatements)
    (h : sendParse fail cfg l ps = .error b) :
    fail.isEarly = false ∧ b.link.client = l.client := by
  unfold sendParse at h
  dsimp only at h
  split_ifs at h with hpacket hrequest
  · obtain rfl := Except.error.inj h
    subst hpacket
    exact ⟨rfl, rfl⟩
  · obtain rfl := Except.error.inj h
    subst hrequest
    exact ⟨rfl, rfl⟩
  · cases registerNew_error hmax h with
    | statement hfail =>
      subst hfail
      exact ⟨rfl, rfl⟩
    | add hfail =>
      subst hfail
      exact ⟨rfl, rfl⟩
    | evict hfail hclient hmem =>
      refine ⟨?_, hclient⟩
      cases fail <;> first | rfl | nomatch hfail

theorem sendParse_ok (h : sendParse fail cfg l ps = .ok l') :
    l' = PgBouncer.sendParse cfg l ps .forward := by
  unfold sendParse at h
  dsimp only at h
  split_ifs at h
  exact registerNew_ok h

/-- An entry of a client that is freed before it is put into the map is still counted. -/
theorem not_accounted_incUseCount (h : l.Sound others) {found : Bool}
    (hget : getPreparedStatement l.stmts query = (ps, found, g)) :
    ¬Accounted (g.incUseCount ps.queryId) (l.refs others) := by
  intro hacc
  have hcounted := h.counted.getPreparedStatement query
  rw [hget] at hcounted
  dsimp only at hcounted
  obtain ⟨ps', hps', hid⟩ := (hcounted.mem_iff ps.queryId).mpr (by simp)
  have hone := hcounted.useCount ps' hps'
  have htwo := hacc.useCount ps' hps'
  rw [hid, List.count_cons_self] at hone
  rw [hid] at htwo
  have hrefs : (l.refs others).count ps.queryId =
      (optRefs (some l.client) ++ l.server.refs ++ others).count ps.queryId := rfl
  omega

/-- **Parse** leaves the tables in order only if it fails before there is an entry of the
client. -/
theorem handleParseCommand_safe_iff (hmax : 0 < cfg.maxPreparedStatements) (h : l.Sound others)
    (hfail : (handleParseCommand fail cfg l name query).failed = true) :
    (handleParseCommand fail cfg l name query).Safe others ↔ fail.isEarly = true := by
  unfold handleParseCommand at hfail ⊢
  cases hfind : l.client.find? name with
  | some e =>
    rw [hfind] at hfail
    nomatch hfail
  | none =>
    rcases hget : getPreparedStatement l.stmts query with ⟨ps, found, g⟩
    rw [hfind, hget] at hfail
    dsimp only at hfail ⊢
    split_ifs at hfail ⊢ with hstatement hprepared hclient hadd hcached hfake
    · exact iff_of_true (oom_none_safe h) (by rw [hstatement.2]; rfl)
    · refine iff_of_true ⟨rfl, ?_⟩ (by rw [hprepared.2]; rfl)
      exact ⟨(safe_of_sound h).useCount, (safe_of_sound h).alive⟩
    · refine iff_of_true ⟨rfl, ?_⟩ (by rw [hclient]; rfl)
      have hacc := h.counted.accounted_getPreparedStatement query
      rw [hget] at hacc
      exact hacc
    · refine iff_of_false (fun hsafe => ?_) (by rw [hadd]; exact Bool.noConfusion)
      exact not_accounted_incUseCount h hget hsafe.accounted
    · exact iff_of_false (oom_client_not_safe (find?_createClient _ _ _))
        (by rw [hfake]; exact Bool.noConfusion)
    · nomatch hfail
    · cases hsend : sendParse fail cfg
          (createClientPreparedStatement { l with stmts := g } name ps.queryId) ps with
      | error b =>
        obtain ⟨hlate, hsame⟩ := sendParse_error hmax hsend
        refine iff_of_false (oom_client_not_safe ?_) (by rw [hlate]; exact Bool.noConfusion)
        rw [hsame]
        exact find?_createClient _ _ _
      | ok l₁ =>
        rw [hsend] at hfail
        nomatch hfail

/-! ### Close, and all together -/

theorem handleCloseStatementCommand_safe (h : l.Sound others)
    (hfail : (handleCloseStatementCommand fail l name).failed = true) :
    (handleCloseStatementCommand fail l name).Safe others := by
  have hforget := counted_forgetStatement (l.server.refs ++ others) name
    (by simpa [optRefs] using h.counted)
  unfold handleCloseStatementCommand at hfail ⊢
  dsimp only at hfail ⊢
  split_ifs at hfail ⊢
  · refine ⟨rfl, hforget.accounted.congr fun x => ?_⟩
    simp [giveUp, Link.refs, optRefs]
  · cases hfail

theorem maxPreparedStatements_pos (h : psAction cfg p = true) :
    0 < cfg.maxPreparedStatements := by
  have henabled : cfg.isPreparedStatementsEnabled = true := by
    unfold psAction at h
    split at h
    · exact (Bool.and_eq_true_iff.mp h).1
    · exact (Bool.and_eq_true_iff.mp h).1
    · exact (Bool.and_eq_true_iff.mp h).1
    · exact (Bool.and_eq_true_iff.mp h).1
    · nomatch h
  have hmax := (Bool.and_eq_true_iff.mp henabled).2
  exact Nat.pos_of_ne_zero (bne_iff_ne.mp hmax)

/-- Only a packet that names a statement meets these allocations. -/
theorem of_failed_ite {b : Bool} {a : Aftermath} {r : Link × Option Disconnect}
    (h : (if b = true then a else done r).failed = true) : b = true ∧ a.failed = true := by
  cases b with
  | false => nomatch h
  | true => exact ⟨rfl, h⟩

theorem handleClientWork_safe_iff (h : l.Sound others)
    (hfail : (handleClientWork fail cfg l p).failed = true) :
    (handleClientWork fail cfg l p).Safe others ↔ fail.harmless p = true := by
  unfold handleClientWork at hfail ⊢
  cases p with
  | parse name query =>
    obtain ⟨hps, hfail⟩ := of_failed_ite hfail
    dsimp only
    rw [if_pos hps]
    exact handleParseCommand_safe_iff (maxPreparedStatements_pos hps) h.tagDirty hfail
  | bind portal name =>
    obtain ⟨hps, hfail⟩ := of_failed_ite hfail
    dsimp only
    rw [if_pos hps, Alloc.harmless, Bool.not_eq_true']
    exact useStatement_safe_iff (maxPreparedStatements_pos hps) h.tagDirty hfail
  | describe target name =>
    cases target with
    | portal => nomatch hfail
    | statement =>
      obtain ⟨hps, hfail⟩ := of_failed_ite hfail
      dsimp only
      rw [if_pos hps, Alloc.harmless, Bool.not_eq_true']
      exact useStatement_safe_iff (maxPreparedStatements_pos hps) h.tagDirty hfail
  | close target name =>
    cases target with
    | portal => nomatch hfail
    | statement =>
      obtain ⟨hps, hfail⟩ := of_failed_ite hfail
      dsimp only
      rw [if_pos hps]
      exact iff_of_true (handleCloseStatementCommand_safe h hfail) rfl
  | _ => nomatch hfail

/-! ### Allocations that are not on the way -/

theorem handleParseCommand_of_not_failed
    (h : (handleParseCommand fail cfg l name query).failed = false) :
    handleParseCommand fail cfg l name query =
      done (PgBouncer.handleParseCommand cfg l name query) := by
  unfold handleParseCommand at h ⊢
  unfold PgBouncer.handleParseCommand
  cases hfind : l.client.find? name with
  | some e => rfl
  | none =>
    rcases hget : getPreparedStatement l.stmts query with ⟨ps, found, g⟩
    rw [hfind, hget] at h
    dsimp only at h ⊢
    -- Each test that succeeds would be a failure.
    split at h
    · nomatch h
    rw [if_neg (by assumption)]
    split at h
    · nomatch h
    rw [if_neg (by assumption)]
    split at h
    · nomatch h
    rw [if_neg (by assumption)]
    split at h
    · nomatch h
    rw [if_neg (by assumption)]
    by_cases hcached : (found && l.server.serverPreparedStatements.contains ps.queryId) = true
    · have hcached' : (found && (createClientPreparedStatement { l with stmts := g } name
          ps.queryId).server.serverPreparedStatements.contains ps.queryId) = true := hcached
      rw [if_pos hcached'] at h ⊢
      rw [if_pos hcached']
      split at h
      · nomatch h
      · rw [if_neg (by assumption)]
    · have hcached' : ¬(found && (createClientPreparedStatement { l with stmts := g } name
          ps.queryId).server.serverPreparedStatements.contains ps.queryId) = true := hcached
      rw [if_neg hcached'] at h ⊢
      rw [if_neg hcached']
      cases hsend : sendParse fail cfg
          (createClientPreparedStatement { l with stmts := g } name ps.queryId) ps with
      | error b =>
        rw [hsend] at h
        nomatch h
      | ok l₁ =>
        rw [sendParse_ok hsend]

theorem useStatement_of_not_failed {type : ReqType} {pkt : StmtRef → Pkt StmtRef}
    (h : (useStatement fail cfg l name type pkt).failed = false) :
    useStatement fail cfg l name type pkt =
      done (PgBouncer.useStatement cfg l name type pkt) := by
  unfold useStatement at h ⊢
  unfold PgBouncer.useStatement
  cases hget : getClientPreparedStatement l name with
  | none => rfl
  | some ps =>
    rw [hget] at h
    dsimp only at h ⊢
    cases hensure : ensureStatementIsPreparedOnServer fail cfg l ps with
    | error b =>
      rw [hensure] at h
      nomatch h
    | ok l₁ =>
      rw [hensure] at h
      dsimp only at h ⊢
      rw [ensure_ok hensure] at h ⊢
      split_ifs at h ⊢
      · nomatch h
      · nomatch h
      · nomatch h
      · rfl

/-- An allocation that fails elsewhere has no effect on a packet. -/
theorem handleClientWork_of_not_failed (h : (handleClientWork fail cfg l p).failed = false) :
    handleClientWork fail cfg l p = done (PgBouncer.handleClientWork cfg l p) := by
  unfold handleClientWork at h ⊢
  cases p with
  | parse name query =>
    unfold PgBouncer.handleClientWork
    dsimp only at h ⊢
    split_ifs at h ⊢
    · exact handleParseCommand_of_not_failed h
    · rfl
  | bind portal name =>
    unfold PgBouncer.handleClientWork
    dsimp only at h ⊢
    split_ifs at h ⊢
    · exact useStatement_of_not_failed h
    · rfl
  | describe target name =>
    cases target with
    | portal => rfl
    | statement =>
      unfold PgBouncer.handleClientWork
      dsimp only at h ⊢
      split_ifs at h ⊢
      · exact useStatement_of_not_failed h
      · rfl
  | close target name =>
    cases target with
    | portal => rfl
    | statement =>
      unfold PgBouncer.handleClientWork
      dsimp only at h ⊢
      split_ifs at h ⊢
      · unfold handleCloseStatementCommand at h ⊢
        dsimp only at h ⊢
        split_ifs at h ⊢
        · nomatch h
        · rfl
      · rfl
  | _ => rfl

/-- A client that has one statement and a server that has two of them.  A Parse of a fourth
one evicts two, and it is the allocation for a third eviction that would fail. -/
theorem handleClientWork_evicting_two :
    let cfg : Config := { maxPreparedStatements := 1 }
    let l : Link :=
      { client := { clientPreparedStatements := [⟨[1], 1⟩] }
        server := { serverPreparedStatements := [2, 3] }
        stmts :=
          { preparedStatements := [⟨1, 1, [7]⟩, ⟨2, 1, [8]⟩, ⟨3, 1, [9]⟩]
            nextUniqueQueryId := 3 } }
    (handleClientWork (.closePacket 2) cfg l (.parse [2] [6])).link.toServer =
        [.parse (.pgbouncer 4) [6], closePkt 2, closePkt 3] ∧
      handleClientWork (.closePacket 2) cfg l (.parse [2] [6]) =
        done (PgBouncer.handleClientWork cfg l (.parse [2] [6])) :=
  ⟨rfl, handleClientWork_of_not_failed rfl⟩

end OutOfMemory

/-! ### A pool -/

namespace Pool

variable {P : Pool}

/-- **Out of memory.**  In every state of a pool, a packet of a client meets an allocation that
fails.  When its handler is done, no table and no outstanding request points to freed memory,
and every statement that is left counts those who hold it, exactly if the allocation is not one
of a Parse from the entry of the client on, or one for an eviction. -/
theorem oom_safe_iff {cfg : Config} {es : List (Config × PoolEvent)}
    (hrun : Run.exec stepWith {} es = some P) {c s : Nat} {cs : ClientSock} {sv : ServerSock}
    (hc : P.clients[c]? = some cs) (hs : P.servers[s]? = some sv)
    (p : Pkt Bytes) (body : Nat) (expired : Bool) (fail : Alloc)
    (hfail : (P.clientPacketOom fail cfg c s cs sv p body expired).2.failed = true) :
    let r := P.clientPacketOom fail cfg c s cs sv p body expired
    (r.2.dangling = [] ∧ Accounted r.1.stmts r.1.refs) ↔ fail.harmless p = true := by
  intro r
  have hl := (sound_of_exec hrun).linkOf hc hs
  rw [← OutOfMemory.handleClientWork_safe_iff hl hfail]
  have hkeeps : Keeps (P.putLink c s r.2.link body) r.1 := keeps_obey cfg _ c s expired _
  have hstmts : r.1.stmts = r.2.link.stmts := hkeeps.stmts
  have hcount : ∀ x, r.1.refs.count x = (r.2.link.refs (P.refsBut c s)).count x := by
    intro x
    rw [hkeeps.refs]
    exact count_refs_putLink r.2.link hc hs body x
  constructor
  · rintro ⟨hdangling, hacc⟩
    refine ⟨hdangling, ?_⟩
    rw [hstmts] at hacc
    exact hacc.congr fun x => (hcount x).symm
  · intro hsafe
    refine ⟨hsafe.dangling, ?_⟩
    rw [hstmts]
    exact hsafe.accounted.congr hcount

/-! ### A client with one server -/

def oneStatement : Config := { maxPreparedStatements := 1 }

/-- A client and a server that are linked. -/
def couple : Pool where
  clients := [{ link := some 0 }]
  servers := [{ link := some 0, state := .active }]

theorem couple_reachable : Run.exec stepWith {}
    ([.accept, .connect, .link 0 0 false].map fun e => (oneStatement, e)) = some couple :=
  rfl

/-- The first Parse of the client, with an allocation that fails. -/
def firstParse (fail : Alloc) : Pool × Aftermath :=
  couple.clientPacketOom fail oneStatement 0 0 { link := some 0 }
    { link := some 0, state := .active } (.parse [1] [2]) 0 false

theorem oom_safe_iff_early :
    (firstParse .clientStatement).2.failed = true ∧
      (firstParse .clientStatement).2.dangling = [] ∧
      Accounted (firstParse .clientStatement).1.stmts (firstParse .clientStatement).1.refs :=
  have hfail : (firstParse .clientStatement).2.failed = true := rfl
  ⟨hfail, (oom_safe_iff couple_reachable rfl rfl (.parse [1] [2]) 0 false .clientStatement
    hfail).mpr rfl⟩

/-- If there is no memory for the entry of the server, the client's map keeps the entry of the
client that has been freed.  If the entry of the client cannot be put into the map, a statement
is left that counts it although nobody holds it. -/
theorem parse_out_of_memory :
    ((firstParse .serverStatement).2.dangling = [.clientMap [1]] ∧
      (firstParse .serverStatement).1.clients.map (·.client.clientPreparedStatements) =
        [[⟨[1], 1⟩]]) ∧
    ((firstParse .addClient).1.stmts.preparedStatements = [⟨1, 1, [2]⟩] ∧
      (firstParse .addClient).1.refs = []) :=
  ⟨⟨rfl, rfl⟩, rfl, rfl⟩

end Pool

end PgBouncer
