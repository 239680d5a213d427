/-
Closed forms of the statement handlers.

`register_prepared_statement` works by mutation: it writes into the request queued
last, then walks the cache and, for each statement too many, queues a Close, a
request for it, and takes the entry out.  Everything that is proved about the
handlers wants the result and not the walk.  This file computes it once: sending a
Parse appends one request for it and one for each evicted statement, the evicted
ones being the first of the cache.
-/
import PgBouncer.ClientWork

namespace PgBouncer

/-! ### The queue -/

@[simp] theorem addOutstandingRequest_forward (sv : Server) (type : ReqType) :
    addOutstandingRequest sv type .forward =
      { sv with outstandingRequests :=
          sv.outstandingRequests ++ [{ type := type, action := .forward }] } := by
  simp [addOutstandingRequest]

@[simp] theorem addOutstandingRequest_skip (sv : Server) (type : ReqType) :
    addOutstandingRequest sv type .skip =
      { sv with outstandingRequests :=
          sv.outstandingRequests ++ [{ type := type, action := .skip }] } := by
  simp [addOutstandingRequest]

theorem addOutstandingRequest_fake_of_nil {sv : Server} (type : ReqType)
    (h : sv.outstandingRequests = []) :
    addOutstandingRequest sv type .fake = queueFakeResponse sv type := by
  simp [addOutstandingRequest, h]

theorem addOutstandingRequest_fake_of_ne {sv : Server} (type : ReqType)
    (h : sv.outstandingRequests ≠ []) :
    addOutstandingRequest sv type .fake =
      { sv with outstandingRequests :=
          sv.outstandingRequests ++ [{ type := type, action := .fake }] } := by
  simp [addOutstandingRequest, h]

/-! ### Sending a Parse -/

/-- The request behind a Parse that registers a statement. -/
def parseRequest (action : ResponseAction) (id : QueryId) : OutstandingRequest :=
  { type := .parse, action := action, serverPsQueryId := id }

/-- The request behind the Close of an evicted statement. -/
def closeRequest (id : QueryId) : OutstandingRequest :=
  { type := .close, action := .skip, serverPs := some id }

/-- The Close of an evicted statement. -/
def closePkt (id : QueryId) : Pkt StmtRef :=
  .close .statement (.pgbouncer id)

/-- A link after the statements `evicted` were taken out of the cache, leaving `kept`. -/
def Link.evict (l : Link) (evicted kept : List QueryId) : Link :=
  { l with
    toServer := l.toServer ++ evicted.map closePkt
    server := { l.server with
      outstandingRequests := l.server.outstandingRequests ++ evicted.map closeRequest
      serverPreparedStatements := kept } }

theorem evictStatement_eq {l : Link} {current : QueryId} {rest : List QueryId}
    (h : l.server.serverPreparedStatements = current :: rest) :
    evictStatement l current = l.evict [current] rest := by
  simp [evictStatement, Link.evict, List.modifyLast_concat, h, closeRequest, closePkt]

theorem evict_nil {l : Link} {kept : List QueryId}
    (h : l.server.serverPreparedStatements = kept) : l.evict [] kept = l := by
  simp [Link.evict, ← h]

theorem evict_evict (l : Link) (e₁ e₂ k₁ k₂ : List QueryId) :
    (l.evict e₁ k₁).evict e₂ k₂ = l.evict (e₁ ++ e₂) k₂ := by
  simp [Link.evict]

/-- The eviction loop takes the least recently used statements until the rest fits. -/
theorem evictLoop_eq (maxStatements : Nat) :
    ∀ (cache : List QueryId) (l : Link), l.server.serverPreparedStatements = cache →
      evictLoop maxStatements cache l =
        l.evict (cache.take (cache.length - maxStatements))
          (cache.drop (cache.length - maxStatements)) := by
  intro cache
  induction cache with
  | nil =>
    intro l h
    rw [evictLoop, List.take_nil, List.drop_nil, evict_nil h]
  | cons current rest ih =>
    intro l h
    by_cases hfits : (current :: rest).length ≤ maxStatements
    · have hzero : (current :: rest).length - maxStatements = 0 := by omega
      rw [evictLoop, if_pos (by rw [h]; exact hfits), hzero, List.take_zero, List.drop_zero,
        evict_nil h]
    · have hsucc : (current :: rest).length - maxStatements
          = (rest.length - maxStatements) + 1 := by
        simp only [List.length_cons] at hfits ⊢
        omega
      rw [evictLoop, if_neg (by rw [h]; exact hfits), evictStatement_eq h, hsucc,
        ih _ rfl, evict_evict, List.take_succ_cons, List.drop_succ_cons]
      rfl

/-- The statements the cache sheds when it holds `cache`. -/
def evicted (cfg : Config) (cache : List QueryId) : List QueryId :=
  cache.take (cache.length - cfg.maxPreparedStatements)

/-- The statements that stay. -/
def kept (cfg : Config) (cache : List QueryId) : List QueryId :=
  cache.drop (cache.length - cfg.maxPreparedStatements)

theorem evicted_append_kept (cfg : Config) (cache : List QueryId) :
    evicted cfg cache ++ kept cfg cache = cache :=
  List.take_append_drop _ _

/-- A link after a Parse of a shared statement was sent and its cache entry made. -/
def Link.parsed (cfg : Config) (l : Link) (ps : PgPreparedStatement) (action : ResponseAction) :
    Link :=
  let cache := l.server.serverPreparedStatements ++ [ps.queryId]
  { l with
    toServer := l.toServer ++ .parse (.pgbouncer ps.queryId) ps.queryAndParameters ::
      (evicted cfg cache).map closePkt
    stmts := l.stmts.incUseCount ps.queryId
    server := { l.server with
      outstandingRequests := l.server.outstandingRequests ++
        parseRequest action ps.queryId :: (evicted cfg cache).map closeRequest
      serverPreparedStatements := kept cfg cache } }

/-- **Sending a Parse.**  One request for the Parse, one for each statement evicted. -/
theorem sendParse_eq (cfg : Config) (l : Link) (ps : PgPreparedStatement)
    {action : ResponseAction} (h : action ≠ .fake) :
    sendParse cfg l ps action = l.parsed cfg ps action := by
  have hadd : addOutstandingRequest l.server .parse action =
      { l.server with outstandingRequests :=
          l.server.outstandingRequests ++ [{ type := .parse, action := action }] } := by
    simp [addOutstandingRequest, h]
  simp only [sendParse, registerPreparedStatement, hadd]
  rw [evictLoop_eq]
  · simp [Link.evict, Link.parsed, List.modifyLast_concat, addPreparedStatement, evicted, kept,
      parseRequest]
  · rfl

/-! ### Using a statement -/

@[simp] theorem deref_queryId (l : Link) (e : PgClientPreparedStatement) :
    (l.deref e).queryId = e.ps := by
  unfold Link.deref
  cases h : l.stmts.preparedStatements.find? (·.queryId = e.ps) with
  | none => rfl
  | some ps => simpa using List.find?_some h

/-- A link after a statement the server has moved to the recently used end. -/
def Link.touched (l : Link) (id : QueryId) : Link :=
  { l with server := { l.server with
      serverPreparedStatements :=
        if l.server.serverPreparedStatements.length ≠ 1 then
          eraseLast l.server.serverPreparedStatements id ++ [id]
        else l.server.serverPreparedStatements } }

/-- A statement is touched if the server has it and prepared there if not. -/
theorem ensureStatementIsPreparedOnServer_eq (cfg : Config) (l : Link)
    (ps : PgPreparedStatement) :
    ensureStatementIsPreparedOnServer cfg l ps =
      if ps.queryId ∈ l.server.serverPreparedStatements then l.touched ps.queryId
      else l.parsed cfg ps .skip := by
  unfold ensureStatementIsPreparedOnServer
  by_cases hmem : ps.queryId ∈ l.server.serverPreparedStatements
  · rw [if_pos hmem, if_pos hmem, Link.touched]
    split <;> rfl
  · rw [if_neg hmem, if_neg hmem, sendParse_eq cfg l ps (by simp)]

/-- A link after a packet was forwarded and remembered under `type`. -/
def Link.forwarded (l : Link) (type : ReqType) (pkt : Pkt StmtRef) : Link :=
  { l with
    server := { l.server with outstandingRequests :=
        l.server.outstandingRequests ++ [{ type := type, action := .forward }] }
    toServer := l.toServer ++ [pkt] }

/-- The two ways out of a packet that uses a statement. -/
theorem useStatement_cases {cfg : Config} {l l' : Link} {name : Bytes} {type : ReqType}
    {pkt : StmtRef → Pkt StmtRef} {d : Option Disconnect}
    (h : useStatement cfg l name type pkt = (l', d)) :
    (l.client.find? name = none ∧ l' = l ∧
      d = some (.client "prepared statement did not exist")) ∨
    ∃ e, l.client.find? name = some e ∧ d = none ∧
      l' = ((if e.ps ∈ l.server.serverPreparedStatements then l.touched e.ps
        else l.parsed cfg (l.deref e) .skip).forwarded type (pkt (.pgbouncer e.ps))) := by
  unfold useStatement getClientPreparedStatement at h
  cases hfind : l.client.find? name with
  | none =>
    rw [hfind] at h
    simp only [Option.map_none, Prod.mk.injEq] at h
    exact .inl ⟨rfl, h.1.symm, h.2.symm⟩
  | some e =>
    rw [hfind] at h
    simp only [Option.map_some, ensureStatementIsPreparedOnServer_eq, deref_queryId,
      addOutstandingRequest_forward, Prod.mk.injEq] at h
    exact .inr ⟨e, rfl, h.2.symm, h.1.symm⟩

/-! ### Parse and Close -/

/-- The three ways out of a Parse. -/
theorem handleParseCommand_cases {cfg : Config} {l l' : Link} {name query : Bytes}
    {d : Option Disconnect} (h : handleParseCommand cfg l name query = (l', d)) :
    ((∃ e, l.client.find? name = some e) ∧ l' = l ∧
      d = some (.client "prepared statement name is already in use")) ∨
    ∃ ps found g l₁, l.client.find? name = none ∧ d = none ∧
      getPreparedStatement l.stmts query = (ps, found, g) ∧
      l₁ = createClientPreparedStatement { l with stmts := g } name ps.queryId ∧
      ((found = true ∧ ps.queryId ∈ l.server.serverPreparedStatements ∧
          l' = { l₁ with server := addOutstandingRequest l.server .parse .fake }) ∨
        ((found = true → ps.queryId ∉ l.server.serverPreparedStatements) ∧
          l' = l₁.parsed cfg ps .forward)) := by
  unfold handleParseCommand at h
  cases hfind : l.client.find? name with
  | some e =>
    rw [hfind] at h
    simp only [Prod.mk.injEq] at h
    exact .inl ⟨⟨e, rfl⟩, h.1.symm, h.2.symm⟩
  | none =>
    rw [hfind] at h
    right
    rcases hget : getPreparedStatement l.stmts query with ⟨ps, found, g⟩
    refine ⟨ps, found, g, _, rfl, ?_, rfl, rfl, ?_⟩
    · simp only [hget] at h
      split at h <;> exact (Prod.mk.inj h).2.symm
    · simp only [hget] at h
      split at h
      · rename_i hc
        simp only [createClientPreparedStatement, Bool.and_eq_true, List.contains_iff_mem] at hc
        exact .inl ⟨hc.1, hc.2, (Prod.mk.inj h).1.symm⟩
      · rename_i hc
        simp only [createClientPreparedStatement, Bool.and_eq_true, List.contains_iff_mem,
          not_and] at hc
        refine .inr ⟨hc, ?_⟩
        rw [← sendParse_eq cfg _ ps (by simp)]
        exact (Prod.mk.inj h).1.symm

end PgBouncer
