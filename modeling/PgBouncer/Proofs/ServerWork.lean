/-
What `handle_server_work` can do.

Whatever the message, the queue loses requests from its head and nothing else, and
apart from the queue, the cache and the statement table only the flags the message
is about change.  The closed forms of the flags are here; which requests go is said
by `dropUntil` and the lemmas on `pop`, and used where it matters.
-/
import PgBouncer.Lib.UndoLog
import PgBouncer.Proofs.ClientWork

namespace PgBouncer

/-! ### Dropping requests -/

/-- The queue after `clear_outstanding_requests_until`. -/
def dropUntil (types : List ReqType) : List OutstandingRequest → List OutstandingRequest
  | [] => []
  | r :: rest => if r.type ∈ types then rest else dropUntil types rest

@[simp] theorem clearRequestsUntil_fst (types : List ReqType) :
    ∀ (q : List OutstandingRequest) (cache : List QueryId) (g : Statements),
      (clearRequestsUntil types q cache g).1 = dropUntil types q := by
  intro q
  induction q with
  | nil => intro cache g; rfl
  | cons r rest ih =>
    intro cache g
    rw [clearRequestsUntil, dropUntil]
    split
    · rfl
    · exact ih _ _

theorem dropUntil_suffix (types : List ReqType) (q : List OutstandingRequest) :
    dropUntil types q <:+ q := by
  induction q with
  | nil => exact List.suffix_rfl
  | cons r rest ih =>
    rw [dropUntil]
    split
    · exact List.suffix_cons r rest
    · exact ih.trans (List.suffix_cons r rest)

/-- The queue after `send_pending_fake_responses`. -/
def dropFakes : List OutstandingRequest → List OutstandingRequest
  | [] => []
  | r :: rest => if r.action = .fake then dropFakes rest else r :: rest

theorem dropFakes_suffix (q : List OutstandingRequest) : dropFakes q <:+ q := by
  induction q with
  | nil => exact List.suffix_rfl
  | cons r rest ih =>
    rw [dropFakes]
    split
    · exact ih.trans (List.suffix_cons r rest)
    · exact List.suffix_rfl

/-- The message that answers a request pgbouncer did not forward. -/
def fakeReply : ReqType → List ServerMsg
  | .parse => [.parseComplete]
  | .close => [.closeComplete]
  | _ => []

theorem queueFakeResponse_eq (sv : Server) (type : ReqType) :
    queueFakeResponse sv type = { sv with extraPackets := sv.extraPackets ++ fakeReply type } := by
  cases type <;> simp [queueFakeResponse, fakeReply]

/-- The responses `send_pending_fake_responses` makes up. -/
def fakesOf : List OutstandingRequest → List ServerMsg
  | [] => []
  | r :: rest => if r.action = .fake then fakeReply r.type ++ fakesOf rest else []

/-- Making up the responses at the head of the queue, in closed form. -/
theorem sendFakes_eq : ∀ (q : List OutstandingRequest) (sv : Server),
    sendFakes q sv =
      { sv with
        outstandingRequests := dropFakes q, extraPackets := sv.extraPackets ++ fakesOf q } := by
  intro q
  induction q with
  | nil => intro sv; simp [sendFakes, dropFakes, fakesOf]
  | cons r rest ih =>
    intro sv
    rw [sendFakes, dropFakes, fakesOf]
    split
    · rw [ih, queueFakeResponse_eq]
      simp
    · simp

theorem sendPendingFakeResponses_eq (sv : Server) :
    sendPendingFakeResponses sv =
      { sv with
        outstandingRequests := dropFakes sv.outstandingRequests
        extraPackets := sv.extraPackets ++ fakesOf sv.outstandingRequests } :=
  sendFakes_eq _ sv

/-! ### The queue after a message -/

/-- The request at the head of the queue can be answered by a message for `types`. -/
def poppable (types : List ReqType) : List OutstandingRequest → Bool
  | [] => false
  | r :: _ => r.action ≠ .fake ∧ r.type ∈ types

/-- The queue after `pop_outstanding_request`. -/
def popQueue (types : List ReqType) (q : List OutstandingRequest) : List OutstandingRequest :=
  if poppable types q then q.tail else q

/-- Whether `pop_outstanding_request` takes off a request whose response is skipped. -/
def popSkips (types : List ReqType) : List OutstandingRequest → Bool
  | [] => false
  | r :: _ => r.action = .skip ∧ r.type ∈ types

/-- The request types a message can answer. -/
def popTypes : ServerMsg → List ReqType
  | .readyForQuery _ => Handled.readyTypes
  | .commandComplete _ | .emptyQueryResponse | .portalSuspended => [.execute]
  | .parseComplete => [.parse]
  | .bindComplete => [.bind]
  | .closeComplete => [.close]
  | .noData | .rowDescription => [.describe]
  | _ => []

/-- The queue after the requests a copy-in leaves behind are dropped. -/
def endCopyQueue (sv : Server) : ServerMsg → List OutstandingRequest
  | .errorResponse =>
    if sv.copyMode then dropUntil [.copyDone, .copyFail] sv.outstandingRequests
    else sv.outstandingRequests
  | .commandComplete _ =>
    if sv.copyMode then dropUntil [.copyDone] sv.outstandingRequests
    else sv.outstandingRequests
  | _ => sv.outstandingRequests

/-- The queue after a ReadyForQuery. -/
def readyQueue (sv : Server) : List OutstandingRequest :=
  if poppable Handled.readyTypes sv.outstandingRequests then sv.outstandingRequests.tail
  else if sv.queryFailed then dropUntil [.sync] sv.outstandingRequests
  else sv.outstandingRequests

/-- The queue after a message, before the fake responses at its head are made up. -/
def queueAfter (sv : Server) : ServerMsg → List OutstandingRequest
  | .readyForQuery _ => readyQueue sv
  | m => popQueue (popTypes m) (endCopyQueue sv m)

theorem popQueue_nil_types (q : List OutstandingRequest) : popQueue [] q = q := by
  cases q <;> simp [popQueue, poppable]

theorem popQueue_suffix (types : List ReqType) (q : List OutstandingRequest) :
    popQueue types q <:+ q := by
  unfold popQueue
  split
  · exact List.tail_suffix q
  · exact List.suffix_rfl

theorem queueAfter_suffix (sv : Server) (m : ServerMsg) :
    queueAfter sv m <:+ sv.outstandingRequests := by
  have hend : endCopyQueue sv m <:+ sv.outstandingRequests := by
    unfold endCopyQueue
    split
    · split
      · exact dropUntil_suffix _ _
      · exact List.suffix_rfl
    · split
      · exact dropUntil_suffix _ _
      · exact List.suffix_rfl
    · exact List.suffix_rfl
  unfold queueAfter
  split
  · unfold readyQueue
    split
    · exact List.tail_suffix _
    · split
      · exact dropUntil_suffix _ _
      · exact List.suffix_rfl
  · exact (popQueue_suffix _ _).trans hend

/-- Whether a message is kept from the client. -/
def ignoreAfter (sv : Server) (m : ServerMsg) : Bool :=
  popSkips (popTypes m) (endCopyQueue sv m)

theorem popSkips_nil_types (q : List OutstandingRequest) : popSkips [] q = false := by
  cases q <;> simp [popSkips]

/-! ### The cache after a message -/

/-- What a request does to the statements of a server. -/
abbrev StmtOp := UndoLog.Op QueryId

/-- The operation `undoRequest` would undo. -/
def OutstandingRequest.op (r : OutstandingRequest) : StmtOp :=
  if r.type = .parse ∧ r.serverPsQueryId > 0 then .add r.serverPsQueryId
  else if r.type = .close then
    match r.serverPs with
    | some id => .remove id
    | none => .keep
  else .keep

/-- The cache after one request was undone. -/
def undoCache (op : StmtOp) (cache : List QueryId) : List QueryId :=
  match op with
  | .keep => cache
  | .add id => if id ∈ cache then eraseLast cache id else cache
  | .remove id => cache ++ [id]

theorem undoRequest_fst (r : OutstandingRequest) (cache : List QueryId) (g : Statements) :
    (undoRequest r cache g).1 = undoCache r.op cache := by
  unfold undoRequest OutstandingRequest.op
  split
  · simp only [unregisterPreparedStatement, undoCache]
    split <;> rfl
  · split
    · cases r.serverPs <;> rfl
    · rfl

/-- The cache after `clear_outstanding_requests_until`. -/
def clearCache (types : List ReqType) : List OutstandingRequest → List QueryId → List QueryId
  | [], cache => cache
  | r :: rest, cache =>
    if r.type ∈ types then undoCache r.op cache else clearCache types rest (undoCache r.op cache)

theorem clearRequestsUntil_cache (types : List ReqType) :
    ∀ (q : List OutstandingRequest) (cache : List QueryId) (g : Statements),
      (clearRequestsUntil types q cache g).2.1 = clearCache types q cache := by
  intro q
  induction q with
  | nil => intro cache g; rfl
  | cons r rest ih =>
    intro cache g
    rw [clearRequestsUntil, clearCache]
    split
    · exact undoRequest_fst r cache g
    · rw [ih, undoRequest_fst]

/-- The cache after the requests a copy-in leaves behind are dropped. -/
def endCopyCache (sv : Server) (types : List ReqType) : List QueryId :=
  if sv.copyMode then clearCache types sv.outstandingRequests sv.serverPreparedStatements
  else sv.serverPreparedStatements

/-- The cache after a message. -/
def cacheAfter (cfg : Config) (sv : Server) : ServerMsg → List QueryId
  | .readyForQuery _ =>
    if poppable Handled.readyTypes sv.outstandingRequests then sv.serverPreparedStatements
    else if sv.queryFailed then
      clearCache [.sync] sv.outstandingRequests sv.serverPreparedStatements
    else sv.serverPreparedStatements
  | .errorResponse => endCopyCache sv [.copyDone, .copyFail]
  | .commandComplete tag =>
    if cfg.isPreparedStatementsEnabled && tag != .other then [] else endCopyCache sv [.copyDone]
  | _ => sv.serverPreparedStatements

/-! ### The flags after a message -/

/-- What a message does to the client of a server, apart from being forwarded. -/
def clientAfter (cfg : Config) (m : ServerMsg) (c : Client) : Client :=
  match m with
  | .copyInResponse | .copyBothResponse => { c with copyMode := true }
  | .commandComplete tag =>
    if cfg.isPreparedStatementsEnabled && tag != .other then
      { c with clientPreparedStatements := [] }
    else c
  | _ => c

/-- The copy mode of a server after a message. -/
def copyModeAfter (m : ServerMsg) (copyMode : Bool) : Bool :=
  match m with
  | .copyInResponse | .copyBothResponse => true
  | .commandComplete _ | .errorResponse => false
  | _ => copyMode

/-- Whether a server has a failed request behind it after a message. -/
def queryFailedAfter (m : ServerMsg) (queryFailed : Bool) : Bool :=
  match m with
  | .readyForQuery _ => false
  | .errorResponse => true
  | _ => queryFailed

/-! ### The cases of the switch -/

theorem popOutstandingRequest_some {sv sv' : Server} {g g' : Statements} {types : List ReqType}
    {skip : Bool} (h : popOutstandingRequest sv g types = some (sv', g', skip)) :
    ∃ r rest, sv.outstandingRequests = r :: rest ∧ r.action ≠ .fake ∧ r.type ∈ types ∧
      sv' = { sv with outstandingRequests := rest } ∧
      g' = freeServerPreparedStatement g r.serverPs ∧ skip = decide (r.action = .skip) := by
  unfold popOutstandingRequest at h
  cases hq : sv.outstandingRequests with
  | nil => simp [hq] at h
  | cons r rest =>
    rw [hq] at h
    simp only at h
    split at h
    · exact absurd h (by simp)
    · rename_i hfake
      split at h
      · rename_i htype
        simp only [Option.some.injEq, Prod.mk.injEq] at h
        obtain ⟨rfl, rfl, rfl⟩ := h
        exact ⟨r, rest, rfl, hfake, htype, rfl, rfl, rfl⟩
      · exact absurd h (by simp)

/-- What the switch leaves behind, without the table, what closes the server, and the two
flags that are set last. -/
def Handled.core (h : Handled) : Handled :=
  { h with
    server := { h.server with ready := false, idleTx := false }
    stmts := {}
    disconnect := none }

theorem setState_core (h : Handled) (ready idleTx : Bool) :
    (h.setState ready idleTx).core = h.core :=
  rfl

theorem pop_core {h : Handled} (types : List ReqType) (hig : h.ignorePacket = false) :
    (h.pop types).core =
      { h.core with
        server := { h.core.server with
          outstandingRequests := popQueue types h.core.server.outstandingRequests }
        ignorePacket := popSkips types h.core.server.outstandingRequests } := by
  unfold Handled.pop popOutstandingRequest
  cases hq : h.server.outstandingRequests with
  | nil => simp [Handled.core, popQueue, poppable, popSkips, hq, hig]
  | cons r rest =>
    by_cases hfake : r.action = .fake <;> by_cases htype : r.type ∈ types <;>
      simp [Handled.core, popQueue, poppable, popSkips, hq, hig, hfake, htype]

theorem clearUntil_core (h : Handled) (types : List ReqType) :
    (h.clearUntil types).core =
      { h.core with
        server := { h.core.server with
          outstandingRequests := dropUntil types h.server.outstandingRequests
          serverPreparedStatements :=
            clearCache types h.server.outstandingRequests
              h.server.serverPreparedStatements } } := by
  simp [Handled.core, Handled.clearUntil, clearOutstandingRequestsUntil, clearRequestsUntil_cache]

theorem endCopy_core (h : Handled) (types : List ReqType) :
    (h.endCopy types).core =
      { h.core with
        server := { h.core.server with
          copyMode := false
          outstandingRequests :=
            if h.server.copyMode then dropUntil types h.server.outstandingRequests
            else h.server.outstandingRequests
          serverPreparedStatements := endCopyCache h.server types } } := by
  unfold Handled.endCopy endCopyCache
  split_ifs with hmode
  · rw [clearUntil_core]
    rfl
  · simp [Handled.core, hmode]

/-- What the switch does to a server and its client, in closed form. -/
def switched (cfg : Config) (sv : Server) (c : Option Client) (m : ServerMsg) : Handled where
  server := { sv with
    ready := false
    idleTx := false
    copyMode := copyModeAfter m sv.copyMode
    queryFailed := queryFailedAfter m sv.queryFailed
    outstandingRequests := queueAfter sv m
    serverPreparedStatements := cacheAfter cfg sv m }
  client := c.map (clientAfter cfg m)
  stmts := {}
  ignorePacket := ignoreAfter sv m

section Switch

variable {cfg : Config} {sv : Server} {c : Option Client} {g : Statements} {m : ServerMsg}

theorem readyForQuery_core (state : TxStatus) :
    (Handled.readyForQuery { server := sv, client := c, stmts := g }).core =
      switched cfg sv c (.readyForQuery state) := by
  have hclient : c.map (clientAfter cfg (.readyForQuery state)) = c := by cases c <;> rfl
  simp only [Handled.readyForQuery, Handled.popReady, Handled.clearUntil, popOutstandingRequest,
    clearOutstandingRequestsUntil, switched, queueAfter, readyQueue, cacheAfter, ignoreAfter,
    popTypes, endCopyQueue, copyModeAfter, queryFailedAfter, hclient]
  cases hq : sv.outstandingRequests with
  | nil =>
    cases sv.queryFailed <;>
      simp [Handled.core, hq, poppable, popSkips, clearRequestsUntil_cache]
  | cons r rest =>
    by_cases hfake : r.action = .fake <;> by_cases htype : r.type ∈ Handled.readyTypes <;>
      cases sv.queryFailed <;>
      simp [Handled.core, hq, hfake, htype, poppable, popSkips, clearRequestsUntil_cache]

theorem commandComplete_core (tag : Tag) :
    (Handled.commandComplete cfg { server := sv, client := c, stmts := g } tag).core =
      switched cfg sv c (.commandComplete tag) := by
  have hcopy := endCopy_core { server := sv, client := c, stmts := g } [.copyDone]
  unfold Handled.commandComplete Handled.checkTag
  generalize Handled.endCopy { server := sv, client := c, stmts := g } [.copyDone] = h at hcopy
  have hig : h.ignorePacket = false := congrArg Handled.ignorePacket hcopy
  by_cases hdrop : (cfg.isPreparedStatementsEnabled && tag != .other) = true
  · have hdropped : h.dropStatements.core =
        { h.core with
          server := { h.core.server with serverPreparedStatements := [] }
          client := h.core.client.map fun c => { c with clientPreparedStatements := [] } } := rfl
    rw [if_pos hdrop, pop_core (h := h.dropStatements) _ hig, hdropped, hcopy, switched, cacheAfter,
      if_pos hdrop]
    cases c
    · rfl
    · simp only [Option.map_some, clientAfter, if_pos hdrop]
      rfl
  · rw [if_neg hdrop, pop_core _ hig, hcopy, switched, cacheAfter, if_neg hdrop]
    cases c
    · rfl
    · simp only [Option.map_some, clientAfter, if_neg hdrop]
      rfl

/-- **A message in closed form.**  Only an ErrorResponse to the `SET` of `varcache_apply` is
different. -/
theorem serverSwitch_core (hvars : m = .errorResponse → sv.settingVars = false) :
    (serverSwitch cfg sv c g m).core = switched cfg sv c m := by
  cases m with
  | readyForQuery state =>
    have hready := @readyForQuery_core cfg sv c g
    cases state with
    | idle => exact hready _
    | inTransaction | failed =>
      simp only [serverSwitch]
      split <;> exact hready _
  | errorResponse =>
    have hcopy := endCopy_core { server := sv, client := c, stmts := g } [.copyDone, .copyFail]
    simp only [serverSwitch, hvars rfl, Bool.false_eq_true, if_false, setState_core]
    simp only [switched, queueAfter, popTypes, popQueue_nil_types, ignoreAfter, popSkips_nil_types]
    have herror : ∀ h : Handled, { h with server := { h.server with queryFailed := true } }.core =
        { h.core with server := { h.core.server with queryFailed := true } } := fun _ => rfl
    rw [Handled.errorResponse, herror, hcopy]
    cases c <;> rfl
  | commandComplete tag => exact commandComplete_core tag
  | parseComplete | bindComplete | closeComplete | noData | rowDescription | emptyQueryResponse
  | portalSuspended =>
    simp only [serverSwitch, setState_core]
    rw [pop_core _ rfl]
    cases c <;> rfl
  | copyInResponse | copyBothResponse | notificationResponse | unknown | parameterStatus
  | noticeResponse | copyOutResponse | parameterDescription | copyDone | copyFail
  | functionCallResponse | copyData | dataRow =>
    simp only [switched, queueAfter, ignoreAfter, popTypes, popQueue_nil_types, popSkips_nil_types]
    cases c <;> rfl

theorem serverSwitch_queue (hvars : m = .errorResponse → sv.settingVars = false) :
    (serverSwitch cfg sv c g m).server.outstandingRequests = queueAfter sv m :=
  congrArg (·.server.outstandingRequests) (serverSwitch_core hvars)

theorem serverSwitch_cache (hvars : m = .errorResponse → sv.settingVars = false) :
    (serverSwitch cfg sv c g m).server.serverPreparedStatements = cacheAfter cfg sv m :=
  congrArg (·.server.serverPreparedStatements) (serverSwitch_core hvars)

theorem serverSwitch_ignorePacket (hvars : m = .errorResponse → sv.settingVars = false) :
    (serverSwitch cfg sv c g m).ignorePacket = ignoreAfter sv m :=
  congrArg Handled.ignorePacket (serverSwitch_core hvars)

/-- The client stays, also when the server is closed over the message. -/
theorem serverSwitch_client (cfg : Config) (sv : Server) (c : Option Client) (g : Statements)
    (m : ServerMsg) : (serverSwitch cfg sv c g m).client = c.map (clientAfter cfg m) := by
  by_cases hvars : m = .errorResponse → sv.settingVars = false
  · exact congrArg Handled.client (serverSwitch_core hvars)
  · obtain ⟨rfl, hset⟩ := Classical.not_imp.mp hvars
    simp only [serverSwitch, if_pos (Bool.not_eq_false _ |>.mp hset)]
    cases c <;> rfl

end Switch

/-! ### A whole turn -/

/-- What a message does to the two ends of a link, up to the table. -/
structure Replied (cfg : Config) (l l' : Link) (m : ServerMsg) : Prop where
  queue : l'.server.outstandingRequests = dropFakes (queueAfter l.server m)
  extraPackets : l'.server.extraPackets = []
  toClient : l'.toClient = l.toClient ++ (l.server.extraPackets.map ToClient.generated ++
    ((if ignoreAfter l.server m then [] else [.forwarded m]) ++
      (fakesOf (queueAfter l.server m)).map ToClient.generated))
  toServer : l'.toServer = l.toServer
  client : l'.client = clientAfter cfg m l.client
  copyMode : l'.server.copyMode = copyModeAfter m l.server.copyMode
  queryFailed : l'.server.queryFailed = queryFailedAfter m l.server.queryFailed
  settingVars : l'.server.settingVars = false
  cache : l'.server.serverPreparedStatements = cacheAfter cfg l.server m

theorem queueAfter_flush (l : Link) (m : ServerMsg) :
    queueAfter (flushExtraPackets l).server m = queueAfter l.server m := by
  cases m <;> rfl

theorem ignoreAfter_flush (l : Link) (m : ServerMsg) :
    ignoreAfter (flushExtraPackets l).server m = ignoreAfter l.server m := by
  cases m <;> rfl

theorem cacheAfter_flush (cfg : Config) (l : Link) (m : ServerMsg) :
    cacheAfter cfg (flushExtraPackets l).server m = cacheAfter cfg l.server m := by
  cases m <;> rfl

theorem handleServerWork_some {cfg : Config} {l l' : Link} {m : ServerMsg}
    (hvars : l.server.settingVars = false) (h : handleServerWork cfg l m = (l', none)) :
    l' = { l with
      server :=
        sendPendingFakeResponses (serverSwitch cfg l.server (some l.client) l.stmts m).server
      client := clientAfter cfg m l.client
      stmts := (serverSwitch cfg l.server (some l.client) l.stmts m).stmts
      toClient := l.toClient ++ if ignoreAfter l.server m then [] else [.forwarded m] } := by
  have hsettings : (serverSwitch cfg l.server (some l.client) l.stmts m).server.settingVars =
      false :=
    (congrArg (·.server.settingVars) (serverSwitch_core fun _ => hvars)).trans hvars
  unfold handleServerWork at h
  simp only [hsettings, serverSwitch_client, serverSwitch_ignorePacket fun _ => hvars] at h
  split at h
  · rename_i hd
    rw [(Prod.mk.inj h).2] at hd
    exact absurd hd (by simp)
  · exact (Prod.mk.inj h).1.symm

theorem processServerPacket_replied {cfg : Config} {l l' : Link} {m : ServerMsg}
    (hvars : l.server.settingVars = false) (h : processServerPacket cfg l m = (l', none)) :
    Replied cfg l l' m := by
  unfold processServerPacket at h
  split at h
  · rename_i l₁ hwork
    obtain rfl := (Prod.mk.inj h).1
    obtain rfl := handleServerWork_some (l := flushExtraPackets l) hvars hwork
    have hsw := congrArg Handled.server (@serverSwitch_core cfg (flushExtraPackets l).server
      (some (flushExtraPackets l).client) (flushExtraPackets l).stmts m fun _ => hvars)
    have hq := (congrArg Server.outstandingRequests hsw).trans (queueAfter_flush l m)
    rw [sendPendingFakeResponses_eq]
    refine ⟨congrArg dropFakes hq, rfl, ?_, rfl, rfl, congrArg Server.copyMode hsw,
      congrArg Server.queryFailed hsw, (congrArg Server.settingVars hsw).trans hvars,
      (congrArg Server.serverPreparedStatements hsw).trans (cacheAfter_flush cfg l m)⟩
    have hextra : (serverSwitch cfg (flushExtraPackets l).server (some (flushExtraPackets l).client)
        (flushExtraPackets l).stmts m).server.extraPackets = [] := congrArg Server.extraPackets hsw
    have hq' : (serverSwitch cfg (flushExtraPackets l).server (some (flushExtraPackets l).client)
        (flushExtraPackets l).stmts m).server.outstandingRequests = queueAfter l.server m := hq
    rw [ignoreAfter_flush, hq', hextra]
    simp [flushExtraPackets]
  · rename_i hne
    rw [h] at hne
    exact absurd rfl (hne l')

end PgBouncer
