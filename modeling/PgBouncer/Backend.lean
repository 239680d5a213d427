/-
A backend that follows the PostgreSQL protocol.

pgbouncer is verified against what a backend may do, and this file says what that
is.  A backend reads packets in the order they were sent and answers them in that
order.  `take` is the effect of reading a packet; `emit` says which messages the
backend may send in which state, and with what effect.  Which of the allowed
messages comes, and when, is up to the backend.

After an error in an extended-query request everything up to the next Sync is
ignored.  While copying in, Sync and Flush are ignored, and a packet that has no
place there is not read: the copy fails first, or the connection is given up.  Of the
statements on the backend only the `PGBOUNCER_n` ones are kept track of.
-/
import PgBouncer.Proto

namespace PgBouncer

/-- What a backend is doing. -/
inductive Mode
  /-- Waiting for a packet. -/
  | idle
  /-- Answering a packet. -/
  | busy (p : Pkt StmtRef)
  /-- The Query, FunctionCall or Sync being answered has failed, or it is the Sync that
  ends a failed batch: ReadyForQuery is next. -/
  | failed
  /-- An extended-query request has failed: ignoring packets until Sync. -/
  | skipping
  /-- Receiving copy data, for a simple query or for an Execute. -/
  | copyIn (simple : Bool)
  /-- The client has ended the copy data. -/
  | copyDone (simple : Bool)
  /-- The client has given the copy up. -/
  | copyFail (simple : Bool)
  deriving DecidableEq

structure Backend where
  mode : Mode := .idle
  /-- The `PGBOUNCER_n` statements that exist. -/
  stmts : List QueryId := []
  /-- The number of packets read. -/
  read : Nat := 0
  /-- The position of the packet being answered, counting from one. -/
  request : Nat := 0
  deriving DecidableEq

/-- The packet types a backend answers when it is not copying. -/
def ReqType.isRequest : ReqType → Bool
  | .parse | .bind | .describe | .execute | .close | .sync | .query | .functionCall => true
  | _ => false

/-- CopyDone and CopyFail. -/
def ReqType.isCopyEnd : ReqType → Bool
  | .copyDone | .copyFail => true
  | _ => false

/-- The requests that end with a ReadyForQuery. -/
def ReqType.isReady : ReqType → Bool
  | .sync | .query | .functionCall => true
  | _ => false

/-- Whether a copy-in is running. -/
def Mode.copying : Mode → Bool
  | .copyIn _ | .copyDone _ | .copyFail _ => true
  | _ => false

namespace Backend

/-- The mode a packet puts a backend in; `none` while it is not reading. -/
def modeAfter : Mode → Pkt StmtRef → Option Mode
  | .idle, p =>
    if p.type.isRequest then some (.busy p)
    else if p.type = .terminate ∨ p.type = .unknown then none
    else some .idle
  | .skipping, p =>
    if p.type = .sync then some .failed
    else if p.type = .terminate ∨ p.type = .unknown then none
    else some .skipping
  | .copyIn simple, p =>
    match p.type with
    | .copyData | .sync | .flush => some (.copyIn simple)
    | .copyDone => some (.copyDone simple)
    | .copyFail => some (.copyFail simple)
    | _ => none
  | _, _ => none

/-- Read a packet. -/
def take (b : Backend) (p : Pkt StmtRef) : Option Backend :=
  (modeAfter b.mode p).map fun mode =>
    { b with
      mode := mode
      read := b.read + 1
      request := if mode = .busy p ∨ mode = .failed then b.read + 1 else b.request }

/-- The mode after an error in a request of the given kind. -/
def failMode (ready : Bool) : Mode :=
  if ready then .failed else .skipping

/-- A command tag that says that all statements are gone. -/
def stmtsAfter (tag : Tag) (stmts : List QueryId) : List QueryId :=
  if tag = .other then stmts else []

/-- Messages that come ahead of the one that completes a packet. -/
def more : Pkt StmtRef → ServerMsg → Bool
  | .execute, .dataRow | .execute, .copyOutResponse | .execute, .copyData
  | .execute, .copyDone => true
  | .query, .rowDescription | .query, .dataRow | .query, .copyOutResponse | .query, .copyData
  | .query, .copyDone | .query, .emptyQueryResponse => true
  | .functionCall, .functionCallResponse => true
  | .describe _ _, .parameterDescription => true
  | _, _ => false

/-- Whether a message completes a packet of the extended-query protocol, and what it
leaves of the statements.  That a name is free when it is prepared and exists when it is
used is not asked for here: it is something to prove. -/
def complete (stmts : List QueryId) : Pkt StmtRef → ServerMsg → Option (List QueryId)
  | .parse (.pgbouncer id) _, .parseComplete =>
    some (if id ∈ stmts then stmts else stmts ++ [id])
  | .parse (.own _) _, .parseComplete => some stmts
  | .bind _ _, .bindComplete => some stmts
  | .describe _ _, .rowDescription | .describe _ _, .noData => some stmts
  | .close _ (.pgbouncer id), .closeComplete => some (stmts.erase id)
  | .close _ (.own _), .closeComplete => some stmts
  | .execute, .commandComplete tag => some (stmtsAfter tag stmts)
  | .execute, .emptyQueryResponse | .execute, .portalSuspended => some stmts
  | _, _ => none

/-- The messages a backend may send while it answers a packet. -/
def answer (b : Backend) (p : Pkt StmtRef) (m : ServerMsg) : Option Backend :=
  match m with
  | .errorResponse => some { b with mode := failMode p.type.isReady }
  | .readyForQuery _ => if p.type.isReady then some { b with mode := .idle } else none
  | .copyInResponse =>
    if p = .execute then some { b with mode := .copyIn false }
    else if p = .query then some { b with mode := .copyIn true }
    else none
  | m =>
    if more p m then some b
    else if p = .query then
      match m with
      | .commandComplete tag => some { b with stmts := stmtsAfter tag b.stmts }
      | _ => none
    else (complete b.stmts p m).map fun stmts => { b with mode := .idle, stmts := stmts }

/-- Send a message; `none` if the backend may not send it now. -/
def emit (b : Backend) (m : ServerMsg) : Option Backend :=
  if m.async then some b
  else
    match b.mode, m with
    | .busy p, m => b.answer p m
    | .failed, .readyForQuery _ => some { b with mode := .idle }
    | .copyIn simple, .errorResponse | .copyDone simple, .errorResponse
    | .copyFail simple, .errorResponse => some { b with mode := failMode simple }
    | .copyDone simple, .commandComplete tag =>
      some { b with
        mode := if simple then .busy .query else .idle
        stmts := stmtsAfter tag b.stmts }
    | _, _ => none

/-! ### What a backend may send -/

/-- The messages a backend may send, one constructor for each way it can go on. -/
inductive Emits (b : Backend) : ServerMsg → Backend → Prop
  /-- In answer to nothing. -/
  | async {m : ServerMsg} (hm : m.async = true) : Emits b m b
  /-- Part of an answer. -/
  | more {p : Pkt StmtRef} {m : ServerMsg} (hmode : b.mode = .busy p) (hmore : more p m = true) :
      Emits b m b
  /-- One command of a simple query is complete. -/
  | command {tag : Tag} (hmode : b.mode = .busy .query) :
      Emits b (.commandComplete tag) { b with stmts := stmtsAfter tag b.stmts }
  /-- A copy-in starts. -/
  | copyIn {p : Pkt StmtRef} {simple : Bool} (hmode : b.mode = .busy p)
      (hp : p = if simple then .query else .execute) :
      Emits b .copyInResponse { b with mode := .copyIn simple }
  /-- A packet of the extended-query protocol is complete. -/
  | complete {p : Pkt StmtRef} {m : ServerMsg} {stmts : List QueryId} (hmode : b.mode = .busy p)
      (hcomplete : complete b.stmts p m = some stmts) :
      Emits b m { b with mode := .idle, stmts := stmts }
  | ready {p : Pkt StmtRef} {state : TxStatus} (hmode : b.mode = .busy p)
      (hp : p.type.isReady = true) : Emits b (.readyForQuery state) { b with mode := .idle }
  | error {p : Pkt StmtRef} (hmode : b.mode = .busy p) :
      Emits b .errorResponse { b with mode := failMode p.type.isReady }
  | failedReady {state : TxStatus} (hmode : b.mode = .failed) :
      Emits b (.readyForQuery state) { b with mode := .idle }
  | copyError {simple : Bool}
      (hmode : b.mode = .copyIn simple ∨ b.mode = .copyDone simple ∨ b.mode = .copyFail simple) :
      Emits b .errorResponse { b with mode := failMode simple }
  /-- A copy-in is complete. -/
  | copyComplete {simple : Bool} {tag : Tag} (hmode : b.mode = .copyDone simple) :
      Emits b (.commandComplete tag)
        { b with
          mode := if simple then .busy .query else .idle
          stmts := stmtsAfter tag b.stmts }

theorem answer_emits {b b' : Backend} {p : Pkt StmtRef} {m : ServerMsg} (hmode : b.mode = .busy p)
    (h : b.answer p m = some b') : Emits b m b' := by
  unfold answer at h
  split at h
  · exact Option.some.inj h ▸ .error hmode
  · split at h
    · exact Option.some.inj h ▸ .ready hmode ‹_›
    · exact absurd h (by simp)
  · split at h
    · exact Option.some.inj h ▸ .copyIn hmode ‹_›
    · split at h
      · exact Option.some.inj h ▸ .copyIn hmode ‹_›
      · exact absurd h (by simp)
  · split at h
    · exact Option.some.inj h ▸ .more hmode ‹_›
    · split at h
      · rename_i hquery
        subst hquery
        split at h
        · exact Option.some.inj h ▸ .command hmode
        · exact absurd h (by simp)
      · obtain ⟨stmts, hcomplete, rfl⟩ := Option.map_eq_some_iff.mp h
        exact .complete hmode hcomplete

theorem emit_emits {b b' : Backend} {m : ServerMsg} (h : b.emit m = some b') : Emits b m b' := by
  unfold emit at h
  split at h
  · exact Option.some.inj h ▸ .async ‹_›
  · split at h
    · exact answer_emits ‹_› h
    · exact Option.some.inj h ▸ .failedReady ‹_›
    · exact Option.some.inj h ▸ .copyError (.inl ‹_›)
    · exact Option.some.inj h ▸ .copyError (.inr (.inl ‹_›))
    · exact Option.some.inj h ▸ .copyError (.inr (.inr ‹_›))
    · exact Option.some.inj h ▸ .copyComplete ‹_›
    · exact absurd h (by simp)

theorem Emits.position {b b' : Backend} {m : ServerMsg} (h : Emits b m b') :
    b'.read = b.read ∧ b'.request = b.request := by
  cases h <;> exact ⟨rfl, rfl⟩

/-- A backend that skips packets sends nothing, and one that copies in does not stop
copying but with an error. -/
theorem Emits.idle_from {b b' : Backend} {m : ServerMsg} (h : Emits b m b') :
    (b.mode = .skipping → b'.mode = .skipping) ∧
      (∀ simple, b.mode = .copyIn simple → m.async = false → b'.mode ≠ .idle) := by
  cases h with
  | async hm => exact ⟨id, fun _ _ hm' => absurd (hm.symm.trans hm') (by simp)⟩
  | @copyError simple hmode =>
    refine ⟨fun hs => ?_, fun _ _ _ => ?_⟩
    · rcases hmode with h | h | h <;> exact absurd (hs.symm.trans h) (by simp)
    · cases simple <;> simp [failMode]
  | more hmode | command hmode | copyIn hmode | complete hmode | ready hmode | error hmode
  | failedReady hmode | copyComplete hmode =>
    exact ⟨fun hs => absurd (hs.symm.trans hmode) (by simp),
      fun _ hs => absurd (hs.symm.trans hmode) (by simp)⟩

end Backend

end PgBouncer
