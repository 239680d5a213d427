/-
What pgbouncer writes of its own accord, and the buffers that wait to be written.

`pktbuf_send_immediate` hands a buffer to the kernel once and reports whether all of it
was taken.  `pktbuf_send_queued` reports success at once, and a write event goes on with
what the kernel did not take.  The event knows the `PgSocket` it writes to and the
descriptor it waits for, and it stays when the socket is closed.

A `PgSocket` is a number here, and so is a descriptor; both are used again.  A
connection has a number that is not, which pgbouncer knows nothing of.  `calls` and
`writes` record what was asked for and what was written.
-/
import PgBouncer.Auth.Login
import PgBouncer.Lib.Run
import Mathlib.Logic.Function.Basic

namespace PgBouncer.Output

/-- What the kernel, or the TLS layer, says to a send. -/
inductive SendResult
  | sent (n : Nat)
  | eagain
  | error
  deriving DecidableEq

/-- How far `send_pos` moves. -/
def SendResult.amount : SendResult → Nat
  | .sent n => n
  | .eagain | .error => 0

/-- `struct PktBuf`; `buf` are the bytes before `write_pos`. -/
structure PktBuf where
  buf : Bytes := []
  sendPos : Nat := 0
  failed : Bool := false
  deriving DecidableEq

/-- What is still to be sent of a buffer. -/
def PktBuf.rest (buf : PktBuf) : Bytes := buf.buf.drop buf.sendPos

/-- A buffer whose write event is pending. -/
structure Queued where
  buf : PktBuf
  queuedDst : Nat
  /-- The descriptor the event waits for. -/
  fd : Nat
  /-- The connection the buffer was queued for. -/
  conn : Nat
  deriving DecidableEq

/-- A call of one of the two functions. -/
structure Call where
  conn : Nat
  bytes : Bytes
  res : Bool
  deriving DecidableEq

/-- Bytes that were written to a connection, of a buffer that was sent to `owner`. -/
structure Write where
  conn : Nat
  owner : Nat
  bytes : Bytes
  deriving DecidableEq

structure World where
  /-- `sbuf.sock` of a `PgSocket`, 0 if it is closed. -/
  sock : Nat → Nat := fun _ => 0
  /-- The connection behind an open descriptor. -/
  fds : Nat → Option Nat := fun _ => none
  nConns : Nat := 0
  pending : List Queued := []
  calls : List Call := []
  writes : List Write := []

namespace World

/-- The connection a `PgSocket` has. -/
def connOf (w : World) (sk : Nat) : Option Nat := w.fds (w.sock sk)

/-- `sbuf_op_send`. -/
def sbufOpSend (w : World) (sk owner : Nat) (data : Bytes) (res : SendResult) :
    World × SendResult :=
  match w.connOf sk, res with
  | none, _ => (w, .error)
  | some conn, .sent n =>
    ({ w with writes := w.writes ++ [⟨conn, owner, data.take n⟩] }, .sent (min n data.length))
  | some _, res => (w, res)

/-- `pktbuf_send_immediate`. -/
def pktbufSendImmediate (w : World) (buf : PktBuf) (sk owner : Nat) (res : SendResult) :
    World × Bool :=
  if buf.failed then (w, false)
  else
    let r := w.sbufOpSend sk owner buf.rest res
    (r.1, r.2 = .sent buf.rest.length)

/-- `pktbuf_send_func`.  `added` says whether `event_add` works. -/
def pktbufSendFunc (w : World) (q : Queued) (res : SendResult) (added : Bool) : World :=
  if q.buf.failed then w
  else
    let r := w.sbufOpSend q.queuedDst q.conn q.buf.rest res
    if r.2 = .error then r.1
    else
      let buf : PktBuf := { q.buf with sendPos := q.buf.sendPos + r.2.amount }
      if buf.sendPos < buf.buf.length ∧ added then
        { r.1 with pending := r.1.pending ++ [{ q with buf }] }
      else r.1

end World

/-- `pktbuf_write_generic` for the fields of an ErrorResponse, and a ReadyForQuery; the
buffer has 512 bytes. -/
def poolerError (sendReady : Bool) (sqlstate : Option Bytes) (levelFatal : Bool) (msg : Bytes) :
    PktBuf :=
  let body := [ch 'S'] ++ text (if levelFatal then "FATAL" else "ERROR") ++ [0] ++
    [ch 'C'] ++ sqlstate.getD (text "08P01") ++ [0] ++ [ch 'M'] ++ msg ++ [0] ++ [0]
  let len := body.length + 4
  let bytes := [ch 'E'] ++ [UInt8.ofNat (len / 2 ^ 24), UInt8.ofNat (len / 2 ^ 16),
    UInt8.ofNat (len / 2 ^ 8), UInt8.ofNat len] ++ body ++
    (if sendReady then [ch 'Z', 0, 0, 0, 5, ch 'I'] else [])
  { buf := bytes, failed := bytes.length > 512 }

namespace World

/-- `pktbuf_send_queued`. -/
def pktbufSendQueued (w : World) (buf : PktBuf) (sk owner : Nat) (res : SendResult)
    (added : Bool) : World × Bool :=
  if buf.failed then
    w.pktbufSendImmediate (poolerError true none false (text "result prepare failed")) sk owner res
  else (w.pktbufSendFunc ⟨buf, sk, w.sock sk, owner⟩ res added, true)

/-- A call is recorded with what it was about and what it returned. -/
def record (w : World) (conn : Nat) (buf : PktBuf) (res : Bool) : World :=
  { w with calls := w.calls ++ [⟨conn, buf.rest, res⟩] }

end World

/-- What can happen to a `PgSocket` as far as output goes. -/
inductive Event
  /-- A `PgSocket` gets a connection. -/
  | opened (sk fd : Nat)
  /-- `sbuf_close`. -/
  | closed (sk : Nat)
  | immediate (buf : PktBuf) (sk : Nat) (res : SendResult)
  | queued (buf : PktBuf) (sk : Nat) (res : SendResult) (added : Bool)
  /-- The write event of the buffer at this place fires. -/
  | writable (i : Nat) (res : SendResult) (added : Bool)
  deriving DecidableEq

namespace World

/-- One event; `none` if it cannot happen. -/
def step (w : World) : Event → Option World
  | .opened sk fd =>
    if w.sock sk = 0 ∧ fd ≠ 0 ∧ w.fds fd = none then
      some { w with
        sock := Function.update w.sock sk fd
        fds := Function.update w.fds fd (some w.nConns)
        nConns := w.nConns + 1 }
    else none
  | .closed sk =>
    if w.sock sk = 0 then none
    else some { w with
      sock := Function.update w.sock sk 0
      fds := Function.update w.fds (w.sock sk) none }
  | .immediate buf sk res =>
    (w.connOf sk).map fun conn =>
      let r := w.pktbufSendImmediate buf sk conn res
      r.1.record conn buf r.2
  | .queued buf sk res added =>
    (w.connOf sk).map fun conn =>
      let r := w.pktbufSendQueued buf sk conn res added
      r.1.record conn buf r.2
  | .writable i res added =>
    match w.pending[i]? with
    | none => none
    | some q =>
      if (w.fds q.fd).isSome then
        some ({ w with pending := w.pending.eraseIdx i }.pktbufSendFunc q res added)
      else none

/-- A sequence of events. -/
def run (w : World) (es : List Event) : Option World := Run.exec step w es

/-- The bytes a connection has been sent. -/
def writtenTo (w : World) (conn : Nat) : Bytes :=
  (w.writes.filter (·.conn = conn)).flatMap (·.bytes)

/-- The buffers of the calls for a connection, in the order of the calls. -/
def calledFor (w : World) (conn : Nat) : Bytes :=
  (w.calls.filter (·.conn = conn)).flatMap (·.bytes)

end World

end PgBouncer.Output
