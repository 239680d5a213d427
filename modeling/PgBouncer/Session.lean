/-
One client, one server connection, and the backend behind it.

A session is what happens while a server is linked to a client.  The client's
packets are processed one by one; the backend reads what was sent to it when it
gets round to it, and its messages are processed one by one.  A message counts as
sent at the moment pgbouncer processes it: the packets the client had sent by then
and the backend had not read are still unread, so every delay on the way is one of
the runs of this system.

A session also keeps what a specification wants to talk about and the program does
not: the requests in the order they were made, the messages the backend has sent,
and how far it has answered.
-/
import PgBouncer.Backend
import PgBouncer.ClientWork

namespace PgBouncer

/-- A request made of the server on behalf of a client: a packet that is going to be
answered, or one that was held back and is answered by pgbouncer. -/
structure Slot where
  type : ReqType
  action : ResponseAction
  /-- The position of the packet among those sent, counting from one; for a packet held
  back, that of the packet sent last. -/
  pos : Nat
  deriving DecidableEq

/-- The type of a request and what became of it. -/
def Slot.sig (t : Slot) : ReqType × ResponseAction :=
  (t.type, t.action)

/-- The requests a client's packet turns into, given the packets that were sent for it
behind the first `start` ones.  Of those only the one of the packet's own type was asked
for by the client. -/
def slotsOf (cfg : Config) (copying : Bool) (p : Pkt Bytes) (start : Nat)
    (sent : List (Pkt StmtRef)) : List Slot :=
  if psAction cfg p && sent.isEmpty then [{ type := p.type, action := .fake, pos := start }]
  else
    (sent.zipIdx (start + 1)).filterMap fun x =>
      if trackOutstanding copying x.1.type then
        some
          { type := x.1.type
            action := if x.1.type = p.type then .forward else .skip
            pos := x.2 }
      else none

structure Session where
  link : Link := {}
  backend : Backend := {}
  /-- The packets of the client, in order. -/
  packets : List (Pkt Bytes) := []
  /-- The requests, in order. -/
  log : List Slot := []
  /-- Requests up to this position have had their final reply. -/
  settled : Nat := 0
  /-- What the backend has sent in answer to something. -/
  replies : List ServerMsg := []
  /-- A copy-in has been started by the backend and not been ended by the client. -/
  copyOpen : Bool := false
  deriving DecidableEq

inductive SessionEvent
  /-- A packet of the client is processed. -/
  | client (p : Pkt Bytes)
  /-- The backend reads a packet. -/
  | read
  /-- The backend sends a message, and it is processed. -/
  | reply (m : ServerMsg)
  /-- The first part of a message has been received. -/
  | arriving
  deriving DecidableEq

namespace Session

variable (cfg : Config) (s : Session)

/-- The packets sent to the backend and not read by it. -/
def unread : List (Pkt StmtRef) :=
  s.link.toServer.drop s.backend.read

/-- The packets the backend has not read up to the one by which the client has ended the
copy-in that is running; zero if it has not ended it or the backend has read that. -/
def unreadCopyEnd : Nat :=
  match s.backend.mode, s.unread.findIdx? (·.type.isCopyEnd) with
  | .copyIn _, some i => i + 1
  | _, _ => 0

/-- How far the requests have been answered once the backend has sent `m`.  A reply
that leaves the backend waiting for a packet is final for everything it has read.  An
error that ends a copy-in is final for that as well, and for the packet by which the
client ends the copy, which is not going to be answered any more. -/
def settledAfter (m : ServerMsg) (b : Backend) : Nat :=
  if m.async then s.settled
  else if b.mode = .idle then s.backend.read
  else if m = .errorResponse ∧ s.backend.mode.copying then s.backend.read + s.unreadCopyEnd
  else s.settled

/-- A packet of the client is processed. -/
def clientStep (p : Pkt Bytes) : Option Session :=
  match handleClientWork cfg s.link p with
  | (l, none) =>
    some { s with
      link := l
      packets := s.packets ++ [p]
      log := s.log ++ slotsOf cfg s.backend.mode.copying p s.link.toServer.length
        (l.toServer.drop s.link.toServer.length)
      copyOpen := s.copyOpen && !p.type.isCopyEnd }
  | (_, some _) => none

/-- The backend reads the next packet. -/
def readStep : Option Session :=
  match s.link.toServer[s.backend.read]? with
  | none => none
  | some p => (s.backend.take p).map fun b => { s with backend := b }

/-- A message of the backend is processed. -/
def replyStep (m : ServerMsg) : Option Session :=
  match s.backend.emit m with
  | none => none
  | some b =>
    match processServerPacket cfg
      { s.link with server := { s.link.server with sbufIsEmpty := true } } m with
    | (l, none) =>
      some {
        link := l
        backend := b
        packets := s.packets
        log := s.log
        settled := s.settledAfter m b
        replies := if m.async then s.replies else s.replies ++ [m]
        copyOpen :=
          if m = .copyInResponse then s.unread.all fun p => !p.type.isCopyEnd
          else s.copyOpen }
    | (_, some _) => none

/-- A chunk of the client's packets is processed. -/
def clientChunk (chunk : List (Pkt Bytes)) : Option Session :=
  chunk.foldlM (clientStep cfg) s

/-- One event; `none` if it cannot happen or if it ends the connection. -/
def step : SessionEvent → Option Session
  | .client p => s.clientStep cfg p
  | .read => s.readStep
  | .reply m => s.replyStep cfg m
  | .arriving => some { s with link := s.link.partialPacket }

/-- A sequence of events that meet `ok`. -/
def run (ok : Session → SessionEvent → Prop) [∀ s e, Decidable (ok s e)]
    (s : Session) (events : List SessionEvent) : Option Session :=
  events.foldlM (fun s e => if ok s e then s.step cfg e else none) s

end Session

/-- The events of a session whose client sends chunks of packets. -/
inductive ChunkEvent
  | chunk (chunk : List (Pkt Bytes))
  | read
  | reply (m : ServerMsg)
  | arriving
  deriving DecidableEq

namespace Session

/-- One such event. -/
def stepChunk (cfg : Config) (s : Session) : ChunkEvent → Option Session
  | .chunk chunk => s.clientChunk cfg chunk
  | .read => s.step cfg .read
  | .reply m => s.step cfg (.reply m)
  | .arriving => s.step cfg .arriving

/-- A sequence of such events that meet `ok`. -/
def runChunks (cfg : Config) (ok : Session → ChunkEvent → Prop) [∀ s e, Decidable (ok s e)]
    (s : Session) (events : List ChunkEvent) : Option Session :=
  events.foldlM (fun s e => if ok s e then s.stepChunk cfg e else none) s

end Session

end PgBouncer
