/-
`handle_server_work`: what becomes of a message from a logged-in server.

The handler first brings the queue of outstanding requests, the statement cache
and the copy flags up to date with the message, then decides whether the linked
client gets to see it.  Behind a message that answers the last real request in
front of it, the fake responses at the head of the queue are made up and queued.

`processServerPacket` is one turn of the loop in `sbuf_process_pending` over the
server's stream buffer when the message arrives in one piece: packets queued
earlier go out first, then the message, then the packets queued behind it.
-/
import PgBouncer.Prepare

namespace PgBouncer

/-- The state after the switch of `handle_server_work`. -/
structure Handled where
  server : Server
  client : Option Client
  stmts : Statements
  ignorePacket : Bool := false
  disconnect : Option Disconnect := none
  deriving DecidableEq

namespace Handled

/-- A call of `pop_outstanding_request` that may set `ignore_packet`. -/
def pop (h : Handled) (types : List ReqType) : Handled :=
  match popOutstandingRequest h.server h.stmts types with
  | some (sv, g, skip) => { h with server := sv, stmts := g, ignorePacket := skip }
  | none => h

/-- A call of `clear_outstanding_requests_until`. -/
def clearUntil (h : Handled) (types : List ReqType) : Handled :=
  let r := clearOutstandingRequestsUntil h.server h.stmts types
  { h with server := r.1, stmts := r.2 }

/-- The end of a copy-in: leave copy mode and drop the requests up to the packet
that ended it. -/
def endCopy (h : Handled) (types : List ReqType) : Handled :=
  if h.server.copyMode then
    { h with server := { h.server with copyMode := false } }.clearUntil types
  else h

/-- The start of a copy-in. -/
def startCopy (h : Handled) : Handled :=
  { h with
    server := { h.server with copyMode := true }
    client := h.client.map fun c => { c with copyMode := true } }

/-- Forget every prepared statement after a `DEALLOCATE ALL` or `DISCARD ALL`. -/
def dropStatements (h : Handled) : Handled :=
  { h with
    server := { h.server with serverPreparedStatements := [] }
    client := h.client.map fun c => { c with clientPreparedStatements := [] }
    stmts :=
      let g := freeServerPreparedStatements h.server.serverPreparedStatements h.stmts
      match h.client with
      | some c => freeClientPreparedStatements c.clientPreparedStatements g
      | none => g }

/-- The assignments to `server->idle_tx` and `server->ready` behind the switch. -/
def setState (h : Handled) (ready idleTx : Bool) : Handled :=
  { h with server := { h.server with ready := ready, idleTx := idleTx } }

/-- The packet types a ReadyForQuery answers. -/
def readyTypes : List ReqType := [.sync, .query, .functionCall]

/-- Take the request a ReadyForQuery answers off the queue, or, in a failed batch, all
requests up to the Sync that ends it. -/
def popReady (h : Handled) : Handled :=
  match popOutstandingRequest h.server h.stmts readyTypes with
  | some (sv, g, skip) => { h with server := sv, stmts := g, ignorePacket := skip }
  | none => if h.server.queryFailed then h.clearUntil [.sync] else h

/-- The case of a ReadyForQuery up to the reset of `query_failed`. -/
def readyForQuery (h : Handled) : Handled :=
  { h.popReady with server := { h.popReady.server with queryFailed := false } }

/-- Look at the tag of a CommandComplete. -/
def checkTag (cfg : Config) (h : Handled) (tag : Tag) : Handled :=
  if cfg.isPreparedStatementsEnabled && tag != .other then h.dropStatements else h

/-- The case of a CommandComplete. -/
def commandComplete (cfg : Config) (h : Handled) (tag : Tag) : Handled :=
  ((h.endCopy [.copyDone]).checkTag cfg tag).pop [.execute]

/-- The case of an ErrorResponse outside `varcache_apply`. -/
def errorResponse (h : Handled) : Handled :=
  let h' := h.endCopy [.copyDone, .copyFail]
  { h' with server := { h'.server with queryFailed := true } }

end Handled

/-- The switch of `handle_server_work` on the packet type, together with the two
assignments that follow it. -/
def serverSwitch (cfg : Config) (sv : Server) (client : Option Client) (g : Statements)
    (m : ServerMsg) : Handled :=
  let h : Handled := { server := sv, client := client, stmts := g }
  match m with
  | .readyForQuery state =>
    match state with
    | .idle => h.readyForQuery.setState true false
    | _ =>
      if cfg.poolMode = .statement then
        { h.readyForQuery with
          disconnect :=
            some (.server "transaction blocks not allowed in statement pooling mode") }
      else h.readyForQuery.setState false true
  | .errorResponse =>
    if sv.settingVars then { h with disconnect := some (.server "invalid server parameter") }
    else h.errorResponse.setState false false
  | .commandComplete tag => (h.commandComplete cfg tag).setState false false
  | .notificationResponse => h
  | .copyInResponse | .copyBothResponse =>
    h.startCopy.setState false false
  | .parseComplete => (h.pop [.parse]).setState false false
  | .bindComplete => (h.pop [.bind]).setState false false
  | .closeComplete => (h.pop [.close]).setState false false
  | .noData | .rowDescription => (h.pop [.describe]).setState false false
  | .emptyQueryResponse | .portalSuspended => (h.pop [.execute]).setState false false
  | .parameterStatus | .noticeResponse | .copyOutResponse | .parameterDescription | .copyDone
  | .copyFail | .functionCallResponse | .copyData | .dataRow => h.setState false false
  | .unknown => { h with disconnect := some (.server "unknown pkt") }

/-- `handle_server_work` of a server linked to a logged-in client. -/
def handleServerWork (cfg : Config) (l : Link) (m : ServerMsg) : Link × Option Disconnect :=
  let h := serverSwitch cfg l.server (some l.client) l.stmts m
  let l' := { l with server := h.server, client := h.client.getD l.client, stmts := h.stmts }
  if h.disconnect.isSome then (l', h.disconnect)
  else if h.server.settingVars then (l', none)
  else
    ({ l' with
      server := sendPendingFakeResponses h.server
      toClient := l.toClient ++ if h.ignorePacket then [] else [.forwarded m] }, none)

/-- The packets queued in the server's stream buffer go out to the client. -/
def flushExtraPackets (l : Link) : Link :=
  { l with
    server := { l.server with extraPackets := [] }
    toClient := l.toClient ++ l.server.extraPackets.map .generated }

/-- One turn of the loop of `sbuf_process_pending` over a message of the server. -/
def processServerPacket (cfg : Config) (l : Link) (m : ServerMsg) : Link × Option Disconnect :=
  match handleServerWork cfg (flushExtraPackets l) m with
  | (l', none) => (flushExtraPackets l', none)
  | r => r

/-- The same when the first part of a message is all there is: packets queued earlier go
out, and the message waits in the buffer. -/
def Link.partialPacket (l : Link) : Link :=
  flushExtraPackets { l with server := { l.server with sbufIsEmpty := false } }

end PgBouncer
