/-
A pool at run time: its clients, its servers, and everything that can happen to
them.

The links between clients and servers, the decisions when a server goes back to
the pool and when it is closed instead, and the two ways a connection ends are
those of `objects.c`, `server.c` and `client.c`.  Sockets are found by their index
and never renumbered; a closed one stays in its list, first as `justFree` and,
once the main loop has come round to it, as `free`.

Bytes matter in one place only.  A client's packet is decided on when its header
has arrived, and its remaining bytes follow as they come in and as the server's
socket takes them.  So a client socket carries the bytes it still has to write,
and `dst`, the server its stream buffer writes to.  Which of the idle servers a
client gets, when a server outlives its lifetime, and when a partial packet or an
error is seen on a socket are events from outside.
-/
import PgBouncer.ClientWork

namespace PgBouncer

/-- One byte on its way to a server: of which packet, sent on whose behalf, and
where in the packet it stands. -/
structure WireByte where
  /-- The client the packet came from; `none` for a query of pgbouncer's own. -/
  sender : Option Nat
  pkt : Pkt StmtRef
  index : Nat
  body : Nat
  deriving DecidableEq

/-- The bytes of a packet: the header and `body` more. -/
def packetBytes (sender : Option Nat) (pkt : Pkt StmtRef) (body : Nat) : List WireByte :=
  (List.range (body + 1)).map fun i => { sender, pkt, index := i, body }

/-- A packet decided on, with the number of bytes behind its header. -/
structure SentPkt where
  sender : Option Nat
  pkt : Pkt StmtRef
  body : Nat
  deriving DecidableEq

def SentPkt.bytes (p : SentPkt) : List WireByte :=
  packetBytes p.sender p.pkt p.body

inductive ClientState
  | active | justFree | free
  deriving DecidableEq

inductive ServerState
  | idle | active | tested | justFree | free
  deriving DecidableEq

structure ClientSock where
  client : Client := {}
  state : ClientState := .active
  link : Option Nat := none
  /-- `sbuf.dst`, the server the stream buffer writes to. -/
  dst : Option Nat := none
  /-- Bytes of packets decided on that have not been written yet. -/
  unsent : List WireByte := []
  received : List ToClient := []
  deriving DecidableEq

structure ServerSock where
  server : Server := {}
  state : ServerState := .idle
  link : Option Nat := none
  /-- `SBUF_EV_FLUSH` is due: a packet was processed since the last one. -/
  flushDue : Bool := false
  /-- The packets decided on for this server, in order. -/
  sent : List SentPkt := []
  /-- The bytes written to this server, in order. -/
  wire : List WireByte := []
  deriving DecidableEq

def ServerSock.isOpen (s : ServerSock) : Bool :=
  s.state != .justFree && s.state != .free

structure Pool where
  clients : List ClientSock := []
  servers : List ServerSock := []
  stmts : Statements := {}
  deriving DecidableEq

namespace Pool

variable (cfg : Config) (P : Pool)

def modifyClient (c : Nat) (f : ClientSock → ClientSock) : Pool :=
  { P with clients := P.clients.modify c f }

def modifyServer (s : Nat) (f : ServerSock → ServerSock) : Pool :=
  { P with servers := P.servers.modify s f }

/-- Clear `client->link` and `server->link`. -/
def unlink (c s : Nat) : Pool :=
  (P.modifyClient c fun cs => { cs with link := none }).modifyServer s
    fun sv => { sv with link := none }

/-- The end of `disconnect_client`, for a client without a link. -/
def closeClient (c : Nat) : Pool :=
  P.modifyClient c fun cs => { cs with state := .justFree }

/-- The end of `disconnect_server`, for a server without a link. -/
def closeServer (s : Nat) : Pool :=
  P.modifyServer s fun sv => { sv with state := .justFree }

/-- Send a query of pgbouncer's own to a server. -/
def sendOwnQuery (sv : ServerSock) : ServerSock :=
  { sv with
    sent := sv.sent ++ [{ sender := none, pkt := .query, body := 0 }]
    wire := sv.wire ++ packetBytes none .query 0 }

/-- `release_server` behind the point where the link is gone.  `expired` says whether
the lifetime has run out or a close was requested. -/
def settleServer (sv : ServerSock) (expired : Bool) : ServerSock :=
  let sv := { sv with flushDue := false }
  if expired then { sv with state := .justFree }
  else if sv.server.outstandingRequests ≠ [] then { sv with state := .justFree }
  else if cfg.resetOnRelease && sv.state == .active then
    sendOwnQuery { sv with state := .tested }
  else { sv with state := .idle }

/-- `release_server`. -/
def releaseServer (s : Nat) (expired : Bool) : Pool :=
  let P :=
    match (P.servers[s]?).bind (·.link) with
    | some c =>
      (P.modifyClient c fun cs => { cs with client := { cs.client with copyMode := false } }).unlink
        c s
    | none => P
  P.modifyServer s fun sv => settleServer cfg sv expired

/-- `disconnect_server`. -/
def disconnectServer (s : Nat) : Pool :=
  match (P.servers[s]?).bind (·.link) with
  | some c => ((P.unlink c s).closeServer s).closeClient c
  | none => P.closeServer s

/-- Whether `disconnect_client` has to close the server as well. -/
def mustCloseServer (sv : Server) : Bool :=
  !sv.ready || !sv.outstandingRequests.isEmpty || !sv.sbufIsEmpty

/-- `disconnect_client`. -/
def disconnectClient (c : Nat) (expired : Bool) : Pool :=
  let P :=
    match (P.clients[c]?).bind (·.link) with
    | none => P
    | some s =>
      match P.servers[s]? with
      | none => P
      | some sv =>
        if mustCloseServer sv.server then (P.unlink c s).closeServer s
        else P.releaseServer cfg s expired
  P.closeClient c

/-- The two ends of a link as the packet handlers see them. -/
def linkOf (cs : ClientSock) (sv : ServerSock) : Link :=
  { client := cs.client, server := sv.server, stmts := P.stmts }

/-- Store the result of a packet handler.  What it sent is `body` bytes a packet. -/
def putLink (c s : Nat) (l : Link) (body : Nat) : Pool :=
  let sent := l.toServer.map fun pkt => { sender := some c, pkt, body }
  { P with
    stmts := l.stmts
    clients := P.clients.modify c fun cs =>
      { cs with
        client := l.client
        dst := if l.toServer.isEmpty then cs.dst else some s
        unsent := cs.unsent ++ sent.flatMap SentPkt.bytes
        received := cs.received ++ l.toClient }
    servers := P.servers.modify s fun sv =>
      { sv with server := l.server, sent := sv.sent ++ sent } }

/-- Carry out a handler's order to close a connection. -/
def obey (c s : Nat) (expired : Bool) : Option Disconnect → Pool
  | none => P
  | some (.client _) => P.disconnectClient cfg c expired
  | some (.server _) => P.disconnectServer s

end Pool

/-- What can happen in a pool. -/
inductive PoolEvent
  /-- A client has logged in. -/
  | accept
  /-- A server connection has been made. -/
  | connect
  /-- `find_server` gives an idle server to a client, changing variables if needed. -/
  | link (c s : Nat) (varchange : Bool)
  /-- A packet of a client is decided on; `body` more bytes belong to it. -/
  | clientPacket (c : Nat) (p : Pkt Bytes) (body : Nat) (expired : Bool)
  /-- One more byte of a client's packets is written. -/
  | send (c : Nat)
  /-- A packet of a server is processed. -/
  | serverPacket (s : Nat) (m : ServerMsg)
  /-- Part of a packet of a server has been received. -/
  | partialPacket (s : Nat)
  /-- `SBUF_EV_FLUSH` on a server. -/
  | flush (s : Nat) (expired : Bool)
  /-- `launch_recheck` tests an idle server with the check query. -/
  | check (s : Nat)
  | disconnectClient (c : Nat) (expired : Bool)
  | disconnectServer (s : Nat)
  /-- The main loop frees a closed client or server. -/
  | freeClient (c : Nat)
  | freeServer (s : Nat)
  deriving DecidableEq

namespace Pool

variable (cfg : Config) (P : Pool)

/-- `find_server`. -/
def findServer (c s : Nat) (varchange : Bool) : Option Pool :=
  match P.clients[c]?, P.servers[s]? with
  | some cs, some sv =>
    if cs.state = .active ∧ cs.link = none ∧ sv.state = .idle ∧ sv.server.ready then
      some ((P.modifyClient c fun cs => { cs with link := some s }).modifyServer s fun sv =>
        let sv := { sv with link := some c, state := .active, flushDue := false }
        if varchange then
          sendOwnQuery
            { sv with server := { sv.server with settingVars := true, ready := false } }
        else sv)
    else none
  | _, _ => none

/-- A packet of a client that is not linked to a server.  Packets that need a server
wait for `find_server`. -/
def unlinkedPacket (c : Nat) (cs : ClientSock) (p : Pkt Bytes) (expired : Bool) : Option Pool :=
  if p.type = .terminate ∨ p.type = .unknown ∨ (p.type = .query ∧ cfg.disablePqexec) then
    some (P.disconnectClient cfg c expired)
  else
    (handleUnlinkedClientWork cfg cs.client P.stmts p).map fun r =>
      { P.modifyClient c fun cs =>
          { cs with client := r.1, received := cs.received ++ r.2.2 } with stmts := r.2.1 }

/-- A packet of a client.  While the variables of its server are being set, the client
is paused. -/
def clientPacket (c : Nat) (p : Pkt Bytes) (body : Nat) (expired : Bool) : Option Pool :=
  match P.clients[c]? with
  | none => none
  | some cs =>
    if cs.state ≠ .active then none
    else
      match cs.link with
      | none => P.unlinkedPacket cfg c cs p expired
      | some s =>
        match P.servers[s]? with
        | none => none
        | some sv =>
          if sv.server.settingVars then none
          else
            let r := handleClientWork cfg (P.linkOf cs sv) p
            some ((P.putLink c s r.1 body).obey cfg c s expired r.2)

/-- Write one byte of a client's packets to the server its buffer points at. -/
def send (c : Nat) : Option Pool :=
  match P.clients[c]? with
  | none => none
  | some cs =>
    match cs.unsent, cs.dst with
    | b :: rest, some s =>
      match P.servers[s]? with
      | none => none
      | some sv =>
        if cs.state = .active ∧ sv.isOpen then
          some ((P.modifyClient c fun cs => { cs with unsent := rest }).modifyServer s
            fun sv => { sv with wire := sv.wire ++ [b] })
        else none
    | _, _ => none

/-- A packet of a server without a link: it is looked at and skipped. -/
def unlinkedServerPacket (s : Nat) (sv : ServerSock) (m : ServerMsg) : Pool :=
  let h := serverSwitch cfg sv.server none P.stmts m
  let P' := { P.modifyServer s fun sv => { sv with server := h.server } with stmts := h.stmts }
  if h.disconnect.isSome then P'.disconnectServer s else P'

/-- A packet of a server. -/
def serverPacket (s : Nat) (m : ServerMsg) : Option Pool :=
  match P.servers[s]? with
  | none => none
  | some sv =>
    if !sv.isOpen then none
    else
      let sv := { sv with server := { sv.server with sbufIsEmpty := true }, flushDue := true }
      let P := P.modifyServer s fun _ => sv
      match sv.link with
      | none => some (P.unlinkedServerPacket cfg s sv m)
      | some c =>
        match P.clients[c]? with
        | none => none
        | some cs =>
          let r := processServerPacket cfg (P.linkOf cs sv) m
          some ((P.putLink c s r.1 0).obey cfg c s false r.2)

/-- `SBUF_EV_FLUSH` of `server_proto`. -/
def flush (s : Nat) (expired : Bool) : Option Pool :=
  match P.servers[s]? with
  | none => none
  | some sv =>
    if !sv.isOpen || !sv.flushDue || !sv.server.sbufIsEmpty then none
    else
      let P := P.modifyServer s fun sv => { sv with flushDue := false }
      if !sv.server.ready then some P
      else if sv.server.settingVars then
        some (P.modifyServer s fun sv =>
          { sv with server := { sv.server with settingVars := false } })
      else if sv.state = .idle then some P
      else if cfg.poolMode = .session ∧ sv.state ≠ .tested then some P
      else
        match sv.link with
        | none => some (P.releaseServer cfg s expired)
        | some c =>
          if sv.server.outstandingRequests ≠ [] then some P
          else if ((P.clients[c]?).map (·.client.copyMode)) = some true then some P
          else some (P.releaseServer cfg s expired)

/-- `launch_recheck` of an idle server that needs a check. -/
def check (s : Nat) : Option Pool :=
  match P.servers[s]? with
  | some sv =>
    if sv.state = .idle ∧ sv.server.ready then
      some (P.modifyServer s fun sv => sendOwnQuery { sv with state := .tested, flushDue := false })
    else none
  | none => none

/-- `client_free`. -/
def freeClient (c : Nat) : Option Pool :=
  match P.clients[c]? with
  | some cs =>
    if cs.state = .justFree then
      some { P.modifyClient c fun cs =>
          { cs with state := .free, client := { cs.client with clientPreparedStatements := [] } }
        with stmts := freeClientPreparedStatements cs.client.clientPreparedStatements P.stmts }
    else none
  | none => none

/-- `server_free`. -/
def freeServer (s : Nat) : Option Pool :=
  match P.servers[s]? with
  | some sv =>
    if sv.state = .justFree then
      let g := freeServerPreparedStatements (requestRefs sv.server.outstandingRequests) P.stmts
      some { P.modifyServer s fun sv =>
          { sv with state := .free, server := { sv.server with
            outstandingRequests := [], serverPreparedStatements := [] } }
        with stmts := freeServerPreparedStatements sv.server.serverPreparedStatements g }
    else none
  | none => none

/-- One event; `none` if it cannot happen in this state. -/
def step : PoolEvent → Option Pool
  | .accept => some { P with clients := P.clients ++ [{}] }
  | .connect => some { P with servers := P.servers ++ [{}] }
  | .link c s varchange => P.findServer c s varchange
  | .clientPacket c p body expired => P.clientPacket cfg c p body expired
  | .send c => P.send c
  | .serverPacket s m => P.serverPacket cfg s m
  | .partialPacket s =>
    match P.servers[s]? with
    | some sv =>
      if sv.isOpen then
        some (P.modifyServer s fun sv =>
          { sv with server := { sv.server with sbufIsEmpty := false } })
      else none
    | none => none
  | .flush s expired => P.flush cfg s expired
  | .check s => P.check s
  | .disconnectClient c expired =>
    match P.clients[c]? with
    | some cs => if cs.state = .active then some (P.disconnectClient cfg c expired) else none
    | none => none
  | .disconnectServer s =>
    match P.servers[s]? with
    | some sv => if sv.isOpen then some (P.disconnectServer s) else none
    | none => none
  | .freeClient c => P.freeClient c
  | .freeServer s => P.freeServer s

/-- An event, with the configuration there is then. -/
def stepWith (e : Config × PoolEvent) : Option Pool := P.step e.1 e.2

end Pool

end PgBouncer
