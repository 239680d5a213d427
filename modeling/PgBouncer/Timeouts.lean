/-
Whom the timeouts of the janitor hit.

`pool_server_maint` closes a server that is in use over the time its client's query or
transaction has taken, or over the time it has been idle in a transaction.  It reads
these times off two fields of the client, `query_start` and `xact_start`, and three
fields of the server, `ready`, `idle_tx` and `request_time`.  The handlers of packets
keep the fields, and this file follows one client through its life with them: its login,
perhaps with a query for its password, the packets it sends, the servers it is linked to,
and the messages they send.  As a server is linked to at most one client, nothing that
another client does matters, but for the statements they share.

Beside the fields stands what they are about, a `Dialogue`: which requests of the client
have not been answered, when its transaction began, and since when its server has been
idle in a transaction.  How many requests a ReadyForQuery is the end of is up to the
backend, which may skip some after an error or while it copies, so the event says it.

A request counts from the moment it is received, also if it has to wait for a server.
-/
import PgBouncer.ClientWork
import PgBouncer.Lib.Run
import PgBouncer.Maintenance

namespace PgBouncer.Timeouts

open Maintenance (Usec ServerReason)

/-! ### What is really going on -/

structure Dialogue where
  /-- When the requests were made that have not been answered, oldest first. -/
  unanswered : List Usec := []
  /-- When the first request of the current transaction was made. -/
  xactSince : Option Usec := none
  /-- Since when the linked server has been idle in a transaction. -/
  idleTxSince : Option Usec := none
  deriving DecidableEq

namespace Dialogue

/-- The client makes a request. -/
def request (d : Dialogue) (now : Usec) : Dialogue where
  unanswered := d.unanswered ++ [now]
  xactSince := d.xactSince.or (some now)
  idleTxSince := none

/-- The client is given a server that is not in a transaction. -/
def link (d : Dialogue) : Dialogue :=
  { d with idleTxSince := none }

/-- A message of the server, `own` if it is about a query of pgbouncer's own.  A
ReadyForQuery is the end of the first `answered` requests of the client. -/
def reply (d : Dialogue) (now : Usec) (own : Bool) (answered : Nat) : ServerMsg → Dialogue
  | .readyForQuery state =>
    let rest := if own then d.unanswered else d.unanswered.drop answered
    match state with
    | .idle =>
      { unanswered := rest
        xactSince := if own then d.xactSince else rest.head?
        idleTxSince := none }
    | _ =>
      { d with
        unanswered := rest
        idleTxSince := if own || rest.isEmpty then some now else none }
  | _ => d

end Dialogue

/-! ### One client -/

structure World where
  /-- The settings the janitor reads. -/
  settings : Maintenance.World := {}
  /-- `get_cached_time()`. -/
  now : Usec := 1
  /-- `CL_ACTIVE`, and not `CL_LOGIN`. -/
  active : Bool := false
  /-- `client->link` is not null. -/
  linked : Bool := false
  /-- The client, and the server if it is linked to one. -/
  link : Link := {}
  /-- The global user behind the server's `login_user_credentials`. -/
  loginUser : Bytes := []
  /-- `request_time` of the server. -/
  requestTime : Usec := 0
  /-- `resetting` of the server. -/
  resetting : Bool := false
  queryStart : Usec := 0
  xactStart : Usec := 0
  /-- The packet that waits for a server. -/
  pending : Option (Pkt Bytes) := none
  dialogue : Dialogue := {}

inductive Event
  /-- The clock is read. -/
  | time (now : Usec)
  | reload (settings : Maintenance.World)
  /-- Other clients change the shared statements. -/
  | others (stmts : Statements)
  /-- A server of the user that may read passwords is asked for the client's. -/
  | startAuthQuery (server : Server) (loginUser : Bytes) (requestTime : Usec)
  | loginDone
  /-- A replication client gets the server that was opened for it. -/
  | replication (server : Server) (loginUser : Bytes) (requestTime : Usec)
  | packet (p : Pkt Bytes)
  /-- A server is found for the packet that waits; `varchange` if `varcache_apply` has
  sent it a query first. -/
  | link (server : Server) (loginUser : Bytes) (requestTime : Usec) (varchange : Bool)
  /-- The client's variables have been set, and the packet goes on its way. -/
  | varsSet
  /-- The first part of a message has been received. -/
  | arriving
  | reply (m : ServerMsg) (answered : Nat)
  | release

/-- A server on `idle_server_list` that `find_server` takes. -/
def isIdle (server : Server) : Bool :=
  server.ready && !server.idleTx && !server.settingVars && server.outstandingRequests.isEmpty

/-- The packets `handle_client_work` answers by closing the connection. -/
def isRefused (cfg : Config) : Pkt Bytes → Bool
  | .terminate | .unknown => true
  | .query => cfg.disablePqexec
  | _ => false

/-- `is_close_named_statement_packet`, where statements are supported. -/
def isNamedClose (cfg : Config) : Pkt Bytes → Bool
  | .close .statement name => psAction cfg (.close .statement name)
  | _ => false

/-- A packet that asks something of the server. -/
def isRequest (p : Pkt Bytes) : Bool := trackOutstanding false p.type

namespace World

variable (cfg : Config) (w : World)

/-- The client and a server are linked. -/
def setLink (server : Server) (loginUser : Bytes) (requestTime : Usec) : World :=
  { w with
    linked := true
    link := { w.link with server := server }
    loginUser := loginUser
    requestTime := requestTime
    resetting := false
    dialogue := w.dialogue.link }

/-! ### `handle_client_work` -/

/-- The part of `handle_client_work` that sets `query_start` and `xact_start`. -/
def startTimers (p : Pkt Bytes) : World :=
  let queryStart := if w.queryStart = 0 then w.now else w.queryStart
  { w with
    queryStart := queryStart
    xactStart := if w.xactStart = 0 then queryStart else w.xactStart
    dialogue := if isRequest p then w.dialogue.request w.now else w.dialogue }

/-- The part behind `find_server`, and the whole of it for a Close that names a
statement. -/
def work (p : Pkt Bytes) : Option World :=
  match handleClientWork cfg w.link p with
  | (l, none) => some { w with link := l, pending := none }
  | (_, some _) => none

/-- `handle_client_work`. -/
def packet (p : Pkt Bytes) : Option World :=
  if !w.active || w.pending.isSome || isRefused cfg p then none
  else if w.linked then
    if isNamedClose cfg p then w.work cfg p else (w.startTimers p).work cfg p
  else
    match handleUnlinkedClientWork cfg w.link.client w.link.stmts p with
    | some (client, stmts, answers) =>
      some { w with
        link := { w.link with
          client := client
          stmts := stmts
          toClient := w.link.toClient ++ answers } }
    | none => some { w.startTimers p with pending := some p }

/-! ### `handle_server_work` -/

/-- The messages `handle_auth_query_response` goes on after. -/
def goesOnAfter : ServerMsg → Bool
  | .rowDescription | .noData | .dataRow | .noticeResponse | .commandComplete _ | .parseComplete
  | .bindComplete | .parameterStatus | .readyForQuery _ => true
  | _ => false

/-- `handle_server_work` while a client logs in. -/
def authQueryReply (m : ServerMsg) (answered : Nat) : Option World :=
  let h := serverSwitch cfg w.link.server (some w.link.client) w.link.stmts m
  if h.disconnect.isSome || !goesOnAfter m then none
  else
    some { w with
      link := { w.link with
        server := h.server
        client := h.client.getD w.link.client
        stmts := h.stmts }
      requestTime := w.now
      resetting := w.resetting || (match m with | .readyForQuery _ => true | _ => false)
      dialogue := w.dialogue.reply w.now true answered m }

/-- `handle_server_work` with a client that has logged in, with the computation of query
and transaction times. -/
def workReply (m : ServerMsg) (answered : Nat) : Option World :=
  let l := flushExtraPackets w.link
  let h := serverSwitch cfg l.server (some l.client) l.stmts m
  let timed := !h.server.settingVars && !h.ignorePacket && h.server.outstandingRequests.isEmpty
  match processServerPacket cfg w.link m with
  | (l, none) =>
    some { w with
      link := l
      requestTime := w.now
      queryStart := if timed && (h.server.ready || h.server.idleTx) then 0 else w.queryStart
      xactStart := if timed && h.server.ready then 0 else w.xactStart
      dialogue := w.dialogue.reply w.now h.server.settingVars answered m }
  | (_, some _) => none

def reply (m : ServerMsg) (answered : Nat) : Option World :=
  if !w.linked then none
  else if w.active then w.workReply cfg m answered
  else w.authQueryReply cfg m answered

/-! ### Runs -/

/-- Whether `SBUF_EV_FLUSH` gives the server back. -/
def releases : Bool :=
  w.linked && w.link.server.ready && !w.link.server.settingVars &&
    (cfg.poolMode ≠ .session || w.resetting) &&
    w.link.server.outstandingRequests.isEmpty && !w.link.client.copyMode

/-- One event; `none` if it cannot happen or if it closes the client or its server. -/
def step : Event → Option World
  | .time now => some { w with now := now }
  | .reload settings => some { w with settings := settings }
  | .others stmts => some { w with link := { w.link with stmts := stmts } }
  | .startAuthQuery server loginUser requestTime =>
    if !w.active && !w.linked && isIdle server then
      some (w.setLink (addOutstandingRequest { server with ready := false } .sync .skip)
        loginUser requestTime)
    else none
  | .loginDone =>
    -- the client goes on behind the last answer to the query for its password, before
    -- that server is given back
    if !w.active &&
        (!w.linked || w.link.server.ready && w.link.server.outstandingRequests.isEmpty) then
      some { w with active := true }
    else none
  | .replication server loginUser requestTime =>
    if w.active && !w.linked && w.pending.isNone && isIdle server then
      some (w.setLink server loginUser requestTime)
    else none
  | .packet p => w.packet cfg p
  | .link server loginUser requestTime varchange =>
    match w.pending with
    | none => none
    | some p =>
      if w.linked || !isIdle server then none
      else if varchange then
        some (w.setLink { server with settingVars := true, ready := false } loginUser
          requestTime)
      else (w.setLink server loginUser requestTime).work cfg p
  | .varsSet =>
    match w.pending with
    | none => none
    | some p =>
      if w.linked && w.link.server.settingVars && w.link.server.ready then
        work cfg { w with
          link := { w.link with server := { w.link.server with settingVars := false } } } p
      else none
  | .arriving =>
    if w.linked then some { w with link := w.link.partialPacket, requestTime := w.now } else none
  | .reply m answered => w.reply cfg m answered
  | .release =>
    if w.releases cfg then some { w with linked := false, resetting := false } else none

def run (es : List Event) : Option World := Run.exec (step cfg) {} es

/-! ### The janitor -/

/-- The server as the janitor sees it. -/
def serverSocket : Maintenance.Server where
  id := 0
  loginUser := w.loginUser
  ready := w.link.server.ready
  idleTx := w.link.server.idleTx
  requestTime := w.requestTime

/-- The client as the janitor sees it. -/
def clientSocket : Maintenance.Client where
  id := 0
  linked := w.linked
  queryStart := w.queryStart
  xactStart := w.xactStart

/-- Why `pool_server_maint` closes the server, if it does. -/
def closes : Option ServerReason :=
  if w.linked && w.settings.serverGuard then
    w.settings.serverVerdict w.now w.serverSocket w.clientSocket
  else none

end World

end PgBouncer.Timeouts
