/-
The packet half of `prepare.c`: what becomes of a Parse, Bind, Describe or Close
that names a statement.

A Parse is mapped to a shared `PGBOUNCER_n` statement and forwarded under that
name, or answered by pgbouncer when the server has the statement already.  Bind
and Describe are rewritten to the shared name, after a Parse of pgbouncer's own if
the server does not have it.  Registering a statement may evict others, each by a
Close of pgbouncer's own.  A Close of the client only forgets the client's name.
-/
import PgBouncer.Requests

namespace PgBouncer

variable (cfg : Config) (l : Link)

/-- Evict one statement: queue a Close for it and move the cache entry to that
outstanding request, so that it can be put back if the Close fails. -/
def evictStatement (current : QueryId) : Link :=
  let sv := addOutstandingRequest l.server .close .skip
  { l with
    toServer := l.toServer ++ [.close .statement (.pgbouncer current)]
    server := { sv with
      outstandingRequests :=
        sv.outstandingRequests.modifyLast fun r => { r with serverPs := some current }
      serverPreparedStatements := sv.serverPreparedStatements.erase current } }

/-- The `HASH_ITER` loop of `register_prepared_statement`, over the cache entries in
order of last use. -/
def evictLoop (maxStatements : Nat) : List QueryId → Link → Link
  | [], l => l
  | current :: rest, l =>
    if l.server.serverPreparedStatements.length ≤ maxStatements then l
    else evictLoop maxStatements rest (evictStatement l current)

/-- `register_prepared_statement`: tie the statement to the Parse request queued
last, add it to the cache, and shrink the cache to the configured size. -/
def registerPreparedStatement (id : QueryId) : Link :=
  let sv := { l.server with
    outstandingRequests :=
      l.server.outstandingRequests.modifyLast fun r => { r with serverPsQueryId := id }
    serverPreparedStatements := addPreparedStatement l.server.serverPreparedStatements id }
  evictLoop cfg.maxPreparedStatements sv.serverPreparedStatements { l with server := sv }

/-- Send a Parse for a shared statement and register it on the server. -/
def sendParse (ps : PgPreparedStatement) (action : ResponseAction) : Link :=
  registerPreparedStatement cfg
    { l with
      toServer := l.toServer ++ [.parse (.pgbouncer ps.queryId) ps.queryAndParameters]
      server := addOutstandingRequest l.server .parse action
      stmts := l.stmts.incUseCount ps.queryId } ps.queryId

/-- `handle_parse_command`. -/
def handleParseCommand (name query : Bytes) : Link × Option Disconnect :=
  match l.client.find? name with
  | some _ => (l, some (.client "prepared statement name is already in use"))
  | none =>
    let (ps, found, stmts) := getPreparedStatement l.stmts query
    let l := createClientPreparedStatement { l with stmts := stmts } name ps.queryId
    if found && l.server.serverPreparedStatements.contains ps.queryId then
      ({ l with server := addOutstandingRequest l.server .parse .fake }, none)
    else (sendParse cfg l ps .forward, none)

/-- `ensure_statement_is_prepared_on_server`: a statement the server has moves to the
recently used end of the cache, any other is prepared first. -/
def ensureStatementIsPreparedOnServer (ps : PgPreparedStatement) : Link :=
  if ps.queryId ∈ l.server.serverPreparedStatements then
    if l.server.serverPreparedStatements.length ≠ 1 then
      { l with server := { l.server with
          serverPreparedStatements :=
            eraseLast l.server.serverPreparedStatements ps.queryId ++ [ps.queryId] } }
    else l
  else sendParse cfg l ps .skip

/-- The shared statement behind a client's entry: the pointer `client_ps->ps`. -/
def Link.deref (e : PgClientPreparedStatement) : PgPreparedStatement :=
  (l.stmts.preparedStatements.find? (·.queryId = e.ps)).getD
    { queryId := e.ps, useCount := 0, queryAndParameters := [] }

/-- `get_client_prepared_statement`. -/
def getClientPreparedStatement (name : Bytes) : Option PgPreparedStatement :=
  (l.client.find? name).map l.deref

/-- Rewrite a packet that uses a statement: prepare the statement, track the request
and send the packet under the statement's shared name. -/
def useStatement (name : Bytes) (type : ReqType)
    (pkt : StmtRef → Pkt StmtRef) : Link × Option Disconnect :=
  match getClientPreparedStatement l name with
  | none => (l, some (.client "prepared statement did not exist"))
  | some ps =>
    let l := ensureStatementIsPreparedOnServer cfg l ps
    ({ l with
      server := addOutstandingRequest l.server type .forward
      toServer := l.toServer ++ [pkt (.pgbouncer ps.queryId)] }, none)

/-- `handle_bind_command`. -/
def handleBindCommand (portal name : Bytes) : Link × Option Disconnect :=
  useStatement cfg l name .bind (.bind portal)

/-- `handle_describe_command`. -/
def handleDescribeCommand (name : Bytes) : Link × Option Disconnect :=
  useStatement cfg l name .describe (.describe .statement)

/-- `nothing_in_flight_to_client`. -/
def nothingInFlightToClient (sv : Server) : Bool :=
  sv.outstandingRequests.isEmpty && sv.extraPackets.isEmpty && sv.sbufIsEmpty

/-- The first half of `handle_close_statement_command`: forget the client's name. -/
def forgetStatement (c : Client) (g : Statements) (name : Bytes) : Client × Statements :=
  match c.find? name with
  | none => (c, g)
  | some e =>
    ({ c with clientPreparedStatements := c.clientPreparedStatements.erase e },
      g.decUseCount e.ps)

/-- `handle_close_statement_command` of a linked client. -/
def handleCloseStatementCommand (name : Bytes) : Link :=
  let (c, g) := forgetStatement l.client l.stmts name
  let l := { l with client := c, stmts := g }
  if nothingInFlightToClient l.server then
    { l with toClient := l.toClient ++ [.generated .closeComplete] }
  else { l with server := addOutstandingRequest l.server .close .fake }

end PgBouncer
