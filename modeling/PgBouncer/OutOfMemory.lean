/-
The statement handlers of `prepare.c` when memory runs out.

The other files take it that every allocation succeeds.  Here one of them fails: an entry
cannot be made or cannot be put into its hash table, an outstanding request cannot be made,
or there is no room to queue a packet.  Each handler gives up where it is, with the
tables as they are by then, frees the entries it has in hand, and closes the connections.
It may have put these entries into a table already.  Such a table points to freed memory
from then on, which `dangling` keeps track of: the tables are emptied only when the main
loop frees the two sockets.

An allocation that does not happen on the way of a packet has no effect when it fails;
then the handlers are those of `Prepare.lean`.
-/
import PgBouncer.Pool

namespace PgBouncer

/-- The allocations of the statement handlers. -/
inductive Alloc
  /-- `create_prepared_statement`. -/
  | preparedStatement
  /-- `HASH_ADD` to the global table. -/
  | addPrepared
  /-- `create_client_prepared_statement`. -/
  | clientStatement
  /-- `HASH_ADD_STR` to the map of the client. -/
  | addClient
  /-- The outstanding Parse that is answered by pgbouncer, or its answer. -/
  | fakeParse
  /-- The Parse to the server, as a packet and as an outstanding request. -/
  | parsePacket
  | parseRequest
  /-- `create_server_prepared_statement`. -/
  | serverStatement
  /-- `HASH_ADD` to the cache of the server. -/
  | addServer
  /-- The Close of the statement that is evicted as number `n`. -/
  | closePacket (n : Nat)
  | closeRequest (n : Nat)
  /-- The client's own Bind, Describe or Close. -/
  | request
  | packet
  deriving DecidableEq

/-- A pointer to memory that has been freed. -/
inductive Dangling
  /-- In the map of the client, under a name. -/
  | clientMap (name : Bytes)
  /-- In the cache of the server, under an id. -/
  | serverCache (id : QueryId)
  deriving DecidableEq

/-- What a handler leaves. -/
structure Aftermath where
  link : Link
  /-- The allocation was on the way of the packet. -/
  failed : Bool
  dangling : List Dangling := []
  disconnect : Option Disconnect := none
  deriving DecidableEq

namespace OutOfMemory

/-- The result of a handler that does not run out of memory. -/
def done (r : Link × Option Disconnect) : Aftermath :=
  { link := r.1, failed := false, disconnect := r.2 }

variable (fail : Alloc) (cfg : Config) (l : Link)

/-- The label `oom` of `handle_parse_command`: `client_ps` and `server_ps` are freed if they
are not null.  Bind and Describe end like this with neither. -/
def oom (clientPs : Option Bytes) (serverPs : Option QueryId) : Aftermath where
  link := { l with stmts := freeServerPreparedStatement l.stmts serverPs }
  failed := true
  dangling :=
    ((clientPs.filter fun name => (l.client.find? name).isSome).map .clientMap).toList ++
      ((serverPs.filter fun id => l.server.serverPreparedStatements.contains id).map
        .serverCache).toList
  disconnect := some (.client "out of memory")

/-- A handler that only returns false. -/
def giveUp : Aftermath := { link := l, failed := true }

/-- Where a function has failed, with `server_ps` if it is there by then. -/
structure Broken where
  link : Link
  serverPs : Option QueryId := none

/-- The loop of `register_prepared_statement`, from the eviction number `n` on. -/
def evictLoop (maxStatements : Nat) : Nat → List QueryId → Link → Except Link Link
  | _, [], l => .ok l
  | n, current :: rest, l =>
    if l.server.serverPreparedStatements.length ≤ maxStatements then .ok l
    else if fail = .closePacket n then .error l
    else if fail = .closeRequest n then
      .error { l with toServer := l.toServer ++ [.close .statement (.pgbouncer current)] }
    else evictLoop maxStatements (n + 1) rest (evictStatement l current)

/-- Tie a statement to the Parse request queued last. -/
def tieRequest (id : QueryId) : Link :=
  { l with server := { l.server with
      outstandingRequests :=
        l.server.outstandingRequests.modifyLast fun r => { r with serverPsQueryId := id } } }

/-- `add_prepared_statement`. -/
def addToCache (id : QueryId) : Link :=
  { l with server := { l.server with
      serverPreparedStatements := addPreparedStatement l.server.serverPreparedStatements id } }

/-- `register_prepared_statement`. -/
def registerPreparedStatement (id : QueryId) : Except Link Link :=
  let l := tieRequest l id
  if fail = .addServer then .error l
  else
    let l := addToCache l id
    evictLoop fail cfg.maxPreparedStatements 0 l.server.serverPreparedStatements l

/-- Make the entry for the server and register it. -/
def registerNew (id : QueryId) : Except Broken Link :=
  if fail = .serverStatement then .error { link := l }
  else
    match registerPreparedStatement fail cfg { l with stmts := l.stmts.incUseCount id } id with
    | .error l => .error { link := l, serverPs := some id }
    | .ok l => .ok l

/-- Queue a Parse for the server. -/
def queueParse (ps : PgPreparedStatement) : Link :=
  { l with toServer := l.toServer ++ [.parse (.pgbouncer ps.queryId) ps.queryAndParameters] }

/-- Track a Parse for the server. -/
def trackParse (action : ResponseAction) : Link :=
  { l with server := addOutstandingRequest l.server .parse action }

/-- The Parse that `handle_parse_command` sends. -/
def sendParse (ps : PgPreparedStatement) : Except Broken Link :=
  if fail = .parsePacket then .error { link := l }
  else
    let l := queueParse l ps
    if fail = .parseRequest then .error { link := l }
    else registerNew fail cfg (trackParse l .forward) ps.queryId

/-- `handle_parse_command`. -/
def handleParseCommand (name query : Bytes) : Aftermath :=
  match l.client.find? name with
  | some _ => done (l, some (.client "prepared statement name is already in use"))
  | none =>
    let (ps, found, stmts) := getPreparedStatement l.stmts query
    if !found ∧ fail = .preparedStatement then oom l none none
    else if !found ∧ fail = .addPrepared then
      -- The id has been given out by then.
      oom { l with stmts := { l.stmts with
        nextUniqueQueryId := l.stmts.nextUniqueQueryId + 1 } } none none
    else if fail = .clientStatement then oom { l with stmts := stmts } none none
    else if fail = .addClient then
      oom { l with stmts := stmts.incUseCount ps.queryId } (some name) none
    else
      let l := createClientPreparedStatement { l with stmts := stmts } name ps.queryId
      if found && l.server.serverPreparedStatements.contains ps.queryId then
        if fail = .fakeParse then oom l (some name) (some ps.queryId)
        else done ({ l with server := addOutstandingRequest l.server .parse .fake }, none)
      else
        match sendParse fail cfg l ps with
        | .error b => oom b.link (some name) b.serverPs
        | .ok l => done (l, none)

/-- `ensure_statement_is_prepared_on_server`, which frees `server_ps` itself. -/
def ensureStatementIsPreparedOnServer (ps : PgPreparedStatement) : Except Broken Link :=
  if ps.queryId ∈ l.server.serverPreparedStatements then
    .ok (PgBouncer.ensureStatementIsPreparedOnServer cfg l ps)
  else if fail = .parseRequest then .error { link := l }
  else
    let l := trackParse l .skip
    if fail = .parsePacket then .error { link := l }
    else registerNew fail cfg (queueParse l ps) ps.queryId

/-- `handle_bind_command`, and `handle_describe_command`, which does not disconnect anyone
when its packet cannot be queued. -/
def useStatement (name : Bytes) (type : ReqType) (pkt : StmtRef → Pkt StmtRef) : Aftermath :=
  match getClientPreparedStatement l name with
  | none => done (l, some (.client "prepared statement did not exist"))
  | some ps =>
    match ensureStatementIsPreparedOnServer fail cfg l ps with
    | .error b => oom b.link none b.serverPs
    | .ok l =>
      if fail = .request then oom l none none
      else
        let l := { l with server := addOutstandingRequest l.server type .forward }
        if fail = .packet then
          if type = .describe then giveUp l else oom l none none
        else done ({ l with toServer := l.toServer ++ [pkt (.pgbouncer ps.queryId)] }, none)

/-- `handle_close_statement_command` of a linked client.  A direct answer needs no memory. -/
def handleCloseStatementCommand (name : Bytes) : Aftermath :=
  let (c, g) := forgetStatement l.client l.stmts name
  let forgotten := { l with client := c, stmts := g }
  if !nothingInFlightToClient l.server ∧ fail = .request then giveUp forgotten
  else done (PgBouncer.handleCloseStatementCommand l name, none)

/-- `handle_client_work` of a packet that names a statement. -/
def handleClientWork (p : Pkt Bytes) : Aftermath :=
  match p with
  | .parse name query =>
    if psAction cfg p then handleParseCommand fail cfg (tagDirty l) name query
    else done (PgBouncer.handleClientWork cfg l p)
  | .bind portal name =>
    if psAction cfg p then useStatement fail cfg (tagDirty l) name .bind (.bind portal)
    else done (PgBouncer.handleClientWork cfg l p)
  | .describe .statement name =>
    if psAction cfg p then
      useStatement fail cfg (tagDirty l) name .describe (.describe .statement)
    else done (PgBouncer.handleClientWork cfg l p)
  | .close .statement name =>
    if psAction cfg p then handleCloseStatementCommand fail l name
    else done (PgBouncer.handleClientWork cfg l p)
  | _ => done (PgBouncer.handleClientWork cfg l p)

end OutOfMemory

namespace Pool

/-- A client's packet that meets a failing allocation, and what is left dangling. -/
def clientPacketOom (fail : Alloc) (cfg : Config) (P : Pool) (c s : Nat) (cs : ClientSock)
    (sv : ServerSock) (p : Pkt Bytes) (body : Nat) (expired : Bool) : Pool × Aftermath :=
  let r := OutOfMemory.handleClientWork fail cfg (P.linkOf cs sv) p
  ((P.putLink c s r.link body).obey cfg c s expired r.disconnect, r)

end Pool

end PgBouncer
