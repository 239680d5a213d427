/-
The records `handle_client_work` and `handle_server_work` read and write.

A `PgSocket` is used for both sides of a link in the source; here the fields a
client uses and the fields a server uses are two records.  Pointers to a
`PgPreparedStatement` or a `PgServerPreparedStatement` are represented by the
`query_id` both carry, and the two hash tables by the lists that uthash threads
through them in insertion order.  `Link` is what one handler call can touch: a
client, the server it is linked to, the global statement table, and the packets
the call hands to the two stream buffers.
-/
import PgBouncer.Proto

namespace PgBouncer

/-- `connection_pool_mode`. -/
inductive PoolMode
  | session | transaction | statement
  deriving DecidableEq

/-- The settings the packet handlers read. -/
structure Config where
  /-- `cf_max_prepared_statements`; zero switches the statement support off. -/
  maxPreparedStatements : Nat
  poolMode : PoolMode := .transaction
  /-- `cf_disable_pqexec`. -/
  disablePqexec : Bool := false
  /-- `cf_server_reset_query` is not empty. -/
  serverResetQuery : Bool := false
  /-- `cf_server_reset_query_always`. -/
  serverResetQueryAlways : Bool := false
  deriving DecidableEq

/-- `is_prepared_statements_enabled`. -/
def Config.isPreparedStatementsEnabled (cfg : Config) : Bool :=
  cfg.poolMode != .session && cfg.maxPreparedStatements != 0

/-- Whether `release_server` resets a server before it may be used again. -/
def Config.resetOnRelease (cfg : Config) : Bool :=
  cfg.serverResetQuery && (cfg.serverResetQueryAlways || cfg.poolMode == .session)

/-- What to do with the response to a request. -/
inductive ResponseAction
  /-- Forward the response that is received from the server. -/
  | forward
  /-- Drop it: the client did not initiate the request. -/
  | skip
  /-- The request was not sent; generate its response at this spot. -/
  | fake
  deriving DecidableEq

structure OutstandingRequest where
  type : ReqType
  action : ResponseAction
  /-- The statement a Close of pgbouncer's own removes from the server. -/
  serverPs : Option QueryId := none
  /-- The statement a Parse registers on the server; zero if it registers none. -/
  serverPsQueryId : QueryId := 0
  deriving DecidableEq

/-- One entry of the global, deduplicated statement table. -/
structure PgPreparedStatement where
  queryId : QueryId
  /-- A `uint32_t`: the model is exact while fewer than `2 ^ 32` entries and requests point
  at one statement. -/
  useCount : Nat
  queryAndParameters : Bytes
  deriving DecidableEq

/-- One entry of a client's map from its own statement names. -/
structure PgClientPreparedStatement where
  stmtName : Bytes
  ps : QueryId
  deriving DecidableEq

/-- The global table `prepared_statements` and the counter that numbers it. -/
structure Statements where
  preparedStatements : List PgPreparedStatement := []
  /-- A `uint64_t`, which counts the statements ever created; fewer than `2 ^ 64`. -/
  nextUniqueQueryId : Nat := 0
  deriving DecidableEq

structure Client where
  /-- In a copy-in stream, expecting CopyData, CopyDone or CopyFail. -/
  copyMode : Bool := false
  clientPreparedStatements : List PgClientPreparedStatement := []
  deriving DecidableEq

structure Server where
  /-- Accepts a new query. -/
  ready : Bool := true
  idleTx : Bool := false
  /-- Running the `SET` of `varcache_apply`; its replies stay here. -/
  settingVars : Bool := false
  /-- In a copy stream, ignores Sync packets until CopyDone or CopyFail. -/
  copyMode : Bool := false
  /-- Received an ErrorResponse, waiting for ReadyForQuery. -/
  queryFailed : Bool := false
  outstandingRequests : List OutstandingRequest := []
  /-- The statement cache, least recently used first. -/
  serverPreparedStatements : List QueryId := []
  /-- `sbuf.extra_packets`: packets queued behind the current one. -/
  extraPackets : List ServerMsg := []
  /-- `sbuf_is_empty(&server->sbuf)`. -/
  sbufIsEmpty : Bool := true
  deriving DecidableEq

/-- A message written to a client, with where it came from. -/
inductive ToClient
  | forwarded (m : ServerMsg)
  | generated (m : ServerMsg)
  deriving DecidableEq

/-- A client and the server it is linked to, as one handler call sees them. -/
structure Link where
  client : Client := {}
  server : Server := {}
  stmts : Statements := {}
  /-- Packets handed to the client's stream buffer for the server. -/
  toServer : List (Pkt StmtRef) := []
  /-- Messages written to the client. -/
  toClient : List ToClient := []
  deriving DecidableEq

/-- A handler's order to close a connection, with the reason it gives. -/
inductive Disconnect
  | client (reason : String)
  | server (reason : String)
  deriving DecidableEq

end PgBouncer
