/-
How many server connections there may be.

`launch_new_connection` is the one place that opens a connection to a server, and
`disconnect_server` the one place that closes it.  Both keep a count for the database and
one for the global user of the pool, and the limits are tested against these counts and
against the lengths of the pool's lists.  If a limit is in the way, connections that are
not in use are closed first, in loops that go on until there is room or nothing is left
to close.

The settings are a parameter, as they do not change in what follows.  A pool has a list
for each state of its servers; what a server is doing does not matter here, so servers
move between the lists as they like.  What the clients of a pool are doing is an event
too, and only the fields that `launch_new_connection` reads are kept of them.

The sizes are natural numbers: `-1` in a database or a user means that the setting is not
there, and the janitor asserts that the size of a pool is not negative.
-/
import PgBouncer.Lib.Run
import PgBouncer.Lib.While
import Mathlib.Algebra.GroupWithZero.Nat
import Mathlib.Logic.Function.Iterate

namespace PgBouncer.ServerLimits

/-! ### Settings -/

/-- The settings of a `PgDatabase`. -/
structure Database where
  /-- Not zero for a peer. -/
  peerId : Nat := 0
  poolSize : Option Nat := none
  resPoolSize : Option Nat := none
  maxDbConnections : Int := 0

/-- The settings of a `PgGlobalUser`. -/
structure GlobalUser where
  poolSize : Option Nat := none
  resPoolSize : Option Nat := none
  maxUserConnections : Int := 0

structure Config where
  database : Nat → Database := fun _ => {}
  user : Nat → GlobalUser := fun _ => {}
  /-- `global_user` of a `PgCredentials`. -/
  globalUser : Nat → Nat := id
  cfDefaultPoolSize : Nat := 20
  cfResPoolSize : Nat := 0
  cfResPoolTimeout : UInt64 := 5000000
  cfMaxDbConnections : Int := 0
  cfMaxUserConnections : Int := 0
  cfServerLoginRetry : UInt64 := 15000000

/-! ### Pools -/

/-- The states of a server that is open; each has its list in the pool. -/
inductive ServerState
  | login | idle | used | tested | active | activeCancel | beingCanceled
  deriving DecidableEq

structure Server where
  requestTime : UInt64 := 0
  deriving DecidableEq

/-- A client on `waiting_client_list`. -/
structure WaitingClient where
  requestTime : UInt64
  replication : Bool := false
  sendingAuthQuery : Bool := false
  deriving DecidableEq

/-- `PgPool`. -/
structure Pool where
  db : Nat
  /-- `NULL` for the pool of a peer. -/
  userCredentials : Option Nat
  list : ServerState → List Server := fun _ => []
  waitingClientList : List WaitingClient := []
  /-- The length of `waiting_cancel_req_list`. -/
  waitingCancelReq : Nat := 0
  welcomeMsgReady : Bool := false
  lastConnectFailed : Bool := false
  lastConnectTime : UInt64 := 0

namespace Pool

def count (pool : Pool) (state : ServerState) : Nat := (pool.list state).length

/-- `pool_connected_server_count`. -/
def poolConnectedServerCount (pool : Pool) : Nat :=
  pool.count .active + pool.count .beingCanceled + pool.count .idle + pool.count .tested +
    pool.count .used

/-- `pool_server_count`. -/
def poolServerCount (pool : Pool) : Nat :=
  pool.poolConnectedServerCount + pool.count .login + pool.count .activeCancel

def globalUser (cfg : Config) (pool : Pool) : Option Nat := pool.userCredentials.map cfg.globalUser

/-- `pool_pool_size`. -/
def poolPoolSize (cfg : Config) (pool : Pool) : Nat :=
  match (pool.globalUser cfg).bind fun u => (cfg.user u).poolSize with
  | some size => size
  | none => (cfg.database pool.db).poolSize.getD cfg.cfDefaultPoolSize

/-- `pool_res_pool_size`. -/
def poolResPoolSize (cfg : Config) (pool : Pool) : Nat :=
  match (pool.globalUser cfg).bind fun u => (cfg.user u).resPoolSize with
  | some size => size
  | none => (cfg.database pool.db).resPoolSize.getD cfg.cfResPoolSize

def setList (pool : Pool) (state : ServerState) (l : List Server) : Pool :=
  { pool with list := Function.update pool.list state l }

/-- Where `change_server_state` puts a server.  `front` is about idle ones: they go to the
end with `server_round_robin` or if they have to be closed. -/
def put (pool : Pool) (state : ServerState) (front : Bool) (s : Server) : Pool :=
  pool.setList state <|
    match state with
    | .used => s :: pool.list .used
    | .idle => if front then s :: pool.list .idle else pool.list .idle ++ [s]
    | state => pool.list state ++ [s]

end Pool

/-- `database_max_connections`. -/
def databaseMaxConnections (cfg : Config) (d : Nat) : Int :=
  if (cfg.database d).maxDbConnections ≤ 0 then cfg.cfMaxDbConnections
  else (cfg.database d).maxDbConnections

/-- `user_max_connections`. -/
def userMaxConnections (cfg : Config) (u : Nat) : Int :=
  if (cfg.user u).maxUserConnections ≤ 0 then cfg.cfMaxUserConnections
  else (cfg.user u).maxUserConnections

/-! ### The world -/

structure World where
  pool : Nat → Pool := fun _ => { db := 0, userCredentials := none }
  poolList : List Nat := []
  peerPoolList : List Nat := []
  /-- `connection_count` of a `PgDatabase`. -/
  dbCount : Nat → Int := fun _ => 0
  /-- `connection_count` of a `PgGlobalUser`. -/
  userCount : Nat → Int := fun _ => 0

namespace World

variable (cfg : Config) (w : World)

def setPool (p : Nat) (pool : Pool) : World :=
  { w with pool := Function.update w.pool p pool }

/-- Both counts of a pool. -/
def addCounts (p : Nat) (n : Int) : World :=
  { w with
    dbCount := Function.update w.dbCount (w.pool p).db (w.dbCount (w.pool p).db + n)
    userCount :=
      match (w.pool p).globalUser cfg with
      | none => w.userCount
      | some u => Function.update w.userCount u (w.userCount u + n) }

/-- `disconnect_server` for a server of a list.  `ready` is read of one that is still
connecting. -/
def disconnectServer (p : Nat) (state : ServerState) (i : Nat) (ready : Bool) : World :=
  if i < (w.pool p).count state then
    let pool := if state = .login then { w.pool p with lastConnectFailed := !ready } else w.pool p
    (w.addCounts cfg p (-1)).setPool p (pool.setList state ((pool.list state).eraseIdx i))
  else w

/-! ### Eviction -/

/-- A server that may be evicted: the last one of a list. -/
structure Candidate where
  pool : Nat
  state : ServerState
  requestTime : UInt64
  deriving DecidableEq

/-- `last_socket`. -/
def lastSocket (p : Nat) (state : ServerState) : Option Candidate :=
  ((w.pool p).list state).getLast?.map fun s => ⟨p, state, s.requestTime⟩

/-- `compare_connections_by_time`. -/
def compareConnectionsByTime : Option Candidate → Option Candidate → Option Candidate
  | none, rhs => rhs
  | lhs, none => lhs
  | some lhs, some rhs => if lhs.requestTime < rhs.requestTime then some lhs else some rhs

/-- A turn of the loops over all pools. -/
def older (oldest : Option Candidate) (p : Nat) : Option Candidate :=
  let oldest := compareConnectionsByTime oldest (w.lastSocket p .idle)
  -- only evict testing connections if nobody's waiting
  if (w.pool p).waitingClientList.isEmpty then
    let oldest := compareConnectionsByTime oldest (w.lastSocket p .used)
    compareConnectionsByTime oldest (w.lastSocket p .tested)
  else oldest

/-- The server that the loop over some of the pools finds. -/
def oldestConnection (which : Nat → Bool) : Option Candidate :=
  (w.poolList.filter which).foldl w.older none

def evict (c : Candidate) : World :=
  w.disconnectServer cfg c.pool c.state ((w.pool c.pool).count c.state - 1) false

/-- `evict_connection`. -/
def evictConnection (d : Nat) (w : World) : Option World :=
  (w.oldestConnection fun p => (w.pool p).db = d).map (w.evict cfg)

/-- `evict_user_connection`. -/
def evictUserConnection (credentials : Option Nat) (w : World) : Option World :=
  (w.oldestConnection fun p => (w.pool p).userCredentials = credentials).map (w.evict cfg)

/-- `evict_pool_connection`. -/
def evictPoolConnection (p : Nat) (w : World) : Option World :=
  (compareConnectionsByTime none (w.lastSocket p .idle)).map (w.evict cfg)

/-! ### Opening a connection -/

variable (now : UInt64) (evictIfNeeded : Bool) (fuel p : Nat)

/-- The label `force_new`: the connection is opened. -/
def forceNew (p : Nat) (w : World) : World :=
  let pool := { w.pool p with lastConnectTime := now }
  (w.addCounts cfg p 1).setPool p (pool.setList .login (pool.list .login ++ [({} : Server)]))

/-- The limit of the user. -/
def checkUser (w : World) : Option World :=
  match (w.pool p).globalUser cfg with
  | none => some (w.forceNew cfg now p)
  | some u =>
    let max := userMaxConnections cfg u
    if 0 < max then
      (While.run (fun w => evictIfNeeded && max ≤ w.userCount u)
        (evictUserConnection cfg (w.pool p).userCredentials) fuel w).map fun w =>
          if max ≤ w.userCount u then w else w.forceNew cfg now p
    else some (w.forceNew cfg now p)

/-- The label `allow_new`: the limits of the database and of the user. -/
def allowNew (w : World) : Option World :=
  let d := (w.pool p).db
  let max := databaseMaxConnections cfg d
  if 0 < max then
    (While.run (fun w => evictIfNeeded && max ≤ w.dbCount d) (evictConnection cfg d) fuel w).bind
      fun w => if max ≤ w.dbCount d then some w else w.checkUser cfg now evictIfNeeded fuel p
  else w.checkUser cfg now evictIfNeeded fuel p

/-- The reserve pool may be used. -/
def reserveAllowed (pool : Pool) : Bool :=
  cfg.cfResPoolTimeout ≠ 0 && pool.poolResPoolSize cfg ≠ 0 &&
    match pool.waitingClientList with
    | [] => false
    | c :: _ =>
      cfg.cfResPoolTimeout ≤ now - c.requestTime &&
        pool.poolServerCount < pool.poolPoolSize cfg + pool.poolResPoolSize cfg

/-- The first waiting client wants a replication connection. -/
def wantsReplication (pool : Pool) : Bool :=
  match pool.waitingClientList with
  | [] => false
  | c :: _ => c.replication && !c.sendingAuthQuery

/-- A pool that is full. -/
def poolFull (w : World) : Option World :=
  let size := (w.pool p).poolPoolSize cfg
  if reserveAllowed cfg now (w.pool p) then w.allowNew cfg now evictIfNeeded fuel p
  else if wantsReplication (w.pool p) then
    (While.run (fun w => evictIfNeeded && size ≤ (w.pool p).poolServerCount)
      (evictPoolConnection cfg p) fuel w).bind fun w =>
        if (w.pool p).poolServerCount < size then w.allowNew cfg now evictIfNeeded fuel p
        else some w
  else some w

/-- `launch_new_connection`.  `fuel` bounds the turns of each eviction loop; `none` if it
is not enough. -/
def launchNewConnection (w : World) : Option World :=
  let pool := w.pool p
  let size := pool.poolPoolSize cfg
  -- allow only a single connection attempt at a time
  if pool.list .login ≠ [] then some w
  -- if server bounces, don't retry too fast
  else if pool.lastConnectFailed && now - pool.lastConnectTime < cfg.cfServerLoginRetry then some w
  else if (cfg.database pool.db).peerId ≠ 0 then
    if pool.poolServerCount < size then some (w.forceNew cfg now p) else some w
  else if pool.waitingCancelReq ≠ 0 && pool.poolServerCount < 2 * size then
    some (w.forceNew cfg now p)
  else if 0 < size && size ≤ pool.poolServerCount && pool.welcomeMsgReady then
    w.poolFull cfg now evictIfNeeded fuel p
  else w.allowNew cfg now evictIfNeeded fuel p

/-! ### What can happen -/

/-- `close_server_list`. -/
def closeServerList (p : Nat) (w : World) (state : ServerState) : World :=
  (fun w => w.disconnectServer cfg p state 0 false)^[(w.pool p).count state] w

/-- `kill_pool`. -/
def killPool (p : Nat) : World :=
  let w := [ServerState.active, .activeCancel, .beingCanceled, .idle, .used, .tested, .login].foldl
    (closeServerList cfg p) w
  { w with poolList := w.poolList.filter (· ≠ p) }

/-- `kill_peer_pool`, which looks at two lists. -/
def killPeerPool (p : Nat) : World :=
  let w := [ServerState.activeCancel, .login].foldl (closeServerList cfg p) w
  { w with peerPoolList := w.peerPoolList.filter (· ≠ p) }

/-- All servers that are open. -/
def openCount : Nat :=
  ((w.poolList ++ w.peerPoolList).map fun p => (w.pool p).poolServerCount).sum

inductive Event
  | launchNewConnection (p : Nat) (now : UInt64) (evictIfNeeded : Bool)
  | disconnectServer (p : Nat) (state : ServerState) (i : Nat) (ready : Bool)
  /-- `change_server_state`, with what else happens to the server. -/
  | changeServerState (p : Nat) (state : ServerState) (i : Nat) (newstate : ServerState)
      (front : Bool) (requestTime : UInt64)
  /-- What the clients of a pool are doing. -/
  | clients (p : Nat) (waiting : List WaitingClient) (cancels : Nat)
  | welcome (p : Nat) (ready : Bool)
  /-- `new_pool`. -/
  | newPool (p d credentials : Nat)
  /-- `new_peer_pool`. -/
  | newPeerPool (p d : Nat)
  | killPool (p : Nat)
  | killPeerPool (p : Nat)
  deriving DecidableEq

def has (p : Nat) : Bool := w.poolList.contains p || w.peerPoolList.contains p

/-- One event.  It is impossible for a pool that is not there, and a new pool is one that
is not.  The pool of a peer only sends cancel requests. -/
def step : Event → Option World
  | .launchNewConnection p now evictIfNeeded =>
    if w.has p then w.launchNewConnection cfg now evictIfNeeded (w.openCount + 1) p else none
  | .disconnectServer p state i ready =>
    if w.has p then some (w.disconnectServer cfg p state i ready) else none
  | .changeServerState p state i newstate front requestTime =>
    if w.has p && newstate ≠ .login && (w.poolList.contains p || newstate = .activeCancel) &&
        i < (w.pool p).count state then
      let pool := (w.pool p).setList state (((w.pool p).list state).eraseIdx i)
      -- a login that succeeds ends in `release_server`
      let failed := pool.lastConnectFailed && (state ≠ .login || newstate = .activeCancel)
      some (w.setPool p
        { pool.put newstate front { requestTime } with lastConnectFailed := failed })
    else none
  | .clients p waiting cancels =>
    if w.has p then
      some (w.setPool p
        { w.pool p with waitingClientList := waiting, waitingCancelReq := cancels })
    else none
  | .welcome p ready =>
    if w.has p then some (w.setPool p { w.pool p with welcomeMsgReady := ready }) else none
  | .newPool p d credentials =>
    if !w.has p && (cfg.database d).peerId = 0 then
      some { w.setPool p { db := d, userCredentials := some credentials } with
        poolList := p :: w.poolList }
    else none
  | .newPeerPool p d =>
    if !w.has p && (cfg.database d).peerId ≠ 0 then
      some { w.setPool p { db := d, userCredentials := none } with
        peerPoolList := p :: w.peerPoolList }
    else none
  | .killPool p => if w.poolList.contains p then some (w.killPool cfg p) else none
  | .killPeerPool p => if w.peerPoolList.contains p then some (w.killPeerPool cfg p) else none

def run : World → List Event → Option World := Run.exec (step cfg)

end World

end PgBouncer.ServerLimits
