/-
Timeouts: where they are set, and the passes of the janitor that enforce them.

A timeout can be set for everybody, for a database or for a user.  `load_config` reads
the file one entry at a time and stops at the first it cannot use.  The parsers of the
database and user sections note in three flags that some database or some user has a
timeout of its own.  The maintenance passes look at the global settings and at these
flags to decide whether to walk through a list of connections at all.

Times are `usec_t`, an unsigned number of 64 bits, so a difference of two times wraps
around.  A connection string stands here as the list of its parameters, with the number
`atoi` makes of a value; parameters that have nothing to do with time are all `other`,
and one that makes the parser give up is `bad`.  The access rules that `load_config`
also reads are not part of this file, and running out of memory is not modelled.
-/
import PgBouncer.Proto
import Mathlib.Logic.Function.Basic

namespace PgBouncer.Maintenance

/-- `usec_t`. -/
abbrev Usec := UInt64

/-- `atoi(val) * USEC`. -/
def seconds (val : Int) : Usec := UInt64.ofInt val * 1000000

/-! ### Settings -/

/-- The global settings with their defaults. -/
structure Cf where
  clientIdleTimeout : Usec := 0
  queryTimeout : Usec := 0
  queryWaitTimeout : Usec := seconds 120
  cancelWaitTimeout : Usec := seconds 10
  clientLoginTimeout : Usec := seconds 60
  idleTransactionTimeout : Usec := 0
  transactionTimeout : Usec := 0
  serverConnectTimeout : Usec := seconds 15
  deriving DecidableEq

inductive CfKey
  | clientIdleTimeout | queryTimeout | queryWaitTimeout | cancelWaitTimeout
  | clientLoginTimeout | idleTransactionTimeout | transactionTimeout | serverConnectTimeout
  /-- A setting that is not a timeout. -/
  | other
  deriving DecidableEq

def Cf.set (cf : Cf) (val : Usec) : CfKey → Cf
  | .clientIdleTimeout => { cf with clientIdleTimeout := val }
  | .queryTimeout => { cf with queryTimeout := val }
  | .queryWaitTimeout => { cf with queryWaitTimeout := val }
  | .cancelWaitTimeout => { cf with cancelWaitTimeout := val }
  | .clientLoginTimeout => { cf with clientLoginTimeout := val }
  | .idleTransactionTimeout => { cf with idleTransactionTimeout := val }
  | .transactionTimeout => { cf with transactionTimeout := val }
  | .serverConnectTimeout => { cf with serverConnectTimeout := val }
  | .other => cf

/-- `PgGlobalUser`. -/
structure User where
  idleTransactionTimeout : Usec := 0
  transactionTimeout : Usec := 0
  queryTimeout : Usec := 0
  queryWaitTimeout : Usec := 0
  queryWaitTimeoutSet : Bool := false
  clientIdleTimeout : Usec := 0
  deriving DecidableEq

/-- `PgDatabase`. -/
structure Database where
  name : Bytes
  admin : Bool := false
  dbAuto : Bool := false
  dbDead : Bool := false
  queryWaitTimeout : Usec := 0
  queryWaitTimeoutSet : Bool := false
  deriving DecidableEq

/-- A `PgDatabase` on the list of peers. -/
structure Peer where
  peerId : Nat
  dbDead : Bool := false
  deriving DecidableEq

/-- What the parsers note for the passes. -/
structure Flags where
  anyUserLevelTimeoutSet : Bool := false
  anyUserLevelClientTimeoutSet : Bool := false
  anyDatabaseLevelClientTimeoutSet : Bool := false
  deriving DecidableEq

/-! ### Connections -/

/-- A client's `PgSocket`. -/
structure Client where
  id : Nat
  /-- The name of the global user behind `login_user_credentials`. -/
  loginUser : Option Bytes := none
  /-- The name of `client->db`. -/
  db : Bytes := []
  /-- `client->link` is not null. -/
  linked : Bool := false
  waitForWelcome : Bool := false
  connectTime : Usec := 0
  requestTime : Usec := 0
  queryStart : Usec := 0
  xactStart : Usec := 0
  deriving DecidableEq

/-- A server's `PgSocket`. -/
structure Server where
  id : Nat
  /-- The name of the global user behind `login_user_credentials`. -/
  loginUser : Bytes := []
  ready : Bool := false
  idleTx : Bool := false
  connectTime : Usec := 0
  requestTime : Usec := 0
  deriving DecidableEq

/-- `PgPool`.  A server on `active_server_list` stands there with the client it is linked
to. -/
structure Pool where
  /-- The name of `pool->db`. -/
  db : Bytes
  /-- The name of `pool->user_credentials`. -/
  user : Bytes := []
  activeClientList : List Client := []
  waitingClientList : List Client := []
  waitingCancelReqList : List Client := []
  activeServerList : List (Server × Client) := []
  newServerList : List Server := []
  welcomeMsgReady : Bool := false
  deriving DecidableEq

/-- `cf_shutdown`. -/
inductive Shutdown
  | none | waitForClients | waitForServers | immediate
  deriving DecidableEq

/-! ### The file -/

/-- A parameter of an entry of `[users]`. -/
inductive UserParam
  | transactionTimeout (val : Int)
  | idleTransactionTimeout (val : Int)
  | queryTimeout (val : Int)
  | queryWaitTimeout (val : Int)
  | clientIdleTimeout (val : Int)
  | other
  | bad
  deriving DecidableEq

/-- A parameter of an entry of `[databases]`. -/
inductive DbParam
  | queryWaitTimeout (val : Int)
  | other
  | bad
  deriving DecidableEq

/-- What the file is made of, as the handler sees it. -/
inductive Entry
  /-- `[pgbouncer]`. -/
  | mainSection
  /-- A line of that section; without a value if it cannot be parsed. -/
  | main (key : CfKey) (val : Option Usec)
  | database (name : Bytes) (params : List DbParam)
  | user (name : Bytes) (params : List UserParam)
  /-- Without a number if `parse_peer` refuses the line. -/
  | peer (peerId : Option Nat)
  deriving DecidableEq

structure World where
  cf : Cf := {}
  flags : Flags := {}
  /-- `user_list`; a user nobody has spoken of has the values of a fresh object. -/
  users : Bytes → User := fun _ => {}
  databaseList : List Database := []
  autodatabaseIdleList : List Database := []
  /-- `cf_autodb_connstr`. -/
  autodbConnstr : Option (List DbParam) := none
  peerList : List Peer := []
  poolList : List Pool := []
  /-- The peers the pools of `peer_pool_list` belong to. -/
  peerPoolList : List Nat := []
  shutdown : Shutdown := .none

/-! ### The parsers of the sections -/

/-- The loop of `parse_user` over the parameters. -/
def parseUserParams : List UserParam → User → Flags → Flags × Option User
  | [], user, flags => (flags, some user)
  | .transactionTimeout val :: ps, user, flags =>
    parseUserParams ps { user with transactionTimeout := seconds val }
      { flags with anyUserLevelTimeoutSet := true }
  | .idleTransactionTimeout val :: ps, user, flags =>
    parseUserParams ps { user with idleTransactionTimeout := seconds val }
      { flags with anyUserLevelTimeoutSet := true }
  | .queryTimeout val :: ps, user, flags =>
    parseUserParams ps { user with queryTimeout := seconds val }
      { flags with anyUserLevelTimeoutSet := true }
  | .queryWaitTimeout val :: ps, user, flags =>
    -- the flag of the server timeouts, though this is a client timeout
    parseUserParams ps { user with queryWaitTimeout := seconds val, queryWaitTimeoutSet := true }
      { flags with anyUserLevelTimeoutSet := true }
  | .clientIdleTimeout val :: ps, user, flags =>
    parseUserParams ps { user with clientIdleTimeout := seconds val }
      { flags with anyUserLevelClientTimeoutSet := true }
  | .other :: ps, user, flags => parseUserParams ps user flags
  | .bad :: _, _, flags => (flags, none)

variable (w : World)

/-- `parse_user`. -/
def World.parseUser (name : Bytes) (params : List UserParam) : World × Bool :=
  match parseUserParams params {} w.flags with
  | (flags, some user) => ({ w with flags, users := Function.update w.users name user }, true)
  | (flags, none) => ({ w with flags }, false)

/-- The loop of `parse_database` over the parameters: the flags, and `query_wait_timeout`
if it was set. -/
def parseDatabaseParams : List DbParam → Option Usec → Flags → Flags × Option (Option Usec)
  | [], wait, flags => (flags, some wait)
  | .queryWaitTimeout val :: ps, _, flags =>
    parseDatabaseParams ps (some (seconds val))
      { flags with anyDatabaseLevelClientTimeoutSet := true }
  | .other :: ps, wait, flags => parseDatabaseParams ps wait flags
  | .bad :: _, _, flags => (flags, none)

/-- `find_database`, which takes an idle database back into `database_list`. -/
def World.findDatabase (name : Bytes) : World × Option Database :=
  match w.databaseList.find? (·.name = name) with
  | some db => (w, some db)
  | none =>
    match w.autodatabaseIdleList.find? (·.name = name) with
    | some db =>
      ({ w with
          autodatabaseIdleList := w.autodatabaseIdleList.filter (·.name ≠ name)
          databaseList := db :: w.databaseList }, some db)
    | none => (w, none)

/-- `add_database`. -/
def World.addDatabase (name : Bytes) : World :=
  match w.findDatabase name with
  | (w, some _) => w
  | (w, none) => { w with databaseList := { name } :: w.databaseList }

/-- Write the fields of a database. -/
def World.setDatabase (name : Bytes) (f : Database → Database) : World :=
  { w with databaseList := w.databaseList.map fun db => if db.name = name then f db else db }

/-- `pgbouncer`, the name `check_reserved_database` refuses. -/
def reservedName : Bytes := [112, 103, 98, 111, 117, 110, 99, 101, 114]

/-- `*`, which stands for the databases that are not configured. -/
def autodbName : Bytes := [42]

/-- `parse_database`. -/
def World.parseDatabase (name : Bytes) (params : List DbParam) : World × Bool :=
  if name = reservedName then (w, false)
  else if name = autodbName then ({ w with autodbConnstr := some params }, true)
  else
    match parseDatabaseParams params none w.flags with
    | (flags, none) => ({ w with flags }, false)
    | (flags, some wait) =>
      let w := World.addDatabase { w with flags } name
      (w.setDatabase name fun db =>
        { db with
          dbDead := false
          dbAuto := false
          queryWaitTimeout := wait.getD 0
          queryWaitTimeoutSet := wait.isSome }, true)

/-- `parse_peer`. -/
def World.parsePeer : Option Nat → World × Bool
  | none => (w, false)
  | some peerId =>
    if w.peerList.any (·.peerId = peerId) then
      ({ w with
          peerList := w.peerList.map fun p =>
            if p.peerId = peerId then { p with dbDead := false } else p }, true)
    else ({ w with peerList := { peerId } :: w.peerList }, true)

/-- `load_handler`, with `fill_defaults` and `cf_set`. -/
def World.loadHandler : Entry → World × Bool
  | .mainSection => ({ w with cf := {} }, true)
  | .main key (some val) => ({ w with cf := w.cf.set val key }, true)
  | .main _ none => (w, false)
  | .database name params => w.parseDatabase name params
  | .user name params => w.parseUser name params
  | .peer peerId => w.parsePeer peerId

/-- `parse_ini_file`: the entries up to the first that is refused. -/
def World.parseIniFile (w : World) : List Entry → World × Bool
  | [] => (w, true)
  | e :: es =>
    match w.loadHandler e with
    | (w, true) => w.parseIniFile es
    | (w, false) => (w, false)

/-- `cf_load_file`; the file is `none` if it cannot be read. -/
def World.cfLoadFile : Option (List Entry) → World × Bool
  | none => (w, false)
  | some entries =>
    match w.parseIniFile entries with
    | (w, ok) => (w, ok && entries.contains .mainSection)

/-! ### `load_config` -/

/-- `set_dbs_dead`. -/
def World.setDbsDead (flag : Bool) : World :=
  { w with
    databaseList := w.databaseList.map fun db =>
      if db.admin || db.dbAuto then db else { db with dbDead := flag } }

/-- `set_peers_dead`. -/
def World.setPeersDead (flag : Bool) : World :=
  { w with peerList := w.peerList.map fun p => { p with dbDead := flag } }

/-- `kill_database`. -/
def World.killDatabase (db : Database) : World :=
  { w with
    poolList := w.poolList.filter (·.db ≠ db.name)
    databaseList := w.databaseList.filter (·.name ≠ db.name) }

/-- `kill_peer`. -/
def World.killPeer (peer : Peer) : World :=
  { w with
    peerPoolList := w.peerPoolList.filter (· ≠ peer.peerId)
    peerList := w.peerList.filter (·.peerId ≠ peer.peerId) }

/-- `config_postprocess`. -/
def World.configPostprocess : World :=
  let w := (w.databaseList.filter (·.dbDead)).foldl World.killDatabase w
  (w.peerList.filter (·.dbDead)).foldl World.killPeer w

/-- `load_config`, once a configuration has been loaded: only the first load dies when
the file cannot be used. -/
def World.loadConfig (file : Option (List Entry)) : World × Bool :=
  let w := World.setPeersDead (World.setDbsDead { w with flags := {} } true) true
  match w.cfLoadFile file with
  | (w, true) => (w.configPostprocess, true)
  | (w, false) => ((w.setDbsDead false).configPostprocess, false)

/-! ### `pool_client_maint` -/

/-- Why a pass closes a client. -/
inductive Reason
  | clientIdleTimeout | serverShuttingDown | queryTimeout | queryWaitTimeout
  | cancelWaitTimeout | clientLoginTimeout
  deriving DecidableEq

/-- The database behind `client->db`. -/
def World.database (name : Bytes) : Database :=
  ((w.databaseList ++ w.autodatabaseIdleList).find? (·.name = name)).getD { name }

/-- The global user of a client that has credentials. -/
def World.userOf (c : Client) : User := (c.loginUser.map w.users).getD {}

def World.effectiveClientIdleTimeout (c : Client) : Usec :=
  -- the credentials of an active client are followed without a test
  let user := w.userOf c
  if 0 < user.clientIdleTimeout then user.clientIdleTimeout else w.cf.clientIdleTimeout

def World.effectiveQueryWaitTimeout (c : Client) : Usec :=
  if (w.userOf c).queryWaitTimeoutSet then (w.userOf c).queryWaitTimeout
  else if (w.database c.db).queryWaitTimeoutSet then (w.database c.db).queryWaitTimeout
  else w.cf.queryWaitTimeout

/-- How long a client has been waiting. -/
def Client.waitAge (c : Client) (now : Usec) : Usec :=
  if c.queryStart = 0 then now - c.requestTime else now - c.queryStart

/-- The guard of the loop over `active_client_list`. -/
def World.idleGuard : Bool :=
  0 < w.cf.clientIdleTimeout || w.flags.anyUserLevelClientTimeoutSet

/-- A turn of that loop. -/
def World.idleVerdict (now : Usec) (c : Client) : Option Reason :=
  if c.linked then none
  else if w.effectiveClientIdleTimeout c < now - c.requestTime then some .clientIdleTimeout
  else none

/-- The guard of the loop over `waiting_client_list`. -/
def World.waitGuard : Bool :=
  0 < w.cf.queryTimeout || 0 < w.cf.queryWaitTimeout ||
    w.flags.anyUserLevelClientTimeoutSet || w.flags.anyDatabaseLevelClientTimeoutSet

/-- A turn of that loop. -/
def World.waitVerdict (now : Usec) (c : Client) : Option Reason :=
  let age := c.waitAge now
  let effective := w.effectiveQueryWaitTimeout c
  if w.shutdown = .waitForServers then some .serverShuttingDown
  else if 0 < w.cf.queryTimeout && w.cf.queryTimeout < age then some .queryTimeout
  else if 0 < effective && effective < age then some .queryWaitTimeout
  else none

def World.cancelVerdict (now : Usec) (c : Client) : Option Reason :=
  if w.cf.cancelWaitTimeout < now - c.requestTime then some .cancelWaitTimeout else none

def World.loginVerdict (now : Usec) (c : Client) : Option Reason :=
  if c.waitForWelcome && w.cf.clientLoginTimeout < now - c.connectTime then
    some .clientLoginTimeout
  else none

/-- A loop over a list of clients that closes some. -/
def closeSome (guard : Bool) (verdict : Client → Option Reason) (clients : List Client) :
    List (Client × Reason) :=
  if guard then clients.filterMap fun c => (verdict c).map (c, ·) else []

/-- `pool_client_maint`: whom the pass closes, and why. -/
def World.poolClientMaint (now : Usec) (pool : Pool) : List (Client × Reason) :=
  let idle := closeSome w.idleGuard (w.idleVerdict now) pool.activeClientList
  let waited := closeSome w.waitGuard (w.waitVerdict now) pool.waitingClientList
  let cancels :=
    closeSome (0 < w.cf.cancelWaitTimeout) (w.cancelVerdict now) pool.waitingCancelReqList
  let stillWaiting := pool.waitingClientList.filter fun c => !(waited.map (·.1)).contains c
  let logins :=
    closeSome (0 < w.cf.clientLoginTimeout && !pool.welcomeMsgReady) (w.loginVerdict now)
      stillWaiting
  idle ++ waited ++ cancels ++ logins

/-! ### `pool_server_maint` -/

/-- Why a pass closes a server. -/
inductive ServerReason
  | queryTimeout | idleTransactionTimeout | transactionTimeout | connectTimeout
  deriving DecidableEq

/-- The value of a user where it is positive, the global one otherwise. -/
def overriding (own global : Usec) : Usec := if 0 < own then own else global

def World.effectiveQueryTimeout (server : Server) : Usec :=
  overriding (w.users server.loginUser).queryTimeout w.cf.queryTimeout

def World.effectiveIdleTransactionTimeout (server : Server) : Usec :=
  overriding (w.users server.loginUser).idleTransactionTimeout w.cf.idleTransactionTimeout

def World.effectiveTransactionTimeout (server : Server) : Usec :=
  overriding (w.users server.loginUser).transactionTimeout w.cf.transactionTimeout

/-- The guard of the loop over `active_server_list`. -/
def World.serverGuard : Bool :=
  0 < w.cf.queryTimeout || 0 < w.cf.idleTransactionTimeout || 0 < w.cf.transactionTimeout ||
    w.flags.anyUserLevelTimeoutSet

/-- How long the query of a client has been running, if one is. -/
def Client.queryAge (c : Client) (now : Usec) : Usec :=
  if c.queryStart ≠ 0 then now - c.queryStart else 0

/-- A turn of that loop, for a server and the client it is linked to. -/
def World.serverVerdict (now : Usec) (server : Server) (link : Client) : Option ServerReason :=
  if server.ready then none
  else
    let ageQuery := link.queryAge now
    let ageServer := now - server.requestTime
    let ageTransaction := now - link.xactStart
    if 0 < w.effectiveQueryTimeout server && 0 < ageQuery &&
        w.effectiveQueryTimeout server < ageQuery then some .queryTimeout
    else if 0 < w.effectiveIdleTransactionTimeout server && server.idleTx &&
        w.effectiveIdleTransactionTimeout server < ageServer then some .idleTransactionTimeout
    else if 0 < w.effectiveTransactionTimeout server &&
        w.effectiveTransactionTimeout server < ageTransaction then some .transactionTimeout
    else none

/-- The loops of `pool_server_maint` over the servers that work and those that log in. -/
def World.poolServerMaint (now : Usec) (pool : Pool) : List (Server × ServerReason) :=
  let active :=
    if w.serverGuard then
      pool.activeServerList.filterMap fun (server, link) =>
        (w.serverVerdict now server link).map (server, ·)
    else []
  let logins :=
    if 0 < w.cf.serverConnectTimeout then
      pool.newServerList.filterMap fun server =>
        if w.cf.serverConnectTimeout < now - server.connectTime then
          some (server, .connectTimeout)
        else none
    else []
  active ++ logins

end PgBouncer.Maintenance
