/-
How many clients a database and a user may have.

A client is counted twice during its login: for its database, and for the global user of
the credentials it logs in with.  Two flags remember this, and `disconnect_client` takes the
client off both counts by looking at the flags, at the database and at the credentials that
the client has then.  `set_pool` calls the two checks, in an order of its own for each
authentication method; and if an auth_query has to wait for a server, it calls them again.

Only this side of a login is followed here, from the startup packet up to `CL_ACTIVE`; the
packets, the passwords and the messages are in `PgBouncer.Auth.Login`.  What comes between
`finish_set_pool` and `finish_client_login` is left to chance.  Clients are numbered, and no
number is used twice.  The configuration does not change, but users may be added at any time.
A dereference of a null pointer and a `fatal()` end the process: `died`.
-/
import PgBouncer.Auth.Login
import PgBouncer.Lib.Run

namespace PgBouncer.ClientLimits

/-- `PgCredentials`, as far as counting needs it. -/
structure LoginUser where
  name : Bytes
  globalUser : Option Bytes
  mockAuth : Bool := false
  deriving DecidableEq

/-- A pointer to a `PgDatabase`.  A database that is made up belongs to one client. -/
inductive Db
  | real (db : PgDatabase)
  | fake (client : Nat) (name : Bytes)
  deriving DecidableEq

/-- `admin` of a `PgDatabase`. -/
def Db.admin : Db → Bool
  | .real db => db.admin
  | .fake _ _ => false

def Db.name : Db → Bytes
  | .real db => db.name
  | .fake _ name => name

def Db.isFake : Db → Bool
  | .real _ => false
  | .fake _ _ => true

inductive State
  | login | active | closed
  deriving DecidableEq

/-- A startup packet. -/
structure Startup where
  dbname : Bytes
  username : Bytes
  /-- The packet has come over TLS. -/
  tls : Bool := false
  deriving DecidableEq

/-- `PgSocket` of a client. -/
structure Client where
  state : State := .login
  connection : Connection := { remoteAddr := .unix }
  db : Option Db := none
  loginUser : Option LoginUser := none
  contributesDbClientCount : Bool := false
  userConnectionCounted : Bool := false
  adminUser : Bool := false
  ownUser : Bool := false
  waitForUserConn : Bool := false
  waitForUser : Bool := false
  startupMessageReceived : Bool := false
  /-- The socket is not read. -/
  paused : Bool := false
  /-- The packet that has to be handled again. -/
  pending : Option Startup := none
  /-- The user its startup packet names; nothing looks at it later. -/
  startupUser : Bytes := []

/-- The settings that are only about counting. -/
structure Limits where
  /-- `forced_user_credentials` of a database. -/
  forcedUser : Bytes → LoginUser
  /-- `max_db_client_connections` of a database. -/
  maxDbClientConnections : Bytes → Int := fun _ => 0
  /-- `cf_max_db_client_connections`. -/
  cfMaxDbClientConnections : Int := 0
  /-- `max_user_client_connections` of a user. -/
  maxUserClientConnections : Bytes → Int := fun _ => 0
  /-- `cf_max_user_client_connections`. -/
  cfMaxUserClientConnections : Int := 0

namespace Limits

/-- `database_max_client_connections`. -/
def databaseMaxClientConnections (lim : Limits) : Db → Int
  | .real db =>
    if lim.maxDbClientConnections db.name ≤ 0 then lim.cfMaxDbClientConnections
    else lim.maxDbClientConnections db.name
  | .fake _ _ => lim.cfMaxDbClientConnections

/-- `user_client_max_connections`. -/
def userClientMaxConnections (lim : Limits) (user : Bytes) : Int :=
  if lim.maxUserClientConnections user ≤ 0 then lim.cfMaxUserClientConnections
  else lim.maxUserClientConnections user

end Limits

/-- `client->db->admin && strlist_contains(cf_admin_users, …)`. -/
def isAdmin (cfg : AuthConfig) (db : Db) (user : LoginUser) : Bool :=
  db.admin && cfg.isAdminUser user.name

/-- What a handler works on: one client, and what all clients share. -/
structure Ctx where
  slot : Nat
  client : Client
  /-- The global users, and whether their password has to be fetched: `dynamic_passwd`. -/
  users : Bytes → Option Bool
  /-- The databases whose `auth_user_credentials` were filled in from `auth_user`. -/
  dbAuthUser : List Db
  /-- `client_connection_count` of a `PgDatabase`. -/
  dbCount : Db → Int
  /-- `client_connection_count` of a `PgGlobalUser`. -/
  userCount : Bytes → Int
  died : Bool := false

namespace Ctx

variable (cfg : AuthConfig) (lim : Limits) (x : Ctx)

def update (f : Client → Client) : Ctx := { x with client := f x.client }

def die : Ctx := { x with died := true }

def countDb (db : Db) (n : Int) : Ctx :=
  { x with dbCount := Function.update x.dbCount db (x.dbCount db + n) }

def countUser (user : Bytes) (n : Int) : Ctx :=
  { x with userCount := Function.update x.userCount user (x.userCount user + n) }

def setLoginUser (user : Option LoginUser) : Ctx :=
  x.update fun cl => { cl with loginUser := user }

/-- The start of `disconnect_client`: the client is taken off the count of its database. -/
def releaseDb : Ctx :=
  match x.client.contributesDbClientCount, x.client.db with
  | true, some db => x.countDb db (-1)
  | _, _ => x

/-- And off the count of its user. -/
def releaseUser : Ctx :=
  match x.client.userConnectionCounted, x.client.loginUser.bind (·.globalUser) with
  | true, some user => x.countUser user (-1)
  | _, _ => x

/-- `disconnect_client`: the flags stay as they are. -/
def disconnectClient : Ctx :=
  let x := x.releaseDb.releaseUser
  -- a client that has been closed is in a bad state
  if x.client.state = .closed then x.die
  else x.update fun cl => { cl with state := .closed }

/-- Disconnect, and tell the caller to stop. -/
def fail : Ctx × Bool := (x.disconnectClient, false)

/-- `if (!check(client)) return false;` -/
def andThen (r : Ctx × Bool) (next : Ctx → Ctx × Bool) : Ctx × Bool :=
  if r.2 then next r.1 else (r.1, false)

/-! ### The checks -/

/-- The start of `check_db_connection_count`. -/
def contributeDb (db : Db) : Ctx :=
  if x.client.contributesDbClientCount then x
  else (x.countDb db 1).update fun cl => { cl with contributesDbClientCount := true }

/-- `check_db_connection_count`. -/
def checkDbConnectionCount (db : Db) : Ctx × Bool :=
  let x := x.contributeDb db
  if lim.databaseMaxClientConnections db ≤ 0 then (x, true)
  else if x.dbCount db ≤ lim.databaseMaxClientConnections db then (x, true)
  else if db.admin then
    match x.client.loginUser with
    | none => (x.die, false)
    | some user => if isAdmin cfg db user then (x, true) else x.fail
  else x.fail

/-- The middle of `check_user_connection_count`. -/
def contributeUser (user : Bytes) : Ctx :=
  if x.client.userConnectionCounted then x
  else (x.countUser user 1).update fun cl => { cl with userConnectionCounted := true }

/-- `check_user_connection_count`. -/
def checkUserConnectionCount (db : Db) : Ctx × Bool :=
  match x.client.loginUser with
  | none => (x, true)
  | some user =>
    match user.globalUser with
    | none => (x, true)
    | some globalUser =>
      let x := x.contributeUser globalUser
      if isAdmin cfg db user then (x, true)
      else if lim.userClientMaxConnections globalUser = 0 then (x, true)
      else if x.userCount globalUser ≤ lim.userClientMaxConnections globalUser then (x, true)
      else x.fail

/-- Both checks. -/
def checkBoth (db : Db) : Ctx × Bool :=
  andThen (checkDbConnectionCount cfg lim x db) fun x => checkUserConnectionCount cfg lim x db

/-! ### The end of `set_pool` -/

/-- `admin_post_login`. -/
def adminPostLogin (username : Bytes) : Ctx × Bool :=
  if cfg.authType = .any then (x, true)
  else if x.client.adminUser || cfg.isAdminUser username then
    (x.update fun cl => { cl with adminUser := true }, true)
  else if cfg.isStatsUser username then (x, true)
  else x.fail

/-- `finish_set_pool`, up to the choice of the method.  A client that has been closed gets
no further: nothing can be sent to it, and whatever ends its login next is fatal. -/
def finishSetPool : Ctx × Bool :=
  match x.client.db, x.client.loginUser with
  | some db, some user =>
    if x.client.state = .closed then (x.die, false)
    else
      let x := x.update fun cl => { cl with startupMessageReceived := true, pending := none }
      if db.admin && !user.mockAuth then adminPostLogin cfg x user.name else (x, true)
  | _, _ => (x.die, false)

/-! ### The console -/

/-- `admin_pre_login`. -/
def adminPreLogin (db : Db) (username : Bytes) : Ctx × Bool :=
  let conn := x.client.connection
  let x := x.update fun cl => { cl with adminUser := false, ownUser := false }
  let forced := some (lim.forcedUser LoginCtx.pgbouncerName)
  if conn.remoteAddr.isUnix && conn.sameUid && username = LoginCtx.pgbouncerName then
    checkDbConnectionCount cfg lim
      ((x.setLoginUser forced).update fun cl => { cl with ownUser := true, adminUser := true }) db
  else if cfg.authType = .any then
    if cfg.isAdminUser username then
      checkDbConnectionCount cfg lim
        ((x.setLoginUser forced).update fun cl => { cl with adminUser := true }) db
    else if cfg.isStatsUser username then
      checkBoth cfg lim (x.setLoginUser forced) db
    else (x, false)
  else (x, false)

/-! ### The user -/

/-- What becomes of an auth_query that is to be started. -/
inductive AuthQuery
  /-- There is no database for it, no server, or it cannot be sent. -/
  | failed
  /-- There is no server yet. -/
  | waits
  | sent
  deriving DecidableEq

/-- `start_auth_query`. -/
def startAuthQuery (packet : Startup) (query : AuthQuery) : Ctx :=
  -- a client that has been closed has no place in the queue of a pool
  if x.client.state = .closed then x.die
  else
    match query with
    | .failed => x.disconnectClient
    | .waits =>
      x.update fun cl =>
        { cl with waitForUserConn := true, paused := true, pending := some packet }
    | .sent =>
      x.update fun cl =>
        { cl with waitForUserConn := false, waitForUser := true, paused := true,
                  pending := some packet }

/-- `find_or_add_new_global_user`, for a user without a password. -/
def findOrAddNewGlobalUser (username : Bytes) : Ctx :=
  if (x.users username).isSome then x
  else { x with users := Function.update x.users username (some true) }

/-- `find_global_credentials`. -/
def findGlobalCredentials (username : Bytes) : Option LoginUser :=
  (x.users username).map fun _ => { name := username, globalUser := some username }

/-- `auth_user_credentials` is set. -/
def hasAuthUser : Db → Bool
  | .real db => db.authUser.isSome || x.dbAuthUser.contains (.real db)
  | .fake client name => x.dbAuthUser.contains (.fake client name)

/-- The databases without an `auth_user` of their own get the global one. -/
def fillAuthUser (db : Db) : Ctx :=
  match cfg.authUser with
  | some name =>
    if x.hasAuthUser db then x
    else { x.findOrAddNewGlobalUser name with dbAuthUser := db :: x.dbAuthUser }
  | none => x

/-- `set_pool` with auth_type=any. -/
def setPoolAny (db : Db) : Ctx × Bool :=
  match db with
  | .fake _ _ => x.fail
  | .real config =>
    if !config.forcedUser then x.fail
    else
      andThen (checkBoth cfg lim (x.setLoginUser (some (lim.forcedUser config.name))) db)
        fun x => finishSetPool cfg x

/-- `set_pool` for LDAP. -/
def setPoolLdap (db : Db) (username : Bytes) : Ctx × Bool :=
  if x.hasAuthUser db then x.fail
  else
    andThen (checkUserConnectionCount cfg lim
      ((x.findOrAddNewGlobalUser username).setLoginUser
        (some { name := username, globalUser := some username })) db)
      fun x => finishSetPool cfg x

/-- `set_pool` for PAM. -/
def setPoolPam (db : Db) (username : Bytes) : Ctx × Bool :=
  if x.hasAuthUser db then x.fail
  else
    andThen (checkBoth cfg lim
      ((x.findOrAddNewGlobalUser username).setLoginUser
        (some { name := username, globalUser := some username })) db)
      fun x => finishSetPool cfg x

/-- `set_pool` for a user that is not known and that no auth_query can find.  The credentials
that are made up have no name yet when the database is checked. -/
def setPoolMock (db : Db) (username : Bytes) : Ctx × Bool :=
  let globalUser := (x.users username).map fun _ => username
  andThen (checkDbConnectionCount cfg lim (x.setLoginUser (some { name := [], globalUser })) db)
    fun x =>
  andThen (checkUserConnectionCount cfg lim
    (x.setLoginUser (some { name := username, globalUser, mockAuth := true })) db)
    fun x => finishSetPool cfg x

/-- `set_pool` for the users of the auth_file and of auth_query. -/
def setPoolUser (db : Db) (packet : Startup) (query : AuthQuery) : Ctx × Bool :=
  andThen (checkBoth cfg lim (x.setLoginUser (x.findGlobalCredentials packet.username)) db)
    fun x =>
  if (x.users packet.username).getD true then
    let x := x.fillAuthUser cfg db
    if x.hasAuthUser db && !db.isFake then (x.startAuthQuery packet query, false)
    else setPoolMock cfg lim x db packet.username
  else finishSetPool cfg x

/-- `check_if_need_ldap_authentication`, or auth_type=ldap. -/
def needsLdap (packet : Startup) : Bool :=
  cfg.haveLdap &&
    ((cfg.authType = .hba &&
        (hbaEval cfg.hba x.client.connection.remoteAddr packet.tls .none packet.dbname
          packet.username).any (·.ruleMethod = .ldap)) ||
      cfg.authType = .ldap)

/-- The middle of `set_pool`: find the user. -/
def findLoginUser (db : Db) (packet : Startup) (query : AuthQuery) : Ctx × Bool :=
  if maxUsername ≤ packet.username.length then x.fail
  else if cfg.authType = .any then setPoolAny cfg lim x db
  else if needsLdap cfg x packet then setPoolLdap cfg lim x db packet.username
  else if cfg.authType = .pam then setPoolPam cfg lim x db packet.username
  else setPoolUser cfg lim x db packet query

/-- The database of a startup packet, made up if it does not exist. -/
def dbOf (slot : Nat) (dbname : Bytes) : Db :=
  match cfg.findOrRegisterDatabase dbname with
  | some db => .real db
  | none => .fake slot dbname

/-- `set_pool`. -/
def setPool (packet : Startup) (query : AuthQuery) : Ctx × Bool :=
  let db := dbOf cfg x.slot packet.dbname
  let x := x.update fun cl => { cl with db := some db, startupUser := packet.username }
  if db.admin then
    let r := adminPreLogin cfg lim x db packet.username
    if r.2 then finishSetPool cfg r.1
    else if r.1.died then (r.1, false)
    -- declined, or closed because there are too many clients: the lookup goes on either way
    else findLoginUser cfg lim r.1 db packet query
  else findLoginUser cfg lim x db packet query

/-! ### Handlers -/

/-- A startup packet in `handle_client_startup`. -/
def handleStartup (packet : Startup) (query : AuthQuery) : Ctx :=
  if x.client.startupMessageReceived then x.disconnectClient
  else if x.client.waitForUser then
    (finishSetPool cfg (x.update fun cl => { cl with waitForUser := false })).1
  else (setPool cfg lim x packet query).1

/-- A field of a row, as it fits into the name of a `PgCredentials`. -/
def rowName (field : Bytes) : Bytes := cString (field.take (maxUsername - 1))

/-- A DataRow in `handle_auth_query_response`, with a user name or NULL. -/
def handleAuthRow (username : Option Bytes) : Ctx :=
  match username, x.client.db with
  | none, _ => x
  | some _, none => x.die
  | some username, some db =>
    let name := rowName username
    (checkUserConnectionCount cfg lim
      ((x.findOrAddNewGlobalUser name).setLoginUser
        (some { name, globalUser := some name })) db).1

/-- The ReadyForQuery in `handle_auth_query_response`. -/
def handleAuthReady : Ctx :=
  if x.client.loginUser.isNone then x.disconnectClient
  else x.update fun cl => { cl with paused := false }

/-- `finish_client_login`, for a client whose method is satisfied.  A user that is made up
has no pool, and `change_client_state` needs one. -/
def finishClientLogin : Ctx :=
  if (x.client.db.map (·.isFake)).getD true then x.disconnectClient
  else if (x.client.loginUser.map (·.mockAuth)).getD true then x.die
  else x.update fun cl => { cl with state := .active }

end Ctx

/-! ### All clients -/

structure World where
  clients : Nat → Client := fun _ => {}
  /-- The number of the next client. -/
  next : Nat := 0
  users : Bytes → Option Bool := fun _ => none
  dbAuthUser : List Db := []
  dbCount : Db → Int := fun _ => 0
  userCount : Bytes → Int := fun _ => 0
  died : Bool := false

inductive Event
  | accept (connection : Connection)
  | startup (i : Nat) (packet : Startup) (query : Ctx.AuthQuery)
  /-- A server for the auth_query is there. -/
  | activate (i : Nat)
  | authRow (i : Nat) (username : Option Bytes)
  | authReady (i : Nat)
  /-- The client has proved who it is, or does not have to. -/
  | finishClientLogin (i : Nat)
  /-- Any reason to close a client. -/
  | disconnectClient (i : Nat)
  /-- The auth_file, the section `[users]`, or a login at another place. -/
  | loadUser (username : Bytes) (dynamicPasswd : Bool)

namespace World

/-- The view a handler has when it works for client `i`. -/
def ctx (w : World) (i : Nat) : Ctx :=
  { slot := i, client := w.clients i, users := w.users, dbAuthUser := w.dbAuthUser,
    dbCount := w.dbCount, userCount := w.userCount, died := w.died }

/-- What a handler leaves behind. -/
def put (w : World) (i : Nat) (x : Ctx) : World :=
  { w with
    clients := Function.update w.clients i x.client
    users := x.users
    dbAuthUser := x.dbAuthUser
    dbCount := x.dbCount
    userCount := x.userCount
    died := x.died }

/-- The auth_query of a client is running. -/
def awaitsRows (cl : Client) : Bool :=
  cl.state = .login && cl.waitForUser && cl.paused

/-- A handler runs for client `i`, if the client is as it has to be. -/
def handle (w : World) (i : Nat) (fits : Client → Bool) (handler : Ctx → Ctx) : Option World :=
  if i < w.next && fits (w.clients i) then some (w.put i (handler (w.ctx i))) else none

variable (cfg : AuthConfig) (lim : Limits)

/-- One event. -/
def step (w : World) (e : Event) : Option World :=
  if w.died then none
  else
    match e with
    | .accept connection =>
      some { w with
        clients := Function.update w.clients w.next { connection }
        next := w.next + 1 }
    | .startup i packet query =>
      w.handle i
        (fun cl => cl.state = .login && !cl.paused && cl.pending.all (· = packet))
        fun x => x.handleStartup cfg lim packet query
    | .activate i =>
      w.handle i (fun cl => cl.state = .login && cl.waitForUserConn && cl.paused)
        fun x => x.update fun cl => { cl with paused := false }
    | .authRow i username => w.handle i awaitsRows fun x => x.handleAuthRow cfg lim username
    | .authReady i => w.handle i awaitsRows Ctx.handleAuthReady
    | .finishClientLogin i =>
      w.handle i (fun cl => cl.state = .login && cl.startupMessageReceived)
        Ctx.finishClientLogin
    | .disconnectClient i => w.handle i (fun cl => cl.state ≠ .closed) Ctx.disconnectClient
    | .loadUser username dynamicPasswd =>
      some { w with users := Function.update w.users username (some dynamicPasswd) }

def run : World → List Event → Option World := Run.exec (step cfg lim)

end World

end PgBouncer.ClientLimits
