/-
The login of a client: from the startup packet to `CL_ACTIVE`.

`handle_client_startup` gets every packet of a client that has not been welcomed yet.
It may have to stop in the middle of one: to wait for a server an auth_query can run
on, for the rows of that query, for the answer of the PAM or LDAP thread, or for the
welcome message of the pool.  The packet is then handled again from the top, and flags
of the client say how far it got the first time.  Here `pending` is such a packet, and
nothing else can be handled before it.

Functions that return `bool` to their caller give back a pair.  A dereference of a
null pointer and a `fatal()` end the process: `died`.

`wasActive` and `granted` are not fields of the source.  The first is set whenever the
state becomes `CL_ACTIVE` out of `CL_LOGIN`, so that it is noticed even if the client is
closed in the same breath; the second keeps the request for which the thread has
reported success.
-/
import PgBouncer.Auth.Hba

namespace PgBouncer

/-! ### Clients -/

/-- The socket states of a client; a client that only brings a cancel request is in one
of two states that count as `cancel` here. -/
inductive SocketState
  | free | justFree | login | waitingLogin | active | waiting | cancel
  deriving DecidableEq

/-- What is known about a connection from outside the protocol. -/
structure Connection where
  remoteAddr : PgAddr
  /-- `getpeereid` gives the user id of pgbouncer itself. -/
  sameUid : Bool := false
  /-- The names `check_unix_peer_name` accepts. -/
  peerNames : List Bytes := []
  /-- What `tls_peer_cert_contains_name` says of a name, if the client shows a certificate in
  a TLS handshake: `tls_match_name` does not tell cases apart and knows wildcards. -/
  peerCert : Option (Bytes → Bool) := none

/-- `login_user_credentials`: a pointer into one of the trees, or an object of the
client's own for a user that does not exist. -/
inductive LoginUser
  | stored (ref : CredRef)
  | mock (credentials : Credentials)
  deriving DecidableEq

/-- `PgPool`, as far as logins read it. -/
structure PoolRef where
  db : PgDatabase
  userCredentials : CredRef
  deriving DecidableEq

/-- A message pgbouncer sends during a login. -/
inductive LoginMsg
  | sslAnswer (accept : Bool)
  | negotiateProtocolVersion
  | cleartextPassword
  | md5Password (salt : Bytes)
  | sasl
  | saslContinue (message : Bytes)
  | saslFinal (message : Bytes)
  | welcome
  | error (reason : Bytes)
  deriving DecidableEq

/-- The threads that check passwords. -/
inductive Checker
  | pam | ldap
  deriving DecidableEq

def Checker.failure : Checker → Bytes
  | .pam => text "PAM authentication failed"
  | .ldap => text "LDAP authentication failed"

inductive AuthStatus
  | inProgress | success | failed
  deriving DecidableEq

/-- `pam_auth_request` and `ldap_auth_request`; `client` is the slot of the socket. -/
structure AuthRequest where
  checker : Checker
  client : Nat
  connectTime : Nat
  username : Bytes
  password : Bytes
  status : AuthStatus := .inProgress
  deriving DecidableEq

/-- A startup packet: its parameters up to the terminator, and whether the terminator is
where it should be. -/
structure StartupPacket where
  /-- A minor version or a protocol newer than 3.0: `PKT_STARTUP_V3_UNSUPPORTED`. -/
  unsupported : Bool := false
  params : List (Bytes × Bytes)
  terminated : Bool := true
  deriving DecidableEq

/-- A complete packet of a client that is not logged in. -/
inductive LoginPkt
  | sslRequest
  | gssEncRequest
  | startupV2
  | startup (packet : StartupPacket)
  /-- PasswordMessage, SASLInitialResponse or SASLResponse. -/
  | password (body : Bytes)
  /-- A cancel request, with a key of the right length or not. -/
  | cancel (wellFormed : Bool)
  | other
  deriving DecidableEq

/-- `PgSocket` of a client, as far as logins use it. -/
structure PgSocket where
  state : SocketState := .free
  connection : Connection := { remoteAddr := .unix }
  connectTime : Nat := 0
  /-- `sbuf.tls` is set. -/
  tls : Bool := false
  /-- The socket is not read: `sbuf_pause`. -/
  paused : Bool := false
  db : Option PgDatabase := none
  loginUser : Option LoginUser := none
  pool : Option PoolRef := none
  replication : ReplicationType := .none
  ownUser : Bool := false
  adminUser : Bool := false
  clientAuthType : AuthType := .any
  tmpLoginSalt : Bytes := []
  scramState : ScramState := {}
  startupMessageReceived : Bool := false
  protocolNegotiated : Bool := false
  waitForUserConn : Bool := false
  waitForUser : Bool := false
  waitForAuth : Bool := false
  waitForWelcome : Bool := false
  /-- The packet that has to be handled again. -/
  pending : Option LoginPkt := none
  sent : List LoginMsg := []
  wasActive : Bool := false
  granted : Option AuthRequest := none

/-- `login_user_credentials`, followed. -/
def PgSocket.loginCredentials (cl : PgSocket) (users : Users) : Option Credentials :=
  match cl.loginUser with
  | some (.stored r) => users.find r
  | some (.mock c) => some c
  | none => none

/-- What `find_server` does with a client. -/
inductive FindServer
  | linked
  | waits
  /-- `check_fast_fail`, with the error of the last login at the server. -/
  | refused (message : Bytes)
  deriving DecidableEq

/-- What the rest of pgbouncer and chance decide while one packet is handled. -/
structure Env where
  /-- More clients than `max_db_client_connections`. -/
  dbFull : Bool := false
  /-- More clients than `max_user_client_connections`. -/
  userFull : Bool := false
  /-- More clients than `max_client_conn`. -/
  tooManyClients : Bool := false
  /-- `cf_shutdown` is not `SHUTDOWN_NONE`. -/
  shutdown : Bool := false
  /-- `cf_shutdown` is `SHUTDOWN_WAIT_FOR_SERVERS`. -/
  shutdownWaitForServers : Bool := false
  welcomeMsgReady : Bool := true
  findServer : FindServer := .linked
  /-- The auth_query could be sent. -/
  querySent : Bool := true
  /-- Sending an answer, an authentication request or a SCRAM message works. -/
  replySent : Bool := true
  negotiateSent : Bool := true
  welcomeSent : Bool := true
  /-- Why `accept_cancel_request` turns a cancel request down, if it does. -/
  cancelRefused : Option Bytes := none
  loginSalt : Bytes := []
  scram : ScramEnv := { salt := [], nonce := [], mockNonce := [], iterations := 4096 }
  deriving DecidableEq

/-- What a handler works on: the client in its slot, and what all clients share. -/
structure LoginCtx where
  slot : Nat
  client : PgSocket
  users : Users
  /-- The databases whose `auth_user_credentials` were filled in from `auth_user`. -/
  dbAuthUser : List Bytes := []
  queue : List AuthRequest := []
  died : Bool := false

namespace LoginCtx

variable (cfg : AuthConfig) (c : Crypto) (env : Env) (x : LoginCtx)

def update (f : PgSocket → PgSocket) : LoginCtx :=
  { x with client := f x.client }

/-- The process ends. -/
def die : LoginCtx := { x with died := true }

def send (m : LoginMsg) : LoginCtx :=
  x.update fun cl => { cl with sent := cl.sent ++ [m] }

def loginCredentials : Option Credentials :=
  x.client.loginCredentials x.users

/-- `disconnect_client`, as far as a login can call it.  The objects made up for this
client are freed. -/
def disconnect (reason : Bytes) (notify : Bool := true) : LoginCtx :=
  match x.client.state with
  | .free | .justFree => x.die
  | _ =>
    let x := if notify then x.send (.error reason) else x
    x.update fun cl =>
      { cl with
        state := .justFree
        scramState := {}
        loginUser := cl.loginUser.filter fun u => u matches .stored _
        db := cl.db.filter (!·.fake) }

/-- Disconnect, and tell the caller to stop. -/
def fail (reason : Bytes) (notify : Bool := true) : LoginCtx × Bool :=
  (x.disconnect reason notify, false)

/-- `if (!check(client)) return false;` -/
def andThen (r : LoginCtx × Bool) (next : LoginCtx → LoginCtx × Bool) : LoginCtx × Bool :=
  if r.2 then next r.1 else (r.1, false)

/-! ### The end of a login -/

/-- `"pgbouncer"`. -/
def pgbouncerName : Bytes :=
  [ch 'p', ch 'g', ch 'b', ch 'o', ch 'u', ch 'n', ch 'c', ch 'e', ch 'r']

/-- `pause_client` of a client in `CL_ACTIVE` or `CL_LOGIN`, with `change_client_state`. -/
def pauseClient : LoginCtx :=
  if env.shutdownWaitForServers then x.disconnect (text "server shutting down")
  else
    x.update fun cl =>
      { cl with
        state := if cl.state = .login then .waitingLogin else .waiting
        paused := true }

/-- `welcome_client`. -/
def welcomeClient : LoginCtx × Bool :=
  if env.welcomeSent then (x.send .welcome, true)
  else x.fail (text "failed to send welcome message")

/-- The end of `finish_client_login`, for a client in `CL_ACTIVE`. -/
def welcomeOrWait : LoginCtx × Bool :=
  let x := x.update fun cl => { cl with waitForAuth := false }
  if env.welcomeMsgReady then
    welcomeClient env (x.update fun cl => { cl with waitForWelcome := false })
  else (pauseClient env (x.update fun cl => { cl with waitForWelcome := true }), false)

/-- `change_client_state(client, CL_ACTIVE)` of a client in `CL_LOGIN`: the list of its
pool is where it goes. -/
def activateLogin : LoginCtx :=
  let x := x.update fun cl => { cl with state := .active, wasActive := true }
  if x.client.pool.isNone then x.die else x

/-- `finish_client_login`. -/
def finishClientLogin : LoginCtx × Bool :=
  match x.client.db with
  | none => (x.die, false)
  | some db =>
    if db.fake then x.fail (text "no such database: " ++ db.name)
    else if db.dbDisabled then
      x.fail (text "database \"" ++ db.name ++ text "\" is disabled")
    else if env.shutdown && db.name != pgbouncerName then
      x.fail (text "pooler is shutting down")
    else
      match x.client.state with
      | .login =>
        let x := x.activateLogin
        if x.died then (x, false) else welcomeOrWait env x
      | .active => welcomeOrWait env x
      | _ => (x.die, false)

/-! ### The console -/

/-- `admin_post_login`. -/
def adminPostLogin (username : Bytes) : LoginCtx × Bool :=
  if cfg.authType = .any then (x, true)
  else if x.client.adminUser || cfg.isAdminUser username then
    (x.update fun cl => { cl with adminUser := true }, true)
  else if cfg.isStatsUser username then (x, true)
  else x.fail (text "not allowed")

/-! ### The method -/

/-- How `finish_set_pool` decides on the method: `auth`, and the rule it comes from. -/
def authMethod (cl : PgSocket) (db : PgDatabase) (creds : Credentials) :
    Except Bytes (AuthType × Option HbaRule) := do
  let (auth, rule) ←
    if cfg.authType = .ldap ∧ cfg.haveLdap ∧ !cfg.authLdapOptions then
      .error (text "auth_ldap_options is null")
    else if cfg.authType = .hba then
      match hbaEval cfg.hba cl.connection.remoteAddr cl.tls cl.replication db.name creds.name with
      | none => .error (text "no authentication method is found")
      | some rule => .ok (rule.ruleMethod.authType, some rule)
    else .ok (cfg.authType, none)
  if auth = .ldap ∧ !cfg.haveLdap then .error (text "ldap is not supported by this build")
  -- a SCRAM secret cannot answer an MD5 challenge
  else if auth = .md5 ∧ getPasswordType creds.passwd = .scramSha256 then
    .ok (.scramSha256, rule)
  else .ok (auth, rule)

/-- `send_client_authreq`. -/
def sendClientAuthreq : LoginCtx × Bool :=
  let send (x : LoginCtx) (m : LoginMsg) : LoginCtx × Bool :=
    -- nothing can be sent to a client that has been closed
    if env.replySent && x.client.state != .justFree then (x.send m, true)
    else x.fail (text "failed to send auth req") false
  match x.client.clientAuthType with
  | .md5 =>
    send (x.update fun cl => { cl with tmpLoginSalt := env.loginSalt })
      (.md5Password env.loginSalt)
  | .plain | .ldap | .pam => send x .cleartextPassword
  | .scramSha256 => send x .sasl
  | _ => (x, false)

/-- `login_via_cert`. -/
def loginViaCert (creds : Credentials) (rule : Option HbaRule) : LoginCtx × Bool :=
  let ok :=
    match x.client.connection.peerCert with
    | some vouches =>
      x.client.tls && !creds.mockAuth && identMatch vouches creds.name (rule.bind (·.identmap))
    | none => false
  if ok then x.finishClientLogin env else x.fail (text "certificate authentication failed")

/-- `login_as_unix_peer`. -/
def loginAsUnixPeer (creds : Credentials) (rule : Option HbaRule) : LoginCtx × Bool :=
  let conn := x.client.connection
  if conn.remoteAddr.isUnix && !creds.mockAuth &&
      identMatch conn.peerNames.contains creds.name (rule.bind (·.identmap)) then
    x.finishClientLogin env
  else x.fail (text "unix socket login rejected")

/-- The switch of `finish_set_pool`. -/
def startMethod (creds : Credentials) (auth : AuthType) (rule : Option HbaRule) : LoginCtx × Bool :=
  let x := x.update fun cl => { cl with clientAuthType := auth }
  match auth with
  | .any => x.finishClientLogin env
  | .trust =>
    if creds.mockAuth then x.fail (text "\"trust\" authentication failed")
    else x.finishClientLogin env
  | .plain | .ldap | .md5 | .pam | .scramSha256 => x.sendClientAuthreq env
  | .cert => x.loginViaCert env creds rule
  | .peer => x.loginAsUnixPeer env creds rule
  | .hba | .reject => x.fail (text "login rejected")

variable (db : PgDatabase)

/-- The pool `finish_set_pool` gives a real user of a real database. -/
def poolFor (creds : Credentials) (user : LoginUser) (old : Option PoolRef) : Option PoolRef :=
  if creds.mockAuth || db.fake then old
  else
    match user with
    | .stored r => some ⟨db, if db.forcedUser then .forced db.name else r⟩
    | .mock _ => old

/-- The start of `finish_set_pool`: the startup packet is done with, and there is a pool. -/
def withPool (creds : Credentials) (user : LoginUser) : LoginCtx :=
  x.update fun cl =>
    { cl with startupMessageReceived := true, pool := poolFor db creds user cl.pool }

/-- `finish_set_pool` for a client of the console. -/
def checkConsole (username : Bytes) : LoginCtx × Bool :=
  if (x.client.pool.map (·.db.admin)).getD false then adminPostLogin cfg x username
  else (x, true)

/-- `finish_set_pool`. -/
def finishSetPool : LoginCtx × Bool :=
  match x.client.loginUser, x.loginCredentials, x.client.db with
  | some user, some creds, some db =>
    andThen (checkConsole cfg (x.withPool db creds user) creds.name) fun x =>
      if x.client.ownUser then x.finishClientLogin env
      else
        match authMethod cfg x.client db creds with
        | .error reason => x.fail reason
        | .ok (auth, rule) => x.startMethod env creds auth rule
  | _, _, _ => (x.die, false)

/-! ### Counting connections -/

/-- `check_db_connection_count`.  The exemption for administrators looks at the name of
the login user, whether there is one or not. -/
def checkDbConnectionCount : LoginCtx × Bool :=
  if !env.dbFull then (x, true)
  else
    let refuse (x : LoginCtx) :=
      x.fail (text "client connections exceeded (max_db_client_connections)")
    if db.admin then
      match x.loginCredentials with
      | none => (x.die, false)
      | some creds => if cfg.isAdminUser creds.name then (x, true) else refuse x
    else refuse x

/-- `login_user_credentials->global_user` is set. -/
def hasGlobalUser : Bool :=
  match x.client.loginUser with
  | some (.stored _) => true
  | some (.mock c) => (x.users.find (.user c.name)).isSome
  | none => false

/-- `check_user_connection_count`. -/
def checkUserConnectionCount : LoginCtx × Bool :=
  match x.loginCredentials with
  | none => (x, true)
  | some creds =>
    if !x.hasGlobalUser || (db.admin && cfg.isAdminUser creds.name) || !env.userFull
    then (x, true)
    else x.fail (text "client connections exceeded (max_user_client_connections)")

def setLoginUser (user : Option LoginUser) : LoginCtx :=
  x.update fun cl => { cl with loginUser := user }

/-- `admin_pre_login`. -/
def adminPreLogin (username : Bytes) : LoginCtx × Bool :=
  let conn := x.client.connection
  let x := x.update fun cl => { cl with adminUser := false, ownUser := false }
  let forced := some (LoginUser.stored (.forced db.name))
  if conn.remoteAddr.isUnix && conn.sameUid && username = pgbouncerName then
    let x := (x.setLoginUser forced).update fun cl => { cl with ownUser := true, adminUser := true }
    checkDbConnectionCount cfg env x db
  -- the name is not kept with auth_type=any, so it is looked at here
  else if cfg.authType = .any then
    if cfg.isAdminUser username then
      let x := (x.setLoginUser forced).update fun cl => { cl with adminUser := true }
      checkDbConnectionCount cfg env x db
    else if cfg.isStatsUser username then
      andThen (checkDbConnectionCount cfg env (x.setLoginUser forced) db) fun x =>
        checkUserConnectionCount cfg env x db
    else (x, false)
  else (x, false)

/-! ### The auth_query -/

/-- `prepare_auth_database`: the database the query runs on, or why it cannot run. -/
def prepareAuthDatabase : Except Bytes PgDatabase :=
  let authDbname := if db.authDbname.isSome then db.authDbname else cfg.authDbname
  let authDb :=
    match authDbname with
    | none => some db
    | some name => cfg.findOrRegisterDatabase name
  match authDb with
  | none => .error (text "bouncer config error")
  | some authDb =>
    if authDb.dbDisabled then
      .error (text "authentication database \"" ++ authDbname.getD [] ++ text "\" is disabled")
    else if authDb.admin then .error (text "bouncer config error")
    else .ok authDb

/-- The user the query runs as. -/
def authUserOf : Bytes :=
  db.authUser.getD (cfg.authUser.getD [])

/-- `start_auth_query`, for a client that `find_server` may put into the queue. -/
def startAuthQuery : LoginCtx :=
  match prepareAuthDatabase cfg db with
  | .error reason => x.disconnect reason
  | .ok authDb =>
    let x := x.update fun cl =>
      { cl with pool := some ⟨authDb, .user (authUserOf cfg db)⟩, waitForUserConn := true }
    -- a client that has been closed has no place in the queue of a pool
    if x.client.state ≠ .login then x.die
    else
      match env.findServer with
      | .refused message =>
        x.disconnect (text "server login has been failing, cached error: " ++ message ++
          text " (server_login_retry)")
      | .waits => x.pauseClient env
      | .linked =>
        let x := x.update fun cl =>
          { cl with waitForUserConn := false, waitForUser := true, paused := true }
        -- the server is closed, and a client that is not logged in is told no more than this
        if env.querySent then x else x.disconnect (text "bouncer config error")

/-! ### The user -/

/-- `set_pool` with auth_type=any. -/
def setPoolAny : LoginCtx × Bool :=
  if !db.forcedUser then x.fail (text "bouncer config error")
  else
    andThen (checkDbConnectionCount cfg env
      (x.setLoginUser (some (.stored (.forced db.name)))) db) fun x =>
    andThen (checkUserConnectionCount cfg env x db) fun x =>
    finishSetPool cfg env x

/-- `auth_user_credentials` is set. -/
def hasAuthUser : Bool :=
  db.authUser.isSome || x.dbAuthUser.contains db.name

/-- `set_pool` for LDAP: the password will be set after successful authentication. -/
def setPoolLdap (username : Bytes) : LoginCtx × Bool :=
  if x.hasAuthUser db then x.fail (text "bouncer config error")
  else
    let x := { x with users := x.users.findOrAddNewGlobalUser username [] }
    andThen (checkUserConnectionCount cfg env
      (x.setLoginUser (some (.stored (.user username)))) db) fun x =>
    finishSetPool cfg env x

/-- `set_pool` for PAM. -/
def setPoolPam (username : Bytes) : LoginCtx × Bool :=
  if x.hasAuthUser db then x.fail (text "bouncer config error")
  else
    let x := { x with users := x.users.addPamCredentials username }
    andThen (checkDbConnectionCount cfg env
      (x.setLoginUser (some (.stored (.pam username)))) db) fun x =>
    andThen (checkUserConnectionCount cfg env x db) fun x =>
    finishSetPool cfg env x

/-- The credentials of a user that is not known. -/
def mockCredentials (username : Bytes) : Credentials :=
  { name := username, mockAuth := true, held := [[]] }

/-- `set_pool` for a user that is not known and that no auth_query can find. -/
def setPoolMock (username : Bytes) : LoginCtx × Bool :=
  andThen (checkDbConnectionCount cfg env
    (x.setLoginUser (some (.mock { name := [], held := [[]] }))) db) fun x =>
  andThen (checkUserConnectionCount cfg env
    (x.setLoginUser (some (.mock (mockCredentials username)))) db) fun x =>
  finishSetPool cfg env x

/-- The databases without an `auth_user` of their own get the global one. -/
def fillAuthUser : LoginCtx :=
  match cfg.authUser with
  | some name =>
    if x.hasAuthUser db then x
    else
      { x with
        users := x.users.findOrAddNewGlobalUser name []
        dbAuthUser := db.name :: x.dbAuthUser }
  | none => x

/-- `set_pool` for the users of the auth_file and of auth_query. -/
def setPoolUser (username : Bytes) : LoginCtx × Bool :=
  let found := x.users.find (.user username)
  andThen (checkDbConnectionCount cfg env
    (x.setLoginUser (found.map fun _ => .stored (.user username))) db) fun x =>
  andThen (checkUserConnectionCount cfg env x db) fun x =>
  if (found.map (·.dynamicPasswd)).getD true then
    let x := fillAuthUser cfg x db
    if x.hasAuthUser db && !db.fake then (startAuthQuery cfg env x db, false)
    else setPoolMock cfg env x db username
  else finishSetPool cfg env x

/-- `check_if_need_ldap_authentication`. -/
def checkIfNeedLdapAuthentication (cl : PgSocket) (dbname username : Bytes) : Bool :=
  cfg.authType = .hba &&
    (hbaEval cfg.hba cl.connection.remoteAddr cl.tls .none dbname username).any
      (·.ruleMethod = .ldap)

/-- The middle of `set_pool`: find the user. -/
def findLoginUser (dbname username : Bytes) : LoginCtx × Bool :=
  if username.length ≥ maxUsername then x.fail (text "username too long")
  else if cfg.authType = .any then setPoolAny cfg env x db
  else if cfg.haveLdap && (checkIfNeedLdapAuthentication cfg x.client dbname username ||
      cfg.authType = .ldap) then
    setPoolLdap cfg env x db username
  else if cfg.authType = .pam then setPoolPam cfg env x db username
  else setPoolUser cfg env x db username

/-- The database of a startup packet, made up if it does not exist. -/
def dbOf (dbname : Bytes) : PgDatabase :=
  (cfg.findOrRegisterDatabase dbname).getD { name := dbname, fake := true }

/-- `set_pool` for the console. -/
def setPoolConsole (dbname username : Bytes) : LoginCtx × Bool :=
  let r := adminPreLogin cfg env x db username
  if r.2 then finishSetPool cfg env r.1
  else if r.1.died then (r.1, false)
  -- declined, or closed because there are too many clients: the lookup goes on either way
  else findLoginUser cfg env r.1 db dbname username

/-- `set_pool`. -/
def setPool (dbname username : Bytes) : LoginCtx × Bool :=
  let x := x.update fun cl => { cl with db := some (dbOf cfg dbname) }
  if (dbOf cfg dbname).admin then setPoolConsole cfg env x (dbOf cfg dbname) dbname username
  else findLoginUser cfg env x (dbOf cfg dbname) dbname username

/-! ### The startup packet -/

def databaseKey : Bytes := [ch 'd', ch 'a', ch 't', ch 'a', ch 'b', ch 'a', ch 's', ch 'e']
def userKey : Bytes := [ch 'u', ch 's', ch 'e', ch 'r']
def replicationKey : Bytes :=
  [ch 'r', ch 'e', ch 'p', ch 'l', ch 'i', ch 'c', ch 'a', ch 't', ch 'i', ch 'o', ch 'n']
def extensionKey : Bytes := [ch '_', ch 'p', ch 'q', ch '_', ch '.']

/-- The value a startup packet gives a parameter: the last one counts. -/
def param (packet : StartupPacket) (key : Bytes) : Option Bytes :=
  (packet.params.reverse.find? (·.1 = key)).map Prod.snd

/-- The user a startup packet names. -/
def startupUser (packet : StartupPacket) : Bytes :=
  (param packet userKey).getD []

/-- The database a startup packet names, which may be left to the name of the user. -/
def startupDb (packet : StartupPacket) : Bytes :=
  let dbname := (param packet databaseKey).getD []
  if dbname.isEmpty then startupUser packet else dbname

/-- `set_replication`. -/
def setReplication (old : ReplicationType) (value : Bytes) : ReplicationType :=
  if value = databaseKey then .logical
  else
    match cfg.parseBool value with
    | none => old
    | some true => .physical
    | some false => .none

/-- The first loop of `decide_startup_pool`. -/
def replicationOf (packet : StartupPacket) (old : ReplicationType) : ReplicationType :=
  packet.params.foldl
    (fun r kv => if kv.1 = replicationKey then setReplication cfg r kv.2 else r) old

def isExtension (kv : Bytes × Bytes) : Bool := extensionKey.isPrefixOf kv.1

/-- What the second loop finds wrong with a parameter. -/
def paramError (replication : ReplicationType) (kv : Bytes × Bytes) : Option Bytes :=
  if kv.1 = databaseKey ∨ kv.1 = userKey ∨ kv.1 = replicationKey ∨ isExtension kv then none
  else cfg.refusesParam replication kv.1 kv.2

/-- The end of `decide_startup_pool`: protocol negotiation. -/
def negotiate (packet : StartupPacket) : LoginCtx × Bool :=
  if (packet.unsupported || packet.params.any isExtension) && !x.client.protocolNegotiated then
    let x := x.update fun cl => { cl with protocolNegotiated := true }
    if env.negotiateSent then (x.send .negotiateProtocolVersion, true)
    else x.fail (text "unable to send protocol negotiation packet") false
  else (x, true)

/-- `decide_startup_pool`. -/
def decideStartupPool (packet : StartupPacket) : LoginCtx × Bool :=
  let x := x.update fun cl => { cl with replication := replicationOf cfg packet cl.replication }
  match packet.params.findSome? (paramError cfg x.client.replication) with
  | some reason => x.fail reason
  | none =>
    if !packet.terminated then
      x.fail (text "invalid startup packet layout: expected terminator as last byte")
    else if (startupUser packet).isEmpty then x.fail (text "no username supplied")
    else if env.tooManyClients && startupDb packet != pgbouncerName then
      x.fail (text "no more connections allowed (max_client_conn)")
    else
      andThen (negotiate env x packet) fun x =>
        setPool cfg env x (startupDb packet) (startupUser packet)

/-! ### Packets -/

/-- `mbuf_get_string`. -/
def getString (b : Bytes) : Option (Bytes × Bytes) :=
  if b.contains 0 then some (cString b, b.drop ((cString b).length + 1)) else none

/-- `mbuf_get_uint32be`. -/
def getUint32be : Bytes → Option (Nat × Bytes)
  | a :: b :: c :: d :: rest =>
    some (((a.toNat * 256 + b.toNat) * 256 + c.toNat) * 256 + d.toNat, rest)
  | _ => none

/-- What a SASLInitialResponse says: the mechanism, and the data if they are whole. -/
def saslInitial (body : Bytes) : Option (Bytes × Option Bytes) := do
  let (mech, rest) ← getString body
  some (mech, do
    let (length, rest) ← getUint32be rest
    if length ≤ rest.length then some (rest.take length) else none)

/-- Write back what a SCRAM exchange has cached in the user. -/
def putCredentials (creds : Credentials) : LoginCtx :=
  match x.client.loginUser with
  | some (.stored r) => { x with users := x.users.set r creds }
  | _ => x

/-- The first message of a SCRAM exchange. -/
def saslInitialResponse (creds : Credentials) (body : Bytes) : LoginCtx × Bool :=
  match saslInitial body with
  | none => (x, false)
  | some (mech, data) =>
    if mech ≠ scramSha256Name then
      x.fail (text "client selected an invalid SASL authentication mechanism")
    else
      match data with
      | none => (x, false)
      | some data =>
        match scramClientFirst c env.scram creds x.client.scramState data with
        | none => x.fail (text "SASL authentication failed")
        | some (st, creds) =>
          let x := (x.putCredentials creds).update fun cl => { cl with scramState := st }
          if env.replySent then (x.send (.saslContinue st.serverFirstMessage), true)
          else x.fail (text "SASL authentication failed")

/-- Keep the keys for the login at the backend, if the user is the one of the pool. -/
def saveScramKeys (st : ScramState) : LoginCtx :=
  match x.client.db with
  | none => x.die
  | some db =>
    if st.adhoc || db.fake then x
    else
      match x.client.pool with
      | none => x.die
      | some pool =>
        if x.client.loginUser = some (.stored pool.userCredentials) then
          { x with
            users := x.users.modify pool.userCredentials fun u =>
              { u with
                scramClientKey := st.clientKey
                scramServerKey := st.serverKey
                scramPassthroughValid := true } }
        else x

/-- `build_server_final_message`. -/
def serverFinalMessage (st : ScramState) : Bytes :=
  [ch 'v', ch '='] ++ Base64.encode (c.hmac st.serverKey (authMessage st))

/-- The second message of a SCRAM exchange. -/
def saslResponse (body : Bytes) : LoginCtx × Bool :=
  match scramClientFinal c x.client.scramState body with
  | none => x.fail (text "SASL authentication failed")
  | some st =>
    if !env.replySent then x.fail (text "SASL authentication failed")
    else
      let x := (x.send (.saslFinal (serverFinalMessage c st))).saveScramKeys st
      if x.died then (x, false)
      else (x.update fun cl => { cl with scramState := {} }).finishClientLogin env

/-- `pam_auth_begin` and `ldap_auth_begin`. -/
def authBegin (checker : Checker) (creds : Credentials) (passwd : Bytes) : LoginCtx :=
  { x with
    client := { x.client with paused := true, waitForAuth := true }
    queue := x.queue ++
      [{ checker := checker, client := x.slot, connectTime := x.client.connectTime,
         username := creds.name, password := passwd.take (maxPassword - 1) }] }

/-- A PasswordMessage. -/
def passwordMessage (creds : Credentials) (body : Bytes) : LoginCtx × Bool :=
  match getString body with
  -- not a string: ignored
  | none => (x, true)
  | some (passwd, _) =>
    if passwd.isEmpty then x.fail (text "empty password returned by client")
    else
      match x.client.clientAuthType with
      | .ldap => (x.authBegin .ldap creds passwd, false)
      | .pam => (x.authBegin .pam creds passwd, false)
      | auth =>
        if checkClientPasswd c creds auth x.client.tmpLoginSalt passwd then
          x.finishClientLogin env
        else x.fail (text "password authentication failed")

/-- `handle_client_startup` for a password packet. -/
def handlePassword (body : Bytes) : LoginCtx × Bool :=
  match x.loginCredentials with
  | none => x.fail (text "client password pkt before startup packet")
  | some creds =>
    if x.client.clientAuthType = .scramSha256 then
      if x.client.scramState.serverNonce.isNone then saslInitialResponse c env x creds body
      else saslResponse c env x body
    else passwordMessage c env x creds body

/-- `handle_client_startup` for a startup packet. -/
def handleStartup (packet : StartupPacket) : LoginCtx × Bool :=
  if cfg.sslRequired && !x.client.tls && !x.client.connection.remoteAddr.isUnix then
    x.fail (text "SSL required")
  else if x.client.startupMessageReceived then x.fail (text "client re-sent startup pkt")
  else if x.client.waitForUser then
    finishSetPool cfg env (x.update fun cl => { cl with waitForUser := false })
  else decideStartupPool cfg env x packet

/-- `handle_client_startup` for an SSL request. -/
def handleSslRequest : LoginCtx × Bool :=
  if x.client.tls then x.fail (text "SSL req inside SSL") false
  else if cfg.sslAllowed && !x.client.connection.remoteAddr.isUnix then
    if env.replySent then
      ((x.send (.sslAnswer true)).update fun cl => { cl with tls := true }, true)
    else x.fail (text "failed to ack SSL") false
  else if env.replySent then (x.send (.sslAnswer false), true)
  else x.fail (text "failed to nak SSL") false

/-- `handle_client_startup` for a complete packet. -/
def handleClientStartup (pkt : LoginPkt) : LoginCtx × Bool :=
  if x.client.waitForWelcome || x.client.waitForAuth then x.finishClientLogin env
  else
    match pkt with
    | .sslRequest => handleSslRequest cfg env x
    | .gssEncRequest =>
      if env.replySent then (x.send (.sslAnswer false), true)
      else x.fail (text "failed to nak GSS enc") false
    | .startupV2 => x.fail (text "old V2 protocol not supported")
    | .startup packet => handleStartup cfg env x packet
    | .password body => handlePassword c env x body
    | .cancel wellFormed =>
      if !wellFormed then x.fail (text "bad cancel request") false
      else
        match env.cancelRefused with
        | some reason => x.fail reason false
        | none => (x.update fun cl => { cl with state := .cancel }, false)
    | .other => x.fail (text "bad packet") false

end LoginCtx

end PgBouncer
