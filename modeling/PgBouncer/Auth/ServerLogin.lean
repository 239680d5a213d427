/-
How pgbouncer logs in to a backend.

The functions are those of `handle_server_startup` and `answer_authreq`, for packets that
have come in whole.  Passwords, hash functions and random bytes are those of the login
of a client.  What the failure of a login does to the waiting clients of the pool is left
out: it does not change what becomes of this connection, which is closed.

`exchange` records what pgbouncer itself forgets, the SCRAM exchange that was started
last and the signature that was accepted in it.
-/
import PgBouncer.Auth.ScramClient
import PgBouncer.Lib.Run

namespace PgBouncer

open LoginCtx (getString getUint32be)

/-- What a server sends before it can be used. -/
inductive StartupMsg
  | authenticationRequest (body : Bytes)
  | parameterStatus (body : Bytes)
  | readyForQuery
  | backendKeyData (body : Bytes)
  | noticeResponse
  | errorResponse
  /-- Anything else. -/
  | unknown
  deriving DecidableEq

/-- What pgbouncer answers. -/
inductive StartupReply
  | passwordMessage (password : Bytes)
  | saslInitialResponse (mech data : Bytes)
  | saslResponse (data : Bytes)
  | query (sql : Bytes)
  deriving DecidableEq

/-- What `get_srv_psw` looks at. -/
structure SrvPsw where
  userCredentials : Credentials
  /-- The database has a `forced_user_credentials`. -/
  forcedUser : Bool := false
  /-- `find_global_credentials` of the same name. -/
  globalCredentials : Option Credentials := none
  deriving DecidableEq

/-- `get_srv_psw`. -/
def getSrvPsw (p : SrvPsw) : Credentials :=
  if p.userCredentials.passwd.isEmpty && p.forcedUser then
    p.globalCredentials.getD p.userCredentials
  else p.userCredentials

/-- What is around the connection when a message is handled; all of it may change from one
message to the next. -/
structure SrvEnv where
  psw : SrvPsw
  /-- Random bytes for a nonce. -/
  rawNonce : Bytes := []
  /-- `connect_query` of the database. -/
  connectQuery : Option Bytes := none
  /-- Whether the kernel takes the answer as a whole. -/
  replySent : Bool := true
  deriving DecidableEq

/-- A signature that `verify_server_signature` has accepted, with what it was given. -/
structure Acceptance where
  scramState : ScramClientState
  credentials : Credentials
  signature : Bytes
  deriving DecidableEq

/-- A SCRAM exchange that pgbouncer has started. -/
structure Exchange where
  clientNonce : Bytes
  accepted : Option Acceptance := none
  deriving DecidableEq

inductive ServerLoginState
  /-- `SV_LOGIN`. -/
  | login
  /-- The login is complete; `release_server` decides what comes next. -/
  | ready
  | closed
  deriving DecidableEq

/-- A connection to a backend during its login. -/
structure ServerLogin where
  state : ServerLoginState := .login
  scramState : ScramClientState := {}
  execOnConnect : Bool := false
  cancelKey : Bytes := []
  /-- The answers, in their order. -/
  replies : List StartupReply := []
  /-- The last exchange. -/
  exchange : Option Exchange := none
  deriving DecidableEq

/-- `AUTH_REQ_OK` and the others. -/
def authReqOk : Nat := 0
def authReqPassword : Nat := 3
def authReqMd5 : Nat := 5
def authReqSasl : Nat := 10
def authReqSaslCont : Nat := 11
def authReqSaslFin : Nat := 12

/-- `BACKENDKEY_LEN`. -/
def backendkeyLen : Nat := 8

/-- The loop of `answer_authreq` over the mechanisms; `none` if the list has no end. -/
def selectMechanism : Nat → Bytes → Option Bool
  | 0, _ => none
  | fuel + 1, s =>
    match getString s with
    | none => none
    | some (mech, rest) =>
      if mech.isEmpty then some false
      else if mech = scramSha256Name then some true
      else selectMechanism fuel rest

namespace ServerLogin

variable (c : Crypto) (env : SrvEnv) (s : ServerLogin)

def reply (r : StartupReply) : ServerLogin := { s with replies := s.replies ++ [r] }

/-- `login_clear_psw`; the password is queued, which always works. -/
def loginClearPsw : ServerLogin × Bool :=
  (s.reply (.passwordMessage (getSrvPsw env.psw).passwd), true)

/-- `login_md5_psw`. -/
def loginMd5Psw (salt : Bytes) : ServerLogin × Bool :=
  let credentials := getSrvPsw env.psw
  let answer (stored : Bytes) : ServerLogin × Bool :=
    (s.reply (.passwordMessage (c.md5Encrypt (stored.drop 3) salt)), true)
  match getPasswordType credentials.passwd with
  | .plaintext => answer (c.md5Encrypt credentials.passwd credentials.name)
  | .md5 => answer credentials.passwd
  | .scramSha256 => (s, false)

/-- What `login_scram_sha_256` can work with. -/
def canScram (credentials : Credentials) : Bool :=
  match getPasswordType credentials.passwd with
  | .plaintext => true
  | .scramSha256 => credentials.scramPassthroughValid
  | .md5 => false

/-- `login_scram_sha_256`. -/
def loginScramSha256 : ServerLogin × Bool :=
  if !canScram (getSrvPsw env.psw) then (s, false)
  -- duplicate AuthenticationSASL message from server
  else if s.scramState.clientNonce.isSome then (s, false)
  else
    let (st, message) := buildClientFirstMessage s.scramState env.rawNonce
    ({ s.reply (.saslInitialResponse scramSha256Name message) with
        scramState := st
        exchange := some { clientNonce := Base64.encode env.rawNonce } }, env.replySent)

/-- `login_scram_sha_256_cont`. -/
def loginScramSha256Cont (data : Bytes) : ServerLogin × Bool :=
  if s.scramState.clientNonce.isNone || s.scramState.serverFirstMessage.isSome then (s, false)
  else
    match readServerFirstMessage s.scramState (cString data) with
    | none => (s, false)
    | some st =>
      match buildClientFinalMessage c st (getSrvPsw env.psw) with
      | none => (s, false)
      | some (st, message) =>
        ({ s.reply (.saslResponse message) with scramState := st }, env.replySent)

/-- `login_scram_sha_256_final`. -/
def loginScramSha256Final (data : Bytes) : ServerLogin × Bool :=
  if s.scramState.serverFirstMessage.isNone then (s, false)
  else
    match readServerFinalMessage (cString data) with
    | none => (s, false)
    | some signature =>
      if verifyServerSignature c s.scramState (getSrvPsw env.psw) signature then
        ({ s with exchange := s.exchange.map fun e =>
            { e with accepted := some ⟨s.scramState, getSrvPsw env.psw, signature⟩ } }, true)
      else (s, false)

/-- `answer_authreq`. -/
def answerAuthreq (body : Bytes) : ServerLogin × Bool :=
  match getUint32be body with
  | none => (s, false)
  | some (cmd, data) =>
    if cmd = authReqOk then (s, true)
    else if cmd = authReqPassword then s.loginClearPsw env
    else if cmd = authReqMd5 then
      if data.length < 4 then (s, false) else s.loginMd5Psw c env (data.take 4)
    else if cmd = authReqSasl then
      match selectMechanism (data.length + 1) data with
      | some true => s.loginScramSha256 env
      | _ => (s, false)
    else if cmd = authReqSaslCont then s.loginScramSha256Cont c env data
    else if cmd = authReqSaslFin then
      let (s, res) := s.loginScramSha256Final c env data
      ({ s with scramState := {} }, res)
    else (s, false)

/-- `disconnect_server`. -/
def disconnect : ServerLogin := { s with state := .closed }

/-- The end of `handle_server_startup` for ReadyForQuery. -/
def loginOk : ServerLogin := { s with state := .ready }

/-- `load_parameter`, as far as it can fail. -/
def loadParameter (body : Bytes) : ServerLogin :=
  match getString body with
  | some (_, rest) => if (getString rest).isSome then s else s.disconnect
  | none => s.disconnect

/-- `handle_server_startup`. -/
def handleServerStartup : StartupMsg → ServerLogin
  | .parameterStatus body => s.loadParameter body
  | .readyForQuery =>
    if s.execOnConnect then { s with execOnConnect := false }.loginOk
    else
      match env.connectQuery with
      | some sql =>
        let s := { s with execOnConnect := true }.reply (.query sql)
        if env.replySent then s else s.disconnect
      | none => s.loginOk
  | msg =>
    -- most of what happens during connect_query is ignored
    if s.execOnConnect then s
    else
      match msg with
      | .authenticationRequest body =>
        let (s, res) := s.answerAuthreq c env body
        if res then s else s.disconnect
      | .backendKeyData body =>
        if body.length < backendkeyLen then s.disconnect
        else { s with cancelKey := body.take backendkeyLen }
      | .noticeResponse => s
      | _ => s.disconnect

/-- A message is handled if the login is under way. -/
def step (e : StartupMsg × SrvEnv) : Option ServerLogin :=
  if s.state = .login then some (s.handleServerStartup c e.2 e.1) else none

/-- A sequence of messages. -/
def run (es : List (StartupMsg × SrvEnv)) : Option ServerLogin := Run.exec (step c) s es

end ServerLogin

end PgBouncer
