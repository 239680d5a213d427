/-
All clients of one pgbouncer on their way in, and what can happen to them.

Sockets live in slots that are used again, which is why the requests to the PAM and
LDAP threads carry the time of the connection they were made for.  Every connection is
accepted at a time of its own.

The configuration does not change.  The auth_file does: it is read again whenever an
event says so.
-/
import PgBouncer.Auth.Login
import PgBouncer.Lib.Run

namespace PgBouncer

/-- Everything a login can depend on. -/
structure LoginWorld where
  clients : Nat → PgSocket := fun _ => {}
  users : Users
  dbAuthUser : List Bytes := []
  queue : List AuthRequest := []
  now : Nat := 0
  died : Bool := false

/-- What can happen next.  A number is the slot of a client. -/
inductive LoginEvent
  | accept (i : Nat) (connection : Connection)
  /-- A complete packet gets to the handler. -/
  | packet (i : Nat) (pkt : LoginPkt) (env : Env)
  /-- A packet gets to the handler that has not been received completely. -/
  | incomplete (i : Nat)
  /-- `activate_client`: what the client waited for is there. -/
  | activate (i : Nat)
  /-- A logged-in client has to wait for a server. -/
  | wait (i : Nat)
  /-- A DataRow of the auth_query: user name and password, each of them or NULL. -/
  | authRow (i : Nat) (username password : Option Bytes) (env : Env)
  /-- A message of the auth_query that carries nothing for the login. -/
  | authNotice (i : Nat)
  /-- The ReadyForQuery of the auth_query. -/
  | authReady (i : Nat)
  /-- The auth_query fails, or its server is lost. -/
  | authError (i : Nat) (reason : Bytes)
  /-- The thread has looked at its next request. -/
  | checked (checker : Checker) (ok : Bool)
  /-- `pam_poll` or `ldap_poll` gets to a request. -/
  | poll (checker : Checker)
  /-- The client is closed for a reason of its own, a timeout or the console. -/
  | close (i : Nat) (reason : Bytes)
  | free (i : Nat)
  | loadAuthFile (file : Bytes)

namespace LoginWorld

variable (cfg : AuthConfig) (c : Crypto) (w : LoginWorld)

/-- The view a handler has when it works for the client in slot `i`. -/
def ctx (i : Nat) : LoginCtx :=
  { slot := i, client := w.clients i, users := w.users, dbAuthUser := w.dbAuthUser,
    queue := w.queue, died := w.died }

/-- What a handler leaves behind. -/
def put (x : LoginCtx) : LoginWorld :=
  { w with
    clients := Function.update w.clients x.slot x.client
    users := x.users
    dbAuthUser := x.dbAuthUser
    queue := x.queue
    died := x.died }

def modify (i : Nat) (f : PgSocket → PgSocket) : LoginWorld :=
  { w with clients := Function.update w.clients i (f (w.clients i)) }

/-- `in_connection_startup_phase`. -/
def inStartupPhase (cl : PgSocket) : Bool :=
  cl.state = .login || (cl.state = .active && cl.waitForWelcome)

/-- A client whose auth_query is running. -/
def awaitsRows (cl : PgSocket) : Bool :=
  cl.state = .login && cl.waitForUser && cl.paused

/-- A packet is handled; if the handler says so it stays. -/
def packetStep (i : Nat) (pkt : LoginPkt) (env : Env) : Option LoginWorld :=
  let cl := w.clients i
  if inStartupPhase cl && !cl.paused && (cl.pending.all (· = pkt)) then
    let r := LoginCtx.handleClientStartup cfg c env (w.ctx i) pkt
    some (w.put (r.1.update fun cl => { cl with pending := if r.2 then none else some pkt }))
  else none

/-- A field of a row, as it fits into a field of a `PgCredentials`. -/
def rowField (size : Nat) (field : Bytes) : Bytes := cString (field.take (size - 1))

/-- The password that stands for NULL. -/
def nullPassword : Bytes := md5Prefix

/-- `handle_auth_query_response` for a DataRow. -/
def authRowStep (i : Nat) (username password : Option Bytes) (env : Env) : Option LoginWorld :=
  if awaitsRows (w.clients i) then
    match username, (w.clients i).db with
    -- the user does not exist
    | none, _ => some w
    | some _, none => some { w with died := true }
    | some username, some db =>
      let name := rowField maxUsername username
      let passwd := rowField maxPassword (password.getD nullPassword)
      let users := w.users.addDynamicCredentials db.name name passwd
      let x := { w.ctx i with users }.setLoginUser (some (.stored (.dynamic db.name name)))
      some (w.put (LoginCtx.checkUserConnectionCount cfg env x db).1)
  else none

/-- `handle_auth_query_response` for the ReadyForQuery. -/
def authReadyStep (i : Nat) : Option LoginWorld :=
  if awaitsRows (w.clients i) then
    if (w.clients i).loginUser.isNone then some (w.put ((w.ctx i).disconnect (text "no such user")))
    else some (w.modify i fun cl => { cl with paused := false })
  else none

/-- `is_valid_socket`. -/
def isValidSocket (request : AuthRequest) : Bool :=
  (w.clients request.client).state = .login &&
    (w.clients request.client).connectTime = request.connectTime

/-- Write the password of the login user. -/
def setLoginPasswd (x : LoginCtx) (passwd : Bytes) : LoginCtx :=
  match x.client.loginUser with
  | some (.stored r) => { x with users := x.users.modify r fun u => u.setPasswd passwd }
  | some (.mock u) => x.setLoginUser (some (.mock (u.setPasswd passwd)))
  | none => x.die

/-- `pam_auth_finish` and `ldap_auth_finish`. -/
def authFinish (request : AuthRequest) : LoginWorld :=
  let x := w.ctx request.client
  if request.status = .success then
    w.put ((setLoginPasswd x request.password).update fun cl =>
      { cl with paused := false, granted := some request })
  else w.put (x.disconnect request.checker.failure)

/-- The next request of a thread, without it the rest of the queue. -/
def takeRequest (checker : Checker) : List AuthRequest → Option (AuthRequest × List AuthRequest)
  | [] => none
  | request :: rest =>
    if request.checker = checker then some (request, rest)
    else (takeRequest checker rest).map fun x => (x.1, request :: x.2)

/-- A turn of the loop in `pam_poll` or `ldap_poll`. -/
def pollStep (checker : Checker) : Option LoginWorld :=
  match takeRequest checker w.queue with
  | none => none
  | some (request, rest) =>
    if request.status = .inProgress then none
    else
      let w := { w with queue := rest }
      some (if w.isValidSocket request then w.authFinish request else w)

/-- A turn of the loop in `pam_auth_worker` or `ldap_auth_worker`: the first request that
is in progress gets its result. -/
def checkRequest (checker : Checker) (ok : Bool) : List AuthRequest → Option (List AuthRequest)
  | [] => none
  | request :: rest =>
    if request.checker = checker ∧ request.status = .inProgress then
      some ({ request with status := if ok then .success else .failed } :: rest)
    else (checkRequest checker ok rest).map (request :: ·)

/-- One event. -/
def step (e : LoginEvent) : Option LoginWorld :=
  if w.died then none
  else
    match e with
    | .accept i connection =>
      if (w.clients i).state = .free then
        some { w.modify i fun _ => { state := .login, connection, connectTime := w.now } with
          now := w.now + 1 }
      else none
    | .packet i pkt env => w.packetStep cfg c i pkt env
    | .incomplete i =>
      if inStartupPhase (w.clients i) && !(w.clients i).paused then some w else none
    | .activate i =>
      match (w.clients i).state with
      | .waiting => some (w.modify i fun cl => { cl with state := .active, paused := false })
      | .waitingLogin => some (w.modify i fun cl => { cl with state := .login, paused := false })
      | _ => none
    | .wait i =>
      if (w.clients i).state = .active && !(w.clients i).waitForWelcome then
        some (w.modify i fun cl => { cl with state := .waiting, paused := true })
      else none
    | .authRow i username password env => w.authRowStep cfg i username password env
    | .authNotice i => if awaitsRows (w.clients i) then some w else none
    | .authReady i => w.authReadyStep i
    | .authError i reason =>
      if awaitsRows (w.clients i) then some (w.put ((w.ctx i).disconnect reason)) else none
    | .checked checker ok =>
      (checkRequest checker ok w.queue).map fun queue => { w with queue }
    | .poll checker => w.pollStep checker
    | .close i reason =>
      match (w.clients i).state with
      | .free | .justFree => none
      | _ => some (w.put ((w.ctx i).disconnect reason))
    | .free i =>
      if (w.clients i).state = .justFree then some (w.modify i fun _ => {}) else none
    | .loadAuthFile file => some { w with users := w.users.loadAuthFile file }

/-- A sequence of events. -/
abbrev run : LoginWorld → List LoginEvent → Option LoginWorld := Run.exec (step cfg c)

end LoginWorld

end PgBouncer
