/-
What the functions of a login can do to a client.

Every way through `handle_client_startup` ends in one of four places: the client is
closed, it is asked for a password, it waits for something, or `finish_client_login` is
called.  The lemmas here say which, one function at a time, so that nothing later has to
look into them again.

`Shut` is the first: the client has been closed, or the process has died, without the
client having become active on the way.
-/
import PgBouncer.Proofs.LoginFrame

namespace PgBouncer

namespace LoginCtx

/-- The client is closed, or the process has died, and the client did not become active. -/
structure Shut (x y : LoginCtx) : Prop where
  closed : y.died = true ∨ y.client.state = .justFree
  wasActive : y.client.wasActive = x.client.wasActive

variable {x : LoginCtx}

theorem Shut.of_eq {x' y : LoginCtx} (h : Shut x' y)
    (heq : x'.client.wasActive = x.client.wasActive) : Shut x y :=
  ⟨h.closed, h.wasActive.trans heq⟩

theorem disconnect_shut (x : LoginCtx) (reason : Bytes) (notify : Bool) :
    Shut x (x.disconnect reason notify) := by
  unfold disconnect
  split
  · exact ⟨.inl rfl, rfl⟩
  · exact ⟨.inl rfl, rfl⟩
  · cases notify <;> exact ⟨.inr rfl, rfl⟩

theorem fail_shut (x : LoginCtx) (reason : Bytes) (notify : Bool) :
    Shut x (x.fail reason notify).1 :=
  disconnect_shut x reason notify

theorem die_shut (x : LoginCtx) : Shut x x.die := ⟨.inl rfl, rfl⟩

theorem andThen_cases {r : LoginCtx × Bool} {next : LoginCtx → LoginCtx × Bool}
    (h : r = (x, true) ∨ (Shut x r.1 ∧ r.2 = false)) :
    andThen r next = next x ∨ (andThen r next = (r.1, false) ∧ Shut x r.1) := by
  rcases h with rfl | ⟨hshut, hfalse⟩
  · exact .inl rfl
  · refine .inr ⟨?_, hshut⟩
    rw [andThen, hfalse]
    rfl

/-! ### The end of a login -/

/-- Where `finish_client_login` leaves a client: the process is dead, or the client is
closed, active or waiting. -/
def Settled (y : LoginCtx) : Prop :=
  y.died = true ∨ y.client.state = .justFree ∨ y.client.state = .active ∨
    y.client.state = .waiting

theorem Shut.settled {y : LoginCtx} (h : Shut x y) : Settled y :=
  h.closed.imp_right .inl

theorem pauseClient_active {env : Env} (h : x.client.state = .active) :
    Settled (x.pauseClient env) ∧
      (x.pauseClient env).client.wasActive = x.client.wasActive := by
  unfold pauseClient
  split
  · have hshut := disconnect_shut x (text "server shutting down") true
    exact ⟨hshut.settled, hshut.wasActive⟩
  · exact ⟨by simp [Settled, update, h], rfl⟩

theorem welcomeOrWait_active (env : Env) (h : x.client.state = .active) :
    Settled (x.welcomeOrWait env).1 ∧
      (x.welcomeOrWait env).1.client.wasActive = x.client.wasActive := by
  unfold welcomeOrWait
  dsimp only
  split
  · unfold welcomeClient
    split
    · exact ⟨.inr (.inr (.inl h)), rfl⟩
    · exact ⟨(fail_shut _ _ _).settled, (fail_shut _ _ _).wasActive⟩
  · exact pauseClient_active (x := update (update x _) _) h

/-- **Whom `finish_client_login` lets in.**  A client of `CL_LOGIN` is shut out or has
become active; in the second case its database exists. -/
theorem finishClientLogin_login (env : Env) (h : x.client.state = .login) :
    Shut x (x.finishClientLogin env).1 ∨
      (Settled (x.finishClientLogin env).1 ∧
        (x.finishClientLogin env).1.client.wasActive = true ∧
        ∃ db, x.client.db = some db ∧ db.fake = false) := by
  unfold finishClientLogin
  split
  · exact .inl (die_shut x)
  rename_i db hdb
  by_cases hfake : db.fake = true
  · rw [if_pos hfake]
    exact .inl (fail_shut _ _ _)
  rw [if_neg hfake]
  by_cases hdisabled : db.dbDisabled = true
  · rw [if_pos hdisabled]
    exact .inl (fail_shut _ _ _)
  rw [if_neg hdisabled]
  by_cases hshutdown : (env.shutdown && db.name != pgbouncerName) = true
  · rw [if_pos hshutdown]
    exact .inl (fail_shut _ _ _)
  rw [if_neg hshutdown]
  refine .inr ?_
  simp only [h]
  have hact : x.activateLogin.client.state = .active ∧
      x.activateLogin.client.wasActive = true := by
    unfold activateLogin
    dsimp only
    split <;> exact ⟨rfl, rfl⟩
  split
  · rename_i hdied
    exact ⟨.inl hdied, hact.2, ⟨db, hdb, by simpa using hfake⟩⟩
  · have hwelcome := welcomeOrWait_active env hact.1
    exact ⟨hwelcome.1, hwelcome.2.trans hact.2, ⟨db, hdb, by simpa using hfake⟩⟩

/-- A client that has been let in before stays so. -/
theorem finishClientLogin_active (env : Env) (h : x.client.state = .active) :
    Settled (x.finishClientLogin env).1 ∧
      (x.finishClientLogin env).1.client.wasActive = x.client.wasActive := by
  unfold finishClientLogin
  split
  · exact ⟨(die_shut x).settled, rfl⟩
  · repeat' split
    all_goals first
      | exact ⟨(fail_shut _ _ _).settled, (fail_shut _ _ _).wasActive⟩
      | exact welcomeOrWait_active env h
      | (rename_i hstate; exact absurd (h.symm.trans hstate) (by decide))
      | exact ⟨(die_shut x).settled, rfl⟩

/-- Nobody else is let in. -/
theorem finishClientLogin_justFree (env : Env) (h : x.client.state = .justFree) :
    Shut x (x.finishClientLogin env).1 := by
  unfold finishClientLogin
  split
  · exact die_shut x
  · repeat' split
    all_goals first
      | exact fail_shut _ _ _
      | exact die_shut x
      | (rename_i hstate; exact absurd (h.symm.trans hstate) (by decide))

/-! ### `finish_set_pool` -/

variable {cfg : AuthConfig}

/-- What `finish_set_pool` has found out when it gets to the method. -/
structure Resolution where
  user : LoginUser
  creds : Credentials
  db : PgDatabase
  adminUser : Bool

/-- The client of `finish_set_pool` when it gets to the method. -/
def resolve (x : LoginCtx) (s : Resolution) : LoginCtx :=
  x.update fun cl =>
    { cl with
      startupMessageReceived := true
      pool := poolFor s.db s.creds s.user cl.pool
      adminUser := s.adminUser }

/-- What was found out is so. -/
structure Resolved (cfg : AuthConfig) (x : LoginCtx) (s : Resolution) : Prop where
  user : x.client.loginUser = some s.user
  creds : x.loginCredentials = some s.creds
  db : x.client.db = some s.db
  /-- Administrators are those the hook before has made so, and the members of
  `admin_users`. -/
  adminUser : s.adminUser = true →
    x.client.adminUser = true ∨ (cfg.authType ≠ .any ∧ cfg.isAdminUser s.creds.name = true)
  /-- The console is for administrators and `stats_users`. -/
  console : (x.resolve s).client.pool.map (·.db.admin) = some true →
    cfg.authType = .any ∨ s.adminUser = true ∨ cfg.isStatsUser s.creds.name = true

/-- The method needs no answer of the client. -/
inductive AtOnce (cl : PgSocket) (creds : Credentials) (rule : Option HbaRule) : AuthType → Prop
  | any : AtOnce cl creds rule .any
  | trust (real : creds.mockAuth = false) : AtOnce cl creds rule .trust
  | cert (vouches : Bytes → Bool) (tls : cl.tls = true)
      (shown : cl.connection.peerCert = some vouches) (real : creds.mockAuth = false)
      (named : identMatch vouches creds.name (rule.bind (·.identmap)) = true) :
      AtOnce cl creds rule .cert
  | peer (unix : cl.connection.remoteAddr.isUnix = true) (real : creds.mockAuth = false)
      (named : identMatch cl.connection.peerNames.contains creds.name
        (rule.bind (·.identmap)) = true) :
      AtOnce cl creds rule .peer

/-- The method asks the client for a password. -/
def AsksPassword (auth : AuthType) : Prop :=
  auth = .plain ∨ auth = .ldap ∨ auth = .md5 ∨ auth = .pam ∨ auth = .scramSha256

/-- The ways out of `finish_set_pool`. -/
inductive FinishSetPool (cfg : AuthConfig) (env : Env) (x : LoginCtx) : LoginCtx × Bool → Prop
  | shut {r : LoginCtx × Bool} (h : Shut x r.1) : FinishSetPool cfg env x r
  /-- The user pgbouncer runs as. -/
  | own (s : Resolution) (hs : Resolved cfg x s) (own : x.client.ownUser = true) :
      FinishSetPool cfg env x ((x.resolve s).finishClientLogin env)
  | finish (s : Resolution) (hs : Resolved cfg x s) (notOwn : x.client.ownUser = false)
      (auth : AuthType) (rule : Option HbaRule)
      (method : authMethod cfg x.client s.db s.creds = .ok (auth, rule))
      (ok : AtOnce x.client s.creds rule auth) :
      FinishSetPool cfg env x
        (((x.resolve s).update fun cl => { cl with clientAuthType := auth }).finishClientLogin env)
  | asked (s : Resolution) (hs : Resolved cfg x s) (notOwn : x.client.ownUser = false)
      (auth : AuthType) (rule : Option HbaRule)
      (method : authMethod cfg x.client s.db s.creds = .ok (auth, rule))
      (asks : AsksPassword auth) (alive : x.client.state ≠ .justFree) (salt : Bytes)
      (sent : List LoginMsg) :
      FinishSetPool cfg env x
        ((x.resolve s).update fun cl =>
          { cl with clientAuthType := auth, tmpLoginSalt := salt, sent := sent }, true)

theorem adminPostLogin_cases (x : LoginCtx) (username : Bytes) :
    (∃ admin, adminPostLogin cfg x username =
        (x.update fun cl => { cl with adminUser := admin }, true) ∧
      (admin = true → x.client.adminUser = true ∨
        (cfg.authType ≠ .any ∧ cfg.isAdminUser username = true)) ∧
      (cfg.authType = .any ∨ admin = true ∨ cfg.isStatsUser username = true)) ∨
    (Shut x (adminPostLogin cfg x username).1 ∧ (adminPostLogin cfg x username).2 = false) := by
  unfold adminPostLogin
  by_cases hany : cfg.authType = .any
  · rw [if_pos hany]
    exact .inl ⟨x.client.adminUser, rfl, .inl, .inl hany⟩
  rw [if_neg hany]
  by_cases hadmin : (x.client.adminUser || cfg.isAdminUser username) = true
  · rw [if_pos hadmin]
    refine .inl ⟨true, rfl, fun _ => ?_, .inr (.inl rfl)⟩
    simpa [hany] using hadmin
  rw [if_neg hadmin]
  by_cases hstats : cfg.isStatsUser username = true
  · rw [if_pos hstats]
    exact .inl ⟨x.client.adminUser, rfl, .inl, .inr (.inr (by simpa using hstats))⟩
  · rw [if_neg hstats]
    exact .inr ⟨fail_shut _ _ _, rfl⟩

theorem sendClientAuthreq_cases (env : Env) (h : AsksPassword x.client.clientAuthType) :
    Shut x (x.sendClientAuthreq env).1 ∨
    (x.client.state ≠ .justFree ∧ ∃ salt sent, x.sendClientAuthreq env =
      (x.update fun cl => { cl with tmpLoginSalt := salt, sent := sent }, true)) := by
  have hsend : ∀ (y : LoginCtx) (m : LoginMsg) (salt : Bytes),
      y = (x.update fun cl => { cl with tmpLoginSalt := salt }) →
      Shut x (if (env.replySent && y.client.state != .justFree) = true then (y.send m, true)
        else y.fail (text "failed to send auth req") false).1 ∨
      (x.client.state ≠ .justFree ∧ ∃ salt sent,
        (if (env.replySent && y.client.state != .justFree) = true then (y.send m, true)
          else y.fail (text "failed to send auth req") false) =
        (x.update fun cl => { cl with tmpLoginSalt := salt, sent := sent }, true)) := by
    rintro y m salt rfl
    split
    · rename_i hok
      refine .inr ⟨?_, salt, x.client.sent ++ [m], rfl⟩
      simpa [update] using (Bool.and_eq_true_iff.mp hok).2
    · exact .inl ((fail_shut _ _ _).of_eq rfl)
  unfold sendClientAuthreq
  dsimp only
  rcases h with h | h | h | h | h <;> rw [h]
  · exact hsend x _ x.client.tmpLoginSalt rfl
  · exact hsend x _ x.client.tmpLoginSalt rfl
  · exact hsend _ _ env.loginSalt rfl
  · exact hsend x _ x.client.tmpLoginSalt rfl
  · exact hsend x _ x.client.tmpLoginSalt rfl

variable (env : Env) (x : LoginCtx) (db : PgDatabase) (dbname username : Bytes)

theorem startMethod_cases (creds : Credentials) (auth : AuthType) (rule : Option HbaRule) :
    Shut x (x.startMethod env creds auth rule).1 ∨
    (AtOnce x.client creds rule auth ∧ x.startMethod env creds auth rule =
      (x.update fun cl => { cl with clientAuthType := auth }).finishClientLogin env) ∨
    (AsksPassword auth ∧ x.client.state ≠ .justFree ∧ ∃ salt sent,
      x.startMethod env creds auth rule = (x.update fun cl =>
        { cl with clientAuthType := auth, tmpLoginSalt := salt, sent := sent }, true)) := by
  by_cases hasks : AsksPassword auth
  · have heq : x.startMethod env creds auth rule =
        (x.update fun cl => { cl with clientAuthType := auth }).sendClientAuthreq env := by
      rcases hasks with rfl | rfl | rfl | rfl | rfl <;> rfl
    rw [heq]
    rcases sendClientAuthreq_cases env (x := x.update fun cl => { cl with clientAuthType := auth })
      hasks with hshut | ⟨hstate, salt, sent, hsent⟩
    · exact .inl (hshut.of_eq rfl)
    · exact .inr (.inr ⟨hasks, hstate, salt, sent, hsent⟩)
  cases auth with
  | any => exact .inr (.inl ⟨.any, rfl⟩)
  | trust =>
    cases hmock : creds.mockAuth with
    | true =>
      refine .inl ?_
      simp only [startMethod, hmock, if_true]
      exact (fail_shut _ _ _).of_eq rfl
    | false =>
      refine .inr (.inl ⟨.trust hmock, ?_⟩)
      simp [startMethod, hmock]
  | plain | ldap | md5 | pam | scramSha256 => exact absurd (by simp [AsksPassword]) hasks
  | cert =>
    cases hcert : x.client.connection.peerCert with
    | none =>
      refine .inl ?_
      simp only [startMethod, loginViaCert, update, hcert]
      exact (fail_shut _ _ _).of_eq rfl
    | some vouches =>
      by_cases hok : (x.client.tls && !creds.mockAuth &&
          identMatch vouches creds.name (rule.bind (·.identmap))) = true
      · refine .inr (.inl ⟨?_, by
          simp only [startMethod, loginViaCert, update, hcert, hok, if_true]⟩)
        simp only [Bool.and_eq_true, Bool.not_eq_true'] at hok
        exact .cert vouches hok.1.1 hcert hok.1.2 hok.2
      · refine .inl ?_
        simp only [startMethod, loginViaCert, update, hcert, hok]
        exact (fail_shut _ _ _).of_eq rfl
  | peer =>
    by_cases hok : (x.client.connection.remoteAddr.isUnix && !creds.mockAuth &&
        identMatch x.client.connection.peerNames.contains creds.name
          (rule.bind (·.identmap))) = true
    · refine .inr (.inl ⟨?_, by simp only [startMethod, loginAsUnixPeer, update, hok, if_true]⟩)
      simp only [Bool.and_eq_true, Bool.not_eq_true'] at hok
      exact .peer hok.1.1 hok.1.2 hok.2
    · refine .inl ?_
      simp only [startMethod, loginAsUnixPeer, update, hok]
      exact (fail_shut _ _ _).of_eq rfl
  | hba => exact .inl ((fail_shut _ _ _).of_eq rfl)
  | reject => exact .inl ((fail_shut _ _ _).of_eq rfl)

theorem checkConsole_cases (user : LoginUser) (creds : Credentials)
    (db : PgDatabase) (huser : x.client.loginUser = some user)
    (hcreds : x.loginCredentials = some creds) (hdb : x.client.db = some db) :
    (∃ admin, checkConsole cfg (x.withPool db creds user) creds.name =
        (x.resolve ⟨user, creds, db, admin⟩, true) ∧ Resolved cfg x ⟨user, creds, db, admin⟩) ∨
    (Shut x (checkConsole cfg (x.withPool db creds user) creds.name).1 ∧
      (checkConsole cfg (x.withPool db creds user) creds.name).2 = false) := by
  unfold checkConsole
  split
  · rcases @adminPostLogin_cases cfg (x.withPool db creds user) creds.name with
      ⟨admin, heq, hadmin, hconsole⟩ | ⟨hshut, hfalse⟩
    · exact .inl ⟨admin, heq, ⟨huser, hcreds, hdb, hadmin, fun _ => hconsole⟩⟩
    · exact .inr ⟨hshut.of_eq rfl, hfalse⟩
  · rename_i hconsole
    refine .inl ⟨x.client.adminUser, rfl, ⟨huser, hcreds, hdb, .inl, fun h => ?_⟩⟩
    have hpool : (x.withPool db creds user).client.pool.map (·.db.admin) = some true := h
    rw [hpool] at hconsole
    exact absurd rfl hconsole

/-- **The ways out of `finish_set_pool`.** -/
theorem finishSetPool_cases : FinishSetPool cfg env x (finishSetPool cfg env x) := by
  unfold finishSetPool
  split
  · rename_i user creds db huser hcreds hdb
    rcases @checkConsole_cases cfg x user creds db huser hcreds hdb with
      ⟨admin, heq, hres⟩ | ⟨hshut, hfalse⟩
    · simp only [heq, andThen, if_true]
      split
      · rename_i hown
        exact .own _ hres hown
      · rename_i hown
        have hnotOwn : x.client.ownUser = false := by simpa [resolve, update] using hown
        split
        · exact .shut ((fail_shut _ _ _).of_eq rfl)
        · rename_i auth rule hmethod
          have hmethod' : authMethod cfg x.client db creds = .ok (auth, rule) := hmethod
          rcases startMethod_cases env (x.resolve ⟨user, creds, db, admin⟩) creds auth rule with
            hshut | ⟨hat, heq⟩ | ⟨hasks, halive, salt, sent, heq⟩
          · exact .shut (hshut.of_eq rfl)
          · rw [heq]
            refine .finish _ hres hnotOwn auth rule hmethod' ?_
            cases hat with
            | any => exact .any
            | trust real => exact .trust real
            | cert names tls shown real named => exact .cert names tls shown real named
            | peer unix real named => exact .peer unix real named
          · rw [heq]
            exact .asked _ hres hnotOwn auth rule hmethod' hasks halive salt sent
    · rw [andThen, hfalse]
      exact .shut hshut
  · exact .shut (die_shut x)

theorem finishSetPool_justFree (h : x.client.state = .justFree) :
    Shut x (finishSetPool cfg env x).1 := by
  have hcases := @finishSetPool_cases cfg env x
  generalize finishSetPool cfg env x = r at hcases
  cases hcases with
  | shut hshut => exact hshut
  | own s hs own => exact (finishClientLogin_justFree env (x := x.resolve s) h).of_eq rfl
  | finish s hs notOwn auth rule method ok =>
    exact (finishClientLogin_justFree env
      (x := (x.resolve s).update fun cl => { cl with clientAuthType := auth }) h).of_eq rfl
  | asked s hs notOwn auth rule method asks alive salt sent => exact absurd h alive

/-! ### `set_pool` -/

theorem checkDbConnectionCount_cases : checkDbConnectionCount cfg env x db = (x, true) ∨
    (Shut x (checkDbConnectionCount cfg env x db).1 ∧
      (checkDbConnectionCount cfg env x db).2 = false) := by
  unfold checkDbConnectionCount
  dsimp only
  repeat' split
  all_goals first
    | exact .inl rfl
    | exact .inr ⟨fail_shut _ _ _, rfl⟩
    | exact .inr ⟨die_shut x, rfl⟩

theorem checkUserConnectionCount_cases : checkUserConnectionCount cfg env x db = (x, true) ∨
    (Shut x (checkUserConnectionCount cfg env x db).1 ∧
      (checkUserConnectionCount cfg env x db).2 = false) := by
  unfold checkUserConnectionCount
  repeat' split
  all_goals first
    | exact .inl rfl
    | exact .inr ⟨fail_shut _ _ _, rfl⟩

/-- The client of `set_pool` with its login user. -/
def choose (users : Users) (dbAuthUser : List Bytes) (user : Option LoginUser)
    (own admin : Bool) : LoginCtx :=
  { x with
    users := users
    dbAuthUser := dbAuthUser
    client := { x.client with loginUser := user, ownUser := own, adminUser := admin } }

/-- No part of the configuration hands the user to LDAP. -/
def NoLdap (cfg : AuthConfig) (cl : PgSocket) (dbname username : Bytes) : Prop :=
  cfg.haveLdap = true →
    checkIfNeedLdapAuthentication cfg cl dbname username = false ∧ cfg.authType ≠ .ldap

/-- Whom `set_pool` takes a client for. -/
inductive Chosen (cfg : AuthConfig) (db : PgDatabase) (dbname username : Bytes) (x : LoginCtx) :
    LoginCtx → Prop
  /-- The user pgbouncer runs as, at the console. -/
  | own (console : db.admin = true) (unix : x.client.connection.remoteAddr.isUnix = true)
      (same : x.client.connection.sameUid = true) (name : username = pgbouncerName) :
      Chosen cfg db dbname username x
        (x.choose x.users x.dbAuthUser (some (.stored (.forced db.name))) true true)
  | anyAdmin (console : db.admin = true) (any : cfg.authType = .any)
      (member : cfg.isAdminUser username = true) :
      Chosen cfg db dbname username x
        (x.choose x.users x.dbAuthUser (some (.stored (.forced db.name))) false true)
  /-- With auth_type=any every client is the user its database forces on it. -/
  | any (any : cfg.authType = .any) :
      Chosen cfg db dbname username x
        (x.choose x.users x.dbAuthUser (some (.stored (.forced db.name))) x.client.ownUser
          x.client.adminUser)
  | ldap (ldap : checkIfNeedLdapAuthentication cfg x.client dbname username = true ∨
        cfg.authType = .ldap) :
      Chosen cfg db dbname username x
        (x.choose (x.users.findOrAddNewGlobalUser username []) x.dbAuthUser
          (some (.stored (.user username))) x.client.ownUser x.client.adminUser)
  | pam (pam : cfg.authType = .pam) :
      Chosen cfg db dbname username x
        (x.choose (x.users.addPamCredentials username) x.dbAuthUser
          (some (.stored (.pam username))) x.client.ownUser x.client.adminUser)
  | known (creds : Credentials) (found : x.users.find (.user username) = some creds)
      (static : creds.dynamicPasswd = false) :
      Chosen cfg db dbname username x
        (x.choose x.users x.dbAuthUser (some (.stored (.user username))) x.client.ownUser
          x.client.adminUser)
  | mock (noLdap : NoLdap cfg x.client dbname username) (noAny : cfg.authType ≠ .any)
      (noPam : cfg.authType ≠ .pam) (noQuery : x.hasAuthUser db = false ∨ db.fake = true) :
      Chosen cfg db dbname username x
        (x.choose (fillAuthUser cfg x db).users (fillAuthUser cfg x db).dbAuthUser
          (some (.mock (mockCredentials username))) x.client.ownUser x.client.adminUser)

/-- The client an auth_query is started for: the user is not known, or the password has to
be fetched. -/
def queried (cfg : AuthConfig) (db : PgDatabase) (username : Bytes) (x : LoginCtx) : LoginCtx :=
  x.choose (fillAuthUser cfg x db).users (fillAuthUser cfg x db).dbAuthUser
    ((x.users.find (.user username)).map fun _ => .stored (.user username)) x.client.ownUser
    x.client.adminUser

/-- The ways out of `set_pool` behind the console's hook. -/
inductive SetPool (cfg : AuthConfig) (env : Env) (db : PgDatabase) (dbname username : Bytes)
    (x : LoginCtx) : LoginCtx × Bool → Prop
  | shut {r : LoginCtx × Bool} (h : Shut x r.1) : SetPool cfg env db dbname username x r
  | chosen (y : LoginCtx) (h : Chosen cfg db dbname username x y) :
      SetPool cfg env db dbname username x (finishSetPool cfg env y)
  | query (real : db.fake = false) (noAny : cfg.authType ≠ .any)
      (has : (queried cfg db username x).hasAuthUser db = true)
      (dynamic : ∀ creds, x.users.find (.user username) = some creds →
        creds.dynamicPasswd = true) :
      SetPool cfg env db dbname username x
        (startAuthQuery cfg env (queried cfg db username x) db, false)

/-- Both checks of `set_pool` go on with the client as it is, or they close it. -/
theorem checkBoth_elim {P : LoginCtx × Bool → Prop} {next : LoginCtx → LoginCtx × Bool}
    (hshut : ∀ r : LoginCtx × Bool, Shut x r.1 → P r) (hnext : P (next x)) :
    P (andThen (checkDbConnectionCount cfg env x db) fun x =>
      andThen (checkUserConnectionCount cfg env x db) next) := by
  rcases andThen_cases (checkDbConnectionCount_cases env x db) with heq | ⟨heq, h⟩
  · rw [heq]
    rcases andThen_cases (checkUserConnectionCount_cases env x db) with heq | ⟨heq, h⟩
    · exact heq ▸ hnext
    · exact heq ▸ hshut _ h
  · exact heq ▸ hshut _ h

theorem setPoolAny_cases (hany : cfg.authType = .any) :
    SetPool cfg env db dbname username x (setPoolAny cfg env x db) := by
  unfold setPoolAny
  split
  · exact .shut (fail_shut _ _ _)
  exact checkBoth_elim (P := SetPool cfg env db dbname username x) env _ db
    (fun _ hshut => .shut (hshut.of_eq rfl)) (.chosen _ (.any hany))

theorem setPoolLdap_cases
    (hldap : checkIfNeedLdapAuthentication cfg x.client dbname username = true ∨
      cfg.authType = .ldap) :
    SetPool cfg env db dbname username x (setPoolLdap cfg env x db username) := by
  unfold setPoolLdap
  split
  · exact .shut (fail_shut _ _ _)
  dsimp only
  rcases andThen_cases (checkUserConnectionCount_cases env _ db) with heq | ⟨heq, hshut⟩
  · rw [heq]
    exact .chosen _ (.ldap hldap)
  · rw [heq]
    exact .shut (hshut.of_eq rfl)

theorem setPoolPam_cases (hpam : cfg.authType = .pam) :
    SetPool cfg env db dbname username x (setPoolPam cfg env x db username) := by
  unfold setPoolPam
  split
  · exact .shut (fail_shut _ _ _)
  exact checkBoth_elim (P := SetPool cfg env db dbname username x) env _ db
    (fun _ hshut => .shut (hshut.of_eq rfl)) (.chosen _ (.pam hpam))

theorem fillAuthUser_setLoginUser (user : Option LoginUser) :
    fillAuthUser cfg (x.setLoginUser user) db =
      x.choose (fillAuthUser cfg x db).users (fillAuthUser cfg x db).dbAuthUser user
        x.client.ownUser x.client.adminUser := by
  unfold fillAuthUser
  cases cfg.authUser with
  | none => rfl
  | some name =>
    have hsame : (x.setLoginUser user).hasAuthUser db = x.hasAuthUser db := rfl
    simp only [hsame]
    split <;> rfl

theorem fillAuthUser_of_hasAuthUser {x : LoginCtx} {db : PgDatabase}
    (h : x.hasAuthUser db = true) : fillAuthUser cfg x db = x := by
  unfold fillAuthUser
  split
  · rw [if_pos h]
  · rfl

theorem setPoolMock_cases (username : Bytes) : Shut x (setPoolMock cfg env x db username).1 ∨
    setPoolMock cfg env x db username =
      finishSetPool cfg env (x.setLoginUser (some (.mock (mockCredentials username)))) := by
  unfold setPoolMock
  rcases andThen_cases (checkDbConnectionCount_cases env _ db) with heq | ⟨heq, hshut⟩
  · rw [heq]
    rcases andThen_cases (checkUserConnectionCount_cases env _ db) with heq | ⟨heq, hshut⟩
    · exact .inr heq
    · exact heq ▸ .inl (hshut.of_eq rfl)
  · exact heq ▸ .inl (hshut.of_eq rfl)

theorem setPoolUser_cases (hldap : NoLdap cfg x.client dbname username) (hany : cfg.authType ≠ .any)
    (hpam : cfg.authType ≠ .pam) :
    SetPool cfg env db dbname username x (setPoolUser cfg env x db username) := by
  unfold setPoolUser
  refine checkBoth_elim (P := SetPool cfg env db dbname username x) env _ db
    (fun _ hshut => .shut (hshut.of_eq rfl)) ?_
  dsimp only
  by_cases hdynamic : ((x.users.find (.user username)).map (·.dynamicPasswd)).getD true = true
  · rw [if_pos hdynamic, fillAuthUser_setLoginUser]
    split
    · rename_i hquery
      simp only [Bool.and_eq_true, Bool.not_eq_true'] at hquery
      refine .query hquery.2 hany hquery.1 fun creds hfound => ?_
      simpa [hfound] using hdynamic
    · rename_i hquery
      rcases @setPoolMock_cases cfg env (queried cfg db username x) db username with hshut | heq
      · exact .shut (hshut.of_eq rfl)
      · refine heq ▸ .chosen _ (.mock hldap hany hpam ?_)
        cases hauth : x.hasAuthUser db with
        | false => exact .inl rfl
        | true =>
          have hsame : ∀ user own admin, (x.choose x.users x.dbAuthUser user own
              admin).hasAuthUser db = true := fun _ _ _ => hauth
          rw [fillAuthUser_of_hasAuthUser hauth] at hquery
          exact .inr (by simpa [hsame] using hquery)
  · rw [if_neg hdynamic]
    cases hfound : x.users.find (.user username) with
    | none => simp [hfound] at hdynamic
    | some creds =>
      exact .chosen _ (.known creds hfound (by simpa [hfound] using hdynamic))

theorem findLoginUser_cases :
    SetPool cfg env db dbname username x (findLoginUser cfg env x db dbname username) := by
  unfold findLoginUser
  split
  · exact .shut (fail_shut _ _ _)
  split
  · rename_i hany
    exact setPoolAny_cases env x db dbname username hany
  rename_i hany
  split
  · rename_i hldap
    refine setPoolLdap_cases env x db dbname username ?_
    simpa using (Bool.and_eq_true_iff.mp hldap).2
  rename_i hldap
  split
  · rename_i hpam
    exact setPoolPam_cases env x db dbname username hpam
  · rename_i hpam
    refine setPoolUser_cases env x db dbname username (fun hhave => ?_) hany hpam
    simpa [hhave] using hldap

theorem adminPreLogin_cases (hadmin : db.admin = true) :
    let x' := x.update fun cl => { cl with adminUser := false, ownUser := false }
    ((adminPreLogin cfg env x db username).2 = true ∧
      Chosen cfg db dbname username x' (adminPreLogin cfg env x db username).1) ∨
    ((adminPreLogin cfg env x db username).2 = false ∧
      Shut x (adminPreLogin cfg env x db username).1) ∨
    adminPreLogin cfg env x db username = (x', false) := by
  intro x'
  have hdone : ∀ (y : LoginCtx) (r : LoginCtx × Bool), Chosen cfg db dbname username x' y →
      y.client.wasActive = x.client.wasActive →
      (r = (y, true) ∨ (Shut y r.1 ∧ r.2 = false)) →
      (r.2 = true ∧ Chosen cfg db dbname username x' r.1) ∨ (r.2 = false ∧ Shut x r.1) ∨
        r = (x', false) := by
    rintro y r hy hwas (rfl | ⟨hshut, hfalse⟩)
    · exact .inl ⟨rfl, hy⟩
    · exact .inr (.inl ⟨hfalse, hshut.of_eq hwas⟩)
  unfold adminPreLogin
  dsimp only
  split
  · rename_i hown
    simp only [Bool.and_eq_true, decide_eq_true_eq] at hown
    exact hdone _ _ (.own hadmin hown.1.1 hown.1.2 hown.2) rfl
      (checkDbConnectionCount_cases env _ db)
  split
  · rename_i hany
    split
    · rename_i hmember
      exact hdone _ _ (.anyAdmin hadmin hany (by simpa using hmember)) rfl
        (checkDbConnectionCount_cases env _ db)
    split
    · rcases andThen_cases (@checkDbConnectionCount_cases cfg env (x'.setLoginUser
        (some (LoginUser.stored (.forced db.name)))) db) with heq | ⟨heq, hshut⟩
      · have hchosen : Chosen cfg db dbname username x' (x'.setLoginUser
            (some (LoginUser.stored (.forced db.name)))) := .any hany
        refine hdone _ _ hchosen rfl ?_
        rw [heq]
        exact checkUserConnectionCount_cases env _ db
      · refine .inr (.inl ?_)
        rw [heq]
        exact ⟨rfl, hshut.of_eq rfl⟩
    · exact .inr (.inr rfl)
  · exact .inr (.inr rfl)

/-- The ways out of `start_auth_query`: the client waits for a server, or for rows. -/
theorem startAuthQuery_cases : Shut x (startAuthQuery cfg env x db) ∨
    (x.client.state = .login ∧ ∃ pool,
      (startAuthQuery cfg env x db = x.update fun cl =>
        { cl with pool := some pool, waitForUserConn := true, state := .waitingLogin,
                  paused := true }) ∨
      (startAuthQuery cfg env x db = x.update fun cl =>
        { cl with pool := some pool, waitForUserConn := false, waitForUser := true,
                  paused := true })) := by
  unfold startAuthQuery
  split
  · exact .inl (disconnect_shut _ _ _)
  rename_i authDb hauth
  dsimp only
  split
  · exact .inl ((die_shut _).of_eq rfl)
  rename_i hlogin
  have hstate : x.client.state = .login := by simpa [update] using hlogin
  split
  · exact .inl ((disconnect_shut _ _ _).of_eq rfl)
  · unfold pauseClient
    split
    · exact .inl ((disconnect_shut _ _ _).of_eq rfl)
    · refine .inr ⟨hstate, ⟨authDb, .user (authUserOf cfg db)⟩, .inl ?_⟩
      simp [update, hstate]
  · split
    · exact .inr ⟨hstate, ⟨authDb, .user (authUserOf cfg db)⟩, .inr rfl⟩
    · exact .inl ((disconnect_shut _ _ _).of_eq rfl)

/-- The client of `set_pool` with its database; at the console the hook has forgotten who
it was taken for before. -/
def withDb : LoginCtx :=
  x.update fun cl =>
    { cl with
      db := some db
      adminUser := cl.adminUser && !db.admin
      ownUser := cl.ownUser && !db.admin }

theorem setPoolConsole_cases (hadmin : db.admin = true) : SetPool cfg env db dbname username
      (x.update fun cl => { cl with adminUser := false, ownUser := false })
      (setPoolConsole cfg env x db dbname username) := by
  have hpre := @adminPreLogin_cases cfg env x db dbname username hadmin
  unfold setPoolConsole
  dsimp only at hpre ⊢
  rcases hpre with ⟨htrue, hchosen⟩ | ⟨hfalse, hshut⟩ | heq
  · rw [if_pos htrue]
    exact .chosen _ hchosen
  · rw [if_neg (by rw [hfalse]; exact Bool.false_ne_true)]
    generalize (adminPreLogin cfg env x db username).1 = y at *
    split
    · exact .shut (hshut.of_eq rfl)
    rename_i halive
    have hstate : y.client.state = .justFree := hshut.closed.resolve_left halive
    have hwas : y.client.wasActive = x.client.wasActive := hshut.wasActive
    -- the client is closed already, so whatever comes next ends the process
    have hcases := @findLoginUser_cases cfg env y db dbname username
    generalize findLoginUser cfg env y db dbname username = r at *
    cases hcases with
    | shut h => exact .shut (h.of_eq hwas)
    | chosen z hz =>
      refine .shut ((finishSetPool_justFree env (x := z) ?_).of_eq ?_)
      · cases hz <;> exact hstate
      · cases hz <;> exact hwas
    | query =>
      rcases @startAuthQuery_cases cfg env (queried cfg db username y) db with
        h | ⟨h, -⟩
      · exact .shut (h.of_eq hwas)
      · exact absurd (hstate.symm.trans h) (by decide)
  · rw [heq]
    simp only [Bool.false_eq_true, if_false]
    split
    · exact .shut ⟨.inl (by assumption), rfl⟩
    · exact findLoginUser_cases env _ _ dbname username

/-- **The ways out of `set_pool`.** -/
theorem setPool_cases :
    SetPool cfg env (dbOf cfg dbname) dbname username (x.withDb (dbOf cfg dbname))
      (setPool cfg env x dbname username) := by
  unfold setPool
  dsimp only
  cases hadmin : (dbOf cfg dbname).admin with
  | false =>
    have hbase : x.withDb (dbOf cfg dbname) =
        x.update fun cl => { cl with db := some (dbOf cfg dbname) } := by
      simp [withDb, update, hadmin]
    rw [hbase]
    exact findLoginUser_cases env _ _ dbname username
  | true =>
    have hbase : x.withDb (dbOf cfg dbname) =
        (x.update fun cl => { cl with db := some (dbOf cfg dbname) }).update
          fun cl => { cl with adminUser := false, ownUser := false } := by
      simp [withDb, update, hadmin]
    rw [hbase]
    exact setPoolConsole_cases env _ _ dbname username hadmin

/-! ### Packets -/

/-- The client of `decide_startup_pool` when it gets to `set_pool`. -/
def parsed (cfg : AuthConfig) (packet : StartupPacket) (negotiated : Bool) (sent : List LoginMsg)
    (x : LoginCtx) : LoginCtx :=
  x.update fun cl =>
    { cl with
      replication := replicationOf cfg packet cl.replication
      protocolNegotiated := negotiated
      sent := sent }

theorem decideStartupPool_cases (packet : StartupPacket) :
    Shut x (decideStartupPool cfg env x packet).1 ∨
    ∃ negotiated sent, decideStartupPool cfg env x packet =
      setPool cfg env (x.parsed cfg packet negotiated sent) (startupDb packet)
        (startupUser packet) := by
  unfold decideStartupPool
  dsimp only
  split
  · exact .inl ((fail_shut _ _ _).of_eq rfl)
  split
  · exact .inl ((fail_shut _ _ _).of_eq rfl)
  split
  · exact .inl ((fail_shut _ _ _).of_eq rfl)
  split
  · exact .inl ((fail_shut _ _ _).of_eq rfl)
  unfold negotiate
  dsimp only
  split
  · split
    · exact .inr ⟨_, _, rfl⟩
    · exact .inl ((fail_shut _ _ _).of_eq rfl)
  · exact .inr ⟨x.client.protocolNegotiated, x.client.sent, rfl⟩

variable {c : Crypto}

/-- The method of a thread. -/
def methodOf : Checker → AuthType
  | .pam => .pam
  | .ldap => .ldap

/-- The ways out of a PasswordMessage. -/
inductive PasswordMessage (c : Crypto) (env : Env) (x : LoginCtx) (creds : Credentials)
    (body : Bytes) : LoginCtx × Bool → Prop
  | shut {r : LoginCtx × Bool} (h : Shut x r.1) (frame : Frame x r.1) :
      PasswordMessage c env x creds body r
  | ignored : PasswordMessage c env x creds body (x, true)
  | begun (checker : Checker) (passwd rest : Bytes)
      (method : x.client.clientAuthType = methodOf checker)
      (string : getString body = some (passwd, rest)) :
      PasswordMessage c env x creds body (x.authBegin checker creds passwd, false)
  | accepted (passwd rest : Bytes) (string : getString body = some (passwd, rest))
      (ok : checkClientPasswd c creds x.client.clientAuthType x.client.tmpLoginSalt passwd = true) :
      PasswordMessage c env x creds body (x.finishClientLogin env)

theorem passwordMessage_cases (creds : Credentials) (body : Bytes) :
    PasswordMessage c env x creds body (passwordMessage c env x creds body) := by
  unfold passwordMessage
  split
  · exact .ignored
  rename_i passwd rest hstring
  split
  · exact .shut (fail_shut _ _ _) (fail_frame _ _ _)
  split
  · rename_i hauth
    exact .begun .ldap passwd rest hauth hstring
  · rename_i hauth
    exact .begun .pam passwd rest hauth hstring
  · split
    · rename_i hok
      exact .accepted passwd rest hstring hok
    · exact .shut (fail_shut _ _ _) (fail_frame _ _ _)

/-- The ways out of a SASLInitialResponse.  Whatever becomes of the client, the user's keys
may have been cached. -/
inductive SaslInitial (c : Crypto) (env : Env) (x : LoginCtx) (creds : Credentials) :
    LoginCtx × Bool → Prop
  | shut {r : LoginCtx × Bool} (h : Shut x r.1) (frame : Frame x r.1) :
      SaslInitial c env x creds r
  | incomplete : SaslInitial c env x creds (x, false)
  | unsent (data : Bytes) (st : ScramState) (creds' : Credentials)
      (first : scramClientFirst c env.scram creds x.client.scramState data = some (st, creds'))
      {r : LoginCtx × Bool} (h : Shut x r.1) (frame : Frame (x.putCredentials creds') r.1) :
      SaslInitial c env x creds r
  | sent (data : Bytes) (st : ScramState) (creds' : Credentials)
      (first : scramClientFirst c env.scram creds x.client.scramState data = some (st, creds'))
      (sent : List LoginMsg) :
      SaslInitial c env x creds
        ((x.putCredentials creds').update fun cl => { cl with scramState := st, sent := sent },
          true)

theorem putCredentials_client (creds : Credentials) :
    (x.putCredentials creds).client = x.client := by
  unfold putCredentials
  split <;> rfl

theorem saslInitialResponse_cases (creds : Credentials) (body : Bytes) :
    SaslInitial c env x creds (saslInitialResponse c env x creds body) := by
  unfold saslInitialResponse
  split
  · exact .incomplete
  split
  · exact .shut (fail_shut _ _ _) (fail_frame _ _ _)
  split
  · exact .incomplete
  split
  · exact .shut (fail_shut _ _ _) (fail_frame _ _ _)
  rename_i st creds' hfirst
  dsimp only
  split
  · exact .sent _ st creds' hfirst _
  · refine .unsent _ st creds' hfirst ((fail_shut _ _ _).of_eq ?_)
      ((fail_frame _ _ _).of_update rfl rfl)
    rw [update, putCredentials_client]

/-- The ways out of a SASLResponse. -/
inductive SaslResponse (c : Crypto) (env : Env) (x : LoginCtx) (body : Bytes) :
    LoginCtx × Bool → Prop
  | shut {r : LoginCtx × Bool} (h : Shut x r.1) (slot : r.1.slot = x.slot)
      (frame : r.1.died = true ∨ Frame x r.1) : SaslResponse c env x body r
  | verified (st : ScramState)
      (final : scramClientFinal c x.client.scramState body = some st) (sent : List LoginMsg)
      (y : LoginCtx) (saved : y = (x.update fun cl => { cl with sent := sent }).saveScramKeys st)
      (alive : y.died = false) :
      SaslResponse c env x body
        ((y.update fun cl => { cl with scramState := {} }).finishClientLogin env)

theorem saveScramKeys_client (st : ScramState) : (x.saveScramKeys st).client = x.client := by
  unfold saveScramKeys
  repeat' split
  all_goals rfl

theorem saveScramKeys_slot (st : ScramState) : (x.saveScramKeys st).slot = x.slot := by
  unfold saveScramKeys
  repeat' split
  all_goals rfl

theorem saslResponse_cases (body : Bytes) :
    SaslResponse c env x body (saslResponse c env x body) := by
  unfold saslResponse
  split
  · exact .shut (fail_shut _ _ _) (fail_frame _ _ _).slot (.inr (fail_frame _ _ _))
  rename_i st hfinal
  split
  · exact .shut (fail_shut _ _ _) (fail_frame _ _ _).slot (.inr (fail_frame _ _ _))
  dsimp only
  split
  · rename_i hdied
    refine .shut ⟨.inl hdied, ?_⟩ (saveScramKeys_slot _ _) (.inl hdied)
    rw [saveScramKeys_client]
    rfl
  · rename_i halive
    exact .verified st hfinal _ _ rfl (by simpa using halive)

end LoginCtx

end PgBouncer
