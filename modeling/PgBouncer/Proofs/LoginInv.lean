/-
What is true of every client that is not logged in yet, and how one gets in.

`LoginOk` is the invariant.  Up to the end of the startup packet nothing has been decided
about the client (`Fresh`); from then on it has been asked for a password by the method
`finish_set_pool` selected (`Asked`).  `Verdict` says what a packet can do to such a
client: either nothing changes about its being active, or `finish_client_login` was
called on it, and then the method has accepted it (`Entry`).
-/
import PgBouncer.Proofs.LoginStep

namespace PgBouncer

open LoginCtx

variable {cfg : AuthConfig} {c : Crypto}

/-! ### Facts about a client -/

/-- The method is the one `finish_set_pool` selects for the client, its database and its
user, with the password the user had then.  If there was TLS then, there is TLS now. -/
def Selected (cfg : AuthConfig) (u : Users) (cl : PgSocket) (auth : AuthType)
    (rule : Option HbaRule) : Prop :=
  ∃ db creds tls passwd, cl.db = some db ∧ cl.loginCredentials u = some creds ∧
    passwd ∈ creds.held ∧ (tls = true → cl.tls = true) ∧
    authMethod cfg { cl with tls := tls } db { creds with passwd := passwd } = .ok (auth, rule)

/-- A request to a thread was made for the user and the password of this client. -/
def RequestOf (u : Users) (request : AuthRequest) (cl : PgSocket) : Prop :=
  ∃ creds body passwd rest, cl.loginCredentials u = some creds ∧ request.username = creds.name ∧
    cl.pending = some (.password body) ∧ getString body = some (passwd, rest) ∧
    request.password = passwd.take (maxPassword - 1) ∧
    cl.clientAuthType = methodOf request.checker

/-- The thread has reported success for this client. -/
def Granted (u : Users) (i : Nat) (cl : PgSocket) (request : AuthRequest) : Prop :=
  cl.granted = some request ∧ request.status = .success ∧ request.client = i ∧
    request.connectTime = cl.connectTime ∧ RequestOf u request cl

/-- The keys of a SCRAM exchange are those of a password the user has or had. -/
def SecretOf (c : Crypto) (u : Users) (cl : PgSocket) : Prop :=
  ∃ creds, cl.loginCredentials u = some creds ∧ ∃ passwd ∈ creds.held, ∃ serverKey,
    IsVerifier c passwd cl.scramState.iterations cl.scramState.encodedSalt
      cl.scramState.storedKey serverKey

/-- An `auth_user` is there for a database. -/
def HasAuthUser (dbAuthUser : List Bytes) (db : PgDatabase) : Prop :=
  db.authUser.isSome = true ∨ db.name ∈ dbAuthUser

/-- Nothing has been decided about the client. -/
structure Fresh (cfg : AuthConfig) (dbAuthUser : List Bytes) (cl : PgSocket) : Prop where
  clientAuthType : cl.clientAuthType = .any
  ownUser : cl.ownUser = false
  adminUser : cl.adminUser = false
  waitForAuth : cl.waitForAuth = false
  scramState : cl.scramState = {}
  noMock : ∀ cr, cl.loginUser ≠ some (.mock cr)
  /-- A pool comes from an auth_query, and the packet that led to it is still there. -/
  pool : cl.pool ≠ none → ∃ packet, cl.pending = some (.startup packet) ∧
    (dbOf cfg (startupDb packet)).fake = false ∧
    HasAuthUser dbAuthUser (dbOf cfg (startupDb packet))
  real : cl.state = .waitingLogin → ∀ db, cl.db = some db → db.fake = false

/-- The client has been asked for a password. -/
structure Asked (cfg : AuthConfig) (c : Crypto) (u : Users) (i : Nat) (cl : PgSocket) :
    Prop where
  state : cl.state = .login
  ownUser : cl.ownUser = false
  waitForUser : cl.waitForUser = false
  asks : AsksPassword cl.clientAuthType
  selected : ∃ rule, Selected cfg u cl cl.clientAuthType rule
  /-- A user that does not exist has no pool, or no database. -/
  mock : ∀ cr, cl.loginUser = some (.mock cr) → cr.mockAuth = true ∧ cl.scramState.adhoc = false ∧
    (cl.pool = none ∨ ∃ db, cl.db = some db ∧ db.fake = true)
  pool : ∀ p, cl.pool = some p → ∃ db, cl.db = some db ∧ (db.fake = true ∨ p.db = db)
  console : cl.pool.map (·.db.admin) = some true →
    ∃ creds, cl.loginCredentials u = some creds ∧
      (cfg.isAdminUser creds.name = true ∨ cfg.isStatsUser creds.name = true)
  adminUser : cl.adminUser = true →
    ∃ creds, cl.loginCredentials u = some creds ∧ cfg.isAdminUser creds.name = true
  scram : ∀ r, cl.loginUser = some (.stored r) → cl.scramState.serverNonce ≠ none →
    SecretOf c u cl
  auth : cl.waitForAuth = true → cl.paused = true ∨ ∃ request, Granted u i cl request

/-- What is true of a client before it is active. -/
structure LoginOk (cfg : AuthConfig) (c : Crypto) (u : Users) (dbAuthUser : List Bytes) (i : Nat)
    (cl : PgSocket) : Prop where
  wasActive : cl.wasActive = false
  waitForWelcome : cl.waitForWelcome = false
  fresh : cl.startupMessageReceived = false → Fresh cfg dbAuthUser cl
  asked : cl.startupMessageReceived = true → Asked cfg c u i cl

/-! ### Later users -/

variable {u u' : Users} {cl : PgSocket} {creds : Credentials} {db : PgDatabase} {auth : AuthType}
  {rule : Option HbaRule} {env : Env} {y : LoginCtx}

theorem loginCredentials_grows (h : u.Grows u') (hcreds : cl.loginCredentials u = some creds) :
    ∃ creds', cl.loginCredentials u' = some creds' ∧ CredGrows creds creds' := by
  unfold PgSocket.loginCredentials at hcreds ⊢
  split at hcreds
  · exact h _ _ hcreds
  · exact ⟨creds, hcreds, .refl creds⟩
  · cases hcreds

theorem authMethod_congr {creds' : Credentials} (hname : creds'.name = creds.name)
    (hpasswd : creds'.passwd = creds.passwd) :
    authMethod cfg cl db creds' = authMethod cfg cl db creds := by
  unfold authMethod
  rw [hname, hpasswd]

theorem Selected.mono (h : u.Grows u') (hs : Selected cfg u cl auth rule) :
    Selected cfg u' cl auth rule := by
  obtain ⟨db, creds, tls, passwd, hdb, hcreds, hheld, htls, hmethod⟩ := hs
  obtain ⟨creds', hcreds', hg⟩ := loginCredentials_grows h hcreds
  refine ⟨db, creds', tls, passwd, hdb, hcreds', hg.held _ hheld, htls, ?_⟩
  rw [← hmethod]
  exact authMethod_congr hg.name rfl

theorem RequestOf.mono (h : u.Grows u') {request : AuthRequest} (hr : RequestOf u request cl) :
    RequestOf u' request cl := by
  obtain ⟨creds, body, passwd, rest, hcreds, hname, hrest⟩ := hr
  obtain ⟨creds', hcreds', hg⟩ := loginCredentials_grows h hcreds
  exact ⟨creds', body, passwd, rest, hcreds', hname.trans hg.name.symm, hrest⟩

theorem SecretOf.mono (h : u.Grows u') (hs : SecretOf c u cl) : SecretOf c u' cl := by
  obtain ⟨creds, hcreds, passwd, hheld, hkeys⟩ := hs
  obtain ⟨creds', hcreds', hg⟩ := loginCredentials_grows h hcreds
  exact ⟨creds', hcreds', passwd, hg.held _ hheld, hkeys⟩

theorem Asked.mono (h : u.Grows u') {i : Nat} (ha : Asked cfg c u i cl) : Asked cfg c u' i cl where
  __ := ha
  selected := ha.selected.imp fun _ => Selected.mono h
  console := fun hp => by
    obtain ⟨creds, hcreds, hname⟩ := ha.console hp
    obtain ⟨creds', hcreds', hg⟩ := loginCredentials_grows h hcreds
    exact ⟨creds', hcreds', by rwa [hg.name]⟩
  adminUser := fun hp => by
    obtain ⟨creds, hcreds, hname⟩ := ha.adminUser hp
    obtain ⟨creds', hcreds', hg⟩ := loginCredentials_grows h hcreds
    exact ⟨creds', hcreds', by rwa [hg.name]⟩
  scram := fun r hr hn => (ha.scram r hr hn).mono h
  auth := fun hw => (ha.auth hw).imp_right fun ⟨request, hg⟩ =>
    ⟨request, hg.1, hg.2.1, hg.2.2.1, hg.2.2.2.1, hg.2.2.2.2.mono h⟩

theorem LoginOk.mono {dbAuthUser dbAuthUser' : List Bytes} (h : u.Grows u')
    (hdb : dbAuthUser ⊆ dbAuthUser') {i : Nat} (hok : LoginOk cfg c u dbAuthUser i cl) :
    LoginOk cfg c u' dbAuthUser' i cl := by
  refine ⟨hok.wasActive, hok.waitForWelcome, fun hs => ?_, fun hs => (hok.asked hs).mono h⟩
  have hf := hok.fresh hs
  refine { hf with pool := fun hp => ?_ }
  obtain ⟨packet, hpending, hreal, hauth⟩ := hf.pool hp
  exact ⟨packet, hpending, hreal, hauth.imp_right fun hmem => hdb hmem⟩

/-! ### Getting in -/

/-- Why a client gets in.  `cl` is the client when the packet arrives, `cl'` and `u` the
client and the users when `finish_client_login` is called. -/
inductive Accepted (cfg : AuthConfig) (c : Crypto) (i : Nat) (cl : PgSocket) (pkt : LoginPkt)
    (u : Users) (cl' : PgSocket) : Prop
  /-- The console user `pgbouncer`, on a unix socket and with the uid of pgbouncer. -/
  | ownUser (packet : StartupPacket) (isStartup : pkt = .startup packet)
      (name : startupUser packet = pgbouncerName)
      (console : (dbOf cfg (startupDb packet)).admin = true)
      (unix : cl.connection.remoteAddr.isUnix = true) (same : cl.connection.sameUid = true)
  /-- Trust, any, a certificate or a peer name. -/
  | atOnce (packet : StartupPacket) (isStartup : pkt = .startup packet) (db : PgDatabase)
      (creds : Credentials) (auth : AuthType) (rule : Option HbaRule)
      (hdb : cl'.db = some db) (hcreds : cl'.loginCredentials u = some creds)
      (method : authMethod cfg cl' db creds = .ok (auth, rule))
      (ok : AtOnce cl' creds rule auth)
  /-- A password that `check_client_passwd` accepts. -/
  | password (creds : Credentials) (rule : Option HbaRule) (body passwd rest : Bytes)
      (isPassword : pkt = .password body) (string : getString body = some (passwd, rest))
      (hcreds : cl.loginCredentials u = some creds)
      (method : Selected cfg u cl cl.clientAuthType rule)
      (ok : checkClientPasswd c creds cl.clientAuthType cl.tmpLoginSalt passwd = true)
  /-- A SCRAM exchange whose nonce and proof are right for the user's secret. -/
  | scram (rule : Option HbaRule) (body : Bytes) (st : ScramState) (nonce proof key : Bytes)
      (isPassword : pkt = .password body) (method : Selected cfg u cl .scramSha256 rule)
      (secret : SecretOf c u cl)
      (final : readClientFinalMessage cl.scramState (cString body) = some (st, nonce, proof))
      (nonceOk : verifyFinalNonce st nonce = true)
      (proofOk : verifyClientProof c st proof = some key)
  /-- A success the PAM or LDAP thread has reported for this connection. -/
  | checked (request : AuthRequest) (rule : Option HbaRule) (granted : Granted u i cl request)
      (isPassword : cl.pending = some pkt)
      (method : Selected cfg u cl (methodOf request.checker) rule)

/-- A client that is about to become active. -/
structure Entry (cfg : AuthConfig) (c : Crypto) (x : LoginCtx) (pkt : LoginPkt) (y : LoginCtx) :
    Prop where
  state : y.client.state = .login
  wasActive : y.client.wasActive = false
  connection : y.client.connection = x.client.connection
  connectTime : y.client.connectTime = x.client.connectTime
  accepted : Accepted cfg c x.slot x.client pkt y.users y.client
  /-- Made-up users only get this far by way of a thread. -/
  mock : ∀ cr, y.client.loginUser = some (.mock cr) →
    x.client.waitForAuth = true ∧ y.client = x.client
  pool : ∀ p, y.client.pool = some p → ∃ db, y.client.db = some db ∧ (db.fake = true ∨ p.db = db)
  own : y.client.ownUser = true → y.client.connection.remoteAddr.isUnix = true ∧
    y.client.connection.sameUid = true ∧
    ∃ packet, pkt = .startup packet ∧ startupUser packet = pgbouncerName
  adminUser : y.client.adminUser = true → y.client.ownUser = true ∨
    (∃ packet, pkt = .startup packet ∧ cfg.isAdminUser (startupUser packet) = true) ∨
    ∃ creds, y.client.loginCredentials y.users = some creds ∧ cfg.isAdminUser creds.name = true
  /-- At the console. -/
  console : cfg.authType ≠ .any → y.client.pool.map (·.db.admin) = some true →
    y.client.ownUser = true ∨ ∃ creds, y.client.loginCredentials y.users = some creds ∧
      (cfg.isAdminUser creds.name = true ∨ cfg.isStatsUser creds.name = true)

/-- How a made-up user is asked for a password: not by PAM, and by LDAP only if the rules
say something else for a replication connection than they said before. -/
structure MadeUp (cfg : AuthConfig) (cl : PgSocket) (packet : StartupPacket) (auth : AuthType) :
    Prop where
  noPam : auth ≠ .pam
  ldap : auth = .ldap → cfg.authType = .hba ∧
    checkIfNeedLdapAuthentication cfg cl (startupDb packet) (startupUser packet) = false ∧
    (hbaEval cfg.hba cl.connection.remoteAddr cl.tls (replicationOf cfg packet cl.replication)
      (startupDb packet) (startupUser packet)).any (·.ruleMethod = .ldap) = true

/-- What a packet can do to a client that is not logged in. -/
structure Verdict (cfg : AuthConfig) (c : Crypto) (env : Env) (x : LoginCtx) (pkt : LoginPkt)
    (r : LoginCtx × Bool) : Prop where
  entry : r.1.client.wasActive = x.client.wasActive ∨
    ∃ y, Entry cfg c x pkt y ∧ r = y.finishClientLogin env
  active : r.1.died = false → r.1.client.state = .active ∨ r.1.client.state = .waiting →
    r.1.client.wasActive = true
  login : r.1.died = false → r.1.client.state = .login ∨ r.1.client.state = .waitingLogin →
    LoginOk cfg c r.1.users r.1.dbAuthUser x.slot
      { r.1.client with pending := if r.2 then none else some pkt }
  /-- An auth_query is started with the global user of that name, if there is one. -/
  query : r.1.died = false → r.1.client.state = .login → r.1.client.waitForUser = true →
    r.1.client.paused = true → ∃ packet, pkt = .startup packet ∧
      r.1.client.loginUser = (x.users.find (.user (startupUser packet))).map
        fun _ => .stored (.user (startupUser packet))
  /-- A user is made up when the startup packet is handled. -/
  mock : r.1.died = false → r.1.client.state = .login → ∀ cr,
    r.1.client.loginUser = some (.mock cr) →
      (r.1.client.clientAuthType = x.client.clientAuthType ∧
        ∃ old, x.client.loginUser = some (.mock old)) ∨
      ∃ packet, pkt = .startup packet ∧ MadeUp cfg x.client packet r.1.client.clientAuthType
  /-- A SCRAM exchange is started by its first message, with the keys of the login user. -/
  scram : r.1.died = false → r.1.client.state = .login →
    (r.1.client.scramState = x.client.scramState ∧ (x.client.scramState.serverNonce ≠ none →
      r.1.client.loginUser = x.client.loginUser)) ∨
    ∃ creds creds' data st, x.loginCredentials = some creds ∧
      scramClientFirst c env.scram creds x.client.scramState data = some (st, creds') ∧
      x.client.scramState.serverNonce = none ∧ r.1.client.scramState = st ∧
      r.1.client.loginUser = x.client.loginUser ∧ r.1.users = (x.putCredentials creds').users

theorem Verdict.of_shut {x : LoginCtx} {pkt : LoginPkt} {r : LoginCtx × Bool} (h : Shut x r.1) :
    Verdict cfg c env x pkt r := by
  have hstate : r.1.died = false → r.1.client.state = .justFree := fun hd =>
    h.closed.resolve_left (by rw [hd]; exact Bool.false_ne_true)
  refine ⟨.inl h.wasActive, fun hd hs => ?_, fun hd hs => ?_, fun hd hs => ?_, fun hd hs => ?_,
    fun hd hs => ?_⟩
  all_goals rw [hstate hd] at hs
  · rcases hs with hs | hs <;> cases hs
  · rcases hs with hs | hs <;> cases hs
  · cases hs
  · cases hs
  · cases hs

/-- `finish_client_login` is done with the login of a client. -/
theorem finishClientLogin_settled (env : Env) (h : y.client.state = .login) :
    Settled (y.finishClientLogin env).1 := by
  rcases finishClientLogin_login env h with hshut | ⟨hsettled, -⟩
  · exact hshut.settled
  · exact hsettled

theorem LoginCtx.Settled.not_login (h : Settled y) (halive : y.died = false) :
    y.client.state ≠ .login ∧ y.client.state ≠ .waitingLogin := by
  rcases h with h | h | h | h
  · exact absurd (halive.symm.trans h) Bool.false_ne_true
  all_goals rw [h]; exact ⟨by decide, by decide⟩

theorem Verdict.of_entry {x : LoginCtx} {pkt : LoginPkt} (h : Entry cfg c x pkt y) :
    Verdict cfg c env x pkt (y.finishClientLogin env) := by
  have hsettled := finishClientLogin_settled env h.state
  refine ⟨.inr ⟨y, h, rfl⟩, fun hd hs => ?_, fun hd hs => ?_,
    fun hd hs => absurd hs (hsettled.not_login hd).1,
    fun hd hs => absurd hs (hsettled.not_login hd).1,
    fun hd hs => absurd hs (hsettled.not_login hd).1⟩
  · rcases finishClientLogin_login env h.state with hshut | ⟨-, hactive, -⟩
    · have hstate := hshut.closed.resolve_left (by rw [hd]; exact Bool.false_ne_true)
      rw [hstate] at hs
      rcases hs with hs | hs <;> cases hs
    · exact hactive
  · rcases hs with hs | hs
    · exact absurd hs (hsettled.not_login hd).1
    · exact absurd hs (hsettled.not_login hd).2

/-! ### The method -/

/-- Where a method comes from: the configuration or the first rule that matches, but for a
SCRAM secret under MD5. -/
theorem authMethod_cases (h : authMethod cfg cl db creds = .ok (auth, rule)) :
    ∃ base, ((base = cfg.authType ∧ cfg.authType ≠ .hba ∧ rule = none) ∨
        (cfg.authType = .hba ∧ ∃ r, rule = some r ∧ base = r.ruleMethod.authType ∧
          hbaEval cfg.hba cl.connection.remoteAddr cl.tls cl.replication db.name creds.name =
            some r)) ∧
      (auth = base ∨ (base = .md5 ∧ auth = .scramSha256)) ∧
      (auth = .ldap → cfg.haveLdap = true) := by
  have hend : ∀ base (rule' : Option HbaRule),
      (if base = AuthType.ldap ∧ (!cfg.haveLdap) = true then
          (.error (text "ldap is not supported by this build") :
            Except Bytes (AuthType × Option HbaRule))
        else if base = .md5 ∧ getPasswordType creds.passwd = .scramSha256 then
          .ok (.scramSha256, rule')
        else .ok (base, rule')) = .ok (auth, rule) →
      rule = rule' ∧ (auth = base ∨ (base = .md5 ∧ auth = .scramSha256)) ∧
        (auth = .ldap → cfg.haveLdap = true) := by
    intro base rule' heq
    split at heq
    · cases heq
    rename_i hldap
    split at heq
    · rename_i hmd5
      cases heq
      exact ⟨rfl, .inr ⟨hmd5.1, rfl⟩, nofun⟩
    · cases heq
      exact ⟨rfl, .inl rfl, fun h => by simpa [h] using hldap⟩
  unfold authMethod at h
  split at h
  · cases h
  split at h
  · rename_i hhba
    split at h
    · cases h
    · rename_i r hr
      obtain ⟨hrule, hauth, hldap⟩ := hend _ _ h
      exact ⟨_, .inr ⟨hhba, r, hrule, rfl, hr⟩, hauth, hldap⟩
  · rename_i hhba
    obtain ⟨hrule, hauth, hldap⟩ := hend _ _ h
    exact ⟨_, .inl ⟨rfl, hhba, hrule⟩, hauth, hldap⟩

theorem authType_eq_any (h : authMethod cfg cl db creds = .ok (.any, rule)) :
    cfg.authType = .any := by
  obtain ⟨base, hbase, hauth, -⟩ := authMethod_cases h
  rcases hauth with rfl | ⟨-, h'⟩
  · rcases hbase with ⟨hany, -⟩ | ⟨-, r, -, hany, -⟩
    · exact hany.symm
    · cases hr : r.ruleMethod <;> rw [hr] at hany <;> cases hany
  · cases h'

theorem not_asks_of_any (h : authMethod cfg cl db creds = .ok (auth, rule))
    (hasks : AsksPassword auth) :
    cfg.authType ≠ .any := by
  intro hany
  obtain ⟨base, hbase, hauth, -⟩ := authMethod_cases h
  rcases hbase with ⟨rfl, -⟩ | ⟨hhba, -⟩
  · rcases hauth with rfl | ⟨hmd5, -⟩
    · rw [hany] at hasks
      rcases hasks with h' | h' | h' | h' | h' <;> cases h'
    · rw [hany] at hmd5
      cases hmd5
  · rw [hany] at hhba
    cases hhba

/-! ### `finish_set_pool` -/

/-- A client `finish_set_pool` is called on, while the packet that arrived for `x` is
handled. -/
structure Ready (cfg : AuthConfig) (c : Crypto) (x : LoginCtx) (pkt : LoginPkt) (y : LoginCtx) :
    Prop where
  slot : y.slot = x.slot
  state : y.client.state = .login
  connection : y.client.connection = x.client.connection
  connectTime : y.client.connectTime = x.client.connectTime
  wasActive : y.client.wasActive = false
  waitForWelcome : y.client.waitForWelcome = false
  waitForUser : y.client.waitForUser = false
  waitForAuth : y.client.waitForAuth = false
  scramState : y.client.scramState = {}
  noExchange : x.client.scramState = {}
  sound : y.users.Sound c
  own : y.client.ownUser = true → (∀ cr, y.client.loginUser ≠ some (.mock cr)) ∧
    x.client.connection.remoteAddr.isUnix = true ∧ x.client.connection.sameUid = true ∧
    ∃ packet, pkt = .startup packet ∧ startupUser packet = pgbouncerName ∧
      (dbOf cfg (startupDb packet)).admin = true
  adminUser : y.client.adminUser = true → y.client.ownUser = true ∨ cfg.authType = .any ∧
    ∃ packet, pkt = .startup packet ∧ cfg.isAdminUser (startupUser packet) = true
  mock : ∀ cr, y.client.loginUser = some (.mock cr) →
    cr.mockAuth = true ∧ cr.passwd ∈ cr.held ∧ cfg.authType ≠ .any ∧
      (y.client.pool = none ∨ ∃ db, y.client.db = some db ∧ db.fake = true)
  /-- A user is made up after the rules were asked about LDAP. -/
  madeUp : ∀ cr, y.client.loginUser = some (.mock cr) → ∃ packet, pkt = .startup packet ∧
    cfg.authType ≠ .pam ∧ NoLdap cfg x.client (startupDb packet) (startupUser packet) ∧
    cr.name = startupUser packet ∧ y.client.db = some (dbOf cfg (startupDb packet)) ∧
    y.client.tls = x.client.tls ∧
    y.client.replication = replicationOf cfg packet x.client.replication

section FinishSetPool

variable {x y : LoginCtx} {pkt : LoginPkt} {s : Resolution}

/-- The credentials of a stored user are real, those of a made-up one are not. -/
theorem Ready.mockAuth_iff (h : Ready cfg c x pkt y) (hs : Resolved cfg y s) :
    s.creds.mockAuth = true ↔ ∃ cr, y.client.loginUser = some (.mock cr) := by
  have hcreds := hs.creds
  have huser := hs.user
  unfold loginCredentials PgSocket.loginCredentials at hcreds
  rw [huser] at hcreds ⊢
  cases hu : s.user with
  | stored r =>
    rw [hu] at hcreds
    have hreal := (h.sound _ _ hcreds).real
    simp [hreal]
  | mock cr =>
    rw [hu] at hcreds huser
    cases hcreds
    simp [(h.mock _ huser).1]

theorem Ready.held (h : Ready cfg c x pkt y) (hs : Resolved cfg y s) :
    s.creds.passwd ∈ s.creds.held := by
  have hcreds := hs.creds
  have huser := hs.user
  unfold loginCredentials PgSocket.loginCredentials at hcreds
  rw [huser] at hcreds
  cases hu : s.user with
  | stored r =>
    rw [hu] at hcreds
    exact (h.sound _ _ hcreds).held
  | mock cr =>
    rw [hu] at hcreds huser
    cases hcreds
    exact (h.mock _ huser).2.1

/-- The pool belongs to the database, unless that is made up. -/
theorem Ready.pool (h : Ready cfg c x pkt y) (hs : Resolved cfg y s) {p : PoolRef}
    (hp : (y.resolve s).client.pool = some p) :
    ∃ db, y.client.db = some db ∧ (db.fake = true ∨ p.db = db) := by
  refine ⟨s.db, hs.db, ?_⟩
  simp only [resolve, update, poolFor] at hp
  split at hp
  · rename_i hor
    rcases Bool.or_eq_true_iff.mp hor with hmock | hfake
    · obtain ⟨cr, hcr⟩ := (h.mockAuth_iff hs).mp hmock
      rcases (h.mock cr hcr).2.2.2 with hnone | ⟨db, hdb, hfake⟩
      · rw [hnone] at hp
        cases hp
      · rw [hs.db] at hdb
        cases hdb
        exact .inl hfake
    · exact .inl hfake
  · rename_i hor
    split at hp
    · cases hp
      exact .inr rfl
    · rename_i cr hu
      have huser := hs.user
      rw [hu] at huser
      exact absurd ((h.mockAuth_iff hs).mpr ⟨cr, huser⟩)
        (fun hmock => hor (by rw [hmock]; rfl))

theorem dbOf_name (dbname : Bytes) : (dbOf cfg dbname).name = dbname := by
  unfold dbOf
  cases hdb : cfg.findOrRegisterDatabase dbname with
  | none => rfl
  | some db => exact AuthConfig.findOrRegisterDatabase_name hdb

/-- Who `finish_set_pool` finds to be an administrator. -/
theorem Ready.adminUser_resolved (h : Ready cfg c x pkt y) (hs : Resolved cfg y s)
    (notOwn : y.client.ownUser = false) (hadmin : s.adminUser = true) :
    (cfg.authType = .any ∧ ∃ packet, pkt = .startup packet ∧
      cfg.isAdminUser (startupUser packet) = true) ∨ cfg.isAdminUser s.creds.name = true := by
  rcases hs.adminUser hadmin with hold | ⟨-, hmem⟩
  · rcases h.adminUser hold with hown | hany
    · exact absurd (notOwn.symm.trans hown) Bool.false_ne_true
    · exact .inl hany
  · exact .inr hmem

/-- The method a made-up user is asked by. -/
theorem Ready.madeUp_asked (h : Ready cfg c x pkt y) (hs : Resolved cfg y s) {cr : Credentials}
    (hcr : y.client.loginUser = some (.mock cr))
    (method : authMethod cfg y.client s.db s.creds = .ok (auth, rule)) :
    ∃ packet, pkt = .startup packet ∧ MadeUp cfg x.client packet auth := by
  obtain ⟨packet, hpkt, hpam, hldap, hname, hdb, htls, hrepl⟩ := h.madeUp cr hcr
  have hcreds : s.creds.name = startupUser packet := by
    have hsome := hs.creds
    simp only [loginCredentials, PgSocket.loginCredentials, hcr] at hsome
    cases hsome
    exact hname
  have hdb' : s.db.name = startupDb packet := by
    rw [Option.some.inj (hs.db.symm.trans hdb)]
    exact dbOf_name _
  obtain ⟨base, hbase, hauth, hhave⟩ := authMethod_cases method
  refine ⟨packet, hpkt, fun hp => ?_, fun hl => ?_⟩
  · subst hp
    rcases hauth with rfl | ⟨-, h'⟩
    · rcases hbase with ⟨hpam', -⟩ | ⟨-, r, -, hr, -⟩
      · exact hpam hpam'.symm
      · cases hm : r.ruleMethod <;> rw [hm] at hr <;> cases hr
    · cases h'
  · subst hl
    obtain ⟨hneed, hnot⟩ := hldap (hhave rfl)
    rcases hauth with rfl | ⟨-, h'⟩
    · rcases hbase with ⟨hl', -⟩ | ⟨hhba, r, -, hr, heval⟩
      · exact absurd hl'.symm hnot
      · refine ⟨hhba, hneed, ?_⟩
        rw [h.connection, htls, hrepl, hcreds, hdb'] at heval
        rw [heval]
        cases hm : r.ruleMethod <;> rw [hm] at hr <;> cases hr
        simp [hm]
    · cases h'

/-- **`finish_set_pool` on a client that is ready.** -/
theorem Ready.verdict {packet : StartupPacket} (h : Ready cfg c x (.startup packet) y)
    (hwas : x.client.wasActive = false) (env : Env) :
    Verdict cfg c env x (.startup packet) (finishSetPool cfg env y) := by
  have hsame : y.client.wasActive = x.client.wasActive := h.wasActive.trans hwas.symm
  have hcases := @finishSetPool_cases cfg env y
  generalize finishSetPool cfg env y = r at hcases
  cases hcases with
  | shut hshut => exact .of_shut (hshut.of_eq hsame)
  | own s hs own =>
    obtain ⟨hnomock, hunix, huid, packet, hpkt, hname, hconsole⟩ := h.own own
    refine .of_entry ⟨h.state, h.wasActive, h.connection, h.connectTime,
      .ownUser packet hpkt hname hconsole hunix huid, fun cr hcr => absurd hcr (hnomock cr),
      fun p hp => h.pool hs hp, fun _ => ?_, fun _ => .inl own, fun _ _ => .inl own⟩
    rw [show (y.resolve s).client.connection = x.client.connection from h.connection]
    exact ⟨hunix, huid, packet, hpkt, hname⟩
  | finish s hs notOwn auth rule method ok =>
    refine .of_entry ⟨h.state, h.wasActive, h.connection, h.connectTime, ?_, fun cr hcr => ?_,
      fun p hp => h.pool hs hp, fun hown => absurd (notOwn.symm.trans hown) Bool.false_ne_true,
      fun hadmin => .inr ((h.adminUser_resolved hs notOwn hadmin).imp (·.2)
        fun hmem => ⟨s.creds, hs.creds, hmem⟩), fun hany hconsole => ?_⟩
    · refine .atOnce packet rfl s.db s.creds auth rule hs.db hs.creds method ?_
      cases ok with
      | any => exact .any
      | trust real => exact .trust real
      | cert vouches tls shown real named => exact .cert vouches tls shown real named
      | peer unix real named => exact .peer unix real named
    · -- a made-up user is turned down by every such method
      have hmock : s.creds.mockAuth = true := (h.mockAuth_iff hs).mpr ⟨cr, hcr⟩
      cases ok with
      | any => exact absurd (authType_eq_any method) (h.mock cr hcr).2.2.1
      | trust real => rw [hmock] at real; cases real
      | cert vouches tls shown real named => rw [hmock] at real; cases real
      | peer unix real named => rw [hmock] at real; cases real
    · refine .inr ⟨s.creds, hs.creds, ?_⟩
      rcases hs.console hconsole with hany' | hadmin | hstats
      · exact absurd hany' hany
      · exact .inl ((h.adminUser_resolved hs notOwn hadmin).resolve_left
          fun hc => hany hc.1)
      · exact .inr hstats
  | asked s hs notOwn auth rule method asks alive salt sent =>
    have hany : cfg.authType ≠ .any := not_asks_of_any method asks
    have hadmin : s.adminUser = true → cfg.isAdminUser s.creds.name = true := fun hadmin =>
      (h.adminUser_resolved hs notOwn hadmin).resolve_left fun hc => hany hc.1
    refine ⟨.inl hsame, fun _ hs' => ?_, fun _ _ => ?_,
      fun _ _ hu => absurd (h.waitForUser.symm.trans hu) Bool.false_ne_true,
      fun _ _ cr hcr => .inr (h.madeUp_asked hs hcr method),
      fun _ _ => .inl ⟨h.scramState.trans h.noExchange.symm,
        fun hn => absurd (by rw [h.noExchange]) hn⟩⟩
    · have hstate : y.client.state = .active ∨ y.client.state = .waiting := hs'
      rw [h.state] at hstate
      rcases hstate with h' | h' <;> cases h'
    · refine ⟨h.wasActive, h.waitForWelcome, nofun, fun _ => ?_⟩
      refine ⟨h.state, notOwn, h.waitForUser, asks,
        ⟨rule, s.db, s.creds, y.client.tls, s.creds.passwd, hs.db,
        hs.creds, h.held hs, id, method⟩, fun cr hcr => ?_, fun p hp => h.pool hs hp,
        fun hconsole => ⟨s.creds, hs.creds, ?_⟩, fun hadm => ⟨s.creds, hs.creds, hadmin hadm⟩,
        fun r _ hn => ?_, fun hw => ?_⟩
      · have hm := h.mock cr hcr
        refine ⟨hm.1, ?_, ?_⟩
        · show y.client.scramState.adhoc = false
          rw [h.scramState]
        · rcases hm.2.2.2 with hnone | hfake
          · refine .inl ?_
            have hmock : s.creds.mockAuth = true := (h.mockAuth_iff hs).mpr ⟨cr, hcr⟩
            simp [resolve, update, poolFor, hmock, hnone]
          · exact .inr hfake
      · rcases hs.console hconsole with hany' | hadm | hstats
        · exact absurd hany' hany
        · exact .inl (hadmin hadm)
        · exact .inr hstats
      · have hn' : y.client.scramState.serverNonce ≠ none := hn
        rw [h.scramState] at hn'
        exact absurd rfl hn'
      · have hw' : y.client.waitForAuth = true := hw
        rw [h.waitForAuth] at hw'
        cases hw'

end FinishSetPool

/-! ### `set_pool` -/

section SetPool

variable {x : LoginCtx} {packet : StartupPacket}

/-- A client whose startup packet is handled for the first time, or again from the top. -/
structure Starting (cfg : AuthConfig) (c : Crypto) (x : LoginCtx) (packet : StartupPacket) :
    Prop where
  sound : x.users.Sound c
  state : x.client.state = .login
  ok : LoginOk cfg c x.users x.dbAuthUser x.slot x.client
  startup : x.client.startupMessageReceived = false
  waitForUser : x.client.waitForUser = false
  pending : ∀ pkt, x.client.pending = some pkt → pkt = .startup packet

theorem Starting.fresh (h : Starting cfg c x packet) : Fresh cfg x.dbAuthUser x.client :=
  h.ok.fresh h.startup

/-- Whoever `set_pool` takes the client for, it is ready for `finish_set_pool`. -/
theorem Starting.ready (h : Starting cfg c x packet) {negotiated : Bool} {sent : List LoginMsg}
    {y : LoginCtx}
    (hy : Chosen cfg (dbOf cfg (startupDb packet)) (startupDb packet) (startupUser packet)
      ((x.parsed cfg packet negotiated sent).withDb (dbOf cfg (startupDb packet))) y) :
    Ready cfg c x (.startup packet) y := by
  have hf := h.fresh
  have hown : (x.client.ownUser && !(dbOf cfg (startupDb packet)).admin) = false := by
    rw [hf.ownUser]; rfl
  have hadmin : (x.client.adminUser && !(dbOf cfg (startupDb packet)).admin) = false := by
    rw [hf.adminUser]; rfl
  have hplain : ∀ (u : Users) (d : List Bytes) (r : CredRef), u.Sound c →
      Ready cfg c x (.startup packet)
        (((x.parsed cfg packet negotiated sent).withDb (dbOf cfg (startupDb packet))).choose u d
          (some (.stored r)) (x.client.ownUser && !(dbOf cfg (startupDb packet)).admin)
          (x.client.adminUser && !(dbOf cfg (startupDb packet)).admin)) :=
    fun u d r hu => ⟨rfl, h.state, rfl, rfl, h.ok.wasActive, h.ok.waitForWelcome, h.waitForUser,
      hf.waitForAuth, hf.scramState, hf.scramState, hu,
      fun ho => absurd (hown.symm.trans ho) Bool.false_ne_true,
      fun ha => absurd (hadmin.symm.trans ha) Bool.false_ne_true, fun cr hcr => (nomatch hcr),
      fun cr hcr => nomatch hcr⟩
  cases hy with
  | own console unix same name =>
    exact ⟨rfl, h.state, rfl, rfl, h.ok.wasActive, h.ok.waitForWelcome, h.waitForUser,
      hf.waitForAuth, hf.scramState, hf.scramState, h.sound,
      fun _ => ⟨fun cr hcr => (nomatch hcr), unix, same, packet, rfl, name, console⟩,
      fun _ => .inl rfl, fun cr hcr => (nomatch hcr), fun cr hcr => nomatch hcr⟩
  | anyAdmin console any member =>
    exact ⟨rfl, h.state, rfl, rfl, h.ok.wasActive, h.ok.waitForWelcome, h.waitForUser,
      hf.waitForAuth, hf.scramState, hf.scramState, h.sound, nofun,
      fun _ => .inr ⟨any, packet, rfl, member⟩,
      fun cr hcr => (nomatch hcr), fun cr hcr => nomatch hcr⟩
  | any any => exact hplain _ _ _ h.sound
  | ldap ldap =>
    exact hplain _ _ _ ((Users.findOrAddNewGlobalUser_extends _ _).evolves.sound h.sound)
  | pam pam => exact hplain _ _ _ ((Users.addPamCredentials_extends _ _).evolves.sound h.sound)
  | known creds found static => exact hplain _ _ _ h.sound
  | mock noLdap noAny noPam noQuery =>
    refine ⟨rfl, h.state, rfl, rfl, h.ok.wasActive, h.ok.waitForWelcome, h.waitForUser,
      hf.waitForAuth, hf.scramState, hf.scramState, ?_,
      fun ho => absurd (hown.symm.trans ho) Bool.false_ne_true,
      fun ha => absurd (hadmin.symm.trans ha) Bool.false_ne_true, fun cr hcr => ?_,
      fun cr hcr => ⟨packet, rfl, noPam, noLdap, ?_, rfl, rfl, rfl⟩⟩
    · have hadds := @fillAuthUser_adds cfg ((x.parsed cfg packet negotiated sent).withDb
        (dbOf cfg (startupDb packet))) (dbOf cfg (startupDb packet))
      exact hadds.users.evolves.sound h.sound
    · cases hcr
      refine ⟨rfl, List.mem_cons_self, noAny, ?_⟩
      by_cases hpool : x.client.pool = none
      · exact .inl hpool
      -- a pool means that the packet has been here before, and led to an auth_query
      obtain ⟨packet', hpending, hreal, hauth⟩ := hf.pool hpool
      cases h.pending _ hpending
      rcases noQuery with hno | hfake
      · have hhas : (x.parsed cfg packet negotiated sent).hasAuthUser
            (dbOf cfg (startupDb packet)) = true := by
          simpa [hasAuthUser, HasAuthUser, parsed, update] using hauth
        exact absurd (hhas.symm.trans hno) (by decide)
      · rw [hreal] at hfake
        cases hfake
    · cases hcr
      rfl

/-- An auth_query has been started, or has to wait for a server. -/
theorem Starting.query (h : Starting cfg c x packet) {negotiated : Bool} {sent : List LoginMsg}
    (env : Env) (real : (dbOf cfg (startupDb packet)).fake = false)
    (has : (queried cfg (dbOf cfg (startupDb packet)) (startupUser packet)
      ((x.parsed cfg packet negotiated sent).withDb (dbOf cfg (startupDb packet)))).hasAuthUser
        (dbOf cfg (startupDb packet)) = true) :
    Verdict cfg c env x (.startup packet) (startAuthQuery cfg env
      (queried cfg (dbOf cfg (startupDb packet)) (startupUser packet)
        ((x.parsed cfg packet negotiated sent).withDb (dbOf cfg (startupDb packet))))
      (dbOf cfg (startupDb packet)), false) := by
  have hf := h.fresh
  rcases @startAuthQuery_cases cfg env (queried cfg (dbOf cfg (startupDb packet))
      (startupUser packet) ((x.parsed cfg packet negotiated sent).withDb
        (dbOf cfg (startupDb packet)))) (dbOf cfg (startupDb packet)) with
    hshut | ⟨-, pool, hstep⟩
  · exact .of_shut (hshut.of_eq rfl)
  have hnomock : ∀ cr, (x.users.find (.user (startupUser packet))).map
      (fun _ => LoginUser.stored (.user (startupUser packet))) ≠ some (.mock cr) := by
    intro cr hcr
    obtain ⟨_, _, hcr⟩ := Option.map_eq_some_iff.mp hcr
    cases hcr
  have hown : (x.client.ownUser && !(dbOf cfg (startupDb packet)).admin) = false := by
    rw [hf.ownUser]; rfl
  have hadmin : (x.client.adminUser && !(dbOf cfg (startupDb packet)).admin) = false := by
    rw [hf.adminUser]; rfl
  have hhas : HasAuthUser (queried cfg (dbOf cfg (startupDb packet)) (startupUser packet)
      ((x.parsed cfg packet negotiated sent).withDb (dbOf cfg (startupDb packet)))).dbAuthUser
      (dbOf cfg (startupDb packet)) := by
    simpa [hasAuthUser, HasAuthUser] using has
  rcases hstep with heq | heq
  all_goals
    rw [heq]
    refine ⟨.inl rfl, fun _ hs => ?_, fun _ _ => ⟨h.ok.wasActive, h.ok.waitForWelcome,
      fun _ => ⟨hf.clientAuthType, hown, hadmin, hf.waitForAuth, hf.scramState, hnomock,
        fun _ => ⟨packet, rfl, real, hhas⟩, fun _ db hdb => ?_⟩,
      fun hs => absurd (h.startup.symm.trans hs) Bool.false_ne_true⟩,
      fun _ _ _ _ => ⟨packet, rfl, rfl⟩, fun _ _ cr hcr => absurd hcr (hnomock cr),
      fun _ _ => .inl ⟨rfl, fun hn => absurd (by rw [hf.scramState]) hn⟩⟩
  · rcases hs with hs | hs <;> cases hs
  · cases hdb
    exact real
  · have hs' : x.client.state = .active ∨ x.client.state = .waiting := hs
    rw [h.state] at hs'
    rcases hs' with hs' | hs' <;> cases hs'
  · cases hdb
    exact real

/-- **A startup packet that is handled from the top.** -/
theorem Starting.verdict (h : Starting cfg c x packet) (env : Env) :
    Verdict cfg c env x (.startup packet) (decideStartupPool cfg env x packet) := by
  rcases @decideStartupPool_cases cfg env x packet with hshut | ⟨negotiated, sent, heq⟩
  · exact .of_shut hshut
  rw [heq]
  have hcases := @setPool_cases cfg env (x.parsed cfg packet negotiated sent)
    (startupDb packet) (startupUser packet)
  generalize setPool cfg env (x.parsed cfg packet negotiated sent) (startupDb packet)
    (startupUser packet) = r at hcases
  cases hcases with
  | shut hshut => exact .of_shut (hshut.of_eq rfl)
  | chosen y hy => exact (h.ready hy).verdict h.ok.wasActive env
  | query real noAny has dynamic => exact h.query env real has

end SetPool

/-! ### Passwords -/

section Password

variable {x : LoginCtx} {pkt : LoginPkt}

/-- A client that gets a packet: it is not logged in, nothing it waits for is missing, and
no other packet is in front of this one. -/
structure Receives (cfg : AuthConfig) (c : Crypto) (x : LoginCtx) (pkt : LoginPkt) : Prop where
  sound : x.users.Sound c
  state : x.client.state = .login
  ok : LoginOk cfg c x.users x.dbAuthUser x.slot x.client
  unpaused : x.client.paused = false
  pending : ∀ p, x.client.pending = some p → p = pkt

theorem Verdict.of_login {b : Bool} (hstate : y.client.state = .login)
    (hwas : y.client.wasActive = x.client.wasActive)
    (hquery : ¬ (y.client.waitForUser = true ∧ y.client.paused = true))
    (hauth : y.client.clientAuthType = x.client.clientAuthType)
    (hmock : ∀ cr, y.client.loginUser = some (.mock cr) →
      ∃ old, x.client.loginUser = some (.mock old))
    (hscram : (y.client.scramState = x.client.scramState ∧
        (x.client.scramState.serverNonce ≠ none → y.client.loginUser = x.client.loginUser)) ∨
      ∃ creds creds' data st, x.loginCredentials = some creds ∧
        scramClientFirst c env.scram creds x.client.scramState data = some (st, creds') ∧
        x.client.scramState.serverNonce = none ∧ y.client.scramState = st ∧
        y.client.loginUser = x.client.loginUser ∧ y.users = (x.putCredentials creds').users)
    (hok : LoginOk cfg c y.users y.dbAuthUser x.slot
      { y.client with pending := if b then none else some pkt }) :
    Verdict cfg c env x pkt (y, b) := by
  refine ⟨.inl hwas, fun _ hs => ?_, fun _ _ => hok, fun _ _ hu hp => absurd ⟨hu, hp⟩ hquery,
    fun _ _ cr hcr => .inl ⟨hauth, hmock cr hcr⟩, fun _ _ => hscram⟩
  rw [show (y, b).1.client.state = .login from hstate] at hs
  rcases hs with hs | hs <;> cases hs

/-- A packet that is not a startup packet finds no auth_query under way. -/
theorem Receives.pool_eq_none (h : Receives cfg c x pkt) (hpkt : ∀ packet, pkt ≠ .startup packet)
    (hs : x.client.startupMessageReceived = false) : x.client.pool = none := by
  by_contra hpool
  obtain ⟨packet, hpending, -⟩ := (h.ok.fresh hs).pool hpool
  exact hpkt packet (h.pending _ hpending).symm

/-- Such a packet may be answered, and TLS may start. -/
theorem Receives.answered (h : Receives cfg c x pkt) (hpkt : ∀ packet, pkt ≠ .startup packet)
    (hauth : x.client.waitForAuth = false) (env : Env) {tls : Bool}
    (htls : x.client.tls = true → tls = true) (sent : List LoginMsg) (b : Bool) :
    Verdict cfg c env x pkt (x.update fun cl => { cl with tls := tls, sent := sent }, b) := by
  refine .of_login h.state rfl
    (fun hq => absurd (h.unpaused.symm.trans hq.2) Bool.false_ne_true) rfl (fun cr hcr => ⟨cr, hcr⟩)
    (.inl ⟨rfl, fun _ => rfl⟩) ⟨h.ok.wasActive, h.ok.waitForWelcome, fun hs => ?_, fun hs => ?_⟩
  · have hf := h.ok.fresh hs
    exact { hf with
      pool := fun hp => absurd (h.pool_eq_none hpkt hs) hp
      real := fun hw => absurd (h.state.symm.trans hw) (by decide) }
  · have ha := h.ok.asked hs
    refine { ha with
      auth := fun hw => absurd (hauth.symm.trans hw) Bool.false_ne_true, selected := ?_ }
    obtain ⟨rule, db, creds, tls', passwd, hdb, hcreds, hheld, hold, hmethod⟩ := ha.selected
    exact ⟨rule, db, creds, tls', passwd, hdb, hcreds, hheld, fun h => htls (hold h), hmethod⟩

theorem finishClientLogin_fake (env : Env) {y : LoginCtx} {db : PgDatabase}
    (hdb : y.client.db = some db) (hfake : db.fake = true) :
    Shut y (y.finishClientLogin env).1 := by
  unfold finishClientLogin
  rw [hdb]
  simp only [hfake, if_true]
  exact fail_shut _ _ _

/-- The credentials of a client with stored credentials. -/
theorem loginUser_cases (h : cl.loginCredentials u = some creds) :
    (∃ r, cl.loginUser = some (.stored r) ∧ u.find r = some creds) ∨
      cl.loginUser = some (.mock creds) := by
  unfold PgSocket.loginCredentials at h
  split at h
  · rename_i r hr
    exact .inl ⟨r, hr, h⟩
  · rename_i cr hcr
    cases h
    exact .inr hcr
  · cases h

variable {body : Bytes}

/-- A PasswordMessage of a client that has been asked for a password. -/
theorem Receives.passwordMessage (h : Receives cfg c x pkt) (hpkt : pkt = .password body)
    (hauth : x.client.waitForAuth = false) (hs : x.client.startupMessageReceived = true)
    (hcreds : x.loginCredentials = some creds) (env : Env) :
    Verdict cfg c env x pkt (passwordMessage c env x creds body) := by
  have ha := h.ok.asked hs
  have hcases := passwordMessage_cases (c := c) env x creds body
  generalize LoginCtx.passwordMessage c env x creds body = r at hcases
  cases hcases with
  | shut hshut => exact .of_shut hshut
  | ignored =>
    exact h.answered (by rw [hpkt]; simp) hauth env id x.client.sent true
  | begun checker passwd rest method string =>
    refine .of_login ha.state rfl
      (fun hq => absurd (ha.waitForUser.symm.trans hq.1) Bool.false_ne_true) rfl
      (fun cr hcr => ⟨cr, hcr⟩) (.inl ⟨rfl, fun _ => rfl⟩) ⟨h.ok.wasActive, h.ok.waitForWelcome,
      fun hf => absurd (hs.symm.trans hf) (by decide), fun _ => ?_⟩
    exact { ha with auth := fun _ => .inl rfl }
  | accepted passwd rest string ok =>
    obtain ⟨rule, hmethod⟩ := ha.selected
    have hreal : creds.mockAuth = false := by
      cases hmock : creds.mockAuth with
      | false => rfl
      | true => simp [checkClientPasswd, hmock] at ok
    refine .of_entry ⟨ha.state, h.ok.wasActive, rfl, rfl,
      .password creds rule body passwd rest hpkt string hcreds hmethod ok, fun cr hcr => ?_,
      ha.pool, fun ho => absurd (ha.ownUser.symm.trans ho) Bool.false_ne_true,
      fun hadmin => .inr (.inr (ha.adminUser hadmin)), fun _ hconsole => .inr (ha.console hconsole)⟩
    rcases loginUser_cases hcreds with ⟨r, hr, -⟩ | hcr'
    · rw [hr] at hcr
      cases hcr
    · exact absurd (hreal.symm.trans (ha.mock creds hcr').1) Bool.false_ne_true

/-- What a SASLInitialResponse does to the users. -/
theorem putCredentials_evolves (h : x.users.Sound c) {creds' : Credentials}
    (hcreds : x.loginCredentials = some creds) {env : ScramEnv} {st st' : ScramState} {data : Bytes}
    (hfirst : scramClientFirst c env creds st data = some (st', creds')) :
    x.users.Evolves c (x.putCredentials creds').users := by
  rcases loginUser_cases hcreds with ⟨r, hr, hfind⟩ | hcr
  · have hok := (h r creds hfind).scramClientFirst hfirst
    simp only [putCredentials, hr]
    refine Users.set_evolves (fun _ => hok.1) fun old hold => ?_
    rw [hfind] at hold
    cases hold
    exact hok.2.1
  · simp only [putCredentials, hcr]
    exact .refl _

/-- A SASLInitialResponse. -/
theorem Receives.saslInitialResponse (h : Receives cfg c x pkt) (hpkt : pkt = .password body)
    (hauth : x.client.waitForAuth = false) (hstart : x.client.scramState.serverNonce = none)
    (hs : x.client.startupMessageReceived = true) (hcreds : x.loginCredentials = some creds)
    (env : Env) :
    Verdict cfg c env x pkt (saslInitialResponse c env x creds body) := by
  have ha := h.ok.asked hs
  have hcases := saslInitialResponse_cases (c := c) env x creds body
  generalize LoginCtx.saslInitialResponse c env x creds body = r at hcases
  cases hcases with
  | shut hshut => exact .of_shut hshut
  | incomplete => exact h.answered (by rw [hpkt]; simp) hauth env id x.client.sent false
  | unsent data st creds' first hshut => exact .of_shut hshut
  | sent data st creds' first sent =>
    have hev := putCredentials_evolves h.sound hcreds first
    have hclient := putCredentials_client x creds'
    have hm := ha.mono hev.grows
    have hupdate : ((x.putCredentials creds').update fun cl =>
        { cl with scramState := st, sent := sent }).client =
        { x.client with scramState := st, sent := sent } := by
      rw [update, hclient]
    have hdb : ((x.putCredentials creds').update fun cl =>
        { cl with scramState := st, sent := sent }).dbAuthUser = x.dbAuthUser := by
      simp only [update, putCredentials]
      split <;> rfl
    refine .of_login (by rw [hupdate]; exact ha.state) (by rw [hupdate])
      (by rw [hupdate]; exact fun hq => absurd (h.unpaused.symm.trans hq.2) Bool.false_ne_true)
      (by rw [hupdate]) (by rw [hupdate]; exact fun cr hcr => ⟨cr, hcr⟩)
      (.inr ⟨creds, creds', data, st, hcreds, first, hstart, by rw [hupdate], by rw [hupdate],
        rfl⟩) ?_
    rw [hupdate, hdb]
    refine ⟨h.ok.wasActive, h.ok.waitForWelcome,
      fun hf => absurd (hs.symm.trans hf) (by decide), fun _ => ?_⟩
    refine { hm with
      mock := fun cr hcr => ?_
      scram := fun r hr _ => ?_
      auth := fun hw => absurd (hauth.symm.trans hw) Bool.false_ne_true }
    · -- a made-up user gets no keys
      obtain ⟨hmock, hadhoc, hpool⟩ := ha.mock cr hcr
      refine ⟨hmock, ?_, hpool⟩
      rcases loginUser_cases hcreds with ⟨r, hr, -⟩ | hcr'
      · exact absurd (hr.symm.trans hcr) (by simp)
      · cases hcr.symm.trans hcr'
        simp only [scramClientFirst, Option.bind_eq_bind, Option.bind_eq_some_iff, hmock,
          if_true] at first
        obtain ⟨st₁, hread, first⟩ := first
        obtain ⟨flag, bare, nonce, rfl⟩ := readClientFirstMessage_state hread
        cases first
        exact hadhoc
    · rcases loginUser_cases hcreds with ⟨r', hr', hfind⟩ | hcr'
      · cases hr.symm.trans hr'
        have hok := (h.sound r creds hfind).scramClientFirst first
        refine ⟨creds', ?_, hok.2.2⟩
        simp only [PgSocket.loginCredentials, hr', putCredentials, update]
        exact Users.find_set_self _ _ _
      · exact absurd (hr.symm.trans hcr') (by simp)

theorem saveScramKeys_evolves (y : LoginCtx) (st : ScramState) :
    y.users.Evolves c (y.saveScramKeys st).users := by
  unfold saveScramKeys
  repeat' split
  all_goals first
    | exact .refl _
    | exact Users.modify_evolves (fun cr h => { h with })
        fun cr => ⟨rfl, fun _ => id⟩

/-- A SASLResponse. -/
theorem Receives.saslResponse (h : Receives cfg c x pkt) (hpkt : pkt = .password body)
    (hs : x.client.startupMessageReceived = true) (hmethod : x.client.clientAuthType = .scramSha256)
    (hnonce : x.client.scramState.serverNonce ≠ none) (hcreds : x.loginCredentials = some creds)
    (env : Env) :
    Verdict cfg c env x pkt (saslResponse c env x body) := by
  have ha := h.ok.asked hs
  have hcases := saslResponse_cases (c := c) env x body
  generalize LoginCtx.saslResponse c env x body = r at hcases
  cases hcases with
  | shut hshut => exact .of_shut hshut
  | verified st final sent y saved alive =>
    subst saved
    obtain ⟨read, nonce, proof, key, hread, hnonceOk, hproofOk, rfl⟩ :=
      scramClientFinal_cases final
    obtain ⟨⟨message, rfl⟩, -⟩ := readClientFinalMessage_state hread
    have hclient := saveScramKeys_client (x.update fun cl => { cl with sent := sent })
      { x.client.scramState with clientFinalMessageWithoutProof := message, clientKey := key }
    have hev := saveScramKeys_evolves (c := c) (x.update fun cl => { cl with sent := sent })
      { x.client.scramState with clientFinalMessageWithoutProof := message, clientKey := key }
    generalize hy : (x.update fun cl => { cl with sent := sent }).saveScramKeys
      { x.client.scramState with clientFinalMessageWithoutProof := message, clientKey := key } = y
      at *
    have hm := ha.mono hev.grows
    rcases loginUser_cases hcreds with ⟨r, hr, hfind⟩ | hcr
    · obtain ⟨rule, hselected⟩ := hm.selected
      rw [hmethod] at hselected
      refine .of_entry (y := y.update fun cl => { cl with scramState := {} })
        ⟨?_, ?_, ?_, ?_, .scram rule body _ nonce proof key hpkt hselected (hm.scram r hr hnonce)
          hread hnonceOk hproofOk, fun cr hcr => ?_, fun p hp => ?_, fun ho => ?_,
          fun hadmin => .inr (.inr ?_), fun _ hconsole => .inr ?_⟩
      all_goals simp only [update, hclient] at *
      · exact ha.state
      · exact h.ok.wasActive
      · exact absurd (hr.symm.trans hcr) (by simp)
      · exact ha.pool p hp
      · exact absurd (ha.ownUser.symm.trans ho) Bool.false_ne_true
      · exact hm.adminUser hadmin
      · exact hm.console hconsole
    · -- there is no pool to look at, unless the database is made up as well
      obtain ⟨-, hadhoc, hpool⟩ := ha.mock creds hcr
      obtain ⟨rule, db, creds', tls, passwd, hdb, -⟩ := ha.selected
      cases hfake : db.fake with
      | true =>
        refine .of_shut ((@finishClientLogin_fake env _ db ?_ hfake).of_eq ?_)
        · simp only [update, hclient]
          exact hdb
        · simp only [update, hclient]
      | false =>
        have hnone : x.client.pool = none := by
          rcases hpool with hnone | ⟨db', hdb', hfake'⟩
          · exact hnone
          · cases hdb.symm.trans hdb'
            exact absurd (hfake.symm.trans hfake') Bool.false_ne_true
        rw [← hy] at alive
        simp [saveScramKeys, update, hdb, hadhoc, hfake, hnone, die] at alive

theorem Receives.handlePassword (h : Receives cfg c x pkt) (hpkt : pkt = .password body)
    (hauth : x.client.waitForAuth = false) (env : Env) :
    Verdict cfg c env x pkt (handlePassword c env x body) := by
  unfold LoginCtx.handlePassword
  split
  · exact .of_shut (fail_shut _ _ _)
  rename_i creds hcreds
  cases hs : x.client.startupMessageReceived with
  | false =>
    -- nobody has asked for a password, and there is none to compare with
    have hany := (h.ok.fresh hs).clientAuthType
    rw [if_neg (by rw [hany]; decide)]
    have hcases := passwordMessage_cases (c := c) env x creds body
    generalize LoginCtx.passwordMessage c env x creds body = r at hcases
    cases hcases with
    | shut hshut => exact .of_shut hshut
    | ignored => exact h.answered (by rw [hpkt]; simp) hauth env id x.client.sent true
    | begun checker passwd rest method string =>
      rw [hany] at method
      cases checker <;> cases method
    | accepted passwd rest string ok =>
      rw [hany] at ok
      simp [checkClientPasswd] at ok
  | true =>
    split
    · rename_i hmethod
      split
      · rename_i hstart
        exact h.saslInitialResponse hpkt hauth (by simpa using hstart) hs hcreds env
      · rename_i hnonce
        exact h.saslResponse hpkt hs hmethod (by simpa using hnonce) hcreds env
    · exact h.passwordMessage hpkt hauth hs hcreds env

/-! ### Any packet -/

theorem Receives.handleStartup (h : Receives cfg c x pkt) {packet : StartupPacket}
    (hpkt : pkt = .startup packet) (env : Env) :
    Verdict cfg c env x pkt (handleStartup cfg env x packet) := by
  subst hpkt
  unfold LoginCtx.handleStartup
  split
  · exact .of_shut (fail_shut _ _ _)
  split
  · exact .of_shut (fail_shut _ _ _)
  rename_i hs
  have hs' : x.client.startupMessageReceived = false := by simpa using hs
  have hf := h.ok.fresh hs'
  split
  · -- the auth_query is over, and its rows have said who the user is
    have hready : Ready cfg c x (.startup packet)
        (x.update fun cl => { cl with waitForUser := false }) :=
      ⟨rfl, h.state, rfl, rfl, h.ok.wasActive, h.ok.waitForWelcome, rfl, hf.waitForAuth,
        hf.scramState, hf.scramState, h.sound,
        fun ho => absurd (hf.ownUser.symm.trans ho) Bool.false_ne_true,
        fun ha => absurd (hf.adminUser.symm.trans ha) Bool.false_ne_true,
        fun cr hcr => absurd hcr (hf.noMock cr), fun cr hcr => absurd hcr (hf.noMock cr)⟩
    exact hready.verdict h.ok.wasActive env
  · rename_i huser
    exact Starting.verdict ⟨h.sound, h.state, h.ok, hs', by simpa using huser,
      fun p hp => h.pending p hp⟩ env

/-- **What a packet can do to a client that is not logged in.** -/
theorem Receives.verdict (h : Receives cfg c x pkt) (env : Env) :
    Verdict cfg c env x pkt (handleClientStartup cfg c env x pkt) := by
  unfold handleClientStartup
  split
  · rename_i hwait
    have hauth : x.client.waitForAuth = true := by simpa [h.ok.waitForWelcome] using hwait
    have hs : x.client.startupMessageReceived = true := by
      by_contra hs
      have hf := (h.ok.fresh (by simpa using hs)).waitForAuth
      exact absurd (hf.symm.trans hauth) Bool.false_ne_true
    have ha := h.ok.asked hs
    rcases ha.auth hauth with hpaused | ⟨request, hgranted⟩
    · exact absurd (h.unpaused.symm.trans hpaused) Bool.false_ne_true
    obtain ⟨rule, hselected⟩ := ha.selected
    obtain ⟨creds, body, passwd, rest, hcreds, hname, hpending, hstring, hpasswd, hmethod⟩ :=
      hgranted.2.2.2.2
    refine .of_entry ⟨h.state, h.ok.wasActive, rfl, rfl, .checked request rule hgranted ?_ ?_,
      fun _ _ => ⟨hauth, rfl⟩, ha.pool,
      fun ho => absurd (ha.ownUser.symm.trans ho) Bool.false_ne_true,
      fun hadmin => .inr (.inr (ha.adminUser hadmin)),
      fun _ hconsole => .inr (ha.console hconsole)⟩
    · rw [hpending, h.pending _ hpending]
    · rwa [hmethod] at hselected
  · rename_i hwait
    have hauth : x.client.waitForAuth = false := by
      simp only [Bool.or_eq_true, not_or, Bool.not_eq_true] at hwait
      exact hwait.2
    cases pkt with
    | sslRequest =>
      unfold handleSslRequest
      dsimp only
      split
      · exact .of_shut (fail_shut _ _ _)
      split
      · split
        · exact h.answered (by simp) hauth env (fun _ => rfl) _ true
        · exact .of_shut (fail_shut _ _ _)
      · split
        · exact h.answered (by simp) hauth env id _ true
        · exact .of_shut (fail_shut _ _ _)
    | gssEncRequest =>
      dsimp only
      split
      · exact h.answered (by simp) hauth env id _ true
      · exact .of_shut (fail_shut _ _ _)
    | startupV2 => exact .of_shut (fail_shut _ _ _)
    | startup packet => exact h.handleStartup rfl env
    | password body => exact h.handlePassword rfl hauth env
    | cancel wellFormed =>
      dsimp only
      split
      · exact .of_shut (fail_shut _ _ _)
      split
      · exact .of_shut (fail_shut _ _ _)
      · refine ⟨.inl rfl, fun _ hs => ?_, fun _ hs => ?_, nofun,
          nofun, nofun⟩
        all_goals rcases hs with hs | hs <;> cases hs
    | other => exact .of_shut (fail_shut _ _ _)

end Password

end PgBouncer
