/-
Clients are counted, and the limits hold.

A handler works for one client, and what it has to keep is an equation: a count is what the
other clients count for, plus one if this client does.  So the checks and `disconnect_client`
are looked at with the numbers of the others fixed (`Others`), and only at the end are all
clients counted.  The checks may be passed more than once in one login, and in between the
credentials change; what a check has found out has to outlive this (`DbLimit`, `UserLimit`).

There are two ways to lose count.  A row of an auth_query may name another user than the one
the client is counted for: the flag stays set, and `disconnect_client` takes the client off
the count of the new user.  And LDAP never calls `check_db_connection_count`, so these
clients are not counted for their database and no limit stops them.  One more client is not
counted for a user: the one that runs pgbouncer, at the console.  And a name that is found in
`admin_users` need not be one of its elements (`StrList.strlistContains_iff`).  `Fair` leaves
these out.

A client of the console may be closed by `admin_pre_login`.  The login does not notice and
goes on; it always ends with the process (`findLoginUser_died`), which is why nothing can be
said about the counts of a process that has died.
-/
import PgBouncer.ClientLimits
import PgBouncer.Proofs.StrList
import Mathlib.Data.List.Basic

namespace PgBouncer.ClientLimits

open StrList

/-! ### What a client counts for -/

namespace Client

/-- The global user of the credentials a client has. -/
def globalUser (cl : Client) : Option Bytes := cl.loginUser.bind (·.globalUser)

/-- The client is counted for this database. -/
def forDb (db : Db) (cl : Client) : Bool :=
  cl.state ≠ .closed && cl.contributesDbClientCount && cl.db = some db

/-- The client is counted for this user. -/
def forUser (user : Bytes) (cl : Client) : Bool :=
  cl.state ≠ .closed && cl.userConnectionCounted && cl.globalUser = some user

/-- The checks let the client pass because of its name. -/
def exempt (cfg : AuthConfig) (cl : Client) : Bool :=
  match cl.db, cl.loginUser with
  | some db, some user => isAdmin cfg db user
  | _, _ => false

/-- The login user is a member of `admin_users` on the admin database. -/
def member (cfg : AuthConfig) (cl : Client) : Bool :=
  cl.db.any (·.admin) && cl.loginUser.any fun user => user.name ∈ elements cfg.adminUsers

/-- The client is a member of `admin_users` on the admin database: it has the name of one, or
it has been taken for one, which it is, although it was given other credentials. -/
def spared (cfg : AuthConfig) (cl : Client) : Bool :=
  cl.member cfg || (cl.db.any (·.admin) && cl.adminUser && !cl.ownUser &&
    cl.startupUser ∈ elements cfg.adminUsers)

end Client

/-- The name is found in `admin_users` only if it is one of its elements. -/
def Honest (cfg : AuthConfig) (name : Bytes) : Prop :=
  cfg.isAdminUser name = true → name ∈ elements cfg.adminUsers

instance (cfg : AuthConfig) (name : Bytes) : Decidable (Honest cfg name) :=
  inferInstanceAs (Decidable (_ → _))

/-! ### A handler and the other clients -/

variable (cfg : AuthConfig) (lim : Limits)

/-- What all clients but one count for, and how many of them are not exempt; and the users
there were before. -/
structure Others where
  db : Db → Int
  user : Bytes → Int
  dbLimited : Db → Int
  userLimited : Bytes → Int
  users : Bytes → Option Bool
  dbLimited_le : ∀ d, dbLimited d ≤ db d
  userLimited_le : ∀ u, userLimited u ≤ user u
  dbLimited_max : ∀ d, 0 < lim.databaseMaxClientConnections d →
    dbLimited d ≤ lim.databaseMaxClientConnections d
  userLimited_max : ∀ u, 0 < lim.userClientMaxConnections u →
    userLimited u ≤ lim.userClientMaxConnections u

/-- The counts are those of the other clients and of this one, and no user has been lost. -/
structure Exact (b : Others lim) (x : Ctx) : Prop where
  db : ∀ d, x.dbCount d = b.db d + if x.client.forDb d then 1 else 0
  user : ∀ u, x.userCount u = b.user u + if x.client.forUser u then 1 else 0
  users : ∀ u, (b.users u).isSome → (x.users u).isSome

/-- The client does not exceed the limit of its database. -/
def DbLimit (b : Others lim) (cl : Client) : Prop :=
  ∀ d, 0 < lim.databaseMaxClientConnections d →
    (b.dbLimited d + if cl.forDb d && !cl.exempt cfg then 1 else 0) ≤
      lim.databaseMaxClientConnections d

/-- The client does not exceed the limit of its user. -/
def UserLimit (b : Others lim) (cl : Client) : Prop :=
  ∀ u, 0 < lim.userClientMaxConnections u →
    (b.userLimited u + if cl.forUser u && !cl.exempt cfg then 1 else 0) ≤
      lim.userClientMaxConnections u

/-- The client is gone, or the process is. -/
def Gone (b : Others lim) (x : Ctx) : Prop :=
  x.died = true ∨ Exact lim b x ∧ x.client.state = .closed

/-- What a check that can close the client leaves behind. -/
structure Leaves (gone : Ctx → Prop) (r : Ctx × Bool) (P : Ctx → Prop) : Prop where
  passed : r.2 = true → P r.1
  refused : r.2 = false → gone r.1

variable {cfg lim} {b : Others lim} {x y : Ctx} {db : Db} {cl cl' : Client} {user : LoginUser}
  {r : Ctx × Bool} {gone P Q : Ctx → Prop} {next : Ctx → Ctx × Bool}

theorem leaves_true (h : P x) : Leaves gone (x, true) P where
  passed _ := h
  refused hfalse := nomatch hfalse

theorem leaves_false (h : gone x) : Leaves gone (x, false) P where
  passed hfalse := nomatch hfalse
  refused _ := h

theorem Leaves.andThen (h : Leaves gone r P) (hnext : ∀ y, P y → Leaves gone (next y) Q) :
    Leaves gone (Ctx.andThen r next) Q := by
  unfold Ctx.andThen
  split_ifs with hr
  · exact hnext _ (h.passed hr)
  · exact leaves_false (h.refused (Bool.eq_false_iff.mpr hr))

theorem Leaves.ends (h : Leaves gone r P) (hgone : ∀ y, gone y → Q y)
    (hnext : ∀ y, P y → Q (next y).1) : Q (Ctx.andThen r next).1 := by
  unfold Ctx.andThen
  split_ifs with hr
  · exact hnext _ (h.passed hr)
  · exact hgone _ (h.refused (Bool.eq_false_iff.mpr hr))

theorem ite_le_ite {p q : Bool} (h : p = true → q = true) :
    (if p then 1 else 0 : Int) ≤ if q then 1 else 0 := by
  cases p <;> cases q <;> simp_all

theorem DbLimit.mono (h : DbLimit cfg lim b cl)
    (hle : ∀ d, cl'.forDb d && !cl'.exempt cfg → cl.forDb d && !cl.exempt cfg) :
    DbLimit cfg lim b cl' := fun d hd => by
  have hite := ite_le_ite (hle d)
  have hold := h d hd
  omega

theorem UserLimit.mono (h : UserLimit cfg lim b cl)
    (hle : ∀ u, cl'.forUser u && !cl'.exempt cfg → cl.forUser u && !cl.exempt cfg) :
    UserLimit cfg lim b cl' := fun u hu => by
  have hite := ite_le_ite (hle u)
  have hold := h u hu
  omega

/-- A client that has passed the check of its database. -/
theorem dbLimit_of (hdb : cl.db = some db) (h : 0 < lim.databaseMaxClientConnections db →
      cl.exempt cfg = true ∨ b.db db + 1 ≤ lim.databaseMaxClientConnections db) :
    DbLimit cfg lim b cl := by
  intro d hd
  have hmax := b.dbLimited_max d hd
  have hle := b.dbLimited_le d
  by_cases heq : d = db
  · subst heq
    rcases h hd with hexempt | hroom
    · rw [hexempt, Bool.not_true, Bool.and_false, if_neg Bool.false_ne_true]
      omega
    · split <;> omega
  · have hnot : cl.forDb d = false := by simp [Client.forDb, hdb, Ne.symm heq]
    rw [hnot, Bool.false_and, if_neg Bool.false_ne_true]
    omega

/-- A client that has passed the check of its user, if there is one. -/
theorem userLimit_of (h : ∀ u, cl.forUser u → 0 < lim.userClientMaxConnections u →
      cl.exempt cfg = true ∨ b.user u + 1 ≤ lim.userClientMaxConnections u) :
    UserLimit cfg lim b cl := by
  intro u hu
  have hmax := b.userLimited_max u hu
  have hle := b.userLimited_le u
  split_ifs with hcounts
  · obtain ⟨hfor, hexempt⟩ := Bool.and_eq_true_iff.mp hcounts
    rcases h u hfor hu with hspare | hroom
    · rw [hspare] at hexempt
      exact nomatch hexempt
    · omega
  · omega

theorem exempt_eq (hdb : cl.db = some db) (huser : cl.loginUser = some user) :
    cl.exempt cfg = isAdmin cfg db user := by
  simp only [Client.exempt, hdb, huser]

theorem member_of (hdb : cl.db = some db) (huser : cl.loginUser = some user)
    (hname : db.admin = true → Honest cfg user.name) (h : cl.exempt cfg = true) :
    cl.member cfg = true := by
  rw [exempt_eq hdb huser, isAdmin, Bool.and_eq_true] at h
  have hmem := hname h.1 h.2
  simp [Client.member, hdb, huser, h.1, hmem]

/-! ### Closing -/

variable {n : Int} {u : Bytes} {users : Bytes → Option Bool}

theorem countDb_dbCount {d : Db} :
    (x.countDb db n).dbCount d = x.dbCount d + if d = db then n else 0 := by
  unfold Ctx.countDb
  by_cases h : d = db
  · rw [h, if_pos rfl]
    exact Function.update_self ..
  · rw [if_neg h, Int.add_zero]
    exact Function.update_of_ne h ..

theorem countUser_userCount {u' : Bytes} :
    (x.countUser u n).userCount u' = x.userCount u' + if u' = u then n else 0 := by
  unfold Ctx.countUser
  by_cases h : u' = u
  · rw [h, if_pos rfl]
    exact Function.update_self ..
  · rw [if_neg h, Int.add_zero]
    exact Function.update_of_ne h ..

theorem releaseDb_frame : x.releaseDb.client = x.client ∧ x.releaseDb.users = x.users ∧
    x.releaseDb.userCount = x.userCount := by
  unfold Ctx.releaseDb
  split <;> exact ⟨rfl, rfl, rfl⟩

theorem releaseUser_frame : x.releaseUser.client = x.client ∧ x.releaseUser.users = x.users ∧
    x.releaseUser.dbCount = x.dbCount := by
  unfold Ctx.releaseUser
  split <;> exact ⟨rfl, rfl, rfl⟩

/-- A client that is not closed is taken off the count it is on. -/
theorem releaseDb_dbCount {d : Db} (h : x.dbCount d = n + if x.client.forDb d then 1 else 0)
    (hlive : x.client.state ≠ .closed) :
    x.releaseDb.dbCount d = n := by
  unfold Ctx.releaseDb
  split
  · rename_i db' hflag hdb'
    rw [countDb_dbCount, h]
    by_cases heq : d = db'
    · simp [Client.forDb, hlive, hflag, hdb', heq]
    · simp [Client.forDb, hdb', heq, Ne.symm heq]
  · rename_i hnot
    rw [h, if_neg, Int.add_zero]
    simp only [Client.forDb, Bool.and_eq_true, decide_eq_true_eq]
    exact fun hcount => hnot d hcount.1.2 hcount.2

theorem releaseUser_userCount (h : x.userCount u = n + if x.client.forUser u then 1 else 0)
    (hlive : x.client.state ≠ .closed) : x.releaseUser.userCount u = n := by
  unfold Ctx.releaseUser
  split
  · rename_i u' hflag hu'
    rw [countUser_userCount, h]
    by_cases heq : u = u'
    · simp [Client.forUser, Client.globalUser, hlive, hflag, hu', heq]
    · simp [Client.forUser, Client.globalUser, hu', heq, Ne.symm heq]
  · rename_i hnot
    rw [h, if_neg, Int.add_zero]
    simp only [Client.forUser, Bool.and_eq_true, decide_eq_true_eq]
    exact fun hcount => hnot u hcount.1.2 hcount.2

theorem disconnectClient_died (h : x.client.state = .closed) : x.disconnectClient.died = true := by
  unfold Ctx.disconnectClient
  dsimp only
  rw [if_pos (by rwa [releaseUser_frame.1, releaseDb_frame.1])]
  rfl

/-- `disconnect_client` takes a client off the counts. -/
theorem Exact.disconnectClient (h : Exact lim b x) : Gone lim b x.disconnectClient := by
  by_cases hlive : x.client.state = .closed
  · exact .inl (disconnectClient_died hlive)
  · refine .inr ?_
    unfold Ctx.disconnectClient
    dsimp only
    rw [if_neg (by rwa [releaseUser_frame.1, releaseDb_frame.1])]
    refine ⟨⟨fun d => ?_, fun u => ?_, ?_⟩, rfl⟩
    · show x.releaseDb.releaseUser.dbCount d = _
      rw [releaseUser_frame.2.2, releaseDb_dbCount (h.db d) hlive]
      simp [Client.forDb, Ctx.update]
    · show x.releaseDb.releaseUser.userCount u = _
      have huser : x.releaseDb.userCount u =
          b.user u + if x.releaseDb.client.forUser u then 1 else 0 := by
        rw [releaseDb_frame.1, releaseDb_frame.2.2, h.user]
      rw [releaseUser_userCount huser (by rwa [releaseDb_frame.1])]
      simp [Client.forUser, Ctx.update]
    · show ∀ u, (b.users u).isSome → (x.releaseDb.releaseUser.users u).isSome
      rw [releaseUser_frame.2.1, releaseDb_frame.2.1]
      exact h.users

theorem Exact.fail (h : Exact lim b x) : Leaves (Gone lim b) x.fail P :=
  leaves_false h.disconnectClient

/-! ### The checks -/

/-- What a check changes if it passes. -/
structure Passes (b : Others lim) (x y : Ctx) (db user : Bool) : Prop where
  exact : Exact lim b y
  users : y.users = x.users
  client : y.client =
    { x.client with
      contributesDbClientCount := x.client.contributesDbClientCount || db
      userConnectionCounted :=
        x.client.userConnectionCounted || (user && x.client.globalUser.isSome) }

theorem Exact.contributeDb (h : Exact lim b x) (hlive : x.client.state ≠ .closed)
    (hdb : x.client.db = some db) :
    Passes b x (x.contributeDb db) true false ∧ (x.contributeDb db).dbCount db = b.db db + 1 := by
  unfold Ctx.contributeDb
  split_ifs with hflag
  · refine ⟨⟨h, rfl, ?_⟩, ?_⟩
    · simp only [hflag, Bool.or_true, Bool.false_and, Bool.or_false]
      rw [← hflag]
    · rw [h.db]
      simp [Client.forDb, hlive, hflag, hdb]
  · have hcount : ∀ d, (x.countDb db 1).dbCount d = b.db d + if d = db then 1 else 0 := by
      intro d
      rw [countDb_dbCount, h.db]
      simp [Client.forDb, hflag]
    refine ⟨⟨⟨fun d => ?_, h.user, h.users⟩, rfl, ?_⟩, ?_⟩
    · refine (hcount d).trans ?_
      simp [Client.forDb, Ctx.update, Ctx.countDb, hlive, hdb, eq_comm]
    · simp [Ctx.update, Ctx.countDb]
    · exact (hcount db).trans (by rw [if_pos rfl])

theorem Exact.contributeUser (h : Exact lim b x) (hlive : x.client.state ≠ .closed)
    (huser : x.client.globalUser = some u) :
    Passes b x (x.contributeUser u) false true ∧
      (x.contributeUser u).userCount u = b.user u + 1 := by
  unfold Ctx.contributeUser
  split_ifs with hflag
  · refine ⟨⟨h, rfl, ?_⟩, ?_⟩
    · simp only [hflag, Bool.or_false, Bool.true_or]
      rw [← hflag]
    · rw [h.user]
      simp [Client.forUser, hlive, hflag, huser]
  · have hcount : ∀ u', (x.countUser u 1).userCount u' =
        b.user u' + if u' = u then 1 else 0 := by
      intro u'
      rw [countUser_userCount, h.user]
      simp [Client.forUser, hflag]
    refine ⟨⟨⟨h.db, fun u' => ?_, h.users⟩, rfl, ?_⟩, ?_⟩
    · refine (hcount u').trans ?_
      have hsame : Client.globalUser { x.client with userConnectionCounted := true } = some u :=
        huser
      simp [Client.forUser, Ctx.update, Ctx.countUser, hlive, hsame, eq_comm]
    · simp [Ctx.update, Ctx.countUser, huser]
    · exact (hcount u).trans (by rw [if_pos rfl])

/-- `check_db_connection_count`. -/
theorem Exact.checkDb (h : Exact lim b x) (hlive : x.client.state ≠ .closed)
    (hdb : x.client.db = some db) :
    Leaves (Gone lim b) (x.checkDbConnectionCount cfg lim db) fun y =>
      Passes b x y true false ∧ DbLimit cfg lim b y.client := by
  obtain ⟨hpass, hcount⟩ := h.contributeDb hlive hdb
  have hdb' : (x.contributeDb db).client.db = some db := by rw [hpass.client, hdb]
  unfold Ctx.checkDbConnectionCount
  dsimp only
  split_ifs with hoff hroom hadmin
  · refine leaves_true ⟨hpass, dbLimit_of hdb' fun hon => ?_⟩
    omega
  · refine leaves_true ⟨hpass, dbLimit_of hdb' fun _ => .inr ?_⟩
    omega
  · split
    · exact leaves_false (.inl rfl)
    · rename_i user huser
      split_ifs with hname
      · refine leaves_true ⟨hpass, dbLimit_of hdb' fun _ => .inl ?_⟩
        exact (exempt_eq hdb' huser).trans hname
      · exact hpass.exact.fail
  · exact hpass.exact.fail

/-- `check_user_connection_count`. -/
theorem Exact.checkUser (h : Exact lim b x) (hlive : x.client.state ≠ .closed)
    (hdb : x.client.db = some db) :
    Leaves (Gone lim b) (x.checkUserConnectionCount cfg lim db) fun y =>
      Passes b x y false true ∧ UserLimit cfg lim b y.client := by
  have hnone : x.client.globalUser = none →
      Leaves (Gone lim b) (x, true) fun y =>
        Passes b x y false true ∧ UserLimit cfg lim b y.client := by
    intro hglobal
    refine leaves_true ⟨⟨h, rfl, ?_⟩, userLimit_of fun u hfor => ?_⟩
    · simp [hglobal]
    · simp [Client.forUser, hglobal] at hfor
  unfold Ctx.checkUserConnectionCount
  split
  · rename_i huser
    exact hnone (by rw [Client.globalUser, huser]; rfl)
  · rename_i user huser
    split
    · rename_i hglobal
      exact hnone (by rw [Client.globalUser, huser]; exact hglobal)
    · rename_i u hglobal
      have hu : x.client.globalUser = some u := by
        rw [Client.globalUser, huser]
        exact hglobal
      obtain ⟨hpass, hcount⟩ := h.contributeUser hlive hu
      have hu' : (x.contributeUser u).client.globalUser = some u := hpass.client ▸ hu
      have hsame : ∀ u', (x.contributeUser u).client.forUser u' → u' = u := by
        intro u' hfor
        simp only [Client.forUser, hu', Bool.and_eq_true, decide_eq_true_eq] at hfor
        exact (Option.some.inj hfor.2).symm
      dsimp only
      split_ifs with hadmin hoff hroom
      · refine leaves_true ⟨hpass, userLimit_of fun _ _ _ => .inl ?_⟩
        rw [hpass.client]
        exact (exempt_eq hdb huser).trans hadmin
      · refine leaves_true ⟨hpass, userLimit_of fun u' hfor hon => ?_⟩
        rw [hsame u' hfor] at hon
        omega
      · refine leaves_true ⟨hpass, userLimit_of fun u' hfor _ => .inr ?_⟩
        rw [hsame u' hfor]
        omega
      · exact hpass.exact.fail

/-- Both checks. -/
theorem Exact.checkBoth (h : Exact lim b x) (hlive : x.client.state ≠ .closed)
    (hdb : x.client.db = some db) :
    Leaves (Gone lim b) (x.checkBoth cfg lim db) fun y =>
      Passes b x y true true ∧ DbLimit cfg lim b y.client ∧ UserLimit cfg lim b y.client := by
  refine (h.checkDb hlive hdb).andThen fun y ⟨hpass, hlimit⟩ => ?_
  have hlive' : y.client.state ≠ .closed := by rwa [hpass.client]
  have hdb' : y.client.db = some db := by rw [hpass.client, hdb]
  refine ⟨fun hr => ?_, (hpass.exact.checkUser hlive' hdb').refused⟩
  obtain ⟨hpass', hlimit'⟩ := (hpass.exact.checkUser hlive' hdb').passed hr
  refine ⟨⟨hpass'.exact, hpass'.users.trans hpass.users, ?_⟩, ?_, hlimit'⟩
  · rw [hpass'.client, hpass.client]
    simp [Client.globalUser]
  · refine hlimit.mono fun d => ?_
    rw [hpass'.client]
    simp only [Bool.or_false]
    exact id

/-! ### Clients between two events -/

/-- The user that runs pgbouncer asks for the console. -/
def ownLogin (cl : Client) (packet : Startup) : Bool :=
  cl.connection.remoteAddr.isUnix && cl.connection.sameUid &&
    packet.username = LoginCtx.pgbouncerName

variable (cfg lim)

/-- A client that waits for its auth_query, or for a server for it. -/
structure Waits (users : Bytes → Option Bool) (cl : Client) (packet : Startup) : Prop where
  received : cl.startupMessageReceived = false
  db : ∃ config, cfg.findOrRegisterDatabase packet.dbname = some config ∧
    cl.db = some (.real config) ∧ (config.admin = true → ownLogin cl packet = false)
  contributes : cl.contributesDbClientCount = true
  notAny : cfg.authType ≠ .any
  /-- Until the first row the user is the one of the startup packet. -/
  user : cl.userConnectionCounted = true → ∃ name,
    cl.loginUser = some { name, globalUser := some name } ∧
      (cl.waitForUser = false → name = packet.username ∧ (users name).isSome)
  nobody : cl.userConnectionCounted = false → cl.loginUser = none
  startup : cl.startupUser = packet.username
  names : cl.exempt cfg = true → cl.member cfg = true

/-- A client that is through with `finish_set_pool`. -/
structure Through (cl : Client) : Prop where
  done : cl.waitForUser = false
  db : ∃ d, cl.db = some d
  user : ∃ user, cl.loginUser = some user
  contributes : ∀ d, cl.db = some d → d.isFake = false →
    0 < lim.databaseMaxClientConnections d → cl.contributesDbClientCount = true
  counted : ∀ u, cl.globalUser = some u → 0 < lim.userClientMaxConnections u →
    cl.userConnectionCounted = true ∨ cl.spared cfg = true
  names : cl.exempt cfg = true → cl.member cfg = true

/-- A client that is not closed. -/
structure Fit (users : Bytes → Option Bool) (cl : Client) : Prop where
  fresh : cl.startupMessageReceived = false → cl.pending = none →
    cl.contributesDbClientCount = false ∧ cl.userConnectionCounted = false ∧
      cl.waitForUser = false ∧ cl.loginUser = none
  waits : ∀ packet, cl.pending = some packet → Waits cfg users cl packet
  through : cl.startupMessageReceived = true → Through cfg lim cl
  active : cl.state = .active →
    cl.startupMessageReceived = true ∧ ∃ config, cl.db = some (.real config)

/-- What a handler leaves behind. -/
def Ends (b : Others lim) (x : Ctx) : Prop :=
  x.died = true ∨ Exact lim b x ∧
    (x.client.state = .closed ∨
      DbLimit cfg lim b x.client ∧ UserLimit cfg lim b x.client ∧ Fit cfg lim x.users x.client)

variable {cfg lim} {packet : Startup} {query : Ctx.AuthQuery} {username : Bytes}

theorem Gone.ends (h : Gone lim b x) : Ends cfg lim b x :=
  h.imp id fun h => ⟨h.1, .inl h.2⟩

theorem Exact.ends (h : Exact lim b x) : Ends cfg lim b x.disconnectClient :=
  h.disconnectClient.ends

/-- Changes that have nothing to do with counting. -/
theorem Exact.of_client (h : Exact lim b x) (hdb : ∀ d, y.client.forDb d = x.client.forDb d)
    (huser : ∀ u, y.client.forUser u = x.client.forUser u) (hdbs : y.dbCount = x.dbCount)
    (husers : y.userCount = x.userCount)
    (hgrow : ∀ u, (x.users u).isSome → (y.users u).isSome) : Exact lim b y where
  db d := by rw [hdbs, hdb, h.db]
  user u := by rw [husers, huser, h.user]
  users u hu := hgrow u (h.users u hu)

theorem Exact.update (h : Exact lim b x) {f : Client → Client}
    (hdb : ∀ d, (f x.client).forDb d = x.client.forDb d)
    (huser : ∀ u, (f x.client).forUser u = x.client.forUser u) : Exact lim b (x.update f) :=
  h.of_client hdb huser rfl rfl fun _ => id

theorem Exact.setLoginUser {user : Option LoginUser} (h : Exact lim b x)
    (hsame : x.client.userConnectionCounted = true →
      user.bind (·.globalUser) = x.client.globalUser) : Exact lim b (x.setLoginUser user) := by
  refine h.of_client (fun _ => rfl) (fun u => ?_) rfl rfl fun _ => id
  cases hcounted : x.client.userConnectionCounted with
  | false => simp [Client.forUser, Ctx.setLoginUser, Ctx.update, hcounted]
  | true =>
    have hglobal : (x.setLoginUser user).client.globalUser = x.client.globalUser :=
      hsame hcounted
    unfold Client.forUser
    rw [hglobal]
    rfl

theorem findOrAddNewGlobalUser_grow (u : Bytes) (h : (x.users u).isSome) :
    ((x.findOrAddNewGlobalUser username).users u).isSome := by
  unfold Ctx.findOrAddNewGlobalUser
  split_ifs with hfound
  · exact h
  · have hne : u ≠ username := fun heq => hfound (heq ▸ h)
    simpa [Function.update_of_ne hne] using h

theorem findOrAddNewGlobalUser_frame :
    (x.findOrAddNewGlobalUser username).client = x.client ∧
      (x.findOrAddNewGlobalUser username).dbCount = x.dbCount ∧
      (x.findOrAddNewGlobalUser username).userCount = x.userCount := by
  unfold Ctx.findOrAddNewGlobalUser
  split_ifs <;> exact ⟨rfl, rfl, rfl⟩

theorem Exact.findOrAddNewGlobalUser (h : Exact lim b x) :
    Exact lim b (x.findOrAddNewGlobalUser username) := by
  obtain ⟨hclient, hdb, huser⟩ := @findOrAddNewGlobalUser_frame x username
  refine h.of_client (fun d => ?_) (fun u => ?_) hdb huser findOrAddNewGlobalUser_grow
  · rw [hclient]
  · rw [hclient]

/-! ### The end of `set_pool` -/

/-- The startup packet is done with. -/
theorem Exact.through (h : Exact lim b x) (hlogin : x.client.state = .login)
    (hdb : DbLimit cfg lim b x.client) (huser : UserLimit cfg lim b x.client)
    (hthrough : Through cfg lim x.client) {admin : Bool} (hadmin : x.client.adminUser → admin) :
    Ends cfg lim b (x.update fun cl =>
      { cl with startupMessageReceived := true, pending := none, adminUser := admin }) := by
  refine .inr ⟨h.update (fun _ => rfl) fun _ => rfl, .inr
    ⟨hdb.mono fun _ => id, huser.mono fun _ => id, ?_⟩⟩
  refine ⟨nofun, nofun, fun _ => ?_,
    fun hactive => ?_⟩
  · refine { hthrough with counted := fun u hu hon => ?_ }
    refine (hthrough.counted u hu hon).imp id fun hspared => ?_
    unfold Client.spared at hspared ⊢
    simp only [Bool.or_eq_true, Bool.and_eq_true] at hspared ⊢
    exact hspared.imp id fun ⟨⟨⟨hdb, hflag⟩, hown⟩, hmem⟩ => ⟨⟨⟨hdb, hadmin hflag⟩, hown⟩, hmem⟩
  · exact nomatch hlogin.symm.trans hactive

theorem Exact.finishSetPool (h : Exact lim b x) (hlogin : x.client.state = .login)
    (hdb : DbLimit cfg lim b x.client) (huser : UserLimit cfg lim b x.client)
    (hthrough : Through cfg lim x.client) : Ends cfg lim b (x.finishSetPool cfg).1 := by
  obtain ⟨db, hd⟩ := hthrough.db
  obtain ⟨user, hu⟩ := hthrough.user
  have hlive : x.client.state ≠ .closed := hlogin.trans_ne nofun
  have hsame : Ends cfg lim b (x.update fun cl =>
      { cl with startupMessageReceived := true, pending := none }) :=
    h.through hlogin hdb huser hthrough id
  have hexact : Exact lim b (x.update fun cl =>
      { cl with startupMessageReceived := true, pending := none }) :=
    h.update (fun _ => rfl) fun _ => rfl
  simp only [Ctx.finishSetPool, hd, hu, if_neg hlive]
  split_ifs with hconsole
  · unfold Ctx.adminPostLogin
    split_ifs with hany hadmin hstats
    · exact hsame
    · exact h.through hlogin hdb huser hthrough fun _ => rfl
    · exact hsame
    · exact hexact.ends
  · exact hsame

theorem Leaves.finish (h : Leaves (Gone lim b) r fun y => Ends cfg lim b (y.finishSetPool cfg).1) :
    Ends cfg lim b (Ctx.andThen r fun x => x.finishSetPool cfg).1 :=
  h.ends (fun _ => Gone.ends) fun _ => id

theorem Leaves.imp (h : Leaves gone r P) (hPQ : ∀ y, P y → Q y) : Leaves gone r Q where
  passed hr := hPQ _ (h.passed hr)
  refused := h.refused

/-- Both checks, and then the end of `set_pool`. -/
theorem Exact.checkBoth_finish (h : Exact lim b x) (hlogin : x.client.state = .login)
    (hwait : x.client.waitForUser = false) (hdb : x.client.db = some db)
    (huser : x.client.loginUser = some user) (hname : db.admin = true → Honest cfg user.name) :
    Leaves (Gone lim b) (x.checkBoth cfg lim db) fun y =>
      Ends cfg lim b (y.finishSetPool cfg).1 := by
  have hlive : x.client.state ≠ .closed := hlogin.trans_ne nofun
  refine (h.checkBoth hlive hdb).imp fun y ⟨hpass, hdbl, huserl⟩ => ?_
  refine hpass.exact.finishSetPool ?_ hdbl huserl ?_
  · rw [hpass.client, hlogin]
  · rw [hpass.client]
    refine ⟨hwait, ⟨db, hdb⟩, ⟨user, huser⟩, fun _ _ _ _ => Bool.or_true _,
      fun u hu _ => .inl ?_, member_of hdb huser hname⟩
    have hsome : x.client.globalUser = some u := hu
    simp [hsome]

/-- One check only, for a client that nobody counts for a user. -/
theorem Exact.checkDb_finish (h : Exact lim b x) (hlogin : x.client.state = .login)
    (hwait : x.client.waitForUser = false) (hdb : x.client.db = some db)
    (huser : x.client.loginUser = some user) (hname : db.admin = true → Honest cfg user.name)
    (hnot : x.client.userConnectionCounted = false)
    (hspared : ∀ u, x.client.globalUser = some u → 0 < lim.userClientMaxConnections u →
      x.client.spared cfg = true) :
    Leaves (Gone lim b) (x.checkDbConnectionCount cfg lim db) fun y =>
      Ends cfg lim b (y.finishSetPool cfg).1 := by
  have hlive : x.client.state ≠ .closed := hlogin.trans_ne nofun
  refine (h.checkDb hlive hdb).imp fun y ⟨hpass, hdbl⟩ => ?_
  refine hpass.exact.finishSetPool ?_ hdbl (userLimit_of fun u hfor => ?_) ?_
  · rw [hpass.client, hlogin]
  · simp [Client.forUser, hpass.client, hnot] at hfor
  · rw [hpass.client]
    exact ⟨hwait, ⟨db, hdb⟩, ⟨user, huser⟩, fun _ _ _ _ => Bool.or_true _,
      fun u hu hon => .inr (hspared u hu hon), member_of hdb huser hname⟩

/-! ### The user -/

/-- The user a startup packet names. -/
def packetUser (packet : Startup) : LoginUser :=
  { name := packet.username, globalUser := some packet.username }

/-- The names a login to the console may be checked with. -/
def namesOf (lim : Limits) (db : Db) (packet : Startup) : List Bytes :=
  [packet.username, (lim.forcedUser LoginCtx.pgbouncerName).name, (lim.forcedUser db.name).name]

variable (cfg) in
/-- A client whose user is to be found.  If it is counted for one, it has been here before. -/
structure Ready (b : Others lim) (db : Db) (packet : Startup) (x : Ctx) : Prop where
  exact : Exact lim b x
  limit : DbLimit cfg lim b x.client
  login : x.client.state = .login
  hasDb : x.client.db = some db
  received : x.client.startupMessageReceived = false
  waitForUser : x.client.waitForUser = false
  user : x.client.userConnectionCounted = true →
    x.client.loginUser = some (packetUser packet) ∧ (x.users packet.username).isSome ∧
      cfg.authType ≠ .any ∧ (db.admin = true → ownLogin x.client packet = false)
  nobody : x.client.userConnectionCounted = false → x.client.loginUser = none
  startup : x.client.startupUser = packet.username
  names : db.admin = true → ∀ name ∈ namesOf lim db packet, Honest cfg name

namespace Ready

theorem live (h : Ready cfg b db packet x) : x.client.state ≠ .closed :=
  h.login.trans_ne nofun

theorem named (h : Ready cfg b db packet x) (hadmin : db.admin = true) :
    Honest cfg packet.username :=
  h.names hadmin _ (List.mem_cons_self ..)

theorem fail_ends (h : Ready cfg b db packet x) : Ends cfg lim b x.fail.1 := h.exact.ends

theorem setLoginUser (h : Ready cfg b db packet x) (user : Option LoginUser)
    (huser : x.client.userConnectionCounted = true → user = some (packetUser packet)) :
    Exact lim b (x.setLoginUser user) := by
  refine h.exact.setLoginUser fun hcounted => ?_
  rw [Client.globalUser, (h.user hcounted).1, huser hcounted]

/-- The user of the startup packet is the one the client has already, or it has none. -/
theorem limit_packetUser (h : Ready cfg b db packet x) :
    DbLimit cfg lim b { x.client with loginUser := some (packetUser packet) } := by
  refine h.limit.mono fun d => ?_
  cases hcounted : x.client.userConnectionCounted with
  | true =>
    rw [← (h.user hcounted).1]
    exact id
  | false =>
    have hexempt : x.client.exempt cfg = false := by
      simp [Client.exempt, h.nobody hcounted]
    simp only [hexempt, Client.forDb, Bool.not_false, Bool.and_true, Bool.and_eq_true]
    exact fun hd => hd.1

theorem findOrAddNewGlobalUser (h : Ready cfg b db packet x) (username : Bytes) :
    Ready cfg b db packet (x.findOrAddNewGlobalUser username) := by
  obtain ⟨hclient, -⟩ := @findOrAddNewGlobalUser_frame x username
  refine ⟨h.exact.findOrAddNewGlobalUser, ?_, ?_, ?_, ?_, ?_, ?_, ?_, ?_, h.names⟩ <;>
    rw [hclient]
  · exact h.limit
  · exact h.login
  · exact h.hasDb
  · exact h.received
  · exact h.waitForUser
  · intro hcounted
    obtain ⟨huser, hknown, hrest⟩ := h.user hcounted
    exact ⟨huser, findOrAddNewGlobalUser_grow _ hknown, hrest⟩
  · exact h.nobody
  · exact h.startup

theorem setPoolAny (h : Ready cfg b db packet x) (hany : cfg.authType = .any) :
    Ends cfg lim b (x.setPoolAny cfg lim db).1 := by
  unfold Ctx.setPoolAny
  split
  · exact h.fail_ends
  · rename_i config
    split_ifs
    · exact h.fail_ends
    · have hexact := h.setLoginUser (some (lim.forcedUser config.name)) fun hcounted =>
        absurd hany (h.user hcounted).2.2.1
      refine (hexact.checkBoth_finish h.login h.waitForUser h.hasDb rfl fun hadmin => ?_).finish
      exact h.names hadmin _ (by simp [namesOf, Db.name])

theorem setPoolPam (h : Ready cfg b db packet x) :
    Ends cfg lim b (x.setPoolPam cfg lim db packet.username).1 := by
  unfold Ctx.setPoolPam
  split_ifs
  · exact h.fail_ends
  · have hadded := h.findOrAddNewGlobalUser packet.username
    have hexact := hadded.setLoginUser (some (packetUser packet)) fun _ => rfl
    exact (hexact.checkBoth_finish hadded.login hadded.waitForUser hadded.hasDb rfl h.named).finish

/-- Nobody looks at the count of the database here. -/
theorem setPoolLdap (h : Ready cfg b db packet x)
    (hfree : db.isFake = true ∨ lim.databaseMaxClientConnections db ≤ 0) :
    Ends cfg lim b (x.setPoolLdap cfg lim db packet.username).1 := by
  unfold Ctx.setPoolLdap
  split_ifs
  · exact h.fail_ends
  · have hadded := h.findOrAddNewGlobalUser packet.username
    have hexact := hadded.setLoginUser (some (packetUser packet)) fun _ => rfl
    refine (hexact.checkUser hadded.live hadded.hasDb).ends (fun _ => Gone.ends)
      fun y ⟨hpass, hlimit⟩ => ?_
    refine hpass.exact.finishSetPool ?_ ?_ hlimit ?_
    · exact hpass.client ▸ hadded.login
    · refine hadded.limit_packetUser.mono fun d => ?_
      rw [hpass.client]
      simp only [Bool.or_false]
      exact id
    · rw [hpass.client]
      refine ⟨hadded.waitForUser, ⟨db, hadded.hasDb⟩, ⟨_, rfl⟩, fun d hd hreal hon => ?_,
        fun u _ _ => .inl ?_, member_of hadded.hasDb rfl h.named⟩
      · obtain rfl : db = d := Option.some.inj (hadded.hasDb.symm.trans hd)
        rcases hfree with hfake | hoff
        · exact nomatch hfake.symm.trans hreal
        · omega
      · exact Bool.or_true _

end Ready

/-- The credentials that are made up have the global user the client is counted for. -/
theorem Exact.setPoolMock (h : Exact lim b x) (hlogin : x.client.state = .login)
    (hwait : x.client.waitForUser = false) (hdb : x.client.db = some db)
    (hsame : x.client.userConnectionCounted = true →
      x.client.globalUser = some username ∧ (x.users username).isSome)
    (hname : db.admin = true → Honest cfg username) :
    Ends cfg lim b (x.setPoolMock cfg lim db username).1 := by
  have hlive : x.client.state ≠ .closed := hlogin.trans_ne nofun
  have hexact : ∀ user : LoginUser,
      user.globalUser = (x.users username).map (fun _ => username) →
      x.client.userConnectionCounted = true →
      (some user).bind (·.globalUser) = x.client.globalUser := by
    intro user huser hcounted
    obtain ⟨hglobal, hknown⟩ := hsame hcounted
    obtain ⟨dynamic, hdynamic⟩ := Option.isSome_iff_exists.mp hknown
    rw [Option.bind_some, huser, hglobal, hdynamic]
    rfl
  unfold Ctx.setPoolMock
  dsimp only
  have hnameless := h.setLoginUser (hexact { name := [], globalUser := _ } rfl)
  refine (hnameless.checkDb hlive hdb).ends (fun _ => Gone.ends) fun y ⟨hpass, hlimit⟩ => ?_
  have hlogin' : y.client.state = .login := hpass.client ▸ hlogin
  have hdb' : y.client.db = some db := hpass.client ▸ hdb
  have hnamed : Exact lim b (y.setLoginUser (some
      { name := username, globalUser := (x.users username).map fun _ => username,
        mockAuth := true })) := by
    refine hpass.exact.setLoginUser fun _ => ?_
    rw [hpass.client]
    rfl
  have hlive' : y.client.state ≠ .closed := hlogin'.trans_ne nofun
  refine (hnamed.checkUser hlive' hdb').ends (fun _ => Gone.ends) fun z ⟨hpass', hlimit'⟩ => ?_
  refine hpass'.exact.finishSetPool ?_ ?_ hlimit' ?_
  · exact hpass'.client ▸ hlogin'
  · -- the database was checked without a name, which is never exempt
    refine hlimit.mono fun d => ?_
    have hexempt : y.client.exempt cfg = false := by
      rw [hpass.client]
      simp [Client.exempt, Ctx.setLoginUser, Ctx.update, hdb, isAdmin, AuthConfig.isAdminUser,
        strlistContains]
    rw [hpass'.client, hexempt]
    simp only [Client.forDb, Ctx.setLoginUser, Ctx.update, Bool.or_false, Bool.not_false,
      Bool.and_true, Bool.and_eq_true]
    exact fun hd => hd.1
  · rw [hpass'.client]
    refine ⟨?_, ⟨db, hdb'⟩, ⟨_, rfl⟩, fun _ _ _ _ => ?_, fun u hu _ => .inl ?_,
      member_of hdb' rfl hname⟩
    · show y.client.waitForUser = false
      rw [hpass.client]
      exact hwait
    · simp [Ctx.setLoginUser, Ctx.update, hpass.client]
    · have hsome : (y.setLoginUser (some
          { name := username, globalUser := (x.users username).map fun _ => username,
            mockAuth := true })).client.globalUser = some u := hu
      simp [hsome]

theorem fillAuthUser_frame :
    (x.fillAuthUser cfg db).client = x.client ∧ (x.fillAuthUser cfg db).dbCount = x.dbCount ∧
      (x.fillAuthUser cfg db).userCount = x.userCount ∧
      ∀ u, (x.users u).isSome → ((x.fillAuthUser cfg db).users u).isSome := by
  unfold Ctx.fillAuthUser
  split
  · rename_i name _
    split_ifs
    · exact ⟨rfl, rfl, rfl, fun _ => id⟩
    · obtain ⟨hclient, hdb, huser⟩ := @findOrAddNewGlobalUser_frame x name
      exact ⟨hclient, hdb, huser, findOrAddNewGlobalUser_grow⟩
  · exact ⟨rfl, rfl, rfl, fun _ => id⟩

theorem Waits.fit (h : Waits cfg users cl packet) (hpending : cl.pending = some packet)
    (hlogin : cl.state = .login) : Fit cfg lim users cl where
  fresh _ hnone := nomatch hpending.symm.trans hnone
  waits _ hpacket := Option.some.inj (hpending.symm.trans hpacket) ▸ h
  through hreceived := nomatch h.received.symm.trans hreceived
  active hactive := nomatch hlogin.symm.trans hactive

/-- A client that is counted for its database and its user starts its auth_query. -/
theorem Exact.startAuthQuery (h : Exact lim b x) (hdbl : DbLimit cfg lim b x.client)
    (huserl : UserLimit cfg lim b x.client) (hlogin : x.client.state = .login)
    (hwaits : Waits cfg x.users x.client packet) :
    Ends cfg lim b (x.startAuthQuery packet query) := by
  have hlive : x.client.state ≠ .closed := hlogin.trans_ne nofun
  unfold Ctx.startAuthQuery
  rw [if_neg hlive]
  cases query with
  | failed => exact h.ends
  | waits =>
    refine .inr ⟨h.update (fun _ => rfl) fun _ => rfl, .inr
      ⟨hdbl.mono fun _ => id, huserl.mono fun _ => id, Waits.fit ?_ rfl hlogin⟩⟩
    exact { hwaits with }
  | sent =>
    refine .inr ⟨h.update (fun _ => rfl) fun _ => rfl, .inr
      ⟨hdbl.mono fun _ => id, huserl.mono fun _ => id, Waits.fit ?_ rfl hlogin⟩⟩
    refine { hwaits with user := fun hcounted => ?_ }
    obtain ⟨name, huser, -⟩ := hwaits.user hcounted
    exact ⟨name, huser, nofun⟩

/-- `find_global_credentials` finds the user the client is counted for. -/
theorem Ready.setPoolUser (h : Ready cfg b db packet x) (hany : cfg.authType ≠ .any)
    (hown : db.admin = true → ownLogin x.client packet = false)
    (hconfig : ∀ config, db = .real config →
      cfg.findOrRegisterDatabase packet.dbname = some config) :
    Ends cfg lim b (x.setPoolUser cfg lim db packet query).1 := by
  have hfound : (x.users packet.username).isSome →
      x.findGlobalCredentials packet.username = some (packetUser packet) := by
    intro hknown
    obtain ⟨dynamic, hdynamic⟩ := Option.isSome_iff_exists.mp hknown
    rw [Ctx.findGlobalCredentials, hdynamic]
    rfl
  have hexact := h.setLoginUser (x.findGlobalCredentials packet.username) fun hcounted =>
    hfound (h.user hcounted).2.1
  unfold Ctx.setPoolUser
  refine (hexact.checkBoth h.live h.hasDb).ends (fun _ => Gone.ends)
    fun y ⟨hpass, hdbl, huserl⟩ => ?_
  have hlogin : y.client.state = .login := hpass.client ▸ h.login
  have hwait : y.client.waitForUser = false := hpass.client ▸ h.waitForUser
  have hdb : y.client.db = some db := hpass.client ▸ h.hasDb
  have huser : y.client.loginUser = x.findGlobalCredentials packet.username := by
    rw [hpass.client]
    rfl
  have hcontributes : y.client.contributesDbClientCount = true := by
    rw [hpass.client]
    exact Bool.or_true _
  have hcounted : y.client.userConnectionCounted = (x.users packet.username).isSome := by
    rw [hpass.client]
    cases hknown : x.users packet.username with
    | some dynamic =>
      simp [Client.globalUser, Ctx.setLoginUser, Ctx.update, Ctx.findGlobalCredentials, hknown]
    | none =>
      have hnot : x.client.userConnectionCounted = false := by
        refine Bool.eq_false_iff.mpr fun hcounted => ?_
        simpa [hknown] using (h.user hcounted).2.1
      simp [Client.globalUser, Ctx.setLoginUser, Ctx.update, Ctx.findGlobalCredentials, hknown,
        hnot]
  have hsome : y.client.userConnectionCounted = true →
      y.client.loginUser = some (packetUser packet) ∧ (y.users packet.username).isSome := by
    intro hcounts
    rw [hcounted] at hcounts
    exact ⟨huser.trans (hfound hcounts), hpass.users ▸ hcounts⟩
  have hnames : y.client.exempt cfg = true → y.client.member cfg = true := by
    intro hexempt
    cases hcreds : y.client.loginUser with
    | none => simp [Client.exempt, hcreds] at hexempt
    | some user =>
      refine member_of hdb hcreds (fun hadmin => ?_) hexempt
      obtain ⟨_, -, rfl⟩ := Option.map_eq_some_iff.mp (huser.symm.trans hcreds)
      exact h.named hadmin
  split_ifs with hdynamic
  · obtain ⟨hclient, hdbs, hcounts, hgrow⟩ := @fillAuthUser_frame cfg y db
    have hexact' : Exact lim b (y.fillAuthUser cfg db) := by
      refine hpass.exact.of_client (fun d => ?_) (fun u => ?_) hdbs hcounts hgrow <;> rw [hclient]
    dsimp only
    split_ifs with hquery
    · refine hexact'.startAuthQuery (hclient ▸ hdbl) (hclient ▸ huserl) (hclient ▸ hlogin) ?_
      obtain ⟨-, hreal⟩ := Bool.and_eq_true_iff.mp hquery
      cases db with
      | fake _ _ => exact nomatch hreal
      | real config =>
        rw [hclient]
        refine ⟨?_, ⟨config, hconfig config rfl, hdb, fun hadmin => ?_⟩, hcontributes, hany,
          fun hcount => ?_, fun hcount => ?_, ?_, hnames⟩
        · exact hpass.client ▸ h.received
        · exact hpass.client ▸ hown hadmin
        · obtain ⟨hlogin, hknown⟩ := hsome hcount
          exact ⟨_, hlogin, fun _ => ⟨rfl, hgrow _ hknown⟩⟩
        · rw [huser, Ctx.findGlobalCredentials, Option.map_eq_none_iff]
          rw [hcounted] at hcount
          exact Option.isSome_eq_false_iff.mp hcount |> Option.isNone_iff_eq_none.mp
        · exact hpass.client ▸ h.startup
    · refine hexact'.setPoolMock (hclient ▸ hlogin) (hclient ▸ hwait) (hclient ▸ hdb)
        (fun hcount => ?_) h.named
      rw [hclient] at hcount ⊢
      obtain ⟨hlogin, hknown⟩ := hsome hcount
      exact ⟨by rw [Client.globalUser, hlogin]; rfl, hgrow _ hknown⟩
  · have hknown : (x.users packet.username).isSome := by
      have husers : y.users = x.users := hpass.users
      rw [husers] at hdynamic
      cases hfind : x.users packet.username with
      | none => exact absurd (by rw [hfind]; rfl) hdynamic
      | some _ => rfl
    refine hpass.exact.finishSetPool hlogin hdbl huserl ?_
    exact ⟨hwait, ⟨db, hdb⟩, ⟨_, huser.trans (hfound hknown)⟩, fun _ _ _ _ => hcontributes,
      fun _ _ _ => .inl (hcounted.trans hknown), hnames⟩

/-- The middle of `set_pool`. -/
theorem Ready.findLoginUser (h : Ready cfg b db packet x)
    (hown : db.admin = true → ownLogin x.client packet = false)
    (hldap : cfg.authType ≠ .any → x.needsLdap cfg packet = true →
      db.isFake = true ∨ lim.databaseMaxClientConnections db ≤ 0)
    (hconfig : ∀ config, db = .real config →
      cfg.findOrRegisterDatabase packet.dbname = some config) :
    Ends cfg lim b (x.findLoginUser cfg lim db packet query).1 := by
  unfold Ctx.findLoginUser
  split_ifs with hlong hany hneeds hpam
  · exact h.fail_ends
  · exact h.setPoolAny hany
  · exact h.setPoolLdap (hldap hany hneeds)
  · exact h.setPoolPam
  · exact h.setPoolUser hany hown hconfig

/-! ### Closed in the middle -/

/-- A check that comes too late: the client stays closed, or the process ends. -/
abbrev Late (r : Ctx × Bool) : Prop := Leaves (·.died = true) r (·.client.state = .closed)

theorem late_fail (h : x.client.state = .closed) : Late x.fail :=
  leaves_false (disconnectClient_died h)

theorem Late.dies (h : Late r) (hnext : ∀ y, y.client.state = .closed → (next y).1.died = true) :
    (Ctx.andThen r next).1.died = true :=
  h.ends (fun _ => id) hnext

theorem late_checkDb (h : x.client.state = .closed) :
    Late (x.checkDbConnectionCount cfg lim db) := by
  have hclosed : (x.contributeDb db).client.state = .closed := by
    unfold Ctx.contributeDb
    split_ifs <;> exact h
  unfold Ctx.checkDbConnectionCount
  dsimp only
  split_ifs
  · exact leaves_true hclosed
  · exact leaves_true hclosed
  · split
    · exact leaves_false rfl
    · split_ifs
      · exact leaves_true hclosed
      · exact late_fail hclosed
  · exact late_fail hclosed

theorem late_checkUser (h : x.client.state = .closed) :
    Late (x.checkUserConnectionCount cfg lim db) := by
  unfold Ctx.checkUserConnectionCount
  split
  · exact leaves_true h
  · split
    · exact leaves_true h
    · rename_i u _
      have hclosed : (x.contributeUser u).client.state = .closed := by
        unfold Ctx.contributeUser
        split_ifs <;> exact h
      dsimp only
      split_ifs
      · exact leaves_true hclosed
      · exact leaves_true hclosed
      · exact leaves_true hclosed
      · exact late_fail hclosed

theorem late_checkBoth (h : x.client.state = .closed) : Late (x.checkBoth cfg lim db) :=
  (late_checkDb h).andThen fun _ => late_checkUser

theorem finishSetPool_died (h : x.client.state = .closed) :
    (x.finishSetPool cfg).1.died = true := by
  unfold Ctx.finishSetPool
  split
  · rw [if_pos h]
    rfl
  · rfl

theorem startAuthQuery_died (h : x.client.state = .closed) :
    (x.startAuthQuery packet query).died = true := by
  unfold Ctx.startAuthQuery
  rw [if_pos h]
  rfl

theorem setPoolMock_died (h : x.client.state = .closed) :
    (x.setPoolMock cfg lim db username).1.died = true := by
  unfold Ctx.setPoolMock
  refine Late.dies (late_checkDb ?_) fun y hy => Late.dies (late_checkUser ?_) fun _ =>
    finishSetPool_died
  · exact h
  · exact hy

/-- Nothing is left of a login that goes on after its client has been closed. -/
theorem findLoginUser_died (h : x.client.state = .closed) :
    (x.findLoginUser cfg lim db packet query).1.died = true := by
  have hadded : ∀ username, (x.findOrAddNewGlobalUser username).client.state = .closed :=
    fun username => (congrArg Client.state findOrAddNewGlobalUser_frame.1).trans h
  unfold Ctx.findLoginUser
  split_ifs
  · exact disconnectClient_died h
  · unfold Ctx.setPoolAny
    split
    · exact disconnectClient_died h
    · split_ifs
      · exact disconnectClient_died h
      · refine Late.dies (late_checkBoth ?_) fun _ => finishSetPool_died
        exact h
  · unfold Ctx.setPoolLdap
    split_ifs
    · exact disconnectClient_died h
    · refine Late.dies (late_checkUser ?_) fun _ => finishSetPool_died
      exact hadded _
  · unfold Ctx.setPoolPam
    split_ifs
    · exact disconnectClient_died h
    · refine Late.dies (late_checkBoth ?_) fun _ => finishSetPool_died
      exact hadded _
  · unfold Ctx.setPoolUser
    refine Late.dies (late_checkBoth ?_) fun y hy => ?_
    · exact h
    · have hfilled : (y.fillAuthUser cfg db).client.state = .closed :=
        (congrArg Client.state fillAuthUser_frame.1).trans hy
      dsimp only
      split_ifs
      · exact startAuthQuery_died hfilled
      · exact setPoolMock_died hfilled
      · exact finishSetPool_died hy

/-! ### `set_pool` -/

theorem Ready.not_counted (h : Ready cfg b db packet x)
    (hwhy : cfg.authType = .any ∨ db.admin = true ∧ ownLogin x.client packet = true) :
    x.client.userConnectionCounted = false := by
  refine Bool.eq_false_iff.mpr fun hcounted => ?_
  obtain ⟨-, -, hany, hown⟩ := h.user hcounted
  rcases hwhy with heq | ⟨hadmin, heq⟩
  · exact hany heq
  · exact nomatch (hown hadmin).symm.trans heq

/-- What a client is before `admin_pre_login` looks at it. -/
def unflagged (x : Ctx) : Ctx :=
  x.update fun cl => { cl with adminUser := false, ownUser := false }

theorem Ready.unflag (h : Ready cfg b db packet x) : Ready cfg b db packet (unflagged x) where
  __ := h
  exact := h.exact.update (fun _ => rfl) fun _ => rfl
  limit := h.limit.mono fun _ => id

/-- `admin_pre_login`: the login goes on, or it is not for the console, or the client is
gone. -/
theorem Ready.adminPreLogin (h : Ready cfg b db packet x) (hadmin : db.admin = true)
    (hfair : ownLogin x.client packet = true →
      (lim.forcedUser LoginCtx.pgbouncerName).name ∈ elements cfg.adminUsers ∨
        ∀ u ∈ (lim.forcedUser LoginCtx.pgbouncerName).globalUser,
          lim.userClientMaxConnections u ≤ 0) :
    (Ctx.adminPreLogin cfg lim x db packet.username = (unflagged x, false) ∧
        ownLogin x.client packet = false) ∨
      Leaves (Gone lim b) (Ctx.adminPreLogin cfg lim x db packet.username) fun y =>
        Ends cfg lim b (y.finishSetPool cfg).1 := by
  have hforce := fun hnot : x.client.userConnectionCounted = false =>
    h.unflag.setLoginUser (some (lim.forcedUser LoginCtx.pgbouncerName))
      fun hcounted => nomatch hnot.symm.trans hcounted
  have hforced := h.names hadmin (lim.forcedUser LoginCtx.pgbouncerName).name (by simp [namesOf])
  unfold Ctx.adminPreLogin
  dsimp only
  split_ifs with hown hany hname hstats
  · have hnot := h.not_counted (.inr ⟨hadmin, hown⟩)
    refine .inr (Exact.checkDb_finish ((hforce hnot).update (fun _ => rfl) fun _ => rfl) h.login
      h.waitForUser h.hasDb rfl (fun _ => hforced) hnot fun u hu hon => ?_)
    rcases hfair hown with hmem | hoff
    · refine Bool.or_eq_true_iff.mpr (.inl ?_)
      simp [Client.member, Ctx.update, Ctx.setLoginUser, h.hasDb, hadmin, hmem]
    · have := hoff u hu
      omega
  · have hnot := h.not_counted (.inl hany)
    refine .inr (Exact.checkDb_finish ((hforce hnot).update (fun _ => rfl) fun _ => rfl) h.login
      h.waitForUser h.hasDb rfl (fun _ => hforced) hnot fun u hu hon => ?_)
    refine Bool.or_eq_true_iff.mpr (.inr ?_)
    have hmem : x.client.startupUser ∈ elements cfg.adminUsers := h.startup ▸ h.named hadmin hname
    simp [Ctx.update, Ctx.setLoginUser, h.hasDb, hadmin, hmem]
  · have hexact := hforce (h.not_counted (.inl hany))
    exact .inr (hexact.checkBoth_finish h.login h.waitForUser h.hasDb rfl fun _ => hforced)
  · exact .inl ⟨rfl, Bool.eq_false_iff.mpr hown⟩
  · exact .inl ⟨rfl, Bool.eq_false_iff.mpr hown⟩

variable (cfg lim) in
/-- A startup packet that does no harm: no LDAP for a database with a limit, and no login of
the user that runs pgbouncer at the console, if there is a limit it is not exempt from; and
no name there that is found in `admin_users` and is not a member. -/
structure FairStartup (x : Ctx) (packet : Startup) : Prop where
  ldap : cfg.authType ≠ .any → x.needsLdap cfg packet = true →
    (Ctx.dbOf cfg x.slot packet.dbname).isFake = true ∨
      lim.databaseMaxClientConnections (Ctx.dbOf cfg x.slot packet.dbname) ≤ 0
  own : (Ctx.dbOf cfg x.slot packet.dbname).admin = true → ownLogin x.client packet = true →
    (lim.forcedUser LoginCtx.pgbouncerName).name ∈ elements cfg.adminUsers ∨
      ∀ u ∈ (lim.forcedUser LoginCtx.pgbouncerName).globalUser, lim.userClientMaxConnections u ≤ 0
  names : (Ctx.dbOf cfg x.slot packet.dbname).admin = true →
    ∀ name ∈ namesOf lim (Ctx.dbOf cfg x.slot packet.dbname) packet, Honest cfg name

theorem dbOf_real {slot : Nat} {dbname : Bytes} {config : PgDatabase}
    (h : Ctx.dbOf cfg slot dbname = .real config) :
    cfg.findOrRegisterDatabase dbname = some config := by
  unfold Ctx.dbOf at h
  split at h
  · rename_i hfind
    cases h
    exact hfind
  · exact nomatch h

/-- A client that is new, or has waited for a server for its auth_query. -/
theorem Fit.ready (hfit : Fit cfg lim x.users x.client) (hexact : Exact lim b x)
    (hlimit : DbLimit cfg lim b x.client) (hlogin : x.client.state = .login)
    (hreceived : x.client.startupMessageReceived = false)
    (hwait : x.client.waitForUser = false) (hpending : x.client.pending.all (· = packet))
    (hfair : FairStartup cfg lim x packet) :
    Ready cfg b (Ctx.dbOf cfg x.slot packet.dbname) packet (x.update fun cl =>
      { cl with db := some (Ctx.dbOf cfg x.slot packet.dbname),
                startupUser := packet.username }) := by
  cases hp : x.client.pending with
  | none =>
    obtain ⟨hcontributes, hcounted, -, huser⟩ := hfit.fresh hreceived hp
    refine ⟨hexact.update (fun d => ?_) (fun _ => rfl),
      hlimit.mono fun d => ?_, hlogin, rfl, hreceived, hwait,
      fun hcount => (nomatch hcounted.symm.trans hcount), fun _ => huser, rfl, hfair.names⟩
    · simp [Client.forDb, hcontributes]
    · simp [Client.forDb, Ctx.update, hcontributes]
  | some packet' =>
    obtain rfl : packet' = packet := by simpa [hp] using hpending
    have hwaits := hfit.waits packet' hp
    obtain ⟨config, hconfig, hdb, hown⟩ := hwaits.db
    have hsame : some (Ctx.dbOf cfg x.slot packet'.dbname) = x.client.db := by
      rw [hdb, Ctx.dbOf, hconfig]
    have hx : (x.update fun cl =>
        { cl with db := some (Ctx.dbOf cfg x.slot packet'.dbname),
                  startupUser := packet'.username }) = x := by
      rw [Ctx.update, hsame, ← hwaits.startup]
    rw [hx]
    refine ⟨hexact, hlimit, hlogin, hsame.symm, hreceived, hwait, fun hcounted => ?_,
      hwaits.nobody, hwaits.startup, hfair.names⟩
    obtain ⟨name, huser, hname⟩ := hwaits.user hcounted
    obtain ⟨rfl, hknown⟩ := hname hwait
    refine ⟨huser, hknown, hwaits.notAny, fun hadmin => hown ?_⟩
    rw [Ctx.dbOf, hconfig] at hadmin
    exact hadmin

theorem FairStartup.setPool (hfair : FairStartup cfg lim x packet)
    (hready : Ready cfg b (Ctx.dbOf cfg x.slot packet.dbname) packet (x.update fun cl =>
      { cl with db := some (Ctx.dbOf cfg x.slot packet.dbname),
                startupUser := packet.username })) :
    Ends cfg lim b (x.setPool cfg lim packet query).1 := by
  unfold Ctx.setPool
  dsimp only
  split_ifs with hadmin hgoes hdied
  · rcases hready.adminPreLogin hadmin (hfair.own hadmin) with ⟨hdeclined, -⟩ | hleaves
    · rw [hdeclined] at hgoes
      exact nomatch hgoes
    · exact hleaves.passed hgoes
  · exact .inl hdied
  · rcases hready.adminPreLogin hadmin (hfair.own hadmin) with ⟨hdeclined, hown⟩ | hleaves
    · rw [hdeclined]
      exact hready.unflag.findLoginUser (fun _ => hown) hfair.ldap fun _ => dbOf_real
    · rcases hleaves.refused (Bool.eq_false_iff.mpr hgoes) with hdead | ⟨-, hclosed⟩
      · exact absurd hdead hdied
      · exact .inl (findLoginUser_died hclosed)
  · exact hready.findLoginUser (fun h => absurd h hadmin) hfair.ldap fun _ => dbOf_real

/-! ### Handlers -/

variable (cfg) in
/-- A client that is not closed, and the others. -/
structure Stands (b : Others lim) (x : Ctx) : Prop where
  exact : Exact lim b x
  db : DbLimit cfg lim b x.client
  user : UserLimit cfg lim b x.client
  fit : Fit cfg lim x.users x.client

theorem Stands.ends (h : Stands cfg b x) : Ends cfg lim b x :=
  .inr ⟨h.exact, .inr ⟨h.db, h.user, h.fit⟩⟩

/-- A change of flags that nobody counts by. -/
theorem Stands.update (h : Stands cfg b x) (f : Client → Client)
    (hdb : ∀ d, (f x.client).forDb d = x.client.forDb d)
    (huser : ∀ u, (f x.client).forUser u = x.client.forUser u)
    (hexempt : (f x.client).exempt cfg = x.client.exempt cfg)
    (hfit : Fit cfg lim x.users (f x.client)) : Ends cfg lim b (x.update f) := by
  refine .inr ⟨h.exact.update hdb huser, .inr
    ⟨h.db.mono fun d => ?_, h.user.mono fun u => ?_, hfit⟩⟩
  · show (f x.client).forDb d && !(f x.client).exempt cfg → _
    rw [hdb, hexempt]
    exact id
  · show (f x.client).forUser u && !(f x.client).exempt cfg → _
    rw [huser, hexempt]
    exact id

/-- A client whose auth_query has returned goes on with the user it has. -/
theorem Stands.resume (h : Stands cfg b x) (hlogin : x.client.state = .login)
    (hwaits : Waits cfg x.users x.client packet) :
    Ends cfg lim b
      (Ctx.finishSetPool cfg (x.update fun cl => { cl with waitForUser := false })).1 := by
  obtain ⟨config, -, hdb, -⟩ := hwaits.db
  cases huser : x.client.loginUser with
  | none =>
    refine .inl ?_
    simp only [Ctx.finishSetPool, Ctx.update, hdb, huser]
    rfl
  | some user =>
    have hcounted : x.client.userConnectionCounted = true := by
      refine Bool.not_eq_false _ |>.mp fun hnot => ?_
      exact nomatch huser.symm.trans (hwaits.nobody hnot)
    refine Exact.finishSetPool (h.exact.update (fun _ => rfl) fun _ => rfl) hlogin
      (h.db.mono fun _ => id) (h.user.mono fun _ => id) ?_
    exact ⟨rfl, ⟨_, hdb⟩, ⟨user, huser⟩, fun _ _ _ _ => hwaits.contributes,
      fun _ _ _ => .inl hcounted, hwaits.names⟩

theorem Stands.handleStartup (h : Stands cfg b x) (hlogin : x.client.state = .login)
    (hpending : x.client.pending.all (· = packet)) (hfair : FairStartup cfg lim x packet) :
    Ends cfg lim b (x.handleStartup cfg lim packet query) := by
  unfold Ctx.handleStartup
  split_ifs with hreceived hwait
  · exact h.exact.ends
  · have hreceived := Bool.eq_false_iff.mpr hreceived
    cases hp : x.client.pending with
    | none => exact nomatch (h.fit.fresh hreceived hp).2.2.1.symm.trans hwait
    | some packet' => exact h.resume hlogin (h.fit.waits packet' hp)
  · exact hfair.setPool (h.fit.ready h.exact h.db hlogin (Bool.eq_false_iff.mpr hreceived)
      (Bool.eq_false_iff.mpr hwait) hpending hfair)

theorem Leaves.fst_ends (h : Leaves (Gone lim b) r P) (hP : ∀ y, P y → Ends cfg lim b y) :
    Ends cfg lim b r.1 := by
  cases hr : r.2 with
  | true => exact hP _ (h.passed hr)
  | false => exact (h.refused hr).ends

/-- A client whose auth_query is running. -/
theorem Fit.waiting (h : Fit cfg lim users cl) (hwait : cl.waitForUser = true) :
    ∃ packet, cl.pending = some packet ∧ Waits cfg users cl packet := by
  cases hreceived : cl.startupMessageReceived with
  | true => exact nomatch (h.through hreceived).done.symm.trans hwait
  | false =>
    cases hp : cl.pending with
    | none => exact nomatch (h.fresh hreceived hp).2.2.1.symm.trans hwait
    | some packet => exact ⟨packet, rfl, h.waits packet hp⟩

variable (cfg) in
/-- A row may name another user only if the client is not counted for one yet. -/
structure FairRow (cl : Client) (name : Bytes) : Prop where
  counted : cl.userConnectionCounted = true → cl.globalUser = some name
  names : cl.db.any (·.admin) = true → Honest cfg name

theorem Stands.handleAuthRow (h : Stands cfg b x) (hlogin : x.client.state = .login)
    (hwait : x.client.waitForUser = true) {username : Option Bytes}
    (hfair : ∀ name ∈ username, FairRow cfg x.client (Ctx.rowName name)) :
    Ends cfg lim b (x.handleAuthRow cfg lim username) := by
  have hlive : x.client.state ≠ .closed := hlogin.trans_ne nofun
  obtain ⟨packet, hpending, hwaits⟩ := h.fit.waiting hwait
  unfold Ctx.handleAuthRow
  split
  · exact h.ends
  · exact .inl rfl
  · rename_i field db hdb
    dsimp only
    obtain ⟨hfair, hname⟩ := hfair field rfl
    obtain ⟨hclient, -⟩ := @findOrAddNewGlobalUser_frame x (Ctx.rowName field)
    generalize Ctx.rowName field = name at hfair hname hclient ⊢
    have hexact : Exact lim b ((x.findOrAddNewGlobalUser name).setLoginUser
        (some { name, globalUser := some name })) := by
      refine h.exact.findOrAddNewGlobalUser.setLoginUser fun hcounted => ?_
      rw [hclient] at hcounted ⊢
      exact (hfair hcounted).symm
    have hbase : ((x.findOrAddNewGlobalUser name).setLoginUser
        (some { name, globalUser := some name })).client =
          { x.client with loginUser := some { name, globalUser := some name } } := by
      rw [← hclient]
      rfl
    have hlimit : DbLimit cfg lim b
        { x.client with loginUser := some { name, globalUser := some name } } := by
      refine h.db.mono fun d => ?_
      cases hcounted : x.client.userConnectionCounted with
      | true =>
        obtain ⟨name', huser, -⟩ := hwaits.user hcounted
        have hsame : some name' = some name := by
          rw [← hfair hcounted, Client.globalUser, huser]
          rfl
        rw [← Option.some.inj hsame, ← huser]
        exact id
      | false =>
        have hexempt : x.client.exempt cfg = false := by
          simp [Client.exempt, hwaits.nobody hcounted]
        simp only [hexempt, Client.forDb, Bool.not_false, Bool.and_true, Bool.and_eq_true]
        exact fun hd => hd.1
    refine (hexact.checkUser (hbase ▸ hlive) (hbase ▸ hdb)).fst_ends fun y ⟨hpass, huserl⟩ => ?_
    have hy := hpass.client
    rw [hbase] at hy
    refine .inr ⟨hpass.exact, .inr ⟨?_, huserl, ?_⟩⟩
    · refine hlimit.mono fun d => ?_
      rw [hy]
      simp only [Bool.or_false]
      exact id
    · rw [hy]
      refine Waits.fit ?_ hpending hlogin
      refine ⟨hwaits.received, hwaits.db, ?_, hwaits.notAny, fun _ => ⟨name, rfl, fun hfalse => ?_⟩,
        fun hfalse => ?_, hwaits.startup, member_of hdb rfl fun hadmin => hname ?_⟩
      · simp [hwaits.contributes]
      · exact nomatch hwait.symm.trans hfalse
      · simp [Client.globalUser] at hfalse
      · rwa [hdb]

theorem Fit.setPaused (h : Fit cfg lim users cl) (paused : Bool) :
    Fit cfg lim users { cl with paused } where
  fresh := h.fresh
  waits packet hp :=
    have hwaits := h.waits packet hp
    { hwaits with }
  through hreceived :=
    have hthrough := h.through hreceived
    { hthrough with }
  active := h.active

theorem Stands.handleAuthReady (h : Stands cfg b x) : Ends cfg lim b x.handleAuthReady := by
  unfold Ctx.handleAuthReady
  split_ifs
  · exact h.exact.ends
  · exact h.update _ (fun _ => rfl) (fun _ => rfl) rfl (h.fit.setPaused false)

theorem Stands.finishClientLogin (h : Stands cfg b x) (hlogin : x.client.state = .login)
    (hreceived : x.client.startupMessageReceived = true) :
    Ends cfg lim b x.finishClientLogin := by
  have hthrough := h.fit.through hreceived
  unfold Ctx.finishClientLogin
  split_ifs with hfake hmock
  · exact h.exact.ends
  · exact .inl rfl
  · refine h.update _ (fun d => ?_) (fun u => ?_) rfl ?_
    · simp [Client.forDb, hlogin]
    · simp only [Client.forUser, hlogin]
      rfl
    · refine ⟨fun hfalse => (nomatch hreceived.symm.trans hfalse), fun packet hp => ?_, fun _ => ?_,
        fun _ => ⟨hreceived, ?_⟩⟩
      · exact nomatch hreceived.symm.trans (h.fit.waits packet hp).received
      · exact { hthrough with }
      · obtain ⟨d, hd⟩ := hthrough.db
        cases d with
        | real config => exact ⟨config, hd⟩
        | fake client name =>
          rw [hd] at hfake
          exact absurd rfl hfake

/-- More users change nothing for a client. -/
theorem Fit.mono {users' : Bytes → Option Bool} (h : Fit cfg lim users cl)
    (hgrow : ∀ u, (users u).isSome → (users' u).isSome) : Fit cfg lim users' cl := by
  refine { h with waits := fun packet hp => ?_ }
  have hwaits := h.waits packet hp
  refine { hwaits with user := fun hcounted => ?_ }
  obtain ⟨name, huser, hname⟩ := hwaits.user hcounted
  exact ⟨name, huser, fun hwait => (hname hwait).imp id (hgrow name)⟩

namespace World

variable {w w' : World} {i : Nat} {p q : Client → Bool}

/-- The number of clients that are so. -/
def number (w : World) (p : Client → Bool) : Nat :=
  (List.range w.next).countP fun i => p (w.clients i)

/-- The number of the others. -/
def numberOthers (w : World) (i : Nat) (p : Client → Bool) : Nat :=
  ((List.range w.next).erase i).countP fun j => p (w.clients j)

theorem number_eq (hi : i < w.next) :
    (w.number p : Int) = w.numberOthers i p + if p (w.clients i) then 1 else 0 := by
  have hperm := List.perm_cons_erase (List.mem_range.mpr hi)
  rw [number, hperm.countP_eq, List.countP_cons, numberOthers]
  split <;> omega

theorem number_put (hi : i < w.next) :
    ((w.put i x).number p : Int) = w.numberOthers i p + if p x.client then 1 else 0 := by
  have hsame : (w.put i x).clients i = x.client := Function.update_self ..
  have hothers : (w.put i x).numberOthers i p = w.numberOthers i p := by
    refine List.countP_congr fun j hj => ?_
    have hne : j ≠ i := (List.nodup_range.mem_erase_iff.mp hj).1
    have hclient : (w.put i x).clients j = w.clients j := Function.update_of_ne hne ..
    rw [hclient]
  have hi' : i < (w.put i x).next := hi
  rw [number_eq hi', hothers, hsame]

theorem numberOthers_mono (h : ∀ cl, p cl → q cl) : w.numberOthers i p ≤ w.numberOthers i q :=
  List.countP_mono_left fun _ _ => h _

variable (cfg lim) in
/-- The invariant: the counts are the numbers of clients, the limits hold, and every client
that is not closed is somewhere in its login. -/
structure Sound (w : World) : Prop where
  db : ∀ d, w.dbCount d = w.number (Client.forDb d)
  user : ∀ u, w.userCount u = w.number (Client.forUser u)
  dbLimit : ∀ d, 0 < lim.databaseMaxClientConnections d →
    (w.number fun cl => cl.forDb d && !cl.exempt cfg) ≤ lim.databaseMaxClientConnections d
  userLimit : ∀ u, 0 < lim.userClientMaxConnections u →
    (w.number fun cl => cl.forUser u && !cl.exempt cfg) ≤ lim.userClientMaxConnections u
  fit : ∀ j < w.next, (w.clients j).state ≠ .closed → Fit cfg lim w.users (w.clients j)

/-- What the clients but one count for. -/
def Sound.others (h : w.Sound cfg lim) (hi : i < w.next) : Others lim where
  db d := w.numberOthers i (Client.forDb d)
  user u := w.numberOthers i (Client.forUser u)
  dbLimited d := w.numberOthers i fun cl => cl.forDb d && !cl.exempt cfg
  userLimited u := w.numberOthers i fun cl => cl.forUser u && !cl.exempt cfg
  users := w.users
  dbLimited_le d :=
    Int.ofNat_le.mpr (numberOthers_mono fun _ hcl => (Bool.and_eq_true_iff.mp hcl).1)
  userLimited_le u :=
    Int.ofNat_le.mpr (numberOthers_mono fun _ hcl => (Bool.and_eq_true_iff.mp hcl).1)
  dbLimited_max d hd := by
    have hmax := h.dbLimit d hd
    rw [number_eq hi] at hmax
    split at hmax <;> omega
  userLimited_max u hu := by
    have hmax := h.userLimit u hu
    rw [number_eq hi] at hmax
    split at hmax <;> omega

theorem Sound.stands (h : w.Sound cfg lim) (hi : i < w.next)
    (hlive : (w.clients i).state ≠ .closed) : Stands cfg (h.others hi) (w.ctx i) where
  exact := ⟨fun d => (h.db d).trans (number_eq hi), fun u => (h.user u).trans (number_eq hi),
    fun _ => id⟩
  db d hd := number_eq hi ▸ h.dbLimit d hd
  user u hu := number_eq hi ▸ h.userLimit u hu
  fit := h.fit i hi hlive

/-- What a handler leaves behind is good for all. -/
theorem Sound.put (h : w.Sound cfg lim) (hi : i < w.next) (hends : Ends cfg lim (h.others hi) x)
    (hdied : x.died = false) :
    (w.put i x).Sound cfg lim := by
  rcases hends with hdead | ⟨hexact, hrest⟩
  · exact nomatch hdied.symm.trans hdead
  have hlimits : DbLimit cfg lim (h.others hi) x.client ∧
      UserLimit cfg lim (h.others hi) x.client := by
    rcases hrest with hclosed | ⟨hdb, huser, -⟩
    · refine ⟨fun d hd => ?_, fun u hu => ?_⟩
      · have hmax := (h.others hi).dbLimited_max d hd
        simpa [Client.forDb, hclosed] using hmax
      · have hmax := (h.others hi).userLimited_max u hu
        simpa [Client.forUser, hclosed] using hmax
    · exact ⟨hdb, huser⟩
  refine ⟨fun d => ?_, fun u => ?_, fun d hd => ?_, fun u hu => ?_, fun j hj hlive => ?_⟩
  · rw [number_put hi]
    exact hexact.db d
  · rw [number_put hi]
    exact hexact.user u
  · rw [number_put hi]
    exact hlimits.1 d hd
  · rw [number_put hi]
    exact hlimits.2 u hu
  · by_cases heq : j = i
    · have hsame : (w.put i x).clients j = x.client := heq ▸ Function.update_self ..
      rw [hsame] at hlive ⊢
      exact (hrest.resolve_left hlive).2.2
    · have hsame : (w.put i x).clients j = w.clients j := Function.update_of_ne heq ..
      rw [hsame] at hlive ⊢
      exact (h.fit j hj hlive).mono hexact.users

variable {fits : Client → Bool} {handler : Ctx → Ctx}

theorem handle_cases (h : w.handle i fits handler = some w') :
    i < w.next ∧ fits (w.clients i) = true ∧ w' = w.put i (handler (w.ctx i)) := by
  simp only [handle, Option.ite_none_right_eq_some, Option.some.injEq, Bool.and_eq_true,
    decide_eq_true_eq] at h
  exact ⟨h.1.1, h.1.2, h.2.symm⟩

/-- A handler that leaves its client well leaves all of them well, if the process lives. -/
theorem Sound.handle (h : w.Sound cfg lim) (hfits : ∀ cl, fits cl → cl.state ≠ .closed)
    (hends : ∀ hi : i < w.next, fits (w.clients i) → Stands cfg (h.others hi) (w.ctx i) →
      Ends cfg lim (h.others hi) (handler (w.ctx i))) (hstep : w.handle i fits handler = some w')
    (hdied : w'.died = false) :
    w'.Sound cfg lim := by
  obtain ⟨hi, hfit, rfl⟩ := handle_cases hstep
  exact h.put hi (hends hi hfit (h.stands hi (hfits _ hfit))) hdied

theorem sound_init : Sound cfg lim {} where
  db _ := rfl
  user _ := rfl
  dbLimit _ hd := Int.le_of_lt hd
  userLimit _ hu := Int.le_of_lt hu
  fit j hj := absurd hj (Nat.not_lt_zero j)

/-- A new client counts for nothing. -/
theorem Sound.accept (h : w.Sound cfg lim) (connection : Connection) :
    { w with
      clients := Function.update w.clients w.next { connection }
      next := w.next + 1 : World }.Sound cfg lim := by
  have hold : ∀ j < w.next,
      Function.update w.clients w.next { connection } j = w.clients j :=
    fun j hj => Function.update_of_ne (Nat.ne_of_lt hj) ..
  have hnumber : ∀ p : Client → Bool, p { connection } = false →
      { w with
        clients := Function.update w.clients w.next { connection }
        next := w.next + 1 : World }.number p = w.number p := by
    intro p hp
    rw [number, List.range_succ, List.countP_append, number]
    have hnew : (List.countP (fun i => p (Function.update w.clients w.next { connection } i))
        [w.next]) = 0 := by
      simp [Function.update_self, hp]
    have hrest : (List.range w.next).countP
        (fun i => p (Function.update w.clients w.next { connection } i)) =
          (List.range w.next).countP fun i => p (w.clients i) :=
      List.countP_congr fun j hj => by rw [hold j (List.mem_range.mp hj)]
    exact (congrArg₂ (· + ·) hrest hnew)
  refine ⟨fun d => ?_, fun u => ?_, fun d hd => ?_, fun u hu => ?_, fun j hj hlive => ?_⟩
  · rw [hnumber _ rfl]
    exact h.db d
  · rw [hnumber _ rfl]
    exact h.user u
  · rw [hnumber _ rfl]
    exact h.dbLimit d hd
  · rw [hnumber _ rfl]
    exact h.userLimit u hu
  · dsimp only at hlive ⊢
    by_cases heq : j = w.next
    · subst heq
      rw [Function.update_self]
      exact ⟨fun _ _ => ⟨rfl, rfl, rfl, rfl⟩, nofun,
        nofun, nofun⟩
    · have hlt : j < w.next := Nat.lt_of_le_of_ne (Nat.le_of_lt_succ hj) heq
      rw [hold j hlt] at hlive ⊢
      exact h.fit j hlt hlive

instance (x : Ctx) (packet : Startup) : Decidable (FairStartup cfg lim x packet) :=
  decidable_of_iff (_ ∧ _ ∧ _) ⟨fun h => ⟨h.1, h.2.1, h.2.2⟩, fun h => ⟨h.ldap, h.own, h.names⟩⟩

instance (cl : Client) (name : Bytes) : Decidable (FairRow cfg cl name) :=
  decidable_of_iff (_ ∧ _) ⟨fun h => ⟨h.1, h.2⟩, fun h => ⟨h.counted, h.names⟩⟩

variable (cfg lim) in
/-- What has to be true before an event.  A row of an auth_query names the user that the
client is counted for already, if it is. -/
def Fair (w : World) : Event → Prop
  | .startup i packet _ => FairStartup cfg lim (w.ctx i) packet
  | .authRow i username => ∀ name ∈ username, FairRow cfg (w.clients i) (Ctx.rowName name)
  | _ => True

instance (e : Event) : Decidable (w.Fair cfg lim e) := by
  cases e <;> unfold Fair <;> infer_instance

theorem Sound.loadUser (h : w.Sound cfg lim) (username : Bytes) (dynamicPasswd : Bool) :
    { w with users := Function.update w.users username (some dynamicPasswd) }.Sound cfg lim := by
  refine { h with fit := fun j hj hlive => ?_ }
  refine (h.fit j hj hlive).mono fun u hu => ?_
  dsimp only
  by_cases heq : u = username
  · rw [heq, Function.update_self]
    rfl
  · rw [Function.update_of_ne heq]
    exact hu

theorem awaitsRows_iff : awaitsRows cl = true ↔
    (cl.state = .login ∧ cl.waitForUser = true) ∧ cl.paused = true := by
  simp only [awaitsRows, Bool.and_eq_true, decide_eq_true_eq]

theorem Sound.step {e : Event} (h : w.Sound cfg lim) (hfair : w.Fair cfg lim e)
    (hstep : w.step cfg lim e = some w') (hdied : w'.died = false) : w'.Sound cfg lim := by
  unfold World.step at hstep
  split_ifs at hstep
  cases e with
  | accept connection => exact Option.some.inj hstep ▸ h.accept connection
  | loadUser username dynamicPasswd =>
    exact Option.some.inj hstep ▸ h.loadUser username dynamicPasswd
  | startup i packet query =>
    refine h.handle (fun cl hcl => ?_) (fun hi hfits hstands => ?_) hstep hdied
    · simp only [Bool.and_eq_true, decide_eq_true_eq] at hcl
      exact hcl.1.1.trans_ne (by decide)
    · simp only [Bool.and_eq_true, decide_eq_true_eq] at hfits
      exact hstands.handleStartup hfits.1.1 hfits.2 hfair
  | activate i =>
    refine h.handle (fun cl hcl => ?_) (fun hi hfits hstands => ?_) hstep hdied
    · simp only [Bool.and_eq_true, decide_eq_true_eq] at hcl
      exact hcl.1.1.trans_ne (by decide)
    · exact hstands.update _ (fun _ => rfl) (fun _ => rfl) rfl (hstands.fit.setPaused false)
  | authRow i username =>
    refine h.handle (fun cl hcl => (awaitsRows_iff.mp hcl).1.1.trans_ne (by decide))
      (fun hi hfits hstands => ?_) hstep hdied
    obtain ⟨⟨hlogin, hwait⟩, -⟩ := awaitsRows_iff.mp hfits
    exact hstands.handleAuthRow hlogin hwait hfair
  | authReady i =>
    exact h.handle (fun cl hcl => (awaitsRows_iff.mp hcl).1.1.trans_ne (by decide))
      (fun hi hfits hstands => hstands.handleAuthReady) hstep hdied
  | finishClientLogin i =>
    refine h.handle (fun cl hcl => ?_) (fun hi hfits hstands => ?_) hstep hdied
    · simp only [Bool.and_eq_true, decide_eq_true_eq] at hcl
      exact hcl.1.trans_ne (by decide)
    · simp only [Bool.and_eq_true, decide_eq_true_eq] at hfits
      exact hstands.finishClientLogin hfits.1 hfits.2
  | disconnectClient i =>
    refine h.handle (fun cl hcl => ?_) (fun hi hfits hstands => ?_) hstep hdied
    · exact of_decide_eq_true hcl
    · exact hstands.exact.ends

/-! ### Runs -/

variable (cfg lim) in
/-- Nothing can be said of a process that has ended. -/
def Running (w : World) : Prop := w.died = false → w.Sound cfg lim

theorem Running.step {e : Event} (h : w.Running cfg lim) (hfair : w.Fair cfg lim e)
    (hstep : w.step cfg lim e = some w') : w'.Running cfg lim := by
  have hlives : w.died = false := by
    unfold World.step at hstep
    split_ifs at hstep with hdead
    exact Bool.eq_false_iff.mpr hdead
  exact (h hlives).step hfair hstep

end World

end PgBouncer.ClientLimits
