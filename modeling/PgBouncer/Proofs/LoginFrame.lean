/-
What a login leaves alone.

A handler works on one client and on what all clients share.  Most of its functions
touch nothing but the client, and of the client neither where it comes from nor when it
came: `Frame`.  The few that add a user do it in one way, `Users.Extends`: whatever was
there is still there, and what is new has an empty password.
-/
import PgBouncer.Proofs.Users

namespace PgBouncer

/-! ### Frames -/

namespace LoginCtx

variable {cfg : AuthConfig} (env : Env) (x : LoginCtx) (db : PgDatabase)

/-- What most functions leave alone: all but the client, and where that comes from and when it
came. -/
def frame :=
  (x.slot, x.users, x.dbAuthUser, x.queue, x.client.connection, x.client.connectTime)

/-- Only the client has changed, and it is the same connection. -/
def Frame (x y : LoginCtx) : Prop := y.frame = x.frame

section

variable {x y z : LoginCtx}

theorem Frame.slot (h : Frame x y) : y.slot = x.slot := congrArg (·.1) h

theorem Frame.users (h : Frame x y) : y.users = x.users := congrArg (·.2.1) h

theorem Frame.dbAuthUser (h : Frame x y) : y.dbAuthUser = x.dbAuthUser := congrArg (·.2.2.1) h

theorem Frame.queue (h : Frame x y) : y.queue = x.queue := congrArg (·.2.2.2.1) h

theorem Frame.connection (h : Frame x y) : y.client.connection = x.client.connection :=
  congrArg (·.2.2.2.2.1) h

theorem Frame.connectTime (h : Frame x y) : y.client.connectTime = x.client.connectTime :=
  congrArg (·.2.2.2.2.2) h

theorem Frame.refl (x : LoginCtx) : Frame x x := rfl

theorem Frame.trans (h : Frame x y) (h' : Frame y z) : Frame x z := Eq.trans h' h

theorem Frame.of_update {f : PgSocket → PgSocket} (h : Frame (x.update f) z)
    (hconnection : (f x.client).connection = x.client.connection)
    (htime : (f x.client).connectTime = x.client.connectTime) : Frame x z :=
  Eq.trans h (by simp only [frame, update, hconnection, htime])

end

theorem andThen_frame {x : LoginCtx} {r : LoginCtx × Bool} {next : LoginCtx → LoginCtx × Bool}
    (h : Frame x r.1) (hnext : ∀ y, Frame y (next y).1) : Frame x (andThen r next).1 := by
  unfold andThen
  split
  · exact h.trans (hnext _)
  · exact h

theorem disconnect_frame (reason : Bytes) (notify : Bool) :
    Frame x (x.disconnect reason notify) := by
  unfold disconnect
  split
  · exact rfl
  · exact rfl
  · cases notify <;> exact rfl

theorem fail_frame (reason : Bytes) (notify : Bool) : Frame x (x.fail reason notify).1 :=
  disconnect_frame x reason notify

theorem die_frame : Frame x x.die := rfl

theorem pauseClient_frame : Frame x (x.pauseClient env) := by
  unfold pauseClient
  split
  · exact disconnect_frame _ _ _
  · exact rfl

theorem welcomeOrWait_frame : Frame x (x.welcomeOrWait env).1 := by
  unfold welcomeOrWait welcomeClient
  dsimp only
  split
  · split
    · simp only [Frame, frame, send, update]
    · exact ((fail_frame _ _ _).of_update rfl rfl).of_update rfl rfl
  · exact ((pauseClient_frame _ _).of_update rfl rfl).of_update rfl rfl

theorem activateLogin_frame : Frame x x.activateLogin := by
  unfold activateLogin
  dsimp only
  split <;> exact rfl

theorem finishClientLogin_frame : Frame x (x.finishClientLogin env).1 := by
  unfold finishClientLogin
  dsimp only
  repeat' split
  all_goals first
    | exact (activateLogin_frame x).trans (welcomeOrWait_frame _ _)
    | exact welcomeOrWait_frame _ _
    | exact disconnect_frame _ _ _
    | exact activateLogin_frame x
    | exact die_frame x

theorem checkConsole_frame (username : Bytes) : Frame x (checkConsole cfg x username).1 := by
  unfold checkConsole adminPostLogin
  repeat' split
  all_goals first
    | exact disconnect_frame _ _ _
    | exact rfl

theorem sendClientAuthreq_frame : Frame x (x.sendClientAuthreq env).1 := by
  unfold sendClientAuthreq
  dsimp only
  repeat' split
  all_goals first
    | exact fail_frame _ _ _
    | exact rfl

theorem startMethod_frame (creds : Credentials) (auth : AuthType)
    (rule : Option HbaRule) : Frame x (x.startMethod env creds auth rule).1 := by
  have hset : Frame x (x.update fun cl => { cl with clientAuthType := auth }) := rfl
  unfold startMethod loginViaCert loginAsUnixPeer
  dsimp only
  repeat' split
  all_goals first
    | exact hset.trans (sendClientAuthreq_frame _ _)
    | exact hset.trans (fail_frame _ _ _)
    | exact hset.trans (finishClientLogin_frame _ _)

theorem finishSetPool_frame : Frame x (finishSetPool cfg env x).1 := by
  unfold finishSetPool
  split
  · refine andThen_frame ((checkConsole_frame (withPool x _ _ _) _).of_update rfl rfl) fun y => ?_
    repeat' split
    all_goals first
      | exact finishClientLogin_frame _ _
      | exact fail_frame _ _ _
      | exact startMethod_frame _ _ _ _ _
  · exact die_frame x

theorem checkDbConnectionCount_frame : Frame x (checkDbConnectionCount cfg env x db).1 := by
  unfold checkDbConnectionCount
  dsimp only
  repeat' split
  all_goals first
    | exact disconnect_frame _ _ _
    | exact rfl

theorem checkUserConnectionCount_frame : Frame x (checkUserConnectionCount cfg env x db).1 := by
  unfold checkUserConnectionCount
  repeat' split
  all_goals first
    | exact disconnect_frame _ _ _
    | exact rfl

theorem startAuthQuery_frame : Frame x (startAuthQuery cfg env x db) := by
  unfold startAuthQuery
  dsimp only
  repeat' split
  all_goals first
    | exact disconnect_frame _ _ _
    | exact rfl
    | exact (disconnect_frame _ _ _).of_update rfl rfl
    | exact ((disconnect_frame _ _ _).of_update rfl rfl).of_update rfl rfl
    | exact (pauseClient_frame _ _).of_update rfl rfl

/-- The frame of the functions that look for the user: some may be added. -/
structure Adds (x y : LoginCtx) : Prop where
  slot : y.slot = x.slot
  users : x.users.Extends y.users
  dbAuthUser : x.dbAuthUser ⊆ y.dbAuthUser
  queue : y.queue = x.queue
  connection : y.client.connection = x.client.connection
  connectTime : y.client.connectTime = x.client.connectTime

theorem Frame.adds {x y : LoginCtx} (h : Frame x y) : Adds x y :=
  ⟨h.slot, h.users ▸ .refl _, h.dbAuthUser ▸ List.Subset.refl _, h.queue, h.connection,
    h.connectTime⟩

theorem Adds.trans {x y z : LoginCtx} (h : Adds x y) (h' : Adds y z) : Adds x z :=
  ⟨h'.slot.trans h.slot, h.users.trans h'.users, List.Subset.trans h.dbAuthUser h'.dbAuthUser,
    h'.queue.trans h.queue, h'.connection.trans h.connection,
    h'.connectTime.trans h.connectTime⟩

theorem andThen_adds {x : LoginCtx} {r : LoginCtx × Bool} {next : LoginCtx → LoginCtx × Bool}
    (h : Adds x r.1) (hnext : ∀ y, Adds y (next y).1) : Adds x (andThen r next).1 := by
  unfold andThen
  split
  · exact h.trans (hnext _)
  · exact h

/-- The checks between finding a user and going on. -/
theorem checks_adds {x y : LoginCtx} (db : PgDatabase) (h : Adds x y) :
    Adds x (checkDbConnectionCount cfg env y db).1 ∧
      Adds x (checkUserConnectionCount cfg env y db).1 :=
  ⟨h.trans (checkDbConnectionCount_frame _ _ _).adds,
    h.trans (checkUserConnectionCount_frame _ _ _).adds⟩

theorem setLoginUser_adds (user : Option LoginUser) : Adds x (x.setLoginUser user) :=
  Frame.adds rfl

theorem fillAuthUser_adds : Adds x (fillAuthUser cfg x db) := by
  unfold fillAuthUser
  repeat' split
  · exact (Frame.refl x).adds
  · exact ⟨rfl, Users.findOrAddNewGlobalUser_extends _ _, List.subset_cons_self _ _, rfl, rfl, rfl⟩
  · exact (Frame.refl x).adds

theorem setPoolMock_adds (username : Bytes) : Adds x (setPoolMock cfg env x db username).1 :=
  andThen_adds (checks_adds env db (setLoginUser_adds _ _)).1 fun _ =>
  andThen_adds (checks_adds env db (setLoginUser_adds _ _)).2 fun _ =>
  (finishSetPool_frame _ _).adds

theorem findLoginUser_adds
    (dbname username : Bytes) : Adds x (findLoginUser cfg env x db dbname username).1 := by
  have hdone : ∀ y : LoginCtx, Adds y (finishSetPool cfg env y).1 :=
    fun y => (finishSetPool_frame _ _).adds
  have huser : ∀ y : LoginCtx, Adds y (checkUserConnectionCount cfg env y db).1 :=
    fun y => (checkUserConnectionCount_frame _ _ _).adds
  have hfail : ∀ reason, Adds x (x.fail reason).1 := fun reason => (fail_frame _ _ _).adds
  unfold findLoginUser
  split
  · exact hfail _
  split
  · unfold setPoolAny
    split
    · exact hfail _
    · exact andThen_adds (checks_adds env db (setLoginUser_adds _ _)).1 fun y =>
        andThen_adds (huser y) hdone
  split
  · unfold setPoolLdap
    split
    · exact hfail _
    · have hadd : Adds x { x with users := x.users.findOrAddNewGlobalUser username [] } :=
        ⟨rfl, Users.findOrAddNewGlobalUser_extends _ _, List.Subset.refl _, rfl, rfl, rfl⟩
      exact andThen_adds (checks_adds env db (hadd.trans (setLoginUser_adds _ _))).2 hdone
  split
  · unfold setPoolPam
    split
    · exact hfail _
    · have hadd : Adds x { x with users := x.users.addPamCredentials username } :=
        ⟨rfl, Users.addPamCredentials_extends _ _, List.Subset.refl _, rfl, rfl, rfl⟩
      exact andThen_adds (checks_adds env db (hadd.trans (setLoginUser_adds _ _))).1 fun y =>
        andThen_adds (huser y) hdone
  · unfold setPoolUser
    refine andThen_adds (checks_adds env db (setLoginUser_adds _ _)).1 fun y =>
      andThen_adds (huser y) fun y => ?_
    split
    · dsimp only
      split
      · exact (fillAuthUser_adds y db).trans (startAuthQuery_frame _ _ _).adds
      · exact (fillAuthUser_adds y db).trans (setPoolMock_adds _ _ _ _)
    · exact hdone y

theorem adminPreLogin_adds (username : Bytes) : Adds x (adminPreLogin cfg env x db username).1 := by
  have hcheck : ∀ y, Frame x y → Adds x (checkDbConnectionCount cfg env y db).1 :=
    fun y h => (h.trans (checkDbConnectionCount_frame _ _ _)).adds
  unfold adminPreLogin
  dsimp only
  split
  · exact hcheck _ rfl
  split
  · split
    · exact hcheck _ rfl
    split
    · exact andThen_adds (hcheck _ rfl) fun y =>
        (checkUserConnectionCount_frame _ _ _).adds
    · exact Frame.adds rfl
  · exact Frame.adds rfl

theorem setPool_adds (dbname username : Bytes) : Adds x (setPool cfg env x dbname username).1 := by
  have hdb : Adds x (x.update fun cl => { cl with db := some (dbOf cfg dbname) }) :=
    Frame.adds rfl
  unfold setPool
  dsimp only
  split
  · unfold setPoolConsole
    dsimp only
    have hpre := hdb.trans (@adminPreLogin_adds cfg env _ (dbOf cfg dbname) username)
    split
    · exact hpre.trans (finishSetPool_frame _ _).adds
    split
    · exact hpre
    · exact hpre.trans (findLoginUser_adds _ _ _ _ _)
  · exact hdb.trans (findLoginUser_adds _ _ _ _ _)

theorem decideStartupPool_adds (packet : StartupPacket) :
    Adds x (decideStartupPool cfg env x packet).1 := by
  have hset : Adds x (x.update fun cl =>
      { cl with replication := replicationOf cfg packet cl.replication }) :=
    Frame.adds rfl
  have hneg : ∀ y : LoginCtx, Adds y (negotiate env y packet).1 := by
    intro y
    unfold negotiate
    dsimp only
    repeat' split
    · exact Frame.adds rfl
    · exact ((fail_frame _ _ _).of_update rfl rfl).adds
    · exact (Frame.refl y).adds
  unfold decideStartupPool
  dsimp only
  repeat' split
  all_goals first
    | exact hset.trans (fail_frame _ _ _).adds
    | exact andThen_adds (hset.trans (hneg _)) fun y => setPool_adds _ _ _ _

end LoginCtx

end PgBouncer
