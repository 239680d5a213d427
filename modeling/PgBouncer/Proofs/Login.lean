/-
Nobody gets in without being accepted.

A client can only become active by a packet that arrives while it is in `CL_LOGIN`, and
then the method `finish_set_pool` selected has accepted it.  From then on it stays who it
is, whatever happens to the users.
-/
import Mathlib.Data.List.Induction
import PgBouncer.Proofs.LoginWorld

namespace PgBouncer

open LoginCtx

namespace LoginWorld

variable {cfg : AuthConfig} {c : Crypto} {w : LoginWorld} {i : Nat}

/-! ### Getting in -/

/-- The same client at the same place.  When it is closed it forgets who it was. -/
structure SameClient (cl cl' : PgSocket) : Prop where
  connection : cl'.connection = cl.connection
  connectTime : cl'.connectTime = cl.connectTime
  pool : cl'.pool = cl.pool
  ownUser : cl'.ownUser = cl.ownUser
  adminUser : cl'.adminUser = cl.adminUser
  stays : cl'.state ≠ .justFree →
    cl.state ≠ .justFree ∧ cl'.loginUser = cl.loginUser ∧ cl'.db = cl.db

theorem SameClient.refl (cl : PgSocket) : SameClient cl cl :=
  ⟨rfl, rfl, rfl, rfl, rfl, fun h => ⟨h, rfl, rfl⟩⟩

theorem SameClient.trans {cl cl' cl'' : PgSocket} (h : SameClient cl cl')
    (h' : SameClient cl' cl'') : SameClient cl cl'' := by
  refine ⟨h'.connection.trans h.connection, h'.connectTime.trans h.connectTime,
    h'.pool.trans h.pool, h'.ownUser.trans h.ownUser, h'.adminUser.trans h.adminUser, fun hs => ?_⟩
  obtain ⟨hs', huser', hdb'⟩ := h'.stays hs
  obtain ⟨hs, huser, hdb⟩ := h.stays hs'
  exact ⟨hs, huser'.trans huser, hdb'.trans hdb⟩

theorem disconnect_same (x : LoginCtx) (reason : Bytes) (notify : Bool) :
    SameClient x.client (x.disconnect reason notify).client := by
  unfold LoginCtx.disconnect
  split
  · exact .refl _
  · exact .refl _
  · cases notify <;> exact ⟨rfl, rfl, rfl, rfl, rfl, fun h => absurd rfl h⟩

variable {x : LoginCtx} {w' w₀ : LoginWorld} {pkt : LoginPkt} {env : Env} {e : LoginEvent}
  {es : List LoginEvent} {cond : LoginWorld → LoginEvent → Prop}

theorem welcomeOrWait_same (env : Env) (h : x.client.state = .active) :
    SameClient x.client (x.welcomeOrWait env).1.client := by
  have hopen : x.client.state ≠ .justFree := by rw [h]; decide
  have hwait : ∀ welcome, SameClient x.client { x.client with
      waitForAuth := false, waitForWelcome := welcome } :=
    fun _ => ⟨rfl, rfl, rfl, rfl, rfl, fun h => ⟨h, rfl, rfl⟩⟩
  unfold welcomeOrWait welcomeClient pauseClient
  dsimp only
  repeat' split
  · simp only [update, send]
    exact ⟨rfl, rfl, rfl, rfl, rfl, fun h => ⟨h, rfl, rfl⟩⟩
  · refine SameClient.trans ?_ (disconnect_same _ _ _)
    exact hwait false
  · refine SameClient.trans ?_ (disconnect_same _ _ _)
    exact hwait true
  · simp only [update]
    exact ⟨rfl, rfl, rfl, rfl, rfl, fun _ => ⟨hopen, rfl, rfl⟩⟩

theorem finishClientLogin_same (env : Env) (x : LoginCtx) :
    SameClient x.client (x.finishClientLogin env).1.client := by
  unfold finishClientLogin
  split
  · exact .refl _
  repeat' split
  · exact disconnect_same _ _ _
  · exact disconnect_same _ _ _
  · exact disconnect_same _ _ _
  · rename_i hstate
    have hopen : x.client.state ≠ .justFree := by rw [hstate]; decide
    have hactive : x.activateLogin.client.state = .active ∧
        SameClient x.client x.activateLogin.client := by
      unfold activateLogin
      dsimp only
      split <;> exact ⟨rfl, rfl, rfl, rfl, rfl, rfl, fun _ => ⟨hopen, rfl, rfl⟩⟩
    dsimp only
    split
    · exact hactive.2
    · exact hactive.2.trans (welcomeOrWait_same env hactive.1)
  · rename_i hstate
    exact welcomeOrWait_same env hstate
  · exact .refl _

/-- Whoever has been active on a connection was so before. -/
def NobodyEnters (w w' : LoginWorld) : Prop :=
  ∀ i, (w'.clients i).wasActive = true →
    (w.clients i).wasActive = true ∧ SameClient (w.clients i) (w'.clients i)

theorem NobodyEnters.of_eq (h : w'.clients = w.clients) : NobodyEnters w w' :=
  fun i hi => by
    rw [h] at hi ⊢
    exact ⟨hi, .refl _⟩

theorem NobodyEnters.put (hslot : x.slot = i)
    (hwas : x.client.wasActive = true → (w.clients i).wasActive = true ∧
      SameClient (w.clients i) x.client) : NobodyEnters w (w.put x) := by
  intro j hj
  simp only [LoginWorld.put] at *
  by_cases hji : j = i
  · rw [hji, ← hslot, Function.update_self] at hj ⊢
    rw [hslot]
    exact hwas hj
  · rw [hslot, Function.update_of_ne hji] at hj ⊢
    exact ⟨hj, .refl _⟩

/-- A client on its way in has not been active. -/
theorem NobodyEnters.put_login (h : Inv cfg c w) (hway : OnItsWay (w.clients i))
    (hslot : x.slot = i) (hwas : x.client.wasActive = (w.clients i).wasActive) :
    NobodyEnters w (w.put x) := by
  refine .put hslot fun hw => absurd (hwas.symm.trans hw) ?_
  rw [(h.login i hway).wasActive]
  exact Bool.false_ne_true

theorem NobodyEnters.disconnect (reason : Bytes) :
    NobodyEnters w (w.put ((w.ctx i).disconnect reason)) := by
  refine .put (disconnect_frame (w.ctx i) reason true).slot fun hw =>
    ⟨?_, disconnect_same (w.ctx i) reason true⟩
  rwa [(disconnect_shut (w.ctx i) reason true).wasActive] at hw

theorem Inv.nobodyEnters_row (h : Inv cfg c w) (hawaits : awaitsRows (w.clients i) = true)
    (env : Env) (db : PgDatabase) (name password : Bytes) :
    NobodyEnters w
      (w.put (checkUserConnectionCount cfg env (w.withRow i db name password) db).1) := by
  have hframe := @checkUserConnectionCount_frame cfg env (w.withRow i db name password) db
  refine .put_login h (.inl (awaitsRows_cases hawaits).1) hframe.slot ?_
  rcases @checkUserConnectionCount_cases cfg env (w.withRow i db name password) db with
    heq | ⟨hshut, -⟩
  · rw [heq]
    rfl
  · exact hshut.wasActive

theorem Inv.nobodyEnters_authFinish (h : Inv cfg c w) {request : AuthRequest}
    (hvalid : w.isValidSocket request = true) : NobodyEnters w (w.authFinish request) := by
  simp only [isValidSocket, Bool.and_eq_true, decide_eq_true_eq] at hvalid
  unfold LoginWorld.authFinish
  dsimp only
  split
  · unfold setLoginPasswd
    split <;> exact .put_login h (.inl hvalid.1) rfl rfl
  · exact .disconnect _

/-- A packet lets a client in: the method that was selected for it has accepted it. -/
structure Enters (cfg : AuthConfig) (c : Crypto) (w : LoginWorld) (i : Nat) (pkt : LoginPkt)
    (env : Env) (w' : LoginWorld) (y : LoginCtx) : Prop where
  login : (w.clients i).state = .login
  entry : Entry cfg c (w.ctx i) pkt y
  after : w' = w.put ((y.finishClientLogin env).1.update fun cl =>
    { cl with pending := if (y.finishClientLogin env).2 then none else some pkt })
  slot : y.slot = i

/-- Who has got in. -/
theorem Enters.same {y : LoginCtx} (h : Enters cfg c w i pkt env w' y) :
    SameClient y.client (w'.clients i) := by
  have hsame := finishClientLogin_same env y
  have hslot : (y.finishClientLogin env).1.slot = i :=
    (finishClientLogin_frame env y).slot.trans h.slot
  rw [h.after, LoginWorld.put]
  simp only [LoginCtx.update, hslot, Function.update_self]
  exact { hsame with }

theorem Enters.others {y : LoginCtx} (h : Enters cfg c w i pkt env w' y) {j : Nat} (hj : j ≠ i) :
    w'.clients j = w.clients j := by
  have hslot : (y.finishClientLogin env).1.slot = i :=
    (finishClientLogin_frame env y).slot.trans h.slot
  rw [h.after, LoginWorld.put]
  simp only [LoginCtx.update, hslot, Function.update_of_ne hj]

theorem Inv.packet_enters (h : Inv cfg c w) (hphase : inStartupPhase (w.clients i) = true)
    (hpaused : (w.clients i).paused = false)
    (hpending : ∀ p, (w.clients i).pending = some p → p = pkt)
    (hw' : w' = w.put ((handleClientStartup cfg c env (w.ctx i) pkt).1.update fun cl =>
      { cl with
        pending := if (handleClientStartup cfg c env (w.ctx i) pkt).2 then none else some pkt })) :
    NobodyEnters w w' ∨ ∃ y, Enters cfg c w i pkt env w' y := by
  subst hw'
  have hslot := (@handleClientStartup_footprint cfg c env (w.ctx i) pkt).slot
  rcases inStartupPhase_cases hphase with hstate | ⟨hstate, hwelcome⟩
  · have hbefore := (h.login i (.inl hstate)).wasActive
    rcases ((h.receives hstate hpaused hpending).verdict env).entry with hsame | ⟨y, hy, heq⟩
    · refine .inl (.put hslot fun hw => absurd (hbefore.symm.trans (hsame.symm.trans hw)) ?_)
      exact Bool.false_ne_true
    · rw [heq] at hslot
      exact .inr ⟨y, hstate, hy, by rw [← heq],
        (finishClientLogin_frame env y).slot.symm.trans hslot⟩
  · -- a client that waits for a server to be welcomed has got in already
    rw [handleClientStartup_resumed (.inl hwelcome)] at hslot ⊢
    have hwas := (finishClientLogin_active env (x := w.ctx i) hstate).2
    have hsame := finishClientLogin_same env (w.ctx i)
    exact .inl (.put hslot fun hw => ⟨hwas.symm.trans hw, hsame.connection, hsame.connectTime,
      hsame.pool, hsame.ownUser, hsame.adminUser, hsame.stays⟩)

/-- **One event.**  Nobody gets in but by a packet that makes `finish_client_login` let the
client in. -/
theorem Inv.enters (h : Inv cfg c w) (hstep : w.step cfg c e = some w') :
    NobodyEnters w w' ∨ ∃ i pkt env y, e = .packet i pkt env ∧ Enters cfg c w i pkt env w' y := by
  have hopen : ∀ {j s}, (w.clients j).state = s → s ≠ .justFree →
      (w.clients j).state ≠ .justFree := fun hs hne => hs ▸ hne
  cases stepped_of_step hstep with
  | packet i pkt env phase unpaused pending =>
    rcases h.packet_enters phase unpaused pending rfl with hno | ⟨y, hy⟩
    · exact .inl hno
    · exact .inr ⟨i, pkt, env, y, rfl, hy⟩
  | accept i connection free =>
    have hno : NobodyEnters w (w.put ((w.ctx i).update fun _ =>
        { state := .login, connection, connectTime := w.now })) := .put rfl nofun
    exact .inl hno
  | activate i hstate | wait i hstate =>
    exact .inl (.put rfl fun hw => ⟨hw, rfl, rfl, rfl, rfl, rfl,
      fun _ => ⟨hopen hstate (by decide), rfl, rfl⟩⟩)
  | activateLogin i waiting => exact .inl (.put_login h (.inr waiting) rfl rfl)
  | row i username password env db awaits hdb =>
    exact .inl (h.nobodyEnters_row awaits env db username _)
  | noUser i awaits nobody => exact .inl (.disconnect _)
  | resumed i awaits found =>
    exact .inl (.put_login h (.inl (awaitsRows_cases awaits).1) rfl rfl)
  | authError i reason awaits => exact .inl (.disconnect reason)
  | finished checker request rest taken valid =>
    exact .inl ((h.sublist (mem_of_takeRequest taken).2).nobodyEnters_authFinish valid)
  | close i reason used isOpen => exact .inl (.disconnect reason)
  | free i gone => exact .inl (.put rfl fun hw => nomatch hw)
  | incomplete | noRow | noDb | authNotice | checked | dropped | loadAuthFile =>
    exact .inl (.of_eq rfl)

/-! ### The users -/

theorem authFinish_evolves {request : AuthRequest}
    (halive : (w.authFinish request).died = false) :
    w.users.Evolves c (w.authFinish request).users := by
  unfold LoginWorld.authFinish at halive ⊢
  dsimp only at halive ⊢
  split
  · rename_i hstatus
    rw [if_pos hstatus] at halive
    obtain ⟨user, users, heq, hev, -⟩ := setLoginPasswd_cases (c := c) request.password halive
    rw [heq]
    exact hev
  · have hframe := disconnect_frame (w.ctx request.client) request.checker.failure true
    simp only [LoginWorld.put, hframe.users]
    exact .refl _

/-- Users do not go away, and their credentials stay what they have to be. -/
theorem Inv.users_evolve (h : Inv cfg c w) (hstep : w.step cfg c e = some w')
    (halive : w'.died = false) :
    w.users.Evolves c w'.users := by
  have hdisconnect : ∀ i reason,
      w.users.Evolves c (w.put ((w.ctx i).disconnect reason)).users := by
    intro i reason
    simp only [LoginWorld.put, (disconnect_frame (w.ctx i) reason true).users]
    exact .refl _
  cases stepped_of_step hstep with
  | packet i pkt env phase unpaused pending =>
    have hfoot := @handleClientStartup_footprint cfg c env (w.ctx i) pkt
    exact (hfoot.alive halive).users.evolves h.users
  | row i username password env db awaits hdb =>
    simp only [LoginWorld.put, (@checkUserConnectionCount_frame cfg env
      (w.withRow i db username (password.getD nullPassword)) db).users]
    exact Users.addDynamicCredentials_evolves w.users db.name _ _
  | finished checker request rest taken valid => exact authFinish_evolves halive
  | loadAuthFile file => exact Users.loadAuthFile_evolves _ _
  | noUser | authError | close => exact hdisconnect _ _
  | accept | incomplete | activate | activateLogin | wait | noRow | noDb | authNotice | resumed
  | checked | dropped | free => exact .refl _

/-! ### Runs -/

/-- A pgbouncer that has just been started: there are no clients, and of the users there is
what the configuration says. -/
structure Initial (w : LoginWorld) : Prop where
  clients : ∀ i, w.clients i = {}
  queue : w.queue = []
  users : ∀ r cr, w.users.find r = some cr → cr.mockAuth = false ∧ cr.passwd ∈ cr.held ∧
    cr.verifier = none ∧ ∀ db name, r ≠ .dynamic db name

theorem Initial.inv (h : Initial w) : Inv cfg c w := by
  refine ⟨fun r cr hr => ?_, fun i hi => ?_, fun i hi => ?_, fun i hi => ?_, fun request hr => ?_⟩
  · obtain ⟨hreal, hheld, hverifier, hdynamic⟩ := h.users r cr hr
    exact ⟨hreal, hheld, fun v hv => (nomatch hverifier.symm.trans hv),
      fun db name hr => absurd hr (hdynamic db name)⟩
  · rw [h.clients i] at hi
    rcases hi with hi | hi <;> cases hi
  · rw [h.clients i] at hi
    rcases hi with hi | hi <;> cases hi
  · exact absurd (by rw [h.clients i]) hi
  · rw [h.queue] at hr
    cases hr

/-- Nothing happens after the process has died. -/
theorem alive_of_run (hrun : w.run cfg c es = some w') (halive : w'.died = false) :
    w.died = false := by
  cases es with
  | nil =>
    cases hrun
    exact halive
  | cons e es =>
    obtain ⟨w₁, hstep, -⟩ := Option.bind_eq_some_iff.1 hrun
    exact alive_of_step hstep

/-- Every event of a run meets a condition in the world it happens in. -/
abbrev Meets (cond : LoginWorld → LoginEvent → Prop) (cfg : AuthConfig) (c : Crypto) :
    LoginWorld → List LoginEvent → Prop :=
  Run.Meets (step cfg c) cond

/-- **The invariant holds as long as the process lives**, and with it what its steps keep. -/
theorem Inv.induction {P : LoginWorld → Prop} (hinv : w₀.died = false → Inv cfg c w₀ ∧ P w₀)
    (hkeep : ∀ {w e w'}, Inv cfg c w → P w → cond w e → w.step cfg c e = some w' →
      w'.died = false → P w')
    (hmeets : Meets cond cfg c w₀ es) (hrun : w₀.run cfg c es = some w)
    (halive : w.died = false) : Inv cfg c w ∧ P w := by
  have hboth : ∀ {w e w'}, (w.died = false → Inv cfg c w ∧ P w) → cond w e →
      w.step cfg c e = some w' → w'.died = false → Inv cfg c w' ∧ P w' := by
    intro w e w' ih hcond hstep halive
    obtain ⟨hinv, hP⟩ := ih (alive_of_step hstep)
    exact ⟨hinv.step hstep halive, hkeep hinv hP hcond hstep halive⟩
  exact Run.invariant hboth hmeets hrun hinv halive

theorem Initial.inv_of_run (h : Initial w₀) (hrun : w₀.run cfg c es = some w)
    (halive : w.died = false) : Inv cfg c w :=
  (Inv.induction (P := fun _ => True) (fun _ => ⟨h.inv, trivial⟩) (fun _ _ _ _ _ => trivial)
    (Run.meets_of_forall (fun _ _ => trivial) _ _) hrun halive).1

theorem Initial.users_evolve_of_run (h : Initial w₀) {es' : List LoginEvent} {w₁ : LoginWorld}
    (hrun : w₀.run cfg c es = some w₁) (hrun' : w₁.run cfg c es' = some w)
    (halive : w.died = false) : w₁.users.Evolves c w.users :=
  (Inv.induction (P := fun w => w₁.users.Evolves c w.users)
    (fun halive => ⟨h.inv_of_run hrun halive, .refl _⟩)
    (fun hinv hevolves _ hstep halive => hevolves.trans (hinv.users_evolve hstep halive))
    (Run.meets_of_forall (fun _ _ => trivial) _ _) hrun' halive).2

/-- A run at whose packet a client gets in that is the one in `w`. -/
structure EntryOf (cfg : AuthConfig) (c : Crypto) (w₀ : LoginWorld) (es : List LoginEvent)
    (w : LoginWorld) (i : Nat) (es₁ : List LoginEvent) (pkt : LoginPkt) (env : Env)
    (es₂ : List LoginEvent) (w₁ w₂ : LoginWorld) (y : LoginCtx) : Prop where
  split : es = es₁ ++ .packet i pkt env :: es₂
  before : w₀.run cfg c es₁ = some w₁
  packet : w₁.step cfg c (.packet i pkt env) = some w₂
  after : w₂.run cfg c es₂ = some w
  enters : Enters cfg c w₁ i pkt env w₂ y
  active : (w₂.clients i).wasActive = true
  same : SameClient y.client (w.clients i)

theorem Initial.enters_of_wasActive (h : Initial w₀) (hrun : w₀.run cfg c es = some w)
    (hwas : (w.clients i).wasActive = true) :
    ∃ es₁ pkt env es₂ w₁ w₂ y, EntryOf cfg c w₀ es w i es₁ pkt env es₂ w₁ w₂ y := by
  induction es using List.reverseRecOn generalizing w with
  | nil =>
    cases hrun
    rw [h.clients i] at hwas
    cases hwas
  | append_singleton es e ih =>
    obtain ⟨w', hw', hstep⟩ := Run.exec_concat.1 hrun
    have hinv := h.inv_of_run hw' (alive_of_step hstep)
    have hstays : (w'.clients i).wasActive = true → SameClient (w'.clients i) (w.clients i) →
        ∃ es₁ pkt env es₂ w₁ w₂ y,
          EntryOf cfg c w₀ (es ++ [e]) w i es₁ pkt env es₂ w₁ w₂ y := by
      intro hold hsame
      obtain ⟨es₁, pkt, env, es₂, w₁, w₂, y, hy⟩ := ih hw' hold
      exact ⟨es₁, pkt, env, es₂ ++ [e], w₁, w₂, y, by simp [hy.split], hy.before, hy.packet,
        Run.exec_concat.2 ⟨w', hy.after, hstep⟩, hy.enters, hy.active, hy.same.trans hsame⟩
    rcases hinv.enters hstep with hno | ⟨j, pkt, env, y, rfl, hy⟩
    · exact hstays (hno i hwas).1 (hno i hwas).2
    · by_cases hij : i = j
      · subst hij
        exact ⟨es, pkt, env, [], w', w, y, rfl, hw', hstep, rfl, hy, hwas, hy.same⟩
      · rw [hy.others hij] at hwas hstays
        exact hstays hwas (.refl _)

theorem Initial.wasActive_of_active (h : Initial w₀) (hrun : w₀.run cfg c es = some w)
    (hactive : (w.clients i).wasActive = true ∨ w.died = false ∧ (w.clients i).state = .active) :
    (w.clients i).wasActive = true := by
  rcases hactive with hwas | ⟨halive, hstate⟩
  · exact hwas
  · exact (h.inv_of_run hrun halive).active i (.inl hstate)

/-- The configuration names one user. -/
def onlyUser (cr : Credentials) : LoginWorld :=
  { users := ⟨fun r => if r = .user cr.name then some cr else none⟩ }

theorem initial_onlyUser {cr : Credentials} (hreal : cr.mockAuth = false)
    (hheld : cr.passwd ∈ cr.held) (hnew : cr.verifier = none) : Initial (onlyUser cr) := by
  refine ⟨fun _ => rfl, rfl, fun r cr' hr => ?_⟩
  simp only [onlyUser] at hr
  split at hr
  · rename_i hr'
    cases hr
    exact ⟨hreal, hheld, hnew, fun db name hc => nomatch hr'.symm.trans hc⟩
  · cases hr

/-- One database. -/
def loginsTo (authType : AuthType) : AuthConfig := { authType, databases := [{ name := text "d" }] }

/-- The startup packet that names a user and a database. -/
def startupOf (user db : Bytes) : LoginPkt :=
  .startup { params := [(userKey, user), (databaseKey, db)] }

end LoginWorld

end PgBouncer
