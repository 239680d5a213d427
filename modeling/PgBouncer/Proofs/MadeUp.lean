/-
Users and databases that are made up to be refused.

Whether a user is made up is decided by the rules for an ordinary connection, and the
method is selected by those for the connection the client asks for.  When they differ, a
made-up user can be handed to LDAP, and nothing behind that looks at `mock_auth` again.
-/
import PgBouncer.Proofs.Login

namespace PgBouncer

open LoginCtx

namespace LoginWorld

variable {cfg : AuthConfig} {c : Crypto} {w : LoginWorld} {i : Nat}

/-- The rules for the connection a startup packet asks for say ldap only if those for an
ordinary connection do. -/
def RulesAgree (cfg : AuthConfig) (cl : PgSocket) (packet : StartupPacket) : Prop :=
  cfg.authType = .hba →
    (hbaEval cfg.hba cl.connection.remoteAddr cl.tls (replicationOf cfg packet cl.replication)
      (startupDb packet) (startupUser packet)).any (·.ruleMethod = .ldap) = true →
    checkIfNeedLdapAuthentication cfg cl (startupDb packet) (startupUser packet) = true

/-- The same for an event. -/
def StartupsAgree (cfg : AuthConfig) (w : LoginWorld) (e : LoginEvent) : Prop :=
  ∀ i packet env, e = .packet i (.startup packet) env → RulesAgree cfg (w.clients i) packet

/-- No thread is asked about a made-up user. -/
def NoThread (w : LoginWorld) : Prop :=
  ∀ i cr, (w.clients i).state = .login → (w.clients i).loginUser = some (.mock cr) →
    (w.clients i).clientAuthType ≠ .ldap ∧ (w.clients i).clientAuthType ≠ .pam

theorem NoThread.put (h : NoThread w) {x : LoginCtx} (hslot : x.slot = i)
    (hx : ∀ cr, x.client.state = .login → x.client.loginUser = some (.mock cr) →
      x.client.clientAuthType ≠ .ldap ∧ x.client.clientAuthType ≠ .pam) : NoThread (w.put x) := by
  intro j
  simp only [LoginWorld.put]
  by_cases hji : j = i
  · rw [hji, ← hslot, Function.update_self]
    exact hx
  · rw [hslot, Function.update_of_ne hji]
    exact h j

theorem NoThread.disconnect (h : NoThread w) (hused : (w.clients i).state ≠ .free)
    (hopen : (w.clients i).state ≠ .justFree) (reason : Bytes) :
    NoThread (w.put ((w.ctx i).disconnect reason)) := by
  refine h.put (disconnect_frame (w.ctx i) reason true).slot fun cr hstate => ?_
  exact absurd ((disconnect_state hused hopen reason).symm.trans hstate) (by decide)

theorem NoThread.disconnect_login (h : NoThread w) (hlogin : (w.clients i).state = .login)
    (reason : Bytes) : NoThread (w.put ((w.ctx i).disconnect reason)) :=
  h.disconnect (by rw [hlogin]; decide) (by rw [hlogin]; decide) reason

/-- A packet: who is made up is not asked by LDAP if the rules agree. -/
theorem NoThread.packet (h : NoThread w) (hinv : Inv cfg c w) {pkt : LoginPkt} {env : Env}
    (hphase : inStartupPhase (w.clients i) = true) (hpaused : (w.clients i).paused = false)
    (hpending : ∀ p, (w.clients i).pending = some p → p = pkt)
    (hagree : ∀ packet, pkt = .startup packet → RulesAgree cfg (w.clients i) packet)
    (halive : (handleClientStartup cfg c env (w.ctx i) pkt).1.died = false) :
    NoThread (w.put ((handleClientStartup cfg c env (w.ctx i) pkt).1.update fun cl =>
      { cl with
        pending :=
          if (handleClientStartup cfg c env (w.ctx i) pkt).2 then none else some pkt })) := by
  have hfoot := @handleClientStartup_footprint cfg c env (w.ctx i) pkt
  refine h.put hfoot.slot fun cr hlogin hmock => ?_
  rcases inStartupPhase_cases hphase with hstate | ⟨hstate, hwelcome⟩
  · have hverdict := (hinv.receives hstate hpaused hpending).verdict env
    rcases hverdict.mock halive hlogin cr hmock with ⟨hsame, old, hold⟩ | ⟨packet, hpkt, hmade⟩
    · have hold := h i old hstate hold
      rw [← show (handleClientStartup cfg c env (w.ctx i) pkt).1.client.clientAuthType =
        (w.clients i).clientAuthType from hsame] at hold
      exact hold
    · refine ⟨fun hldap => ?_, hmade.noPam⟩
      obtain ⟨hhba, hneed, hrule⟩ := hmade.ldap hldap
      exact absurd (hneed.symm.trans (hagree packet hpkt hhba hrule)) Bool.false_ne_true
  · -- a client that waits to be welcomed does not fall back
    rw [handleClientStartup_resumed (.inl hwelcome)] at halive hlogin
    have hsettled := (finishClientLogin_active env (x := w.ctx i) hstate).1
    exact absurd hlogin (hsettled.not_login halive).1

theorem NoThread.authFinish (h : NoThread w) {request : AuthRequest}
    (hvalid : w.isValidSocket request = true) : NoThread (w.authFinish request) := by
  simp only [isValidSocket, Bool.and_eq_true, decide_eq_true_eq] at hvalid
  unfold LoginWorld.authFinish
  dsimp only
  split
  · unfold setLoginPasswd
    split
    · exact h.put rfl fun cr hstate hmock => h _ cr hstate hmock
    · rename_i old hold
      exact h.put rfl fun cr hstate _ => h _ old hstate hold
    · exact h.put rfl fun cr hstate hmock => h _ cr hstate hmock
  · exact h.disconnect_login hvalid.1 _

/-- **One event.** -/
theorem NoThread.step (h : NoThread w) (hinv : Inv cfg c w) {e : LoginEvent} {w' : LoginWorld}
    (hagree : StartupsAgree cfg w e) (hstep : w.step cfg c e = some w')
    (halive : w'.died = false) : NoThread w' := by
  cases stepped_of_step hstep with
  | packet i pkt env phase unpaused pending =>
    exact h.packet hinv phase unpaused pending
      (fun packet hpkt => hagree i packet env (by rw [hpkt])) halive
  | accept i connection free =>
    have hno : NoThread (w.put ((w.ctx i).update fun _ =>
        { state := .login, connection, connectTime := w.now })) :=
      h.put rfl fun cr _ hmock => nomatch hmock
    exact hno
  | activate | wait | free => exact h.put rfl fun cr hstate => nomatch hstate
  | activateLogin i waiting =>
    refine h.put rfl fun cr _ hmock => ?_
    have hok := hinv.login i (.inr waiting)
    cases hs : (w.clients i).startupMessageReceived with
    | false => exact absurd hmock ((hok.fresh hs).noMock cr)
    | true => exact absurd ((hok.asked hs).state.symm.trans waiting) (by decide)
  | row i username password env db awaits hdb =>
    have hframe := @checkUserConnectionCount_frame cfg env
      (w.withRow i db username (password.getD nullPassword)) db
    refine h.put hframe.slot fun cr hstate hmock => ?_
    rcases @checkUserConnectionCount_cases cfg env
      (w.withRow i db username (password.getD nullPassword)) db with heq | ⟨hshut, -⟩
    · rw [heq] at hmock
      cases hmock
    · have hclosed := hshut.closed.resolve_left
        fun hd => absurd (halive.symm.trans hd) Bool.false_ne_true
      exact absurd (hclosed.symm.trans hstate) (by decide)
  | noUser i awaits nobody => exact h.disconnect_login (awaitsRows_cases awaits).1 _
  | resumed i awaits found => exact h.put rfl fun cr hstate hmock => h i cr hstate hmock
  | authError i reason awaits => exact h.disconnect_login (awaitsRows_cases awaits).1 reason
  | finished checker request rest taken valid =>
    exact NoThread.authFinish (w := { w with queue := rest }) h valid
  | close i reason used isOpen => exact h.disconnect used isOpen reason
  | incomplete | noRow | noDb | authNotice | checked | dropped | loadAuthFile => exact h

theorem Initial.noThread_of_run {w₀ : LoginWorld} (h : Initial w₀) {es : List LoginEvent}
    (hmeets : Meets (StartupsAgree cfg) cfg c w₀ es) (hrun : w₀.run cfg c es = some w)
    (halive : w.died = false) : NoThread w := by
  have hinit : NoThread w₀ := by
    intro i cr hstate
    rw [h.clients i] at hstate
    cases hstate
  exact (Inv.induction (fun _ => ⟨h.inv, hinit⟩)
    (fun hinv hno hagrees hstep halive => hno.step hinv hagrees hstep halive) hmeets hrun halive).2

/-- Nobody gets in as a made-up user, as long as no thread is asked about one. -/
theorem Inv.no_mock_enters (h : Inv cfg c w) (hno : NoThread w) {pkt : LoginPkt} {env : Env}
    {w' : LoginWorld} {y : LoginCtx} (hy : Enters cfg c w i pkt env w' y)
    (hpaused : (w.clients i).paused = false) (cr : Credentials) :
    y.client.loginUser ≠ some (.mock cr) := by
  intro hmock
  obtain ⟨hauth, hsame⟩ := hy.entry.mock cr hmock
  have hsame : y.client = w.clients i := hsame
  have hauth : (w.clients i).waitForAuth = true := hauth
  rw [hsame] at hmock
  have hok := h.login i (.inl hy.login)
  have hs : (w.clients i).startupMessageReceived = true := by
    cases hs : (w.clients i).startupMessageReceived with
    | true => rfl
    | false => exact absurd ((hok.fresh hs).waitForAuth.symm.trans hauth) Bool.false_ne_true
  rcases (hok.asked hs).auth hauth with hpaused' | ⟨request, -, -, -, -, hof⟩
  · exact absurd (hpaused.symm.trans hpaused') Bool.false_ne_true
  · obtain ⟨_, _, _, _, _, _, _, _, _, hmethod⟩ := hof
    obtain ⟨hldap, hpam⟩ := hno i cr hy.login hmock
    rw [hmethod] at hldap hpam
    cases hchecker : request.checker with
    | ldap => exact hldap (by rw [hchecker]; rfl)
    | pam => exact hpam (by rw [hchecker]; rfl)

/-- **Made-up logins never succeed**, as long as the rules agree on who is asked by LDAP: a
client with a made-up user or database has not been active, and it is in no list of a
pool. -/
theorem madeUp_never_active {w₀ : LoginWorld} (hinit : Initial w₀) {es : List LoginEvent}
    (hmeets : Meets (StartupsAgree cfg) cfg c w₀ es) (hrun : w₀.run cfg c es = some w)
    (hopen : (w.clients i).state ≠ .justFree)
    (hmadeUp : (∃ cr, (w.clients i).loginUser = some (.mock cr)) ∨
      ∃ db, (w.clients i).db = some db ∧ db.fake = true) :
    (w.clients i).wasActive = false ∧
    (w.died = false → (w.clients i).state ≠ .active ∧ (w.clients i).state ≠ .waiting ∧
      (w.clients i).state ≠ .waitingLogin) := by
  have hnever : (w.clients i).wasActive ≠ true := by
    intro hwas
    obtain ⟨es₁, pkt, env, es₂, w₁, w₂, y, hy⟩ := hinit.enters_of_wasActive hrun hwas
    obtain ⟨-, huser, hdb⟩ := hy.same.stays hopen
    have halive := alive_of_step hy.packet
    rcases hmadeUp with ⟨cr, hmock⟩ | ⟨db, hdb', hfake⟩
    · have hno : NoThread w₁ := by
        refine hinit.noThread_of_run ?_ hy.before halive
        rw [hy.split] at hmeets
        exact hmeets.append_left
      have hpaused : (w₁.clients i).paused = false := by
        cases stepped_of_step hy.packet with
        | packet _ _ _ _ unpaused _ => exact unpaused
      exact (hinit.inv_of_run hy.before halive).no_mock_enters hno hy.enters hpaused cr
        (huser.symm.trans hmock)
    · have hslot : (y.finishClientLogin env).1.slot = i :=
        (finishClientLogin_frame env y).slot.trans hy.enters.slot
      have hshut := finishClientLogin_fake env (hdb.symm.trans hdb') hfake
      have hactive := hy.active
      rw [hy.enters.after] at hactive
      simp only [LoginWorld.put, LoginCtx.update, hslot, Function.update_self] at hactive
      exact absurd ((hshut.wasActive.trans hy.enters.entry.wasActive).symm.trans hactive)
        Bool.false_ne_true
  refine ⟨by simpa using hnever, fun halive => ?_⟩
  have hinv : Inv cfg c w := hinit.inv_of_run hrun halive
  refine ⟨fun hs => hnever (hinv.active i (.inl hs)), fun hs => hnever (hinv.active i (.inr hs)),
    fun hs => ?_⟩
  -- a client that waits for the server of an auth_query has a database, and no user yet
  have hok := hinv.login i (.inr hs)
  cases hs' : (w.clients i).startupMessageReceived with
  | true => exact absurd ((hok.asked hs').state.symm.trans hs) (by decide)
  | false =>
    rcases hmadeUp with ⟨cr, hmock⟩ | ⟨db, hdb, hfake⟩
    · exact (hok.fresh hs').noMock cr hmock
    · exact absurd (((hok.fresh hs').real hs db hdb).symm.trans hfake) Bool.false_ne_true

/-- A user nobody knows is asked for an MD5 password, and nothing else. -/
theorem madeUp_never_active_ghost : ∃ w : LoginWorld,
    (∃ cr, (w.clients 0).loginUser = some (.mock cr)) ∧ (w.clients 0).wasActive = false ∧
    (w.clients 0).state ≠ .active := by
  have hrun : ((onlyUser { name := text "u", held := [[]] }).run (loginsTo .md5) .masking
      [.accept 0 { remoteAddr := .unix },
        .packet 0 (startupOf (text "ghost") (text "d")) {}]).any (fun w =>
      w.died = false ∧ (w.clients 0).state = .login ∧
        (w.clients 0).loginUser = some (.mock (mockCredentials (text "ghost")))) := by decide
  simp only [Option.any_eq_true, decide_eq_true_eq] at hrun
  obtain ⟨w, hw, halive, hstate, huser⟩ := hrun
  have hinit := @initial_onlyUser { name := text "u", held := [[]] } rfl
    (List.mem_singleton_self _) rfl
  obtain ⟨hnever, hlists⟩ := madeUp_never_active (i := 0) hinit
    (Run.meets_of_forall (fun _ _ _ _ _ _ hhba => nomatch hhba) _ _) hw (by rw [hstate]; decide)
    (.inl ⟨_, huser⟩)
  exact ⟨w, ⟨_, huser⟩, hnever, (hlists halive).1⟩

/-- The rules send replication connections to LDAP.  Nobody knows `ghost`, so the user is
made up; LDAP does know `ghost`, and the client becomes active, without a pool. -/
theorem madeUp_ldap_active :
    ((onlyUser { name := text "u", held := [[]] }).run
      { authType := .hba, databases := [{ name := text "d" }], parseBool := fun _ => some true,
        hba := [{ ruleType := .socket, dbName := { replication := true },
                  userName := { all := true }, ruleMethod := .ldap }] } .masking
      [.accept 0 { remoteAddr := .unix },
        .packet 0 (.startup { params := [(userKey, text "ghost"), (databaseKey, text "d"),
          (replicationKey, text "true")] }) {},
        .packet 0 (.password (text "secret" ++ [0])) {},
        .checked .ldap true, .poll .ldap,
        .packet 0 (.password (text "secret" ++ [0])) {}]).map
      (fun w => ((w.clients 0).state, (w.clients 0).wasActive,
        (w.clients 0).loginUser.map fun u => u matches .mock _, w.died)) =
      some (.active, true, some true, true) := by
  decide

end LoginWorld

end PgBouncer
