/-
What an auth_query decides.

A row without a password is stored as the user's password `md5`, which is as good as any
other.  An answer without a row is noticed by `login_user_credentials` being NULL, which
it is not if the user is known already, from the configuration or from an earlier login.
-/
import PgBouncer.Proofs.Login

namespace PgBouncer

open LoginCtx

namespace LoginWorld

variable {cfg : AuthConfig} {c : Crypto} {w : LoginWorld} {i : Nat}

/-! ### A NULL password -/

/-- A client that is still there can answer a password request of this method so that it is
accepted. -/
def Admits (c : Crypto) (w : LoginWorld) (i : Nat) (env : ScramEnv) (salt : Bytes)
    (auth : AuthType) : Prop :=
  (w.clients i).state = .login ∧ ∃ creds, (w.clients i).loginCredentials w.users = some creds ∧
    CanPass c env salt creds auth

/-- What a row leaves behind: the credentials it describes, and its client with them. -/
theorem withRow_credentials (h : Inv cfg c w) (db : PgDatabase) (name password : Bytes) :
    ∃ creds, (w.withRow i db name password).loginCredentials = some creds ∧
      creds.mockAuth = false ∧ creds.verifier = none ∧
      creds.passwd = rowField maxPassword password ∧
      creds.name = rowField maxUsername name := by
  have hsound := (Users.addDynamicCredentials_evolves w.users db.name (rowField maxUsername name)
    (rowField maxPassword password)).sound h.users
  obtain ⟨u, creds, heq, -, hpasswd, -⟩ := Users.addDynamicCredentials_eq w.users db.name
    (rowField maxUsername name) (rowField maxPassword password)
  have hfind : (w.users.addDynamicCredentials db.name (rowField maxUsername name)
      (rowField maxPassword password)).find (.dynamic db.name (rowField maxUsername name)) =
        some creds := by
    rw [heq]
    exact Users.find_set_self _ _ _
  have hok := hsound _ _ hfind
  exact ⟨creds, hfind, hok.real, (hok.fetched _ _ rfl).2.1, hpasswd,
    (hok.fetched _ _ rfl).2.2⟩

/-- The client of a row is turned away: its user has too many clients already. -/
def TurnedAway (cfg : AuthConfig) (w : LoginWorld) (i : Nat) (name : Bytes) (env : Env) : Prop :=
  env.userFull = true ∧ ∀ db, (w.clients i).db = some db → db.admin = true →
    cfg.isAdminUser (rowField maxUsername name) = false

/-- **A NULL password does authenticate.**  The client of such a row is safe from being
logged in with a password only if it is turned away at once. -/
theorem not_admits_nullPassword_iff {w₀ : LoginWorld} (hinit : Initial w₀) {es : List LoginEvent}
    (hrun : w₀.run cfg c es = some w) {name : Bytes} {env : Env} {w' : LoginWorld}
    (hstep : w.step cfg c (.authRow i (some name) none env) = some w') (halive : w'.died = false)
    {auth : AuthType} (hauth : auth = .plain ∨ auth = .md5 ∨ auth = .scramSha256)
    (scramEnv : ScramEnv) (salt : Bytes) :
    ¬ Admits c w' i scramEnv salt auth ↔ TurnedAway cfg w i name env := by
  have hinv : Inv cfg c w := hinit.inv_of_run hrun (alive_of_step hstep)
  cases stepped_of_step hstep with
  | noDb => cases halive
  | row _ _ _ _ db awaits hdb =>
    obtain ⟨creds, hcreds, hreal, hnew, hpasswd, hname⟩ :=
      withRow_credentials (i := i) hinv db name nullPassword
    have hpass : CanPass c scramEnv salt creds auth :=
      canPass_nullPassword hreal hnew (hpasswd.trans (by decide)) hauth
    have hcheck : checkUserConnectionCount cfg env (w.withRow i db name nullPassword) db =
        if (db.admin && cfg.isAdminUser creds.name) || !env.userFull
        then (w.withRow i db name nullPassword, true)
        else (w.withRow i db name nullPassword).fail
          (text "client connections exceeded (max_user_client_connections)") := by
      unfold checkUserConnectionCount
      rw [hcreds]
      rfl
    have hstate := (awaitsRows_cases awaits).1
    rw [Option.getD_none, hcheck] at halive ⊢
    by_cases hgoesOn : ((db.admin && cfg.isAdminUser creds.name) || !env.userFull) = true
    · rw [if_pos hgoesOn]
      have hclient : (w.put (w.withRow i db name nullPassword)).clients i =
          (w.withRow i db name nullPassword).client := put_client rfl
      have hadmits : Admits c (w.put (w.withRow i db name nullPassword)) i scramEnv salt auth :=
        ⟨by rw [hclient]; exact hstate, creds, by rw [hclient]; exact hcreds, hpass⟩
      refine iff_of_false (fun hno => hno hadmits) fun ⟨hfull, hadmin⟩ => ?_
      rw [hfull, Bool.not_true, Bool.or_false, Bool.and_eq_true] at hgoesOn
      rw [hname] at hgoesOn
      exact nomatch (hadmin db hdb hgoesOn.1).symm.trans hgoesOn.2
    · rw [if_neg hgoesOn] at halive ⊢
      have hshut := fail_shut (w.withRow i db name nullPassword)
        (text "client connections exceeded (max_user_client_connections)") true
      have hclosed := hshut.closed.resolve_left
        fun hd => absurd (halive.symm.trans hd) Bool.false_ne_true
      have hslot : _ = i := (fail_frame (w.withRow i db name nullPassword)
        (text "client connections exceeded (max_user_client_connections)") true).slot
      have hfull : env.userFull = true := by
        cases hfull : env.userFull with
        | true => rfl
        | false => exact absurd (by simp [hfull]) hgoesOn
      refine iff_of_true (fun hadmits => ?_) ⟨hfull, ?_⟩
      · have hlogin := hadmits.1
        rw [put_client hslot] at hlogin
        exact absurd (hclosed.symm.trans hlogin) (by decide)
      · intro db' hdb' hadmin
        cases hdb.symm.trans hdb'
        refine Bool.eq_false_iff.mpr fun hmem => hgoesOn ?_
        simp [hadmin, hname, hmem]

/-- A configuration whose users are found by an auth_query. -/
def queriedUsers (authType : AuthType) : AuthConfig :=
  { authType, databases := [{ name := text "d" }], authUser := some (text "a") }

/-- The row of `u` comes without a password, and one will do. -/
theorem not_admits_nullPassword_iff_md5 : ∃ w w' : LoginWorld,
    w.step (queriedUsers .md5) .masking (.authRow 0 (some (text "u")) none {}) = some w' ∧
    (¬ Admits .masking w' 0 scramEnv (text "1234") .md5 ↔
      TurnedAway (queriedUsers .md5) w 0 (text "u") {}) := by
  have hrun : ((onlyUser { name := text "a", held := [[]] }).run (queriedUsers .md5) .masking
      [.accept 0 { remoteAddr := .unix }, .packet 0 (startupOf (text "u") (text "d")) {}]).any
      (fun w => (w.step (queriedUsers .md5) .masking (.authRow 0 (some (text "u")) none {})).any
        fun w' => w'.died = false) := by
    decide
  simp only [Option.any_eq_true, decide_eq_true_eq] at hrun
  obtain ⟨w, hw, w', hw', halive⟩ := hrun
  have hinit := @initial_onlyUser { name := text "a", held := [[]] } rfl
    (List.mem_singleton_self _) rfl
  exact ⟨w, w', hw', not_admits_nullPassword_iff hinit hw hw' halive (.inr (.inl rfl)) _ _⟩

/-- The password of `u` is NULL.  The client says `md5` and gets in. -/
theorem nullPassword_active :
    ((onlyUser { name := text "a", held := [[]] }).run (queriedUsers .plain) .masking
      [.accept 0 { remoteAddr := .unix }, .packet 0 (startupOf (text "u") (text "d")) {},
        .authRow 0 (some (text "u")) none {}, .authReady 0,
        .packet 0 (startupOf (text "u") (text "d")) {},
        .packet 0 (.password (text "md5" ++ [0])) {}]).map
      (fun w => (w.died, (w.clients 0).state)) = some (false, .active) := by
  decide

/-! ### An answer without a row -/

/-- A client that still waits for its auth_query, with the login user it had, or has gone
since the time `t` its connection was accepted at. -/
inductive AwaitsStill (user : Option LoginUser) (t : Nat) (cl : PgSocket) : Prop
  | awaits (rows : awaitsRows cl = true) (same : cl.loginUser = user)
  | closed (state : cl.state = .justFree)
  | freed (state : cl.state = .free)
  | newer (time : t < cl.connectTime)

/-- An event that does not end the auth_query of a client, and has no user for it. -/
def NoAnswer (i : Nat) (e : LoginEvent) : Prop :=
  e ≠ .authReady i ∧ ∀ name password env, e ≠ .authRow i (some name) password env

variable {user : Option LoginUser} {t : Nat}

theorem AwaitsStill.put (h : AwaitsStill user t (w.clients i)) {x : LoginCtx} {j : Nat}
    (hslot : x.slot = j) (hx : j = i → AwaitsStill user t x.client) :
    AwaitsStill user t ((w.put x).clients i) := by
  by_cases hji : i = j
  · rw [put_client (hslot.trans hji.symm)]
    exact hx hji.symm
  · rw [put_other hslot hji]
    exact h

theorem AwaitsStill.disconnect (h : AwaitsStill user t (w.clients i)) {j : Nat}
    (hused : (w.clients j).state ≠ .free) (hopen : (w.clients j).state ≠ .justFree)
    (reason : Bytes) : AwaitsStill user t ((w.put ((w.ctx j).disconnect reason)).clients i) :=
  h.put (disconnect_frame (w.ctx j) reason true).slot
    fun _ => .closed (disconnect_state hused hopen reason)

/-- A client that is neither waiting for rows nor gone came later. -/
theorem AwaitsStill.later {cl : PgSocket} (h : AwaitsStill user t cl)
    (hawaits : awaitsRows cl ≠ true) (hopen : cl.state ≠ .justFree) (hused : cl.state ≠ .free) :
    t < cl.connectTime := by
  cases h with
  | awaits hrows => exact absurd hrows hawaits
  | closed hs => exact absurd hs hopen
  | freed hs => exact absurd hs hused
  | newer htime => exact htime

theorem AwaitsStill.authFinish (h : AwaitsStill user t (w.clients i)) (hinv : Inv cfg c w)
    {request : AuthRequest} (hvalid : w.isValidSocket request = true)
    (hreq : Requested w.users request (w.clients request.client)) :
    AwaitsStill user t ((w.authFinish request).clients i) := by
  simp only [isValidSocket, Bool.and_eq_true, decide_eq_true_eq] at hvalid
  obtain ⟨hstate, htime⟩ := hvalid
  unfold LoginWorld.authFinish
  dsimp only
  split
  · -- whoever waits for a thread does not wait for rows
    have hlater : request.client = i → t < (w.clients request.client).connectTime := by
      intro hi
      rw [hi] at hstate htime hreq ⊢
      refine h.later (fun hawaits => ?_) (by rw [hstate]; decide) (by rw [hstate]; decide)
      obtain ⟨hok, hs⟩ := hinv.fresh_of_awaitsRows hawaits
      exact absurd ((hok.fresh hs).waitForAuth.symm.trans (hreq (.inl hstate) htime).2)
        Bool.false_ne_true
    unfold setLoginPasswd
    split <;> exact h.put rfl fun hi => .newer (hlater hi)
  · exact h.disconnect (by rw [hstate]; decide) (by rw [hstate]; decide) _

/-- **One event** that is no answer. -/
theorem AwaitsStill.step (h : AwaitsStill user t (w.clients i)) (hinv : Inv cfg c w)
    (hpast : t < w.now) {e : LoginEvent} {w' : LoginWorld} (hno : NoAnswer i e)
    (hstep : w.step cfg c e = some w') (halive : w'.died = false) :
    AwaitsStill user t (w'.clients i) := by
  -- only later clients take part in what those that are not waiting for rows do
  have hlater : ∀ {j s}, (w.clients j).state = s → s ≠ .login → s ≠ .justFree → s ≠ .free →
      j = i → t < (w.clients j).connectTime := by
    intro j s hs hlogin hopen hused hji
    subst hji
    refine h.later (fun hawaits => ?_) (hs ▸ hopen) (hs ▸ hused)
    exact hlogin (hs.symm.trans (awaitsRows_cases hawaits).1)
  cases stepped_of_step hstep with
  | accept j connection free =>
    have hnew : AwaitsStill user t ((w.put ((w.ctx j).update fun _ =>
        { state := .login, connection, connectTime := w.now })).clients i) :=
      h.put rfl fun _ => .newer hpast
    exact hnew
  | packet j pkt env phase unpaused pending =>
    have hfoot := @handleClientStartup_footprint cfg c env (w.ctx j) pkt
    refine h.put hfoot.slot fun hji => .newer ?_
    have hji : j = i := hji
    subst hji
    have hlate : t < (w.clients j).connectTime := by
      refine h.later (fun hawaits => ?_) ?_ ?_
      · simp [awaitsRows, unpaused] at hawaits
      · rcases inStartupPhase_cases phase with hs | ⟨hs, -⟩ <;> rw [hs] <;> decide
      · rcases inStartupPhase_cases phase with hs | ⟨hs, -⟩ <;> rw [hs] <;> decide
    exact Nat.lt_of_lt_of_eq hlate (hfoot.alive halive).connectTime.symm
  | activate j hstate | activateLogin j hstate | wait j hstate =>
    exact h.put rfl fun hji => .newer (hlater hstate (by decide) (by decide) (by decide) hji)
  | row j name password env db awaits hdb =>
    have hframe := @checkUserConnectionCount_frame cfg env
      (w.withRow j db name (password.getD nullPassword)) db
    have hother : j ≠ i := fun hji => hno.2 name password env (by rw [hji])
    exact h.put hframe.slot fun hji => absurd hji hother
  | noUser j awaits _ | authError j _ awaits =>
    have hstate := (awaitsRows_cases awaits).1
    exact h.disconnect (by rw [hstate]; decide) (by rw [hstate]; decide) _
  | resumed j awaits found =>
    have hother : j ≠ i := fun hji => hno.1 (by rw [hji])
    exact h.put rfl fun hji => absurd hji hother
  | finished checker request rest taken valid =>
    obtain ⟨hmem, hold⟩ := mem_of_takeRequest taken
    exact AwaitsStill.authFinish (w := { w with queue := rest }) h (hinv.sublist hold) valid
      (hinv.queue request hmem).2
  | close j reason used isOpen => exact h.disconnect used isOpen reason
  | free j gone => exact h.put rfl fun _ => .freed rfl
  | incomplete | noRow | noDb | authNotice | checked | dropped | loadAuthFile => exact h

theorem now_le_of_step {e : LoginEvent} {w' : LoginWorld} (hstep : w.step cfg c e = some w') :
    w.now ≤ w'.now := by
  cases stepped_of_step hstep with
  | accept => exact Nat.le_succ _
  | finished checker request rest taken valid =>
    unfold LoginWorld.authFinish
    dsimp only
    split <;> exact Nat.le_refl _
  | _ => exact Nat.le_refl _

theorem Initial.awaitsStill_of_run {w₀ w₁ : LoginWorld} (h : Initial w₀) {es es' : List LoginEvent}
    (hrun : w₀.run cfg c es = some w₁) (hrun' : w₁.run cfg c es' = some w)
    (hawaits : awaitsRows (w₁.clients i) = true) (hno : ∀ e ∈ es', NoAnswer i e)
    (halive : w.died = false) :
    AwaitsStill (w₁.clients i).loginUser (w₁.clients i).connectTime (w.clients i) ∧
      (w₁.clients i).connectTime < w.now := by
  induction es' using List.reverseRecOn generalizing w with
  | nil =>
    cases hrun'
    refine ⟨.awaits hawaits rfl, (h.inv_of_run hrun halive).time i ?_⟩
    rw [(awaitsRows_cases hawaits).1]
    decide
  | append_singleton es' e ih =>
    obtain ⟨w₂, hw₂, hstep⟩ := Run.exec_concat.1 hrun'
    obtain ⟨hawaits₂, hpast⟩ := ih hw₂ (fun e' he' => hno e' (List.mem_append_left _ he'))
      (alive_of_step hstep)
    have hrun₂ : w₀.run cfg c (es ++ es') = some w₂ := by
      unfold run at hrun ⊢
      rw [Run.exec_append, hrun]
      exact hw₂
    exact ⟨hawaits₂.step (h.inv_of_run hrun₂ (alive_of_step hstep)) hpast
      (hno e (List.mem_append_right _ List.mem_cons_self)) hstep halive,
      Nat.lt_of_lt_of_le hpast (now_le_of_step hstep)⟩

/-- The login user of a client whose auth_query has just been started. -/
theorem Inv.loginUser_of_query (h : Inv cfg c w) {pkt : LoginPkt} {env : Env} {w₁ : LoginWorld}
    (hstep : w.step cfg c (.packet i pkt env) = some w₁) (halive : w₁.died = false)
    (hawaits : awaitsRows (w₁.clients i) = true) :
    ∃ packet, pkt = .startup packet ∧
      (w₁.clients i).loginUser = (w.users.find (.user (startupUser packet))).map
        fun _ => .stored (.user (startupUser packet)) := by
  cases stepped_of_step hstep with
  | packet _ _ _ phase unpaused pending =>
    have hslot : (handleClientStartup cfg c env (w.ctx i) pkt).1.slot = i :=
      (handleClientStartup_footprint env (w.ctx i) pkt).slot
    rw [put_update_client hslot] at hawaits ⊢
    simp only [awaitsRows, Bool.and_eq_true, decide_eq_true_eq] at hawaits
    obtain ⟨⟨hlogin, huser⟩, hpaused⟩ := hawaits
    rcases inStartupPhase_cases phase with hstate | ⟨hstate, hwelcome⟩
    · exact ((h.receives hstate unpaused pending).verdict env).query halive hlogin huser hpaused
    · have hsettled := (finishClientLogin_active env (x := w.ctx i) hstate).1
      rw [← handleClientStartup_resumed (.inl hwelcome) env pkt] at hsettled
      exact absurd hlogin (hsettled.not_login halive).1

/-- **An auth_query without a row.**  The client is disconnected exactly if its user was not
known when the query was sent. -/
theorem noRow_rejected_iff {w₀ w₁ w₂ w₃ : LoginWorld} (hinit : Initial w₀)
    {es₀ es : List LoginEvent} (hrun : w₀.run cfg c es₀ = some w) {pkt : LoginPkt} {env : Env}
    (hpacket : w.step cfg c (.packet i pkt env) = some w₁)
    (hquery : awaitsRows (w₁.clients i) = true) (hanswer : w₁.run cfg c es = some w₂)
    (hno : ∀ e ∈ es, NoAnswer i e)
    (hsame : (w₂.clients i).connectTime = (w₁.clients i).connectTime)
    (hready : w₂.step cfg c (.authReady i) = some w₃) :
    ∃ packet, pkt = .startup packet ∧
      ((w₃.clients i).state = .justFree ↔
        w.users.find (.user (startupUser packet)) = none) := by
  have halive₂ := alive_of_step hready
  have hrun₁ : w₀.run cfg c (es₀ ++ [.packet i pkt env]) = some w₁ :=
    Run.exec_concat.2 ⟨w, hrun, hpacket⟩
  obtain ⟨packet, hpkt, huser⟩ := (hinit.inv_of_run hrun (alive_of_step hpacket)).loginUser_of_query
    hpacket (alive_of_run hanswer halive₂) hquery
  have hstill := (hinit.awaitsStill_of_run hrun₁ hanswer hquery hno halive₂).1
  refine ⟨packet, hpkt, ?_⟩
  have huser₂ : awaitsRows (w₂.clients i) = true →
      ((w₂.clients i).loginUser = none ↔ w.users.find (.user (startupUser packet)) = none) := by
    intro hawaits
    have hstate := (awaitsRows_cases hawaits).1
    cases hstill with
    | awaits _ hlogin => rw [hlogin, huser, Option.map_eq_none_iff]
    | closed hs | freed hs => exact absurd (hstate.symm.trans hs) (by decide)
    | newer hlate => exact absurd hsame (Nat.ne_of_gt hlate)
  cases stepped_of_step hready with
  | noUser _ awaits nobody =>
    have hstate := (awaitsRows_cases awaits).1
    have hslot : _ = i := (disconnect_frame (w₂.ctx i) (text "no such user") true).slot
    rw [put_client hslot, disconnect_state (by rw [hstate]; decide) (by rw [hstate]; decide)]
    exact iff_of_true rfl ((huser₂ awaits).1 nobody)
  | resumed _ awaits found =>
    have hclient : (w₂.put ((w₂.ctx i).update fun cl => { cl with paused := false })).clients i =
        { w₂.clients i with paused := false } := put_client rfl
    rw [hclient]
    refine iff_of_false (fun hs => ?_) fun hnone => found ((huser₂ awaits).2 hnone)
    exact absurd ((awaitsRows_cases awaits).1.symm.trans hs) (by decide)

/-- Nobody knows `u`, and the auth_query finds nobody. -/
theorem noRow_rejected_iff_unknown : ∃ w w₃ : LoginWorld,
    w.users.find (.user (text "u")) = none ∧ (w₃.clients 0).state = .justFree ∧
    ∃ packet, startupOf (text "u") (text "d") = .startup packet ∧
      ((w₃.clients 0).state = .justFree ↔
        w.users.find (.user (startupUser packet)) = none) := by
  have hrun : ((onlyUser { name := text "a", held := [[]] }).run (queriedUsers .trust) .masking
      [.accept 0 { remoteAddr := .unix }]).any (fun w =>
        (w.step (queriedUsers .trust) .masking
          (.packet 0 (startupOf (text "u") (text "d")) {})).any fun w₁ =>
        (w₁.step (queriedUsers .trust) .masking (.authReady 0)).any fun w₃ =>
          w.users.find (.user (text "u")) = none ∧ awaitsRows (w₁.clients 0) = true ∧
          (w₃.clients 0).state = .justFree) := by
    decide
  simp only [Option.any_eq_true, decide_eq_true_eq] at hrun
  obtain ⟨w, hw, w₁, hw₁, w₃, hw₃, hunknown, hawaits, hclosed⟩ := hrun
  have hinit := @initial_onlyUser { name := text "a", held := [[]] } rfl
    (List.mem_singleton_self _) rfl
  have hanswer : w₁.run (queriedUsers .trust) .masking [] = some w₁ := rfl
  exact ⟨w, w₃, hunknown, hclosed, noRow_rejected_iff hinit hw hw₁ hawaits hanswer
    (fun _ he => nomatch he) rfl hw₃⟩

/-- `u` has a line in the section [users].  The auth_query finds nobody, and the client
gets in by trust. -/
theorem noRow_active :
    ((onlyUser { name := text "u", dynamicPasswd := true, held := [[]] }).run
      (queriedUsers .trust) .masking
      [.accept 0 { remoteAddr := .unix }, .packet 0 (startupOf (text "u") (text "d")) {},
        .authReady 0, .packet 0 (startupOf (text "u") (text "d")) {}]).map
      (fun w => (w.died, (w.clients 0).state)) = some (false, .active) := by
  decide

end LoginWorld

end PgBouncer
