/-
Keys that are kept with a password.

Two things are kept that were computed from a password or a secret: what is in the
credentials, and what a client has taken into its SCRAM exchange.  Passwords are written in
three places, by `load_auth_file`, by the row of an auth_query and by the end of a PAM or
LDAP login.  Everywhere else keys only move: from the credentials to an exchange with its
first message, and back with its last.

`KeyRules` is what a notion of keys that belong to a password has to satisfy to be kept by
all of that; then it is enough to look at what is written, and `KeysOkAt.step` does the rest.
-/
import PgBouncer.Proofs.Login

namespace PgBouncer

open LoginCtx

variable {cfg : AuthConfig} {c : Crypto}

/-- The password in some credentials; those that do not exist have none. -/
def passwdAt (u : Users) (r : CredRef) : Bytes :=
  ((u.find r).map Credentials.passwd).getD []

theorem passwdAt_of_find {u : Users} {r : CredRef} {cr : Credentials} (h : u.find r = some cr) :
    passwdAt u r = cr.passwd := by
  rw [passwdAt, h]
  rfl

theorem passwdAt_congr {u u' : Users} {r : CredRef} (h : u'.find r = u.find r) :
    passwdAt u' r = passwdAt u r := by
  rw [passwdAt, h]
  rfl

/-- `good` says of credentials that what they keep belongs to their password, `ok` of an
exchange that its keys belong to a password. -/
structure KeyRules (c : Crypto) (good : Credentials → Prop) (ok : ScramState → Bytes → Prop) :
    Prop where
  blank : ∀ {cr}, Users.Blank cr → good cr
  first : ∀ {cr cr' env st st' data}, good cr → cr.mockAuth = false →
    scramClientFirst c env cr st data = some (st', cr') →
    good cr' ∧ cr'.passwd = cr.passwd ∧ ok st' cr.passwd
  save : ∀ {cr st key}, good cr → ok st cr.passwd → st.adhoc = false →
    c.sha256 key = st.storedKey → key.length = scramKeyLen →
    good { cr with
      scramClientKey := key, scramServerKey := st.serverKey, scramPassthroughValid := true }

/-! ### Users -/

/-- Some credentials stay as they are, or are new. -/
def SameOrNew (r : CredRef) (u u' : Users) : Prop :=
  u'.find r = u.find r ∨ u.find r = none ∧ ∃ cr, u'.find r = some cr ∧ Users.Blank cr

theorem Users.Extends.sameOrNew {u u' : Users} (h : u.Extends u') (r : CredRef) :
    SameOrNew r u u' := by
  cases hu : u.find r with
  | some cr => exact .inl ((h.old hu).trans hu.symm)
  | none =>
    cases hu' : u'.find r with
    | none => exact .inl (hu'.trans hu.symm)
    | some cr =>
      rcases h.new hu' with hold | ⟨hblank, -⟩
      · cases hu.symm.trans hold
      · exact .inr ⟨hu, cr, hu', hblank⟩

variable {good : Credentials → Prop} {ok : ScramState → Bytes → Prop} {r : CredRef}

/-- A change after which some credentials are good and their password is what it was. -/
structure UserKept (good : Credentials → Prop) (r : CredRef) (u u' : Users) : Prop where
  good : ∀ cr, u'.find r = some cr → good cr
  passwd : passwdAt u' r = passwdAt u r

theorem SameOrNew.kept {u u' : Users} (h : SameOrNew r u u')
    (hblank : ∀ {cr}, Users.Blank cr → good cr) (hu : ∀ cr, u.find r = some cr → good cr) :
    UserKept good r u u' := by
  rcases h with hsame | ⟨hnone, cr, hcr, hnew⟩
  · exact ⟨fun cr hcr => hu cr (hsame.symm.trans hcr), passwdAt_congr hsame⟩
  · refine ⟨fun cr' hcr' => ?_, ?_⟩
    · cases hcr.symm.trans hcr'
      exact hblank hnew
    · rw [passwdAt_of_find hcr, hnew.passwd, passwdAt, hnone]
      rfl

theorem SameOrNew.passwdAt_eq {u u' : Users} (h : SameOrNew r u u') :
    passwdAt u' r = passwdAt u r :=
  (h.kept (fun _ => trivial) fun _ _ => trivial : UserKept (fun _ => True) r u u').passwd

/-- The credentials themselves are changed, and their password is not. -/
theorem userKept_set {u : Users} {cr cr' : Credentials} (hfind : u.find r = some cr)
    (hgood : good cr') (hpasswd : cr'.passwd = cr.passwd) : UserKept good r u (u.set r cr') := by
  refine ⟨fun cr'' hcr => ?_, ?_⟩
  · cases (Users.find_set_self _ _ _).symm.trans hcr
    exact hgood
  · rw [passwdAt_of_find (Users.find_set_self _ _ _), passwdAt_of_find hfind, hpasswd]

namespace LoginWorld

variable {w : LoginWorld} {i : Nat}

/-! ### Clients in an exchange -/

/-- A client between the two messages of an exchange with some credentials. -/
structure MidExchangeAs (cl : PgSocket) (r : CredRef) : Prop where
  login : cl.state = .login
  running : cl.scramState.serverNonce ≠ none
  user : cl.loginUser = some (.stored r)

/-- A client goes on with its exchange, if it is in one. -/
def GoesOn (r : CredRef) (cl cl' : PgSocket) : Prop :=
  MidExchangeAs cl' r → MidExchangeAs cl r ∧ cl'.scramState = cl.scramState

theorem GoesOn.refl (cl : PgSocket) : GoesOn r cl cl := fun h => ⟨h, rfl⟩

theorem GoesOn.of_state {cl cl' : PgSocket} (h : cl'.state ≠ .login) : GoesOn r cl cl' :=
  fun hmid => absurd hmid.login h

theorem GoesOn.of_none {cl cl' : PgSocket} (h : cl'.scramState = {}) : GoesOn r cl cl' :=
  fun hmid => absurd (by rw [h]) hmid.running

theorem goesOn_put {x : LoginCtx} (hslot : x.slot = i) (h : GoesOn r (w.clients i) x.client)
    (j : Nat) : GoesOn r (w.clients j) ((w.put x).clients j) := by
  by_cases hji : j = i
  · subst hji
    rw [put_client hslot]
    exact h
  · rw [put_other hslot hji]
    exact .refl _

/-- A client is closed. -/
theorem goesOn_disconnect (hused : (w.clients i).state ≠ .free)
    (hopen : (w.clients i).state ≠ .justFree) (reason : Bytes) (j : Nat) :
    GoesOn r (w.clients j) ((w.put ((w.ctx i).disconnect reason)).clients j) := by
  refine goesOn_put (disconnect_frame (w.ctx i) reason true).slot (.of_state ?_) j
  rw [disconnect_state hused hopen]
  decide

/-- What is kept belongs to the password. -/
structure KeysOkAt (good : Credentials → Prop) (ok : ScramState → Bytes → Prop) (r : CredRef)
    (w : LoginWorld) : Prop where
  cached : ∀ cr, w.users.find r = some cr → good cr
  exchange : ∀ i, MidExchangeAs (w.clients i) r →
    ok (w.clients i).scramState (passwdAt w.users r)

/-! ### Passwords that are written -/

/-- The users, with the passwords an event writes. -/
def writtenUsers (w : LoginWorld) : LoginEvent → Users
  | .loadAuthFile file => w.users.loadAuthFile file
  | .authRow i (some username) password _ =>
    match (w.clients i).db with
    | some db => w.users.addDynamicCredentials db.name (rowField maxUsername username)
        (rowField maxPassword (password.getD nullPassword))
    | none => w.users
  | .poll checker =>
    match takeRequest checker w.queue with
    | some (request, _) =>
      if w.isValidSocket request ∧ request.status = .success then
        (setLoginPasswd (w.ctx request.client) request.password).users
      else w.users
    | none => w.users
  | _ => w.users

/-- With the passwords of an event written, what is kept still belongs to the password. -/
structure WriteOk (good : Credentials → Prop) (ok : ScramState → Bytes → Prop) (r : CredRef)
    (w : LoginWorld) (e : LoginEvent) : Prop where
  cached : ∀ cr, (w.writtenUsers e).find r = some cr → good cr
  exchange : ∀ i, MidExchangeAs (w.clients i) r →
    ok (w.clients i).scramState (passwdAt (w.writtenUsers e) r)

/-- An event after which everything belongs to the password that was written. -/
structure Writes (good : Credentials → Prop) (ok : ScramState → Bytes → Prop) (r : CredRef)
    (w : LoginWorld) (e : LoginEvent) (w' : LoginWorld) : Prop where
  keys : KeysOkAt good ok r w'
  passwd : passwdAt w'.users r = passwdAt (w.writtenUsers e) r

theorem WriteOk.writes {e : LoginEvent} (h : WriteOk good ok r w e) {w' : LoginWorld}
    (husers : w'.users = w.writtenUsers e)
    (hclients : ∀ j, GoesOn r (w.clients j) (w'.clients j)) : Writes good ok r w e w' := by
  refine ⟨⟨?_, fun j hmid => ?_⟩, by rw [husers]⟩
  · rw [husers]
    exact h.cached
  · obtain ⟨hold, hscram⟩ := hclients j hmid
    rw [hscram, husers]
    exact h.exchange j hold

/-! ### Packets -/

/-- What a packet makes of the users. -/
theorem KeysOkAt.usersChange (rules : KeyRules c good ok) (h : KeysOkAt good ok r w)
    (hinv : Inv cfg c w) (hlogin : (w.clients i).state = .login) {env : Env} {u : Users}
    (hu : UsersChange c env (w.ctx i) u) : UserKept good r w.users u := by
  cases hu with
  | adds hext => exact (hext.sameOrNew r).kept rules.blank h.cached
  | first creds creds' data st hcreds start hfirst hu =>
    subst hu
    rcases loginUser_cases hcreds with ⟨r', hr', hfind⟩ | hmock
    · simp only [putCredentials, show (w.ctx i).client.loginUser = some (.stored r') from hr']
      by_cases hr : r' = r
      · subst hr
        have hfind : w.users.find r' = some creds := hfind
        obtain ⟨hgood, hpasswd, -⟩ := rules.first (h.cached creds hfind)
          (hinv.users _ _ hfind).real hfirst
        exact userKept_set hfind hgood hpasswd
      · exact SameOrNew.kept (.inl (Users.find_set_ne _ _ (Ne.symm hr))) rules.blank h.cached
    · simp only [putCredentials, show (w.ctx i).client.loginUser = some (.mock creds) from hmock]
      exact SameOrNew.kept (.inl rfl) rules.blank h.cached
  | saved body st r' running final kept user hu =>
    subst hu
    by_cases hr : r' = r
    · subst hr
      cases hfind : (w.ctx i).users.find r' with
      | none =>
        simp only [Users.modify, hfind]
        exact SameOrNew.kept (.inl rfl) rules.blank h.cached
      | some cr =>
        simp only [Users.modify, hfind]
        have hfind : w.users.find r' = some cr := hfind
        obtain ⟨read, nonce, proof, key, hread, -, hkey, rfl⟩ := scramClientFinal_cases final
        obtain ⟨⟨message, rfl⟩, hlength⟩ := readClientFinalMessage_state hread
        obtain ⟨hhash, hkeyLen⟩ := verifyClientProof_key hlength hkey
        have hkeys := h.exchange i ⟨hlogin, running, user⟩
        rw [passwdAt_of_find hfind] at hkeys
        exact userKept_set hfind (@KeyRules.save _ _ _ rules cr (w.clients i).scramState key
          (h.cached cr hfind) hkeys kept hhash hkeyLen) rfl
    · exact SameOrNew.kept (.inl (Users.find_modify_ne _ _ (Ne.symm hr))) rules.blank h.cached

theorem KeysOkAt.packet (rules : KeyRules c good ok) (h : KeysOkAt good ok r w)
    (hinv : Inv cfg c w) {pkt : LoginPkt} {env : Env}
    (hphase : inStartupPhase (w.clients i) = true) (hpaused : (w.clients i).paused = false)
    (hpending : ∀ p, (w.clients i).pending = some p → p = pkt)
    (halive : (handleClientStartup cfg c env (w.ctx i) pkt).1.died = false) :
    Writes good ok r w (.packet i pkt env)
      (w.put ((handleClientStartup cfg c env (w.ctx i) pkt).1.update fun cl =>
        { cl with pending :=
            if (handleClientStartup cfg c env (w.ctx i) pkt).2 then none else some pkt })) := by
  have hfoot : Footprint c env (w.ctx i) pkt (handleClientStartup cfg c env (w.ctx i) pkt) :=
    handleClientStartup_footprint env (w.ctx i) pkt
  have hslot : (handleClientStartup cfg c env (w.ctx i) pkt).1.slot = i := hfoot.slot
  rcases inStartupPhase_cases hphase with hstate | ⟨hstate, hwelcome⟩
  · have hverdict := (hinv.receives hstate hpaused hpending).verdict env
    have husers := h.usersChange rules hinv hstate (hfoot.alive halive).users
    refine ⟨⟨husers.good, fun j hmid => ?_⟩, husers.passwd⟩
    show ok _ (passwdAt (handleClientStartup cfg c env (w.ctx i) pkt).1.users r)
    rw [husers.passwd]
    by_cases hji : j = i
    · subst hji
      rw [put_update_client hslot] at hmid ⊢
      rcases hverdict.scram halive hmid.login with ⟨hscram, huser⟩ |
        ⟨creds, creds', data, st, hcreds, hfirst, -, hst, huser, -⟩
      · have hrunning : (w.clients j).scramState.serverNonce ≠ none := by
          rw [← show _ = (w.clients j).scramState from hscram]
          exact hmid.running
        have hold := h.exchange j ⟨hstate, hrunning, (huser hrunning).symm.trans hmid.user⟩
        rw [← show _ = (w.clients j).scramState from hscram] at hold
        exact hold
      · have hfind : w.users.find r = some creds := by
          simpa [LoginCtx.loginCredentials, PgSocket.loginCredentials, ctx,
            show (w.clients j).loginUser = _ from huser.symm.trans hmid.user] using hcreds
        obtain ⟨-, -, hkeys⟩ :=
          rules.first (h.cached creds hfind) (hinv.users _ _ hfind).real hfirst
        rw [passwdAt_of_find hfind]
        rw [← hst] at hkeys
        exact hkeys
    · rw [put_update_other hslot hji] at hmid ⊢
      exact h.exchange j hmid
  · have heq : handleClientStartup cfg c env (w.ctx i) pkt = _ :=
      handleClientStartup_resumed (x := w.ctx i) (.inl hwelcome) env pkt
    have hsettled := (finishClientLogin_active env (x := w.ctx i) hstate).1
    have hframe := finishClientLogin_frame env (w.ctx i)
    rw [← heq] at hsettled hframe
    have hwrite : WriteOk good ok r w (.packet i pkt env) := ⟨h.cached, h.exchange⟩
    exact hwrite.writes hframe.users (goesOn_put hslot (.of_state (hsettled.not_login halive).1))

/-! ### All events -/

theorem setLoginPasswd_users (x : LoginCtx) (passwd : Bytes) :
    (setLoginPasswd x passwd).users = match x.client.loginUser with
      | some (.stored r) => x.users.modify r fun u => u.setPasswd passwd
      | _ => x.users := by
  unfold setLoginPasswd
  split <;> simp only [*] <;> rfl

/-- A PAM or LDAP login ends. -/
theorem WriteOk.authFinish {checker : Checker} {request : AuthRequest} {rest : List AuthRequest}
    (h : WriteOk good ok r w (.poll checker))
    (htaken : takeRequest checker w.queue = some (request, rest))
    (hvalid : { w with queue := rest }.isValidSocket request = true) :
    Writes good ok r w (.poll checker) ({ w with queue := rest }.authFinish request) := by
  have hvalid' : w.isValidSocket request = true := hvalid
  have hlogin : (w.clients request.client).state = .login := by
    simp only [isValidSocket, Bool.and_eq_true, decide_eq_true_eq] at hvalid
    exact hvalid.1
  have hwritten : w.writtenUsers (.poll checker) = if request.status = .success then
      (setLoginPasswd (w.ctx request.client) request.password).users else w.users := by
    simp only [writtenUsers, htaken, hvalid', true_and]
  unfold LoginWorld.authFinish
  dsimp only
  split
  case isFalse hstatus =>
    rw [if_neg hstatus] at hwritten
    refine h.writes ?_ (goesOn_disconnect (w := { w with queue := rest })
      (show (w.clients _).state ≠ _ by rw [hlogin]; decide)
      (show (w.clients _).state ≠ _ by rw [hlogin]; decide) _)
    rw [hwritten]
    exact (disconnect_frame _ _ _).users
  case isTrue hstatus =>
    rw [if_pos hstatus] at hwritten
    refine h.writes ?_ (goesOn_put (w := { w with queue := rest }) (i := request.client) ?_ ?_)
    · rw [hwritten, setLoginPasswd_users]
      exact setLoginPasswd_users _ _
    · unfold setLoginPasswd
      split <;> rfl
    · unfold setLoginPasswd
      split
      · exact fun hmid => ⟨{ hmid with }, rfl⟩
      · intro hmid
        cases hmid.user
      · exact fun hmid => ⟨{ hmid with }, rfl⟩

/-- **One event.** -/
theorem KeysOkAt.step (rules : KeyRules c good ok) (h : KeysOkAt good ok r w) (hinv : Inv cfg c w)
    {e : LoginEvent} {w' : LoginWorld} (hwrite : WriteOk good ok r w e)
    (hstep : w.step cfg c e = some w') (halive : w'.died = false) :
    Writes good ok r w e w' := by
  cases stepped_of_step hstep with
  | packet i pkt env phase unpaused pending =>
    exact h.packet rules hinv phase unpaused pending halive
  | accept i connection free =>
    have hwrites : Writes good ok r w (.accept i connection) (w.put ((w.ctx i).update fun _ =>
        { state := .login, connection, connectTime := w.now })) :=
      hwrite.writes rfl (goesOn_put rfl (.of_none rfl))
    exact ⟨⟨hwrites.keys.cached, hwrites.keys.exchange⟩, hwrites.passwd⟩
  | activate i _ | wait i _ | free i _ =>
    exact hwrite.writes rfl (goesOn_put rfl (.of_state fun hs => nomatch hs))
  | activateLogin i waiting =>
    refine hwrite.writes rfl (goesOn_put rfl (.of_none ?_))
    have hok := hinv.login i (.inr waiting)
    cases hs : (w.clients i).startupMessageReceived with
    | false => exact (hok.fresh hs).scramState
    | true => exact absurd ((hok.asked hs).state.symm.trans waiting) (by decide)
  | row i username password env db awaits hdb =>
    have hframe := @checkUserConnectionCount_frame cfg env
      (w.withRow i db username (password.getD nullPassword)) db
    obtain ⟨hok, hs⟩ := hinv.fresh_of_awaitsRows awaits
    refine hwrite.writes ?_ (goesOn_put hframe.slot ?_)
    · simp only [writtenUsers, hdb]
      exact hframe.users
    · rcases @checkUserConnectionCount_cases cfg env
        (w.withRow i db username (password.getD nullPassword)) db with heq | ⟨hshut, -⟩
      · rw [heq]
        exact .of_none (hok.fresh hs).scramState
      · have hclosed := hshut.closed.resolve_left
          fun hd => absurd (halive.symm.trans hd) Bool.false_ne_true
        exact .of_state (by rw [hclosed]; decide)
  | noUser i awaits _ | authError i _ awaits =>
    have hstate := (awaitsRows_cases awaits).1
    exact hwrite.writes (disconnect_frame _ _ _).users
      (goesOn_disconnect (by rw [hstate]; decide) (by rw [hstate]; decide) _)
  | resumed i awaits found =>
    exact hwrite.writes rfl
      (goesOn_put rfl fun hmid => ⟨{ hmid with }, rfl⟩)
  | finished checker request rest taken valid => exact hwrite.authFinish taken valid
  | close i reason used isOpen =>
    exact hwrite.writes (disconnect_frame _ _ _).users (goesOn_disconnect used isOpen _)
  | loadAuthFile file => exact hwrite.writes rfl fun j => .refl _
  | noDb => cases halive
  | dropped checker request rest taken stale =>
    have hstale : ¬ w.isValidSocket request = true := stale
    refine hwrite.writes ?_ fun j => .refl _
    simp only [writtenUsers, taken]
    rw [if_neg fun hv => hstale hv.1]
  | incomplete | noRow | authNotice | checked =>
    exact hwrite.writes rfl fun j => .refl _

/-- **What is kept belongs to the password in every run** in which nothing is written that
would change that. -/
theorem Initial.keysOkAt_of_run {w₀ : LoginWorld} (h : Initial w₀) (rules : KeyRules c good ok)
    (hgood : ∀ cr, w₀.users.find r = some cr → good cr) {safe : LoginWorld → LoginEvent → Prop}
    (hwrite : ∀ w e, safe w e → KeysOkAt good ok r w → WriteOk good ok r w e)
    {es : List LoginEvent} (hmeets : Meets safe cfg c w₀ es) (hrun : w₀.run cfg c es = some w)
    (halive : w.died = false) : KeysOkAt good ok r w := by
  have hinit : KeysOkAt good ok r w₀ :=
    ⟨hgood, fun i hmid => absurd (by rw [h.clients i]) hmid.running⟩
  exact (Inv.induction (fun _ => ⟨h.inv, hinit⟩)
    (fun hinv hkeys hsafe hstep halive =>
      (hkeys.step rules hinv (hwrite _ _ hsafe hkeys) hstep halive).keys) hmeets hrun halive).2

end LoginWorld

end PgBouncer
