/-
Passwords that change, and keys that are cached.

`build_server_first_message` keeps the keys it has computed for a user; what it keeps has
to go when the password does.  `load_auth_file` sees to that for the users its file names,
and nobody sees to it for the others: `disable_users` empties a password and leaves the
keys, and so does a login by LDAP.  The keys are written once more at the end of an
exchange, when the password may be another one than at its start.

As long as nothing of that happens the keys are those of the password (`Current`), in the
credentials and in every exchange, and whoever gets in has answered for what is stored.
-/
import PgBouncer.Proofs.Keys

namespace PgBouncer

open LoginCtx

variable {cfg : AuthConfig} {c : Crypto}

/-! ### The auth_file -/

/-- The password a file gives a user: the last line counts. -/
def fileGives (entries : List (Bytes × Bytes)) (name : Bytes) : Option Bytes :=
  (entries.reverse.find? (·.1 = name)).map Prod.snd

theorem fileGives_concat (entries : List (Bytes × Bytes)) (entry : Bytes × Bytes) (name : Bytes) :
    fileGives (entries ++ [entry]) name =
      if entry.1 = name then some entry.2 else fileGives entries name := by
  simp only [fileGives, List.reverse_append, List.reverse_cons, List.reverse_nil, List.nil_append,
    List.singleton_append, List.find?_cons]
  by_cases h : entry.1 = name <;> simp [h]

namespace Users

theorem addAuthfileUser_self (u : Users) (name passwd : Bytes) :
    ∃ cr, (u.addAuthfileUser name passwd).find (.user name) = some cr ∧ cr.passwd = passwd ∧
      cr.dynamicPasswd = false ∧ cr.verifier = none := by
  unfold addAuthfileUser
  dsimp only
  rw [find_modify_self]
  cases hu : u.find (.user name) with
  | none =>
    rw [findOrAddNewGlobalUser_new passwd hu]
    simp [find_set_self]
  | some old =>
    rw [findOrAddNewGlobalUser_old passwd hu, hu]
    dsimp only
    split
    · rw [updateGlobalUserPasswd, find_modify_self, hu]
      exact ⟨_, rfl, rfl, rfl, rfl⟩
    · rename_i hsame
      rw [hu]
      exact ⟨_, rfl, by simpa using hsame, rfl, rfl⟩

theorem addAuthfileUser_ne (u : Users) {name name' : Bytes} (passwd : Bytes) (h : name' ≠ name) :
    (u.addAuthfileUser name passwd).find (.user name') = u.find (.user name') := by
  have hne : CredRef.user name' ≠ .user name := by simpa using h
  have hnew : (u.findOrAddNewGlobalUser name passwd).find (.user name') = u.find (.user name') := by
    cases hu : u.find (.user name) with
    | none => rw [findOrAddNewGlobalUser_new passwd hu, find_set_ne _ _ hne]
    | some old => rw [findOrAddNewGlobalUser_old passwd hu]
  unfold addAuthfileUser
  dsimp only
  rw [find_modify_ne _ _ hne]
  split
  · split
    · rw [updateGlobalUserPasswd, find_modify_ne _ _ hne, hnew]
    · exact hnew
  · exact hnew

/-- What the lines of a file do to a user. -/
theorem foldl_addAuthfileUser (entries : List (Bytes × Bytes)) (u : Users) (name : Bytes) :
    (∃ passwd cr, fileGives entries name = some passwd ∧
      (entries.foldl (fun u entry => u.addAuthfileUser entry.1 entry.2) u).find (.user name) =
        some cr ∧ cr.passwd = passwd ∧ cr.dynamicPasswd = false ∧ cr.verifier = none) ∨
    (fileGives entries name = none ∧
      (entries.foldl (fun u entry => u.addAuthfileUser entry.1 entry.2) u).find (.user name) =
        u.find (.user name)) := by
  induction entries using List.reverseRecOn with
  | nil => exact .inr ⟨rfl, rfl⟩
  | append_singleton entries entry ih =>
    rw [List.foldl_append, fileGives_concat]
    by_cases h : entry.1 = name
    · subst h
      obtain ⟨cr, hcr, hpasswd, hnone⟩ := addAuthfileUser_self
        (entries.foldl (fun u entry => u.addAuthfileUser entry.1 entry.2) u) entry.1 entry.2
      exact .inl ⟨entry.2, cr, if_pos rfl, hcr, hpasswd, hnone⟩
    · rw [if_neg h]
      simp only [List.foldl_cons, List.foldl_nil]
      rw [addAuthfileUser_ne _ _ (Ne.symm h)]
      exact ih

/-- **What `load_auth_file` leaves behind**: the password of the file and no keys, or no
password and the keys that were there. -/
theorem loadAuthFile_find (u : Users) (file name : Bytes) :
    (∃ passwd cr, fileGives (authFileUsers file) name = some passwd ∧
      (u.loadAuthFile file).find (.user name) = some cr ∧ cr.passwd = passwd ∧
      cr.dynamicPasswd = false ∧ cr.verifier = none) ∨
    (fileGives (authFileUsers file) name = none ∧
      (u.loadAuthFile file).find (.user name) =
        (u.find (.user name)).map fun cr => cr.setPasswd []) :=
  foldl_addAuthfileUser (authFileUsers file) u.disableUsers name

end Users

/-! ### Keys -/

/-- The keys that are cached for a user are those of its password. -/
def Current (c : Crypto) (cr : Credentials) : Prop :=
  ∀ v, cr.verifier = some v →
    IsVerifier c cr.passwd v.scramIterations v.scramSaltKey v.scramStoredKey cr.scramServerKey ∧
    (v.scramAdhoc = false → getPasswordType cr.passwd = .scramSha256)

/-- The keys of an exchange are those of the password. -/
def KeysOf (c : Crypto) (st : ScramState) (passwd : Bytes) : Prop :=
  IsVerifier c passwd st.iterations st.encodedSalt st.storedKey st.serverKey ∧
    (st.adhoc = false → getPasswordType passwd = .scramSha256)

variable {cr : Credentials}

theorem Current.of_none (h : cr.verifier = none) : Current c cr :=
  fun _ hv => nomatch h.symm.trans hv

/-- Keys that are not made up for the exchange come from a SCRAM secret. -/
theorem scramSha256_of_not_adhoc {st : ScramState} {passwd : Bytes}
    (hkeys : IsVerifier c passwd st.iterations st.encodedSalt st.storedKey st.serverKey)
    (hplain : getPasswordType passwd = .plaintext → st.adhoc = true) (hno : st.adhoc = false) :
    getPasswordType passwd = .scramSha256 := by
  cases htype : getPasswordType passwd with
  | scramSha256 => rfl
  | plaintext => exact absurd ((hplain htype).symm.trans hno) (by decide)
  | md5 =>
    rw [IsVerifier, htype] at hkeys
    exact hkeys.elim

/-- The first message of an exchange works with the keys of the password. -/
theorem Current.scramClientFirst {cr' : Credentials} (h : Current c cr)
    (hreal : cr.mockAuth = false) {env : ScramEnv} {st st' : ScramState} {data : Bytes}
    (hfirst : scramClientFirst c env cr st data = some (st', cr')) :
    Current c cr' ∧ cr'.passwd = cr.passwd ∧ KeysOf c st' cr.passwd := by
  obtain ⟨st₁, st₂, hread, hsecret, rfl⟩ := scramClientFirst_real hreal hfirst
  obtain ⟨flag, bare, nonce, rfl⟩ := readClientFirstMessage_state hread
  rcases secretFor_cases hsecret with
    ⟨v, hv, rfl, hadh, hiter, hsalt, hstored, hserver⟩ | ⟨hv, hkeys, hscram, hplain, hcr⟩
  · obtain ⟨hkeys, htype⟩ := h v hv
    rw [← hiter, ← hsalt, ← hstored, ← hserver] at hkeys
    exact ⟨h, rfl, hkeys, fun hno => htype (hadh.symm.trans hno)⟩
  · have htype := scramSha256_of_not_adhoc hkeys hplain
    refine ⟨?_, by rw [hcr]; split <;> rfl, hkeys, htype⟩
    rw [hcr]
    split
    · exact h
    · intro v hv'
      cases hv'
      exact ⟨hkeys, htype⟩

/-- Two verifiers that are written in one password are the same. -/
theorem Current.save (h : Current c cr) {st : ScramState} (hst : KeysOf c st cr.passwd)
    (hkept : st.adhoc = false) (clientKey : Bytes) :
    Current c { cr with
      scramClientKey := clientKey, scramServerKey := st.serverKey
      scramPassthroughValid := true } := by
  intro v hv
  obtain ⟨hkeys, -⟩ := h v hv
  obtain ⟨hst, hscram⟩ := hst
  simp only [IsVerifier, hscram hkept] at hkeys hst ⊢
  have hsame := Option.some.inj (hkeys.symm.trans hst)
  rw [(ScramSecret.mk.inj hsame).2.2.2] at hkeys
  exact ⟨hkeys, fun _ => trivial⟩

/-- Both are kept by everything that writes no password. -/
theorem currentRules : KeyRules c (Current c) (KeysOf c) where
  blank h := .of_none h.verifier
  first h hreal hfirst := h.scramClientFirst hreal hfirst
  save h hst hkept _ _ := h.save hst hkept _

/-! ### What is written with a password -/

/-- Credentials are new, or have got a password; their keys are what they were, except that
cached ones may be gone. -/
def Rewritten (u u' : Users) (r : CredRef) : Prop :=
  ∀ cr, u'.find r = some cr → cr.verifier = none ∧ cr.scramPassthroughValid = false ∨
    ∃ old, u.find r = some old ∧ cr.scramClientKey = old.scramClientKey ∧
      cr.scramServerKey = old.scramServerKey ∧
      cr.scramPassthroughValid = old.scramPassthroughValid ∧
      (cr.verifier = none ∨ cr.verifier = old.verifier)

variable {r : CredRef}

theorem Rewritten.refl (u : Users) : Rewritten u u r :=
  fun cr hcr => .inr ⟨cr, hcr, rfl, rfl, rfl, .inr rfl⟩

theorem Rewritten.trans {u u' u'' : Users} (h : Rewritten u u' r) (h' : Rewritten u' u'' r) :
    Rewritten u u'' r := by
  intro cr hcr
  rcases h' cr hcr with hnew | ⟨cr', hcr', hclient, hserver, hvalid, hverifier⟩
  · exact .inl hnew
  rcases h cr' hcr' with ⟨hnone, hno⟩ | ⟨old, hold, hclient', hserver', hvalid', hverifier'⟩
  · refine .inl ⟨?_, hvalid.trans hno⟩
    rcases hverifier with hv | hv
    · exact hv
    · exact hv.trans hnone
  · refine .inr ⟨old, hold, hclient.trans hclient', hserver.trans hserver',
      hvalid.trans hvalid', ?_⟩
    rcases hverifier with hv | hv
    · exact .inl hv
    · rw [hv]
      exact hverifier'

/-- Credentials are changed without touching the keys. -/
theorem rewritten_modify (u : Users) (r' : CredRef) {f : Credentials → Credentials}
    (hf : ∀ cr, (f cr).scramClientKey = cr.scramClientKey ∧
      (f cr).scramServerKey = cr.scramServerKey ∧
      (f cr).scramPassthroughValid = cr.scramPassthroughValid ∧
      ((f cr).verifier = none ∨ (f cr).verifier = cr.verifier)) :
    Rewritten u (u.modify r' f) r := by
  intro cr hcr
  by_cases hr : r = r'
  · subst hr
    rw [Users.find_modify_self] at hcr
    obtain ⟨old, hold, rfl⟩ := Option.map_eq_some_iff.1 hcr
    exact .inr ⟨old, hold, hf old⟩
  · rw [Users.find_modify_ne _ _ hr] at hcr
    exact Rewritten.refl u cr hcr

theorem rewritten_set (u : Users) (r' : CredRef) (hverifier : cr.verifier = none)
    (hvalid : cr.scramPassthroughValid = false) : Rewritten u (u.set r' cr) r := by
  intro cr' hcr'
  by_cases hr : r = r'
  · subst hr
    cases (Users.find_set_self _ _ _).symm.trans hcr'
    exact .inl ⟨hverifier, hvalid⟩
  · rw [Users.find_set_ne _ _ hr] at hcr'
    exact Rewritten.refl u cr' hcr'

theorem rewritten_findOrAddNewGlobalUser (u : Users) (name passwd : Bytes) :
    Rewritten u (u.findOrAddNewGlobalUser name passwd) r := by
  cases hu : u.find (.user name) with
  | some old =>
    rw [Users.findOrAddNewGlobalUser_old passwd hu]
    exact .refl u
  | none =>
    rw [Users.findOrAddNewGlobalUser_new passwd hu]
    exact rewritten_set u _ rfl rfl

theorem rewritten_addAuthfileUser (u : Users) (name passwd : Bytes) :
    Rewritten u (u.addAuthfileUser name passwd) r := by
  unfold Users.addAuthfileUser
  dsimp only
  refine .trans ?_ (rewritten_modify _ _ fun cr => ⟨rfl, rfl, rfl, .inl rfl⟩)
  split
  · split
    · exact (rewritten_findOrAddNewGlobalUser u name passwd).trans
        (rewritten_modify _ _ fun cr => ⟨rfl, rfl, rfl, .inr rfl⟩)
    · exact rewritten_findOrAddNewGlobalUser u name passwd
  · exact rewritten_findOrAddNewGlobalUser u name passwd

theorem rewritten_disableUsers (u : Users) : Rewritten u u.disableUsers r := by
  intro cr hcr
  cases r with
  | user name =>
    obtain ⟨old, hold, rfl⟩ := Option.map_eq_some_iff.1 hcr
    exact .inr ⟨old, hold, rfl, rfl, rfl, .inr rfl⟩
  | _ => exact Rewritten.refl u cr hcr

theorem rewritten_loadAuthFile (u : Users) (file : Bytes) :
    Rewritten u (u.loadAuthFile file) r := by
  have hfold : ∀ (entries : List (Bytes × Bytes)) (u : Users),
      Rewritten u (entries.foldl (fun u entry => u.addAuthfileUser entry.1 entry.2) u) r := by
    intro entries
    induction entries with
    | nil => exact .refl
    | cons entry entries ih =>
      exact fun u => (rewritten_addAuthfileUser u entry.1 entry.2).trans (ih _)
  exact (rewritten_disableUsers u).trans (hfold _ _)

theorem rewritten_addDynamicCredentials (u : Users) (db name passwd : Bytes) :
    Rewritten u (u.addDynamicCredentials db name passwd) r := by
  unfold Users.addDynamicCredentials
  dsimp only
  refine .trans ?_ (rewritten_modify _ _ fun cr => ⟨rfl, rfl, rfl, .inr rfl⟩)
  split
  · exact .refl u
  · exact (rewritten_set u _ rfl rfl).trans (rewritten_findOrAddNewGlobalUser _ _ _)

namespace LoginWorld

variable {w : LoginWorld} {i : Nat} {name : Bytes}

theorem rewritten_writtenUsers (w : LoginWorld) (e : LoginEvent) :
    Rewritten w.users (w.writtenUsers e) r := by
  cases e with
  | loadAuthFile file => exact rewritten_loadAuthFile _ _
  | authRow i username password env =>
    cases username with
    | none => exact .refl _
    | some username =>
      simp only [writtenUsers]
      split
      · exact rewritten_addDynamicCredentials _ _ _ _
      · exact .refl _
  | poll checker =>
    simp only [writtenUsers]
    split
    · split
      · rw [setLoginPasswd_users]
        split
        · exact rewritten_modify _ _ fun cr => ⟨rfl, rfl, rfl, .inr rfl⟩
        · exact .refl _
      · exact .refl _
    · exact .refl _
  | _ => exact .refl _

/-- The file that is read names a user. -/
def NamedBy (e : LoginEvent) (r : CredRef) : Prop :=
  ∃ file name, e = .loadAuthFile file ∧ r = .user name ∧
    (fileGives (authFileUsers file) name).isSome

variable {e : LoginEvent}

/-- A file that names a user leaves no cached keys. -/
theorem NamedBy.verifier (h : NamedBy e r) (hcr : (w.writtenUsers e).find r = some cr) :
    cr.verifier = none := by
  obtain ⟨file, name, rfl, rfl, hnamed⟩ := h
  rcases w.users.loadAuthFile_find file name with ⟨passwd, cr', -, hfind, -, -, hnone⟩ | ⟨hnot, -⟩
  · cases hfind.symm.trans hcr
    exact hnone
  · rw [hnot] at hnamed
    cases hnamed

/-! ### The world -/

/-- What must not happen to credentials: that they get another password while keys of the old
one are cached or in an exchange.  The keys that are cached for a user do not matter if a file
is read that names it. -/
def SecretSafe (r : CredRef) (w : LoginWorld) (e : LoginEvent) : Prop :=
  passwdAt (w.writtenUsers e) r = passwdAt w.users r ∨
    (∀ cr, w.users.find r = some cr → cr.verifier = none ∨ NamedBy e r) ∧
    ∀ i, ¬ MidExchangeAs (w.clients i) r

theorem current_of_safe (hsafe : SecretSafe r w e) (h : KeysOkAt (Current c) (KeysOf c) r w) :
    WriteOk (Current c) (KeysOf c) r w e := by
  refine ⟨fun cr hcr => ?_, fun i hmid => ?_⟩
  · rcases rewritten_writtenUsers w e cr hcr with ⟨hnone, -⟩ |
      ⟨old, hold, -, hserver, -, hnone | hverifier⟩
    · exact .of_none hnone
    · exact .of_none hnone
    rcases hsafe with hsame | ⟨hfree, -⟩
    · rw [passwdAt_of_find hcr, passwdAt_of_find hold] at hsame
      have hcurrent := h.cached old hold
      unfold Current at hcurrent ⊢
      rw [hsame, hserver, hverifier]
      exact hcurrent
    · rcases hfree old hold with hnone | hnamed
      · exact .of_none (hverifier.trans hnone)
      · exact .of_none (hnamed.verifier hcr)
  · rcases hsafe with hsame | ⟨-, hnobody⟩
    · rw [hsame]
      exact h.exchange i hmid
    · exact absurd hmid (hnobody i)

variable {w₀ : LoginWorld} {es : List LoginEvent}

theorem Initial.current_of_run (h : Initial w₀) (hmeets : Meets (SecretSafe r) cfg c w₀ es)
    (hrun : w₀.run cfg c es = some w)
    (halive : w.died = false) : KeysOkAt (Current c) (KeysOf c) r w :=
  h.keysOkAt_of_run currentRules (fun _ hcr => .of_none (h.users _ _ hcr).2.2.1)
    (fun _ _ => current_of_safe) hmeets hrun halive

/-- What must not happen to a user: that it is taken out of the auth_file while its keys are
cached, that it gets another password in the middle of an exchange, or that it logs in by
LDAP with a password other than its own. -/
def KeysSafe (name : Bytes) (w : LoginWorld) : LoginEvent → Prop
  | .loadAuthFile file =>
    (∀ cr, w.users.find (.user name) = some cr → cr.verifier ≠ none →
      fileGives (authFileUsers file) name = none → cr.passwd = []) ∧
    ∀ i, MidExchangeAs (w.clients i) (.user name) →
      (fileGives (authFileUsers file) name).getD [] = passwdAt w.users (.user name)
  | .poll checker => ∀ request rest, takeRequest checker w.queue = some (request, rest) →
      w.isValidSocket request = true → request.status = .success →
      (w.clients request.client).loginUser = some (.stored (.user name)) →
      request.password = passwdAt w.users (.user name)
  | _ => True

theorem passwdAt_loadAuthFile (u : Users) (file : Bytes) :
    passwdAt (u.loadAuthFile file) (.user name) =
      (fileGives (authFileUsers file) name).getD [] := by
  rcases u.loadAuthFile_find file name with ⟨passwd, cr, hgives, hfind, hpasswd, -⟩ |
    ⟨hgives, hfind⟩
  · rw [passwdAt_of_find hfind, hgives, hpasswd]
    rfl
  · rw [passwdAt, hfind, hgives]
    cases u.find (.user name) <;> rfl

/-- Unless a file is read, the password of the user stays. -/
theorem KeysSafe.passwdAt_eq (hsafe : KeysSafe name w e) (hfile : ∀ file, e ≠ .loadAuthFile file) :
    passwdAt (w.writtenUsers e) (.user name) = passwdAt w.users (.user name) := by
  cases e with
  | loadAuthFile file => exact absurd rfl (hfile file)
  | authRow i username password env =>
    cases username with
    | none => rfl
    | some username =>
      simp only [writtenUsers]
      split
      · rename_i db _
        obtain ⟨u', cr, hset, hext, -⟩ := w.users.addDynamicCredentials_eq db.name
          (rowField maxUsername username) (rowField maxPassword (password.getD nullPassword))
        rw [hset, passwdAt_congr (Users.find_set_ne u' cr (by simp))]
        exact (hext.sameOrNew _).passwdAt_eq
      · rfl
  | poll checker =>
    simp only [writtenUsers]
    split
    swap
    · rfl
    rename_i request rest htaken
    split
    swap
    · rfl
    rename_i hdone
    rw [setLoginPasswd_users]
    split
    swap
    · rfl
    rename_i r hr
    by_cases hname : r = .user name
    · subst hname
      have hpasswd := hsafe request rest htaken hdone.1 hdone.2 hr
      simp only [passwdAt, Users.find_modify_self, ctx] at hpasswd ⊢
      cases hfind : w.users.find (.user name) with
      | none => rfl
      | some cr =>
        rw [hfind] at hpasswd
        exact hpasswd
    · exact passwdAt_congr (Users.find_modify_ne _ _ (Ne.symm hname))
  | _ => rfl

theorem KeysSafe.secretSafe (hsafe : KeysSafe name w e) :
    SecretSafe (.user name) w e := by
  by_cases hsame : passwdAt (w.writtenUsers e) (.user name) = passwdAt w.users (.user name)
  · exact .inl hsame
  by_cases hfile : ∃ file, e = .loadAuthFile file
  · obtain ⟨file, rfl⟩ := hfile
    rw [writtenUsers, passwdAt_loadAuthFile] at hsame
    refine .inr ⟨fun cr hcr => ?_, fun i hmid => hsame (hsafe.2 i hmid)⟩
    by_cases hv : cr.verifier = none
    · exact .inl hv
    · refine .inr ⟨file, name, rfl, rfl, ?_⟩
      cases hgives : fileGives (authFileUsers file) name with
      | some _ => rfl
      | none =>
        rw [hgives, passwdAt_of_find hcr, hsafe.1 cr hcr hv hgives] at hsame
        exact absurd rfl hsame
  · exact absurd (hsafe.passwdAt_eq fun file he => hfile ⟨file, he⟩) hsame

/-! ### Runs -/

theorem Initial.keysOk_of_run (h : Initial w₀) (hmeets : Meets (KeysSafe name) cfg c w₀ es)
    (hrun : w₀.run cfg c es = some w)
    (halive : w.died = false) : KeysOkAt (Current c) (KeysOf c) (.user name) w :=
  h.current_of_run (hmeets.mono fun _ _ => KeysSafe.secretSafe) hrun halive

/-- The password stays, unless a file is read. -/
theorem passwdAt_step (h : KeysOkAt (Current c) (KeysOf c) (.user name) w) (hinv : Inv cfg c w)
    {w' : LoginWorld} (hsafe : KeysSafe name w e)
    (hstep : w.step cfg c e = some w') (halive : w'.died = false)
    (hfile : ∀ file, e ≠ .loadAuthFile file) :
    passwdAt w'.users (.user name) = passwdAt w.users (.user name) :=
  (h.step currentRules hinv (current_of_safe hsafe.secretSafe h) hstep halive).passwd.trans
    (hsafe.passwdAt_eq hfile)

/-- As long as no file is read the password stays. -/
theorem Initial.passwdAt_of_run (h : Initial w₀) {es₁ es₂ : List LoginEvent} {file : Bytes}
    (hmeets : Meets (KeysSafe name) cfg c w₀ (es₁ ++ .loadAuthFile file :: es₂))
    (hrun : w₀.run cfg c (es₁ ++ .loadAuthFile file :: es₂) = some w) (halive : w.died = false)
    (hlast : ∀ file', .loadAuthFile file' ∉ es₂) :
    passwdAt w.users (.user name) = (fileGives (authFileUsers file) name).getD [] := by
  induction es₂ using List.reverseRecOn generalizing w with
  | nil =>
    obtain ⟨w', hw', hstep⟩ := Run.exec_concat.1 hrun
    cases stepped_of_step hstep with
    | loadAuthFile => exact passwdAt_loadAuthFile _ _
  | append_singleton es₂ e ih =>
    rw [← List.cons_append, ← List.append_assoc] at hmeets hrun
    obtain ⟨w', hw', hstep⟩ := Run.exec_concat.1 hrun
    have halive' := alive_of_step hstep
    obtain ⟨hmeets, hsafe⟩ := Run.meets_concat.1 hmeets
    have hpasswd := passwdAt_step (h.keysOk_of_run hmeets hw' halive') (h.inv_of_run hw' halive')
      (hsafe w' hw') hstep halive fun file' he => hlast file' (by simp [he])
    rw [hpasswd]
    exact ih hmeets hw' halive' fun file' hmem => hlast file' (by simp [hmem])

/-- The packet of a client answers for a password: `check_client_passwd` accepts it for that
password, or it is the proof of an exchange with keys of that password. -/
inductive AnswersFor (c : Crypto) (u : Users) (name : Bytes) (cl : PgSocket) (body : Bytes)
    (passwd : Bytes) : Prop
  | check (creds : Credentials) (given rest : Bytes) (user : u.find (.user name) = some creds)
      (has : creds.passwd = passwd) (string : getString body = some (given, rest))
      (ok : checkClientPasswd c creds cl.clientAuthType cl.tmpLoginSalt given = true)
  | scram (st : ScramState) (nonce proof key : Bytes)
      (keys : IsVerifier c passwd cl.scramState.iterations cl.scramState.encodedSalt
        cl.scramState.storedKey cl.scramState.serverKey)
      (final : readClientFinalMessage cl.scramState (cString body) = some (st, nonce, proof))
      (nonceOk : verifyFinalNonce st nonce = true)
      (proofOk : verifyClientProof c st proof = some key)

/-- Whoever gets in by a password message answers for the password the user has. -/
theorem answersFor (h : KeysOkAt (Current c) (KeysOf c) (.user name) w)
    (hinv : Inv cfg c w) {body : Bytes} {env : Env}
    {w' : LoginWorld} (hstep : w.step cfg c (.packet i (.password body) env) = some w')
    (halive : w'.died = false) (huser : (w.clients i).loginUser = some (.stored (.user name)))
    (hmethod : (w.clients i).clientAuthType ∈ [AuthType.plain, .md5, .scramSha256])
    (hbefore : (w.clients i).wasActive = false) (hafter : (w'.clients i).wasActive = true) :
    AnswersFor c w'.users name (w.clients i) body (passwdAt w.users (.user name)) := by
  have hsafe : KeysSafe name w (.packet i (.password body) env) := trivial
  have hpasswd := passwdAt_step h hinv hsafe hstep halive fun _ he => nomatch he
  rcases hinv.enters hstep with hno | ⟨j, pkt, env', y, he, hy⟩
  · exact absurd (hbefore.symm.trans (hno i hafter).1) Bool.false_ne_true
  cases he
  have husers : w'.users = y.users := by
    rw [hy.after]
    exact (finishClientLogin_frame env y).users
  cases hy.entry.accepted with
  | ownUser packet isStartup => cases isStartup
  | atOnce packet isStartup => cases isStartup
  | password creds rule body' passwd rest isPassword string hcreds method ok =>
    cases isPassword
    have hfind : w'.users.find (.user name) = some creds := by
      rw [husers]
      simpa [PgSocket.loginCredentials, ctx, huser] using hcreds
    exact .check creds passwd rest hfind ((passwdAt_of_find hfind).symm.trans hpasswd) string ok
  | scram rule body' st nonce proof key isPassword method secret final nonceOk proofOk =>
    cases isPassword
    have hrunning : (w.clients i).scramState.serverNonce ≠ none := by
      obtain ⟨⟨message, rfl⟩, -⟩ := readClientFinalMessage_state final
      intro hnone
      have hnone : (w.ctx i).client.scramState.serverNonce = none := hnone
      simp [verifyFinalNonce, hnone] at nonceOk
    exact .scram st nonce proof key (h.exchange i ⟨hy.login, hrunning, huser⟩).1 final nonceOk
      proofOk
  | checked request rule granted isPassword method =>
    obtain ⟨-, -, -, -, creds, body', passwd, rest, -, -, -, -, -, hauth⟩ := granted
    rw [show (w.clients i).clientAuthType = _ from hauth] at hmethod
    cases hc : request.checker <;> rw [hc] at hmethod <;> exact absurd hmethod (by decide)

/-- **Passwords change with the auth_file.**  In a run in which nothing of `KeysSafe` happens
to a user, its cached keys are always those of its password.  And after a file has been read a
client is let in as that user by an answer for the password the file gives it; for a user the
file does not name there is only the empty password, and no answer for it but by SCRAM. -/
theorem keys_follow_password {w₀ : LoginWorld} (hinit : Initial w₀) {es : List LoginEvent}
    (hmeets : Meets (KeysSafe name) cfg c w₀ es) (hrun : w₀.run cfg c es = some w)
    (halive : w.died = false) :
    (∀ cr v, w.users.find (.user name) = some cr → cr.verifier = some v →
      IsVerifier c cr.passwd v.scramIterations v.scramSaltKey v.scramStoredKey
        cr.scramServerKey) ∧
    ∀ es₁ file es₂, es = es₁ ++ .loadAuthFile file :: es₂ →
      (∀ file', .loadAuthFile file' ∉ es₂) → ∀ i body env w',
      w.step cfg c (.packet i (.password body) env) = some w' → w'.died = false →
      (w.clients i).loginUser = some (.stored (.user name)) →
      (w.clients i).clientAuthType ∈ [AuthType.plain, .md5, .scramSha256] →
      (w.clients i).wasActive = false → (w'.clients i).wasActive = true →
      AnswersFor c w'.users name (w.clients i) body
        ((fileGives (authFileUsers file) name).getD []) ∧
      (fileGives (authFileUsers file) name = none →
        IsVerifier c [] (w.clients i).scramState.iterations (w.clients i).scramState.encodedSalt
          (w.clients i).scramState.storedKey (w.clients i).scramState.serverKey) := by
  have hkeys := hinit.keysOk_of_run hmeets hrun halive
  refine ⟨fun cr v hcr hv => (hkeys.cached cr hcr v hv).1, ?_⟩
  rintro es₁ file es₂ rfl hlast i body env w' hstep halive' huser hmethod hbefore hafter
  have hanswers := answersFor hkeys (hinit.inv_of_run hrun halive) hstep halive' huser hmethod
    hbefore hafter
  rw [hinit.passwdAt_of_run hmeets hrun halive hlast] at hanswers
  refine ⟨hanswers, fun hnone => ?_⟩
  rw [hnone] at hanswers
  cases hanswers with
  | check creds given rest user has string ok =>
    have hempty : creds.passwd = [] := has
    simp [checkClientPasswd, hempty] at ok
  | scram st nonce proof key keys final nonceOk proofOk => exact keys

/-- No users are configured. -/
def noUsers : LoginWorld := { users := ⟨fun _ => none⟩ }

theorem initial_noUsers : Initial noUsers :=
  ⟨fun _ => rfl, rfl, fun _ _ hcr => nomatch hcr⟩

def plainOpening : List LoginEvent :=
  [.loadAuthFile (text "\"u\" \"p\"\n"), .accept 0 { remoteAddr := .unix },
    .packet 0 (startupOf (text "u") (text "d")) {}]

/-- `"u" "p"` in the auth_file, and `auth_type` plain: the password that lets the user in is
the one in the file. -/
theorem keys_follow_password_plain : ∃ w w' : LoginWorld,
    noUsers.run (loginsTo .plain) .masking plainOpening = some w ∧
    w.step (loginsTo .plain) .masking (.packet 0 (.password (text "p" ++ [0])) {}) = some w' ∧
    (w'.clients 0).state = .active ∧
    AnswersFor .masking w'.users (text "u") (w.clients 0) (text "p" ++ [0]) (text "p") := by
  have hrun : (noUsers.run (loginsTo .plain) .masking plainOpening).any (fun w =>
      (w.step (loginsTo .plain) .masking (.packet 0 (.password (text "p" ++ [0])) {})).any
      fun w' => (w'.clients 0).state = .active ∧ w'.died = false ∧
        (w'.clients 0).wasActive = true ∧ w.died = false ∧
        (w.clients 0).loginUser = some (.stored (.user (text "u"))) ∧
        (w.clients 0).clientAuthType = .plain ∧ (w.clients 0).wasActive = false) := by
    decide +kernel
  simp only [Option.any_eq_true, decide_eq_true_eq] at hrun
  obtain ⟨w, hw, w', hstep, hstate, halive', hafter, halive, huser, hmethod, hbefore⟩ := hrun
  have hmeets : Meets (KeysSafe (text "u")) (loginsTo .plain) .masking noUsers plainOpening :=
    ⟨⟨fun _ hcr => (nomatch hcr), fun _ hmid => absurd rfl hmid.running⟩,
      fun _ _ => ⟨trivial, fun _ _ => ⟨trivial, fun _ _ => trivial⟩⟩⟩
  have hfile : fileGives (authFileUsers (text "\"u\" \"p\"\n")) (text "u") = some (text "p") := by
    decide +kernel
  have hanswers := ((keys_follow_password initial_noUsers hmeets hw halive).2 [] _ _ rfl
    (by simp) 0 _ _ w' hstep halive' huser (by rw [hmethod]; decide) hbefore hafter).1
  rw [hfile] at hanswers
  exact ⟨w, w', hw, hstep, hstate, hanswers⟩

/-- What a client sends that knows a password. -/
def clientProof (c : Crypto) (passwd salt : Bytes) (iterations : Int) (message : Bytes) : Bytes :=
  let key := c.clientKey (c.saltedPassword passwd salt iterations)
  xorBytes key (c.hmac (c.sha256 key) message)

def exchangeEnv : Env :=
  { scram := { salt := [], nonce := [], mockNonce := [], iterations := 1 } }

/-- A SCRAM login up to its last message. -/
def opening (i : Nat) : List LoginEvent :=
  [.accept i { remoteAddr := .unix }, .packet i (startupOf (text "u") (text "d")) {},
    .packet i (.password (scramSha256Name ++ [0, 0, 0, 0, 9] ++ clientFirst)) exchangeEnv]

def exchangeWith (proof : Bytes) (i : Nat) : List LoginEvent :=
  opening i ++ [.packet i (.password (clientFinal [ch 'x'] proof)) exchangeEnv]

/-- The proof of a user whose password is `"p"`. -/
def proofP : Bytes :=
  clientProof .masking (text "p") [] 1 (text "n=,r=x,r=x,s=,i=1,c=biws,r=x")

/-- An exchange of that user. -/
def exchange : Nat → List LoginEvent := exchangeWith proofP

/-- These are the keys of a password that is not empty. -/
theorem not_isVerifier_nil {iterations : Int} {salt storedKey serverKey : Bytes}
    (hkeys : (salt, iterations, storedKey.take 1) = ([], 1, [52])) :
    ¬ IsVerifier .masking [] iterations salt storedKey serverKey := by
  simp only [Prod.mk.injEq] at hkeys
  obtain ⟨rfl, rfl, hstored⟩ := hkeys
  rw [IsVerifier, getPasswordType_nil]
  rintro ⟨salt, hempty, hkey, -⟩
  have hnil : salt = [] := by
    have hdecode := Base64.decode_encode salt
    rw [← hempty] at hdecode
    exact (Option.some.inj hdecode).symm
  rw [hkey, hnil] at hstored
  exact absurd hstored (by decide +kernel)

/-- A user is registered and logs in. -/
def firstLogin : List LoginEvent := .loadAuthFile (text "\"u\" \"p\"\n") :: exchange 0

/-- The user is taken out of the auth_file and gets in with its old password: the keys that
were cached for it are still there. -/
theorem removed_user_active : ∃ w cr v,
    noUsers.run (loginsTo .scramSha256) .masking
      (firstLogin ++ .loadAuthFile [] :: exchange 1) = some w ∧
    fileGives (authFileUsers []) (text "u") = none ∧ (w.clients 1).state = .active ∧
    w.users.find (.user (text "u")) = some cr ∧ cr.passwd = [] ∧ cr.verifier = some v ∧
    ¬ IsVerifier .masking cr.passwd v.scramIterations v.scramSaltKey v.scramStoredKey
      cr.scramServerKey := by
  have hrun : (noUsers.run (loginsTo .scramSha256) .masking
      (firstLogin ++ .loadAuthFile [] :: exchange 1)).any (fun w => (w.clients 1).state = .active ∧
      (w.users.find (.user (text "u"))).any fun cr => cr.passwd = [] ∧ cr.verifier.any fun v =>
        (v.scramSaltKey, v.scramIterations, v.scramStoredKey.take 1) = ([], 1, [52])) := by
    decide +kernel
  simp only [Option.any_eq_true, decide_eq_true_eq] at hrun
  obtain ⟨w, hw, hstate, cr, hcr, hpasswd, v, hv, hkeys⟩ := hrun
  refine ⟨w, cr, v, hw, by decide +kernel, hstate, hcr, hpasswd, hv, ?_⟩
  rw [hpasswd]
  exact not_isVerifier_nil hkeys

/-! ### The stored secret -/

/-- **Authentication is sound**, in every run in which nobody gets another password while
there are keys of the old one.  A client that is active, or has been so on its connection, has
been let in by a packet that got to it while it was in `CL_LOGIN`, and then the method that had
been selected for it had accepted it; if it was in a SCRAM exchange, with the keys of the
password that was stored then.  It still is who it was. -/
theorem accepted_with_secret (hinit : Initial w₀)
    (hmeets : Meets (fun w e => ∀ r, SecretSafe r w e) cfg c w₀ es)
    (hrun : w₀.run cfg c es = some w)
    (hactive : (w.clients i).wasActive = true ∨ w.died = false ∧ (w.clients i).state = .active) :
    ∃ es₁ pkt env es₂ w₁ w₂, ∃ y : LoginCtx, es = es₁ ++ .packet i pkt env :: es₂ ∧
      w₀.run cfg c es₁ = some w₁ ∧ w₁.step cfg c (.packet i pkt env) = some w₂ ∧
      w₂.run cfg c es₂ = some w ∧ (w₁.clients i).state = .login ∧
      Accepted cfg c i (w₁.clients i) pkt y.users y.client ∧
      (∀ r, (w₁.clients i).loginUser = some (.stored r) →
        (w₁.clients i).scramState.serverNonce ≠ none →
        KeysOf c (w₁.clients i).scramState (passwdAt w₁.users r)) ∧
      w₂ = w₁.put ((y.finishClientLogin env).1.update fun cl =>
        { cl with pending := if (y.finishClientLogin env).2 then none else some pkt }) ∧
      (w₁.clients i).connectTime = (w.clients i).connectTime ∧
      SameClient y.client (w.clients i) := by
  obtain ⟨es₁, pkt, env, es₂, w₁, w₂, y, hy⟩ :=
    hinit.enters_of_wasActive hrun (hinit.wasActive_of_active hrun hactive)
  refine ⟨es₁, pkt, env, es₂, w₁, w₂, y, hy.split, hy.before, hy.packet, hy.after,
    hy.enters.login, hy.enters.entry.accepted, fun r huser hrunning => ?_, hy.enters.after,
    hy.enters.entry.connectTime.symm.trans hy.same.connectTime.symm, hy.same⟩
  obtain rfl := hy.split
  have hmeets₁ : Meets (SecretSafe r) cfg c w₀ es₁ := hmeets.append_left.mono fun _ _ h => h r
  exact (hinit.current_of_run hmeets₁ hy.before (alive_of_step hy.packet)).exchange i
    ⟨hy.enters.login, hrunning, huser⟩

/-- A user of the auth_file gets in by SCRAM. -/
theorem accepted_with_secret_scram : ∃ w w₁ : LoginWorld, ∃ pkt, ∃ y : LoginCtx,
    noUsers.run (loginsTo .scramSha256) .masking firstLogin = some w ∧
    (w.clients 0).state = .active ∧
    Accepted (loginsTo .scramSha256) .masking 0 (w₁.clients 0) pkt y.users y.client ∧
    ∀ r, (w₁.clients 0).loginUser = some (.stored r) →
      (w₁.clients 0).scramState.serverNonce ≠ none →
      KeysOf .masking (w₁.clients 0).scramState (passwdAt w₁.users r) := by
  have hrun : (noUsers.run (loginsTo .scramSha256) .masking firstLogin).map
      (fun w => (w.died, (w.clients 0).state)) = some (false, .active) := by decide +kernel
  obtain ⟨w, hw, heq⟩ := Option.map_eq_some_iff.1 hrun
  obtain ⟨halive, hstate⟩ := Prod.mk.inj heq
  have hmeets : Meets (fun w e => ∀ r, SecretSafe r w e) (loginsTo .scramSha256) .masking noUsers
      firstLogin :=
    ⟨fun _ => .inr ⟨fun _ hcr => (nomatch hcr), fun _ hmid => absurd rfl hmid.running⟩,
      fun _ _ => ⟨fun _ => .inl rfl, fun _ _ => ⟨fun _ => .inl rfl, fun _ _ => ⟨fun _ => .inl rfl,
        fun _ _ => ⟨fun _ => .inl rfl, fun _ _ => trivial⟩⟩⟩⟩⟩
  obtain ⟨-, pkt, -, -, w₁, -, y, -, -, -, -, -, haccepted, hsecret, -⟩ :=
    accepted_with_secret initial_noUsers hmeets hw (.inr ⟨halive, hstate⟩)
  exact ⟨w, w₁, pkt, y, hw, hstate, haccepted, hsecret⟩

/-- **A user without a password gets in by SCRAM**: it has been taken out of the auth_file,
and its exchange works with keys that are not those of the password that is stored. -/
theorem accepted_without_secret : ∃ w₁ w₂ : LoginWorld,
    noUsers.run (loginsTo .scramSha256) .masking
      (firstLogin ++ .loadAuthFile [] :: opening 1) = some w₁ ∧
    w₁.step (loginsTo .scramSha256) .masking
      (.packet 1 (.password (clientFinal [ch 'x'] proofP)) exchangeEnv) = some w₂ ∧
    (w₁.clients 1).state = .login ∧ (w₂.clients 1).state = .active ∧
    (w₁.clients 1).loginUser = some (.stored (.user (text "u"))) ∧
    passwdAt w₁.users (.user (text "u")) = [] ∧
    ¬ KeysOf .masking (w₁.clients 1).scramState (passwdAt w₁.users (.user (text "u"))) := by
  have hrun : (noUsers.run (loginsTo .scramSha256) .masking
      (firstLogin ++ .loadAuthFile [] :: opening 1)).any (fun w₁ =>
        (w₁.step (loginsTo .scramSha256) .masking
          (.packet 1 (.password (clientFinal [ch 'x'] proofP)) exchangeEnv)).any fun w₂ =>
      (w₁.clients 1).state = .login ∧ (w₂.clients 1).state = .active ∧
      (w₁.clients 1).loginUser = some (.stored (.user (text "u"))) ∧
      passwdAt w₁.users (.user (text "u")) = [] ∧ ((w₁.clients 1).scramState.encodedSalt,
        (w₁.clients 1).scramState.iterations, (w₁.clients 1).scramState.storedKey.take 1) =
          ([], 1, [52])) := by
    decide +kernel
  simp only [Option.any_eq_true, decide_eq_true_eq] at hrun
  obtain ⟨w₁, hw₁, w₂, hw₂, hlogin, hactive, huser, hpasswd, hkeys⟩ := hrun
  refine ⟨w₁, w₂, hw₁, hw₂, hlogin, hactive, huser, hpasswd, fun hof => ?_⟩
  rw [hpasswd] at hof
  exact not_isVerifier_nil hkeys hof.1

end LoginWorld

end PgBouncer
