/-
How the users change.

Users are added and never removed.  A password is overwritten by an auth_file, by the
row of an auth_query or by a successful PAM or LDAP login, and a SCRAM exchange may
leave its keys behind.  Through all of that a user keeps its name, and `held` remembers
every password it had; and any keys that are cached belong to one of those.
-/
import PgBouncer.Proofs.Scram

namespace PgBouncer

/-! ### Verifiers -/

/-- The keys are those of a password: of the plain text with some salt, or the ones written
in a SCRAM secret. -/
def IsVerifier (c : Crypto) (passwd : Bytes) (iterations : Int) (encodedSalt storedKey
    serverKey : Bytes) : Prop :=
  match getPasswordType passwd with
  | .md5 => False
  | .scramSha256 =>
    parseScramSecret passwd = some ⟨iterations, encodedSalt, storedKey, serverKey⟩
  | .plaintext =>
    ∃ salt, encodedSalt = Base64.encode salt ∧
      storedKey = c.sha256 (c.clientKey (c.saltedPassword (c.saslprep passwd) salt iterations)) ∧
      serverKey = c.serverKey (c.saltedPassword (c.saslprep passwd) salt iterations)

variable {c : Crypto} {env : ScramEnv} {st st' : ScramState} {cr cr' : Credentials} {r : CredRef}

/-- What `build_server_first_message` works with, and what it leaves behind. -/
theorem secretFor_cases {user user' : Credentials}
    (h : secretFor c env user st = some (st', user')) :
    (∃ v, user.verifier = some v ∧ user' = user ∧ st'.adhoc = v.scramAdhoc ∧
      st'.iterations = v.scramIterations ∧ st'.encodedSalt = v.scramSaltKey ∧
      st'.storedKey = v.scramStoredKey ∧ st'.serverKey = user.scramServerKey) ∨
    (user.verifier = none ∧
      IsVerifier c user.passwd st'.iterations st'.encodedSalt st'.storedKey st'.serverKey ∧
      (getPasswordType user.passwd = .scramSha256 → st'.adhoc = st.adhoc) ∧
      (getPasswordType user.passwd = .plaintext → st'.adhoc = true) ∧
      user' = if user.dynamicPasswd then user else
        { user with
          verifier := some
            { scramIterations := st'.iterations
              scramSaltKey := st'.encodedSalt
              scramStoredKey := st'.storedKey
              scramAdhoc := st'.adhoc }
          scramServerKey := st'.serverKey }) := by
  unfold secretFor at h
  cases hv : user.verifier with
  | some v =>
    rw [hv] at h
    cases h
    exact .inl ⟨v, rfl, rfl, rfl, rfl, rfl, rfl, rfl⟩
  | none =>
    rw [hv] at h
    dsimp only at h
    refine .inr ⟨rfl, ?_⟩
    cases htype : getPasswordType user.passwd with
    | md5 =>
      rw [htype] at h
      cases h
    | plaintext =>
      rw [htype] at h
      cases h
      refine ⟨?_, by simp, fun _ => rfl, rfl⟩
      simp only [IsVerifier, htype]
      exact ⟨env.salt, rfl, rfl, rfl⟩
    | scramSha256 =>
      rw [htype] at h
      cases hparse : parseScramSecret user.passwd with
      | none => simp [hparse] at h
      | some secret =>
        rw [hparse] at h
        cases h
        refine ⟨?_, fun _ => rfl, by simp, rfl⟩
        simp only [IsVerifier, htype]
        exact hparse

/-! ### One user -/

/-- Credentials as pgbouncer keeps them. -/
structure CredOk (c : Crypto) (r : CredRef) (cr : Credentials) : Prop where
  /-- Made-up credentials belong to a client. -/
  real : cr.mockAuth = false
  held : cr.passwd ∈ cr.held
  /-- Keys that are cached belong to a password the user has or had. -/
  cached : ∀ v, cr.verifier = some v → ∃ passwd ∈ cr.held, ∃ serverKey,
    IsVerifier c passwd v.scramIterations v.scramSaltKey v.scramStoredKey serverKey
  /-- The keys of a user whose password is fetched every time are not cached. -/
  fetched : ∀ db name, r = .dynamic db name →
    cr.dynamicPasswd = true ∧ cr.verifier = none ∧ cr.name = name

/-- The same user, later. -/
structure CredGrows (cr cr' : Credentials) : Prop where
  name : cr'.name = cr.name
  held : ∀ passwd ∈ cr.held, passwd ∈ cr'.held

theorem CredGrows.refl (cr : Credentials) : CredGrows cr cr := ⟨rfl, fun _ => id⟩

theorem CredGrows.trans {cr'' : Credentials} (h : CredGrows cr cr') (h' : CredGrows cr' cr'') :
    CredGrows cr cr'' :=
  ⟨h'.name.trans h.name, fun p hp => h'.held p (h.held p hp)⟩

theorem setPasswd_grows (cr : Credentials) (passwd : Bytes) :
    CredGrows cr (cr.setPasswd passwd) :=
  ⟨rfl, fun _ hp => List.mem_cons_of_mem _ hp⟩

theorem CredOk.setPasswd (h : CredOk c r cr) (passwd : Bytes) :
    CredOk c r (cr.setPasswd passwd) := by
  refine ⟨h.real, List.mem_cons_self, fun v hv => ?_, h.fetched⟩
  obtain ⟨p, hp, hkeys⟩ := h.cached v hv
  exact ⟨p, List.mem_cons_of_mem _ hp, hkeys⟩

/-- The first message of an exchange with a real user. -/
theorem scramClientFirst_real {data : Bytes} (hreal : cr.mockAuth = false)
    (h : scramClientFirst c env cr st data = some (st', cr')) :
    ∃ st₁ st₂, readClientFirstMessage st (cString data) = some st₁ ∧
      secretFor c env cr st₁ = some (st₂, cr') ∧ st' = serverFirst env st₂ := by
  simp only [scramClientFirst, Option.bind_eq_bind, Option.bind_eq_some_iff] at h
  obtain ⟨st₁, hread, h⟩ := h
  rw [if_neg (by rw [hreal]; exact Bool.false_ne_true)] at h
  split at h
  · cases h
  simp only [Option.bind_eq_some_iff] at h
  obtain ⟨⟨st₂, user⟩, hsecret, h⟩ := h
  cases h
  exact ⟨st₁, st₂, hread, hsecret, rfl⟩

/-- A SCRAM exchange works with the keys of a password the user has or had, and leaves
behind what `build_server_first_message` caches. -/
theorem CredOk.scramClientFirst {data : Bytes} (h : CredOk c r cr)
    (hfirst : scramClientFirst c env cr st data = some (st', cr')) :
    CredOk c r cr' ∧ CredGrows cr cr' ∧ ∃ passwd ∈ cr'.held, ∃ serverKey,
      IsVerifier c passwd st'.iterations st'.encodedSalt st'.storedKey serverKey := by
  obtain ⟨st₁, st₂, -, hsecret, rfl⟩ := scramClientFirst_real h.real hfirst
  rcases secretFor_cases hsecret with
    ⟨v, hv, rfl, -, hiter, hsalt, hstored, -⟩ | ⟨hv, hkeys, -, -, hcr⟩
  · refine ⟨h, .refl _, ?_⟩
    obtain ⟨passwd, hheld, serverKey, hkeys⟩ := h.cached v hv
    refine ⟨passwd, hheld, serverKey, ?_⟩
    rwa [← hiter, ← hsalt, ← hstored] at hkeys
  · cases hdyn : cr.dynamicPasswd with
    | true =>
      rw [hdyn] at hcr
      subst hcr
      exact ⟨h, .refl _, _, h.held, st₂.serverKey, hkeys⟩
    | false =>
      rw [hdyn] at hcr
      subst hcr
      refine ⟨⟨h.real, h.held, fun v hv => ?_, fun db name hr => ?_⟩, ⟨rfl, fun _ => id⟩,
        cr.passwd, h.held, st₂.serverKey, hkeys⟩
      · cases hv
        exact ⟨cr.passwd, h.held, st₂.serverKey, hkeys⟩
      · exact absurd (h.fetched db name hr).1 (by rw [hdyn]; exact Bool.false_ne_true)

namespace Users

/-! ### Tables -/

theorem find_set_self (u : Users) (r : CredRef) (cr : Credentials) :
    (u.set r cr).find r = some cr := by
  simp [set]

variable {r' : CredRef} {u u' : Users}

theorem find_set_ne (u : Users) (cr : Credentials) (h : r' ≠ r) :
    (u.set r cr).find r' = u.find r' := by
  simp [set, h]

theorem find_modify_self (u : Users) (r : CredRef) (f : Credentials → Credentials) :
    (u.modify r f).find r = (u.find r).map f := by
  unfold modify
  cases h : u.find r with
  | none => simp [h]
  | some cr => rw [find_set_self]; rfl

theorem find_modify_ne (u : Users) (f : Credentials → Credentials) (h : r' ≠ r) :
    (u.modify r f).find r' = u.find r' := by
  unfold modify
  cases u.find r with
  | none => rfl
  | some cr => exact find_set_ne u _ h

/-- Credentials as a user gets them who has no password. -/
structure Blank (cr : Credentials) : Prop where
  passwd : cr.passwd = []
  held : cr.held = [[]]
  real : cr.mockAuth = false
  verifier : cr.verifier = none
  noKeys : cr.scramPassthroughValid = false

/-- Users may have been added. -/
structure Extends (u u' : Users) : Prop where
  old : ∀ {r cr}, u.find r = some cr → u'.find r = some cr
  new : ∀ {r cr}, u'.find r = some cr → u.find r = some cr ∨
    (Blank cr ∧ ∀ db name, r ≠ .dynamic db name)

theorem Extends.refl (u : Users) : Extends u u := ⟨id, .inl⟩

theorem Extends.trans {u'' : Users} (h : Extends u u') (h' : Extends u' u'') :
    Extends u u'' :=
  ⟨fun hr => h'.old (h.old hr), fun hr => (h'.new hr).elim h.new .inr⟩

theorem extends_set (hnone : u.find r = none) (hblank : Blank cr)
    (hr : ∀ db name, r ≠ .dynamic db name) : Extends u (u.set r cr) := by
  refine ⟨fun {r' cr'} h => ?_, fun {r' cr'} h => ?_⟩
  · rw [find_set_ne u cr (by rintro rfl; rw [hnone] at h; cases h), h]
  · by_cases hr' : r' = r
    · subst hr'
      rw [find_set_self] at h
      cases h
      exact .inr ⟨hblank, hr⟩
    · rw [find_set_ne u cr hr'] at h
      exact .inl h

theorem set_set_ne (u : Users) (cr cr' : Credentials) (h : r ≠ r') :
    (u.set r cr).set r' cr' = (u.set r' cr').set r cr := by
  simp only [set, mk.injEq]
  exact Function.update_comm h _ _ _

theorem modify_set (u : Users) (r : CredRef) (cr : Credentials)
    (f : Credentials → Credentials) : (u.set r cr).modify r f = u.set r (f cr) := by
  simp [modify, set]

/-- A new user gets its password before anybody sees it. -/
theorem findOrAddNewGlobalUser_new {name : Bytes} (passwd : Bytes)
    (h : u.find (.user name) = none) : u.findOrAddNewGlobalUser name passwd = u.set (.user name)
      { name := name, passwd := passwd, held := [passwd], dynamicPasswd := passwd.isEmpty } := by
  unfold findOrAddNewGlobalUser
  rw [h]
  exact modify_set u _ _ _

theorem findOrAddNewGlobalUser_old {name : Bytes} (passwd : Bytes)
    (h : u.find (.user name) = some cr) : u.findOrAddNewGlobalUser name passwd = u := by
  unfold findOrAddNewGlobalUser
  rw [h]

theorem findOrAddNewGlobalUser_extends (u : Users) (name : Bytes) :
    Extends u (u.findOrAddNewGlobalUser name []) := by
  cases h : u.find (.user name) with
  | some cr =>
    rw [findOrAddNewGlobalUser_old [] h]
    exact .refl u
  | none =>
    rw [findOrAddNewGlobalUser_new [] h]
    exact extends_set h ⟨rfl, rfl, rfl, rfl, rfl⟩ (by simp)

theorem addPamCredentials_extends (u : Users) (name : Bytes) :
    Extends u (u.addPamCredentials name) := by
  unfold addPamCredentials
  cases h : u.find (.pam name) with
  | some cr => exact .refl u
  | none =>
    exact (extends_set h ⟨rfl, rfl, rfl, rfl, rfl⟩ (by simp)).trans
      (findOrAddNewGlobalUser_extends _ _)

/-! ### All users -/

/-- Every user is as it should be. -/
def Sound (c : Crypto) (u : Users) : Prop :=
  ∀ r cr, u.find r = some cr → CredOk c r cr

/-- Users stay, under their names. -/
def Grows (u u' : Users) : Prop :=
  ∀ r cr, u.find r = some cr → ∃ cr', u'.find r = some cr' ∧ CredGrows cr cr'

/-- What any part of pgbouncer may do to the users. -/
structure Evolves (c : Crypto) (u u' : Users) : Prop where
  sound : Sound c u → Sound c u'
  grows : Grows u u'

variable {c : Crypto}

theorem Evolves.refl (u : Users) : Evolves c u u :=
  ⟨id, fun _ _ h => ⟨_, h, .refl _⟩⟩

theorem Evolves.trans {u'' : Users} (h : Evolves c u u') (h' : Evolves c u' u'') :
    Evolves c u u'' := by
  refine ⟨fun hs => h'.sound (h.sound hs), fun r cr hr => ?_⟩
  obtain ⟨cr', hr', hg⟩ := h.grows r cr hr
  obtain ⟨cr'', hr'', hg'⟩ := h'.grows r cr' hr'
  exact ⟨cr'', hr'', hg.trans hg'⟩

theorem Blank.credOk (h : Blank cr) (hr : ∀ db name, r ≠ .dynamic db name) : CredOk c r cr := by
  refine ⟨h.real, by rw [h.passwd, h.held]; exact List.mem_cons_self, fun v hv => ?_,
    fun db name heq => absurd heq (hr db name)⟩
  rw [h.verifier] at hv
  cases hv

theorem Extends.evolves (h : Extends u u') : Evolves c u u' :=
  ⟨fun hs _ _ hr => (h.new hr).elim (hs _ _) fun hb => hb.1.credOk hb.2,
    fun _ _ hr => ⟨_, h.old hr, .refl _⟩⟩

/-- One user is written. -/
theorem set_evolves (hok : Sound c u → CredOk c r cr)
    (hgrows : ∀ old, u.find r = some old → CredGrows old cr) : Evolves c u (u.set r cr) := by
  refine ⟨fun hs r' cr' hr' => ?_, fun r' cr' hr' => ?_⟩
  · by_cases heq : r' = r
    · subst heq
      rw [find_set_self] at hr'
      cases hr'
      exact hok hs
    · rw [find_set_ne u cr heq] at hr'
      exact hs r' cr' hr'
  · by_cases heq : r' = r
    · subst heq
      exact ⟨cr, find_set_self u r' cr, hgrows _ hr'⟩
    · exact ⟨cr', by rw [find_set_ne u cr heq, hr'], .refl _⟩

/-- One user is changed. -/
theorem modify_evolves {f : Credentials → Credentials}
    (hok : ∀ cr, CredOk c r cr → CredOk c r (f cr)) (hgrows : ∀ cr, CredGrows cr (f cr)) :
    Evolves c u (u.modify r f) := by
  unfold modify
  cases hr : u.find r with
  | none => exact .refl u
  | some cr =>
    refine set_evolves (fun hs => hok cr (hs r cr hr)) fun old hold => ?_
    rw [hr] at hold
    cases hold
    exact hgrows cr

theorem updateGlobalUserPasswd_evolves (u : Users) (name passwd : Bytes) :
    Evolves c u (u.updateGlobalUserPasswd name passwd) :=
  modify_evolves
    (fun cr h => ⟨(h.setPasswd passwd).real, (h.setPasswd passwd).held,
      (h.setPasswd passwd).cached, fun _ _ hr => by cases hr⟩)
    fun cr => ⟨rfl, (setPasswd_grows cr passwd).held⟩

theorem findOrAddNewGlobalUser_evolves (u : Users) (name passwd : Bytes) :
    Evolves c u (u.findOrAddNewGlobalUser name passwd) := by
  cases hr : u.find (.user name) with
  | some cr =>
    rw [findOrAddNewGlobalUser_old passwd hr]
    exact .refl u
  | none =>
    rw [findOrAddNewGlobalUser_new passwd hr]
    refine set_evolves (fun _ => ⟨rfl, List.mem_cons_self, fun v hv => (nomatch hv),
      fun _ _ h => (nomatch h)⟩) fun old hold => ?_
    rw [hr] at hold
    cases hold

/-- The row of an auth_query: the user, under its name. -/
theorem addDynamicCredentials_eq (u : Users) (db name passwd : Bytes) :
    ∃ u' cr, u.addDynamicCredentials db name passwd = u'.set (.dynamic db name) cr ∧
      Extends u u' ∧ cr.passwd = passwd ∧
      ((u.find (.dynamic db name) = none ∧
          cr = { name := name, passwd := passwd, held := [passwd], dynamicPasswd := true }) ∨
        ∃ old, u.find (.dynamic db name) = some old ∧
          cr = { old.setPasswd passwd with dynamicPasswd := true }) := by
  unfold addDynamicCredentials
  cases hr : u.find (.dynamic db name) with
  | some old =>
    refine ⟨u, { old.setPasswd passwd with dynamicPasswd := true }, ?_, .refl u, rfl,
      .inr ⟨old, rfl, rfl⟩⟩
    simp [modify, hr]
  | none =>
    refine ⟨u.findOrAddNewGlobalUser name [], _, ?_, findOrAddNewGlobalUser_extends u name, rfl,
      .inl ⟨rfl, rfl⟩⟩
    have hne : CredRef.dynamic db name ≠ .user name := by simp
    dsimp only
    cases hu : u.find (.user name) with
    | some cr =>
      rw [findOrAddNewGlobalUser_old [] hu, findOrAddNewGlobalUser_old []
        (by rw [find_set_ne u _ hne.symm, hu]), modify_set]
      rfl
    | none =>
      rw [findOrAddNewGlobalUser_new [] hu, findOrAddNewGlobalUser_new []
        (by rw [find_set_ne u _ hne.symm, hu]), set_set_ne u _ _ hne, modify_set]
      rfl

theorem addDynamicCredentials_evolves (u : Users) (db name passwd : Bytes) :
    Evolves c u (u.addDynamicCredentials db name passwd) := by
  obtain ⟨u', cr, heq, hext, -, hcr⟩ := addDynamicCredentials_eq u db name passwd
  rw [heq]
  refine hext.evolves.trans (set_evolves (fun hs => ?_) fun old hold => ?_)
  · rcases hcr with ⟨-, rfl⟩ | ⟨old, hold, rfl⟩
    · exact ⟨rfl, List.mem_cons_self, fun v hv => (nomatch hv),
        fun _ _ hd => by cases hd; exact ⟨rfl, rfl, rfl⟩⟩
    · have hold' := hs _ _ (hext.old hold)
      have hok := hold'.setPasswd passwd
      exact ⟨hok.real, hok.held, hok.cached,
        fun d n hd => ⟨rfl, (hold'.fetched d n hd).2⟩⟩
  · rcases hext.new hold with hold' | ⟨-, hr⟩
    · rcases hcr with ⟨hnone, -⟩ | ⟨old', hold'', rfl⟩
      · rw [hnone] at hold'
        cases hold'
      · rw [hold''] at hold'
        cases hold'
        exact ⟨rfl, (setPasswd_grows _ passwd).held⟩
    · exact absurd rfl (hr db name)

/-! ### The auth_file -/

theorem disableUsers_evolves (u : Users) : Evolves c u u.disableUsers := by
  refine ⟨fun hs r cr hr => ?_, fun r cr hr => ?_⟩
  · cases r with
    | user name =>
      simp only [disableUsers, Option.map_eq_some_iff] at hr
      obtain ⟨old, hold, rfl⟩ := hr
      exact (hs _ _ hold).setPasswd []
    | dynamic db name => exact hs _ _ hr
    | pam name => exact hs _ _ hr
    | forced db => exact hs _ _ hr
  · cases r with
    | user name =>
      refine ⟨cr.setPasswd [], ?_, setPasswd_grows cr []⟩
      simp [disableUsers, hr]
    | dynamic db name => exact ⟨cr, hr, .refl cr⟩
    | pam name => exact ⟨cr, hr, .refl cr⟩
    | forced db => exact ⟨cr, hr, .refl cr⟩

theorem addAuthfileUser_evolves (u : Users) (name passwd : Bytes) :
    Evolves c u (u.addAuthfileUser name passwd) := by
  unfold addAuthfileUser
  dsimp only
  refine ((findOrAddNewGlobalUser_evolves u name passwd).trans ?_).trans
    (modify_evolves (fun cr h => ?_) fun cr => ⟨rfl, fun _ => id⟩)
  · split
    · split
      · exact updateGlobalUserPasswd_evolves _ _ _
      · exact .refl _
    · exact .refl _
  · exact ⟨h.real, h.held, fun v hv => (nomatch hv), fun _ _ hr => nomatch hr⟩

theorem loadAuthFile_evolves (u : Users) (file : Bytes) :
    Evolves c u (u.loadAuthFile file) := by
  have hfold : ∀ (entries : List (Bytes × Bytes)) (v : Users),
      Evolves c v (entries.foldl (fun u entry => u.addAuthfileUser entry.1 entry.2) v) := by
    intro entries
    induction entries with
    | nil => exact fun v => .refl v
    | cons entry rest ih => exact fun v => (addAuthfileUser_evolves v _ _).trans (ih _)
  exact (disableUsers_evolves u).trans (hfold _ _)

end Users

end PgBouncer
