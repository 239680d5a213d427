/-
Keys that are passed through to the backend.

At the end of a SCRAM exchange with a stored secret pgbouncer has the ClientKey of the
client, and with it and the ServerKey it can log in to the backend without the password.
The keys are kept until they are overwritten: `scram_passthrough_valid` is set and never
cleared.  Whoever writes another password leaves keys behind that are not those of it,
and so does an exchange that was started before.

`PassSafe` is what must not happen.  Keys that were made up from a password in plain text
are not passed on, so they do not matter here.
-/
import PgBouncer.Auth.ScramClient
import PgBouncer.Proofs.Reload

namespace PgBouncer

open LoginCtx

variable {cfg : AuthConfig} {c : Crypto}

/-! ### What belongs to a secret -/

/-- The keys of credentials are those of the secret in them. -/
structure PassOk (c : Crypto) (cr : Credentials) : Prop where
  valid : cr.scramPassthroughValid = true → ∃ s, parseScramSecret cr.passwd = some s ∧
    c.sha256 cr.scramClientKey = s.storedKey ∧ cr.scramServerKey = s.serverKey ∧
    cr.scramClientKey.length = scramKeyLen
  cached : ∀ v, cr.verifier = some v → v.scramAdhoc = false → parseScramSecret cr.passwd =
    some ⟨v.scramIterations, v.scramSaltKey, v.scramStoredKey, cr.scramServerKey⟩

/-- An exchange goes on with the keys of a secret, unless they were made up for it. -/
def OfSecret (st : ScramState) (passwd : Bytes) : Prop :=
  st.adhoc = false → parseScramSecret passwd =
    some ⟨st.iterations, st.encodedSalt, st.storedKey, st.serverKey⟩

theorem PassOk.of_none {cr : Credentials} (hverifier : cr.verifier = none)
    (hvalid : cr.scramPassthroughValid = false) : PassOk c cr :=
  ⟨fun h => (nomatch hvalid.symm.trans h), fun _ hv => nomatch hverifier.symm.trans hv⟩

theorem ofSecret_of_isVerifier {st : ScramState} {passwd : Bytes}
    (hkeys : IsVerifier c passwd st.iterations st.encodedSalt st.storedKey st.serverKey)
    (hplain : getPasswordType passwd = .plaintext → st.adhoc = true) : OfSecret st passwd := by
  intro hno
  rw [IsVerifier, scramSha256_of_not_adhoc hkeys hplain hno] at hkeys
  exact hkeys

/-- Of a secret there is only one ServerKey. -/
theorem serverKey_eq {st : ScramState} {passwd : Bytes} {s : ScramSecret}
    (hkeys : IsVerifier c passwd st.iterations st.encodedSalt st.storedKey st.serverKey)
    (hsecret : parseScramSecret passwd = some s) : st.serverKey = s.serverKey := by
  cases htype : getPasswordType passwd with
  | md5 =>
    rw [IsVerifier, htype] at hkeys
    exact hkeys.elim
  | plaintext =>
    unfold getPasswordType at htype
    rw [hsecret] at htype
    split at htype <;> cases htype
  | scramSha256 =>
    rw [IsVerifier, htype] at hkeys
    rw [← Option.some.inj (hkeys.symm.trans hsecret)]

theorem PassOk.scramClientFirst {cr cr' : Credentials} (h : PassOk c cr)
    (hreal : cr.mockAuth = false) {env : ScramEnv} {st st' : ScramState} {data : Bytes}
    (hfirst : scramClientFirst c env cr st data = some (st', cr')) :
    PassOk c cr' ∧ cr'.passwd = cr.passwd ∧ OfSecret st' cr.passwd := by
  obtain ⟨st₁, st₂, hread, hsecret, rfl⟩ := scramClientFirst_real hreal hfirst
  rcases secretFor_cases hsecret with
    ⟨v, hv, rfl, hadhoc, hiter, hsalt, hstored, hserver⟩ | ⟨hv, hkeys, -, hplain, hcr⟩
  · refine ⟨h, rfl, fun hno => ?_⟩
    have hcached := h.cached v hv (hadhoc.symm.trans hno)
    rw [← hiter, ← hsalt, ← hstored, ← hserver] at hcached
    exact hcached
  · have hof := ofSecret_of_isVerifier hkeys hplain
    refine ⟨?_, by rw [hcr]; split <;> rfl, hof⟩
    rw [hcr]
    split
    · exact h
    · refine ⟨fun hvalid => ?_, fun v hv' hno => ?_⟩
      · obtain ⟨s, hs, hclient, -, hlength⟩ := h.valid hvalid
        exact ⟨s, hs, hclient, serverKey_eq hkeys hs, hlength⟩
      · cases hv'
        exact hof hno

/-- Everything that writes no password keeps both. -/
theorem passRules : KeyRules c (PassOk c) OfSecret where
  blank h := .of_none h.verifier h.noKeys
  first h hreal hfirst := h.scramClientFirst hreal hfirst
  save h hst hkept hhash hlength := by
    have hsecret := hst hkept
    refine ⟨fun _ => ⟨_, hsecret, hhash, rfl, hlength⟩, fun v hv hno => ?_⟩
    have hcached := h.cached v hv hno
    have hsame := ScramSecret.mk.inj (Option.some.inj (hcached.symm.trans hsecret))
    rw [hsame.2.2.2] at hcached
    exact hcached

variable {r : CredRef}

namespace LoginWorld

variable {w : LoginWorld} {i : Nat}

/-! ### The world -/

/-- What must not happen to credentials: that they get another password while keys of the old
one are there, passed through, cached or in an exchange.  The keys that are cached for a user
do not matter if a file is read that names it. -/
def PassSafe (r : CredRef) (w : LoginWorld) (e : LoginEvent) : Prop :=
  passwdAt (w.writtenUsers e) r = passwdAt w.users r ∨
    (∀ cr, w.users.find r = some cr → cr.scramPassthroughValid = false ∧
      (NamedBy e r ∨ ∀ v, cr.verifier = some v → v.scramAdhoc = true)) ∧
    ∀ i, MidExchangeAs (w.clients i) r → (w.clients i).scramState.adhoc = true

/-- The password of credentials is another one, and no keys are there that matter. -/
theorem passOk_of_safe {e : LoginEvent} (hsafe : PassSafe r w e)
    (h : KeysOkAt (PassOk c) OfSecret r w) : WriteOk (PassOk c) OfSecret r w e := by
  rcases hsafe with hsame | ⟨hfree, hmid⟩
  · refine ⟨fun cr hcr => ?_, fun i hm => by rw [hsame]; exact h.exchange i hm⟩
    rcases rewritten_writtenUsers w e cr hcr with ⟨hnone, hno⟩ |
      ⟨old, hold, hclient, hserver, hvalid, hverifier⟩
    · exact .of_none hnone hno
    have hpasswd : cr.passwd = old.passwd := by
      rw [passwdAt_of_find hcr, passwdAt_of_find hold] at hsame
      exact hsame
    have hok := h.cached old hold
    refine ⟨fun hv => ?_, fun v hv hno => ?_⟩
    · rw [hpasswd, hclient, hserver]
      exact hok.valid (hvalid.symm.trans hv)
    · rw [hpasswd, hserver]
      rcases hverifier with hgone | hsame
      · cases hgone.symm.trans hv
      · exact hok.cached v (hsame.symm.trans hv) hno
  · refine ⟨fun cr hcr => ?_, fun i hm hno => nomatch (hmid i hm).symm.trans hno⟩
    rcases rewritten_writtenUsers w e cr hcr with ⟨hnone, hno⟩ |
      ⟨old, hold, hclient, hserver, hvalid, hverifier⟩
    · exact .of_none hnone hno
    obtain ⟨hno, hcached⟩ := hfree old hold
    refine ⟨fun hv => (nomatch hno.symm.trans (hvalid.symm.trans hv)), fun v hv hadhoc => ?_⟩
    rcases hcached with hnamed | hmade
    · cases (hnamed.verifier hcr).symm.trans hv
    rcases hverifier with hgone | hsame
    · cases hgone.symm.trans hv
    · cases (hmade v (hsame.symm.trans hv)).symm.trans hadhoc

/-- **Keys that are passed through are those of the stored secret**, in every run in which
nothing happens that `PassSafe` excludes: whoever holds that secret accepts the proof pgbouncer
computes, and pgbouncer accepts the signature of whoever does. -/
theorem passThrough_current {w₀ : LoginWorld} (hinit : Initial w₀)
    (hnew : ∀ cr, w₀.users.find r = some cr → cr.scramPassthroughValid = false)
    {es : List LoginEvent} (hmeets : Meets (PassSafe r) cfg c w₀ es)
    (hrun : w₀.run cfg c es = some w) (halive : w.died = false) {cr : Credentials}
    (hcr : w.users.find r = some cr) (hvalid : cr.scramPassthroughValid = true) :
    ∃ s, parseScramSecret cr.passwd = some s ∧ c.sha256 cr.scramClientKey = s.storedKey ∧
      cr.scramServerKey = s.serverKey ∧
      ∀ (st : ScramState) (cl : ScramClientState), st.storedKey = s.storedKey →
        st.serverKey = s.serverKey → cl.authMessage = authMessage st →
        verifyClientProof c st (calculateClientProof c cl cr).2 = some cr.scramClientKey ∧
        verifyServerSignature c cl cr (c.hmac st.serverKey (authMessage st)) = true := by
  have hkeys : KeysOkAt (PassOk c) OfSecret r w := hinit.keysOkAt_of_run passRules
    (fun cr hcr => .of_none (hinit.users _ _ hcr).2.2.1 (hnew cr hcr))
    (fun _ _ => passOk_of_safe) hmeets hrun halive
  obtain ⟨s, hs, hclient, hserver, hlength⟩ := (hkeys.cached cr hcr).valid hvalid
  refine ⟨s, hs, hclient, hserver, fun st cl hstored hkey hmessage => ⟨?_, ?_⟩⟩
  · simp only [calculateClientProof, hvalid, if_true, verifyClientProof, hmessage, hclient,
      hstored]
    rw [xorBytes_xorBytes _ _ (hlength.trans (c.hmac_length _ _).symm), if_pos hclient]
  · simp only [verifyServerSignature, hvalid, if_true, Option.any_some, hmessage, hserver, hkey,
      decide_true]

/-- A line of the auth_file with a SCRAM secret: the keys are those of a password with the salt
`"s"` and one iteration. -/
def secretLine (c : Crypto) (password : Bytes) : Bytes :=
  let salted := c.saltedPassword (c.saslprep password) [ch 's'] 1
  text "\"u\" \"SCRAM-SHA-256$1:" ++ Base64.encode [ch 's'] ++ [ch '$'] ++
    Base64.encode (c.sha256 (c.clientKey salted)) ++ [ch ':'] ++
    Base64.encode (c.serverKey salted) ++ text "\"\n"

/-- A login with the password `"p"` against such a secret. -/
def loginWithSecret (i : Nat) : List LoginEvent :=
  exchangeWith (clientProof .masking (text "p") [ch 's'] 1
    (text "n=,r=x,r=x,s=cw==,i=1,c=biws,r=x")) i

/-- The keys that are passed through after one login. -/
theorem passThrough_current_login : ∃ w cr s,
    noUsers.run (loginsTo .scramSha256) .masking
      (.loadAuthFile (secretLine .masking (text "p")) :: loginWithSecret 0) = some w ∧
    w.users.find (.user (text "u")) = some cr ∧ cr.scramPassthroughValid = true ∧
    parseScramSecret cr.passwd = some s ∧ Crypto.masking.sha256 cr.scramClientKey = s.storedKey ∧
    cr.scramServerKey = s.serverKey := by
  have hrun : (noUsers.run (loginsTo .scramSha256) .masking
      (.loadAuthFile (secretLine .masking (text "p")) :: loginWithSecret 0)).any (fun w =>
      w.died = false ∧
      (w.users.find (.user (text "u"))).any fun cr => cr.scramPassthroughValid = true) := by
    decide +kernel
  simp only [Option.any_eq_true, decide_eq_true_eq] at hrun
  obtain ⟨w, hw, halive, cr, hcr, hvalid⟩ := hrun
  have hmeets : Meets (PassSafe (.user (text "u"))) (loginsTo .scramSha256) .masking noUsers
      (.loadAuthFile (secretLine .masking (text "p")) :: loginWithSecret 0) :=
    ⟨.inr ⟨fun _ hcr => (nomatch hcr), fun _ hmid => absurd rfl hmid.running⟩,
      fun _ _ => ⟨.inl rfl, fun _ _ => ⟨.inl rfl, fun _ _ => ⟨.inl rfl, fun _ _ => ⟨.inl rfl,
        fun _ _ => trivial⟩⟩⟩⟩⟩
  obtain ⟨s, hs, hclient, hserver, -⟩ := passThrough_current initial_noUsers
    (fun _ hcr => nomatch hcr) hmeets hw halive hcr hvalid
  exact ⟨w, cr, s, hw, hcr, hvalid, hs, hclient, hserver⟩

/-- **The secret in the auth_file is replaced, and the keys of the old one are still passed
through.** -/
theorem passThrough_stale : ∃ w cr s,
    noUsers.run (loginsTo .scramSha256) .masking
      (.loadAuthFile (secretLine .masking (text "p")) :: loginWithSecret 0 ++
        [.loadAuthFile (secretLine .masking (text "q"))]) = some w ∧
    w.users.find (.user (text "u")) = some cr ∧ cr.scramPassthroughValid = true ∧
    parseScramSecret cr.passwd = some s ∧
    Crypto.masking.sha256 cr.scramClientKey ≠ s.storedKey := by
  have hrun : (noUsers.run (loginsTo .scramSha256) .masking
      (.loadAuthFile (secretLine .masking (text "p")) :: loginWithSecret 0 ++
        [.loadAuthFile (secretLine .masking (text "q"))])).any (fun w =>
      (w.users.find (.user (text "u"))).any fun cr => cr.scramPassthroughValid = true ∧
        (parseScramSecret cr.passwd).any fun s =>
          Crypto.masking.sha256 cr.scramClientKey ≠ s.storedKey) := by decide +kernel
  simp only [Option.any_eq_true, decide_eq_true_eq] at hrun
  obtain ⟨w, hw, cr, hcr, hvalid, s, hs, hne⟩ := hrun
  exact ⟨w, cr, s, hw, hcr, hvalid, hs, hne⟩

end LoginWorld

end PgBouncer
