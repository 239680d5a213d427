/-
The two halves of a SCRAM exchange.

pgbouncer is the server of such an exchange towards its clients and the client towards
its backends, and the two halves have little code in common.  Here they talk to each
other.  Both have to arrive at the same text to sign, and that is a matter of what each
reads back from the messages of the other; the keys come from the password on the one
side and from whatever is stored for the user on the other.
-/
import PgBouncer.Auth.ScramClient
import PgBouncer.Proofs.Scram
import Mathlib.Data.List.Infix

namespace PgBouncer

/-! ### Numbers -/

theorem isDigit_iff {x : UInt8} : isDigit x = true ↔ 48 ≤ x.toNat ∧ x.toNat ≤ 57 := by
  simp only [isDigit, Bool.and_eq_true, decide_eq_true_eq, UInt8.le_iff_toNat_le]
  exact Iff.rfl

theorem ch_toNat_of_isDigit {x : Char} (h : x.isDigit = true) :
    (ch x).toNat = x.toNat ∧ isDigit (ch x) = true := by
  have hrange : 48 ≤ x.toNat ∧ x.toNat ≤ 57 := by
    simp only [Char.isDigit, Bool.and_eq_true, decide_eq_true_eq, ge_iff_le,
      UInt32.le_iff_toNat_le] at h
    exact h
  have hnat : (ch x).toNat = x.toNat := by
    have hlt : x.toNat < 256 := by omega
    simpa [ch] using Nat.mod_eq_of_lt hlt
  exact ⟨hnat, isDigit_iff.2 (by rwa [hnat])⟩

theorem foldl_digits (l : List Char) (hl : ∀ x ∈ l, x.isDigit = true) (n : Nat) :
    (l.map ch).foldl (fun (n : Int) c => 10 * n + (c.toNat - 48)) n =
      (Nat.ofDigitChars 10 l n : Int) := by
  induction l generalizing n with
  | nil => rfl
  | cons x l ih =>
    obtain ⟨hx, hl⟩ := List.forall_mem_cons.1 hl
    have hnat := (ch_toNat_of_isDigit hx).1
    have hlow : 48 ≤ x.toNat := hnat ▸ (isDigit_iff.1 (ch_toNat_of_isDigit hx).2).1
    have hstep : (10 * (n : Int) + ((ch x).toNat - 48)) =
        ((10 * n + (x.toNat - 48) : Nat) : Int) := by
      rw [hnat]
      omega
    rw [List.map_cons, List.foldl_cons, hstep, ih hl]
    rfl

theorem isSpace_of_isDigit {x : UInt8} (h : isDigit x = true) : isSpace x = false := by
  have hrange := isDigit_iff.1 h
  by_contra hspace
  simp only [Bool.not_eq_false, isSpace, Bool.or_eq_true, beq_iff_eq, Bool.and_eq_true,
    decide_eq_true_eq, UInt8.le_iff_toNat_le] at hspace
  rcases hspace with rfl | ⟨-, hle⟩
  · exact absurd hrange (by decide)
  · have hle : x.toNat ≤ 13 := hle
    omega

theorem isDigit_of_mem_decimal {n : Int} {x : UInt8} (h : x ∈ decimal n) : isDigit x = true := by
  obtain ⟨y, hy, rfl⟩ := List.mem_map.1 h
  exact (ch_toNat_of_isDigit (Nat.isDigit_of_mem_toDigits (by decide) (by decide) hy)).2

/-- What `%u` prints, `strtol` reads. -/
theorem strtol_decimal {n : Int} (hlow : 0 ≤ n) (hhigh : n < 2 ^ 31) :
    strtol (decimal n) = some n := by
  obtain ⟨m, rfl⟩ := Int.eq_ofNat_of_zero_le hlow
  have hdecimal : decimal (m : Int) = (Nat.toDigits 10 m).map ch := by
    have hmod : ((m : Int) % 2 ^ 32).toNat = m := by omega
    rw [decimal, hmod]
  have hdigits : ∀ x ∈ Nat.toDigits 10 m, x.isDigit = true :=
    fun x hx => Nat.isDigit_of_mem_toDigits (by decide) (by decide) hx
  obtain ⟨x, l, hl⟩ := List.exists_cons_of_ne_nil (Nat.toDigits_ne_nil (n := m) (b := 10))
  have hfirst : isDigit (ch x) = true := (ch_toNat_of_isDigit (hdigits x (by simp [hl]))).2
  have hall : ((Nat.toDigits 10 m).map ch).all isDigit = true := by
    rw [List.all_eq_true, ← hdecimal]
    exact fun y hy => isDigit_of_mem_decimal hy
  have hvalue := foldl_digits _ hdigits 0
  rw [Nat.ofDigitChars_ten_toDigits] at hvalue
  have hnotSpace : isSpace (ch x) = false := isSpace_of_isDigit hfirst
  have hnotSign : ch x ≠ ch '-' ∧ ch x ≠ ch '+' := by
    have hrange := isDigit_iff.1 hfirst
    constructor <;> intro heq <;> rw [heq] at hrange <;> exact absurd hrange (by decide)
  have hskip : ((Nat.toDigits 10 m).map ch).dropWhile isSpace = (Nat.toDigits 10 m).map ch := by
    rw [hl, List.map_cons, List.dropWhile_cons, hnotSpace]
    rfl
  have hhead : ((Nat.toDigits 10 m).map ch).head? = some (ch x) := by rw [hl]; rfl
  have hempty : ((Nat.toDigits 10 m).map ch).isEmpty = false := by rw [hl]; rfl
  rw [hdecimal]
  unfold strtol
  simp only [hskip, hhead, Option.some.injEq, hnotSign.1, hnotSign.2, decide_false, Bool.or_self,
    Bool.false_eq_true, if_false, hempty, hall, Bool.not_true]
  have hvalue : ((Nat.toDigits 10 m).map ch).foldl (fun (n : Int) c => 10 * n + (c.toNat - 48)) 0 =
    (m : Int) := hvalue
  have hrange : -2 ^ 63 ≤ (m : Int) ∧ (m : Int) < 2 ^ 63 := by omega
  rw [hvalue, if_pos hrange]
  have hsmall : (m : Int).bmod (2 ^ 32) = m := Int.bmod_eq_of_le (by omega) (by omega)
  rw [hsmall]

/-! ### What is stored, and what is known -/

/-- The keys of a password. -/
def Crypto.salted (c : Crypto) (password salt : Bytes) (iterations : Int) : Bytes :=
  c.saltedPassword (c.saslprep password) salt iterations

/-- What the server half has stored for a user was made from a password. -/
inductive MadeFrom (c : Crypto) (env : ScramEnv) (password salt : Bytes) (iterations : Int)
    (user : Credentials) : Prop
  /-- The password itself, and nothing cached. -/
  | plaintext (kind : getPasswordType user.passwd = .plaintext) (uncached : user.verifier = none)
      (isPassword : user.passwd = password) (isSalt : env.salt = salt)
      (isIterations : env.iterations = iterations)
  /-- The verifier of an earlier exchange. -/
  | cached (v : CachedVerifier) (kind : getPasswordType user.passwd ≠ .md5)
      (isCached : user.verifier = some v) (isSalt : Base64.decode v.scramSaltKey = some salt)
      (isIterations : v.scramIterations = iterations)
      (storedKey : v.scramStoredKey = c.sha256 (c.clientKey (c.salted password salt iterations)))
      (serverKey : user.scramServerKey = c.serverKey (c.salted password salt iterations))
  /-- A SCRAM secret. -/
  | secret (s : ScramSecret) (kind : getPasswordType user.passwd = .scramSha256)
      (uncached : user.verifier = none) (isSecret : parseScramSecret user.passwd = some s)
      (isSalt : Base64.decode s.encodedSalt = some salt) (isIterations : s.iterations = iterations)
      (storedKey : s.storedKey = c.sha256 (c.clientKey (c.salted password salt iterations)))
      (serverKey : s.serverKey = c.serverKey (c.salted password salt iterations))

/-- What the client half has: the password, or the keys that were passed through. -/
inductive Knows (c : Crypto) (password salt : Bytes) (iterations : Int)
    (credentials : Credentials) : Prop
  | password (invalid : credentials.scramPassthroughValid = false)
      (isPassword : credentials.passwd = password)
  | keys (valid : credentials.scramPassthroughValid = true)
      (clientKey : credentials.scramClientKey = c.clientKey (c.salted password salt iterations))
      (serverKey : credentials.scramServerKey = c.serverKey (c.salted password salt iterations))

/-- The server half in the middle of an exchange, with the keys of a password. -/
structure HasKeys (c : Crypto) (password salt : Bytes) (iterations : Int) (st : ScramState) :
    Prop where
  isSalt : Base64.decode st.encodedSalt = some salt
  isIterations : st.iterations = iterations
  storedKey : st.storedKey = c.sha256 (c.clientKey (c.salted password salt iterations))
  serverKey : st.serverKey = c.serverKey (c.salted password salt iterations)

variable {c : Crypto} {env : ScramEnv} {password salt : Bytes} {iterations : Int}
  {user credentials : Credentials}

theorem MadeFrom.secretFor (h : MadeFrom c env password salt iterations user) (st : ScramState) :
    ∃ st' user', secretFor c env user st = some (st', user') ∧
      HasKeys c password salt iterations st' ∧ st'.cbindFlag = st.cbindFlag ∧
      st'.clientNonce = st.clientNonce ∧
      st'.clientFirstMessageBare = st.clientFirstMessageBare := by
  cases h with
  | plaintext kind uncached isPassword isSalt isIterations =>
    subst isPassword isSalt isIterations
    simp only [PgBouncer.secretFor, uncached, kind, Option.map_some]
    exact ⟨_, _, rfl, ⟨Base64.decode_encode _, rfl, rfl, rfl⟩, rfl, rfl, rfl⟩
  | cached v kind isCached isSalt isIterations storedKey serverKey =>
    simp only [PgBouncer.secretFor, isCached]
    exact ⟨_, _, rfl, ⟨isSalt, isIterations, storedKey, serverKey⟩, rfl, rfl, rfl⟩
  | secret s kind uncached isSecret isSalt isIterations storedKey serverKey =>
    simp only [PgBouncer.secretFor, uncached, kind, isSecret, Option.map_some]
    exact ⟨_, _, rfl, ⟨isSalt, isIterations, storedKey, serverKey⟩, rfl, rfl, rfl⟩

theorem MadeFrom.not_md5 (h : MadeFrom c env password salt iterations user) :
    getPasswordType user.passwd ≠ .md5 := by
  cases h with
  | plaintext kind => rw [kind]; decide
  | cached v kind => exact kind
  | secret s kind => rw [kind]; decide

/-! ### The messages, one by one -/

theorem readAttrValue_comma (a : UInt8) {v : Bytes} (rest : Bytes) (h : ∀ x ∈ v, x ≠ ch ',') :
    readAttrValue a (a :: ch '=' :: (v ++ ch ',' :: rest)) = some (v, rest) := by
  simp only [readAttrValue, and_self, if_true, attrValue_comma rest h]

theorem readAttrValue_last (a : UInt8) {v : Bytes} (h : ∀ x ∈ v, x ≠ ch ',') :
    readAttrValue a (a :: ch '=' :: v) = some (v, []) := by
  simp only [readAttrValue, and_self, if_true, attrValue_last h]

theorem encode_no_comma (bytes : Bytes) : ∀ x ∈ Base64.encode bytes, x ≠ ch ',' :=
  fun x hx => (Base64.encode_clean bytes x hx).1

/-- The first message: the server half reads the nonce of the client half. -/
theorem read_buildClientFirstMessage (rawNonce : Bytes) :
    readClientFirstMessage {} (cString (buildClientFirstMessage {} rawNonce).2) = some
      { cbindFlag := ch 'n', clientNonce := Base64.encode rawNonce
        clientFirstMessageBare :=
          ch 'n' :: ch '=' :: ch ',' :: ch 'r' :: ch '=' :: Base64.encode rawNonce } := by
  have hfirst : (buildClientFirstMessage {} rawNonce).2 = ch 'n' :: ch ',' :: ch ',' ::
      ch 'n' :: ch '=' :: ch ',' :: ch 'r' :: ch '=' :: Base64.encode rawNonce := rfl
  have hzero : ∀ x ∈ (buildClientFirstMessage {} rawNonce).2, x ≠ 0 := by
    have hfixed : ∀ x ∈ text "n,,n=,r=", x ≠ 0 := List.all_iff_forall_prop.1 rfl
    intro x hx
    exact (List.mem_append.1 hx).elim (hfixed x) fun hx => (Base64.encode_clean rawNonce x hx).2
  have hprint : isScramPrintable (Base64.encode rawNonce) = true := by
    rw [isScramPrintable, List.all_eq_true]
    intro x hx
    have hrange := Base64.encode_printable rawNonce x hx
    simp only [Bool.and_eq_true, decide_eq_true_eq, bne_iff_ne]
    exact ⟨hrange, encode_no_comma rawNonce x hx⟩
  have hname : readAttrValue (ch 'n') (ch 'n' :: ch '=' :: ch ',' :: ch 'r' :: ch '=' ::
      Base64.encode rawNonce) = some ([], ch 'r' :: ch '=' :: Base64.encode rawNonce) :=
    readAttrValue_comma (ch 'n') (v := []) _ (by simp)
  have hnonce := readAttrValue_last (ch 'r') (encode_no_comma rawNonce)
  rw [cString_eq_self hzero, hfirst]
  have hplain : ¬ some (ch 'n') = some (ch 'm') := by decide
  simp [readClientFirstMessage, hplain, hname, hnonce, hprint, onlyAttrs]

/-- What the client half has to go on with after its first message. -/
structure SameExchange (cl : ScramClientState) (st : ScramState) : Prop where
  clientNonce : cl.clientNonce = some st.clientNonce
  bare : cl.clientFirstMessageBare = st.clientFirstMessageBare
  flag : st.cbindFlag = ch 'n'
  nonceClean : ∀ x ∈ st.clientNonce, x ≠ ch ',' ∧ x ≠ 0

/-- The second message: the client half reads salt and iterations. -/
theorem read_serverFirst {cl : ScramClientState} {st : ScramState} (hmatch : SameExchange cl st)
    (hkeys : HasKeys c password salt iterations st) (hlow : 1 ≤ iterations)
    (hhigh : iterations ≤ scramMaxIterations) :
    readServerFirstMessage cl (cString (serverFirst env st).serverFirstMessage) =
      some { cl with
        serverFirstMessage := some (serverFirst env st).serverFirstMessage
        serverNonce := st.clientNonce ++ Base64.encode env.nonce, salt, iterations } := by
  have hnonce : ∀ x ∈ st.clientNonce ++ Base64.encode env.nonce, x ≠ ch ',' ∧ x ≠ 0 := by
    intro x hx
    exact (List.mem_append.1 hx).elim (hmatch.nonceClean x) (Base64.encode_clean _ x)
  have hsalt := Base64.decode_clean hkeys.isSalt
  have hdigits : ∀ x ∈ decimal st.iterations, x ≠ ch ',' ∧ x ≠ 0 := by
    intro x hx
    have hrange := isDigit_iff.1 (isDigit_of_mem_decimal hx)
    constructor <;> rintro rfl <;> exact absurd hrange (by decide)
  have hmessage : (serverFirst env st).serverFirstMessage =
      ch 'r' :: ch '=' :: (st.clientNonce ++ Base64.encode env.nonce ++ ch ',' :: ch 's' ::
        ch '=' :: (st.encodedSalt ++ ch ',' :: ch 'i' :: ch '=' :: decimal st.iterations)) := by
    simp [serverFirst]
  have hzero : ∀ x ∈ (serverFirst env st).serverFirstMessage, x ≠ 0 := by
    have hfixed : ∀ x ∈ [ch 'r', ch '=', ch ',', ch 's', ch 'i'], x ≠ 0 :=
      List.all_iff_forall_prop.1 rfl
    intro x hx
    rw [hmessage] at hx
    grind
  have hnumber : strtol (decimal st.iterations) = some iterations := by
    rw [hkeys.isIterations]
    exact strtol_decimal (by omega) (by simp only [scramMaxIterations] at hhigh; omega)
  rw [cString_eq_self hzero]
  have hr := readAttrValue_comma (ch 'r') (ch 's' :: ch '=' :: (st.encodedSalt ++ ch ',' ::
    ch 'i' :: ch '=' :: decimal st.iterations)) fun x hx => (hnonce x hx).1
  have hs := readAttrValue_comma (ch 's') (ch 'i' :: ch '=' :: decimal st.iterations)
    fun x hx => (hsalt x hx).1
  have hi := readAttrValue_last (ch 'i') fun x hx => (hdigits x hx).1
  rw [← hmessage] at hr
  simp [readServerFirstMessage, hmatch.clientNonce, hr, hs, hi, hkeys.isSalt, hnumber,
    Int.not_lt.2 hlow, Int.not_lt.2 hhigh]

/-- The keys of the client half are those of the password, wherever they come from. -/
theorem Knows.calculateClientProof (h : Knows c password salt iterations credentials)
    {cl : ScramClientState} (hsalt : cl.salt = salt) (hiterations : cl.iterations = iterations) :
    ∃ salted, calculateClientProof c cl credentials = ({ cl with saltedPassword := salted },
        xorBytes (c.clientKey (c.salted password salt iterations))
          (c.hmac (c.sha256 (c.clientKey (c.salted password salt iterations))) cl.authMessage)) ∧
      ∀ signature, verifyServerSignature c { cl with saltedPassword := salted } credentials
        signature = decide (c.hmac (c.serverKey (c.salted password salt iterations))
          cl.authMessage = signature) := by
  cases h with
  | password invalid isPassword =>
    subst hsalt hiterations isPassword
    refine ⟨some (c.salted credentials.passwd cl.salt cl.iterations), ?_, fun signature => ?_⟩
    · simp only [PgBouncer.calculateClientProof, invalid, Bool.false_eq_true, if_false]
      rfl
    · simp only [verifyServerSignature, invalid, Bool.false_eq_true, if_false, Option.map_some,
        Option.any_some]
      rfl
  | keys valid clientKey serverKey =>
    refine ⟨cl.saltedPassword, ?_, fun signature => ?_⟩
    · simp only [PgBouncer.calculateClientProof, valid, if_true, clientKey]
    · simp only [verifyServerSignature, valid, if_true, Option.any_some, serverKey]

/-- The third message, with the proof in it. -/
theorem buildClientFinalMessage_eq (h : Knows c password salt iterations credentials)
    {cl : ScramClientState} (hsalt : cl.salt = salt) (hiterations : cl.iterations = iterations)
    (hshort : cl.serverNonce.length ≤ 48) :
    ∃ salted, ∀ cl', cl' = { cl with
        clientFinalMessageWithoutProof := clientFinalWithoutProof cl.serverNonce
        saltedPassword := salted } →
      buildClientFinalMessage c cl credentials = some (cl', clientFinal cl.serverNonce
        (xorBytes (c.clientKey (c.salted password salt iterations))
          (c.hmac (c.sha256 (c.clientKey (c.salted password salt iterations)))
            cl'.authMessage))) ∧
      ∀ signature, verifyServerSignature c cl' credentials signature =
        decide (c.hmac (c.serverKey (c.salted password salt iterations)) cl'.authMessage =
          signature) := by
  have htake : (text "c=biws,r=" ++ cl.serverNonce).take 511 =
      clientFinalWithoutProof cl.serverNonce := by
    have hsame : text "c=biws,r=" ++ cl.serverNonce = clientFinalWithoutProof cl.serverNonce := rfl
    rw [hsame, List.take_of_length_le]
    simp only [clientFinalWithoutProof, cbindNone, List.length_append, List.length_cons,
      List.length_nil]
    omega
  obtain ⟨salted, hproof, hverify⟩ := @Knows.calculateClientProof _ _ _ _ _ h
    { cl with clientFinalMessageWithoutProof := clientFinalWithoutProof cl.serverNonce }
    hsalt hiterations
  refine ⟨salted, ?_⟩
  rintro cl' rfl
  refine ⟨?_, hverify⟩
  simp only [buildClientFinalMessage, htake, hproof]
  rw [if_neg]
  · rfl
  · have hlength : ∀ k m b, (xorBytes k (c.hmac m b)).length ≤ 32 := by
      intro k m b
      rw [length_xorBytes, c.hmac_length]
      exact Nat.min_le_right _ _
    have htext : (text ",p=").length = 3 := rfl
    have hcode := hlength (c.clientKey (c.salted password salt iterations))
      (c.sha256 (c.clientKey (c.salted password salt iterations)))
      ({ cl with clientFinalMessageWithoutProof :=
        clientFinalWithoutProof cl.serverNonce } : ScramClientState).authMessage
    simp only [clientFinalWithoutProof, cbindNone, List.length_append, List.length_cons,
      List.length_nil, htext, Base64.length_encode] at hcode ⊢
    omega

/-- The last message: the client half reads the signature. -/
theorem read_serverFinalMessage (st : ScramState) :
    readServerFinalMessage (cString (LoginCtx.serverFinalMessage c st)) =
      some (c.hmac st.serverKey (authMessage st)) := by
  have hzero : ∀ x ∈ LoginCtx.serverFinalMessage c st, x ≠ 0 := by
    have hfixed : ∀ x ∈ [ch 'v', ch '='], x ≠ 0 := List.all_iff_forall_prop.1 rfl
    intro x hx
    exact (List.mem_append.1 hx).elim (hfixed x) fun hx => (Base64.encode_clean _ x hx).2
  have hlength : (c.hmac st.serverKey (authMessage st)).length = scramKeyLen := c.hmac_length _ _
  have hv := readAttrValue_last (ch 'v')
    (encode_no_comma (c.hmac st.serverKey (authMessage st)))
  have hhead : ¬ some (ch 'v') = some (ch 'e') := by decide
  rw [cString_eq_self hzero]
  simp only [LoginCtx.serverFinalMessage, List.cons_append, List.nil_append, readServerFinalMessage,
    List.head?_cons, if_neg hhead, hv, Option.bind_some, decodeKey, Base64.decode_encode,
    Option.filter_some, hlength, decide_true, if_true]

/-! ### The whole exchange -/

/-- The first two messages. -/
theorem MadeFrom.scramClientFirst (h : MadeFrom c env password salt iterations user)
    (hmock : user.mockAuth = false) (rawNonce : Bytes) :
    ∃ st user', scramClientFirst c env user {} (buildClientFirstMessage {} rawNonce).2 =
        some (serverFirst env st, user') ∧ HasKeys c password salt iterations st ∧
      SameExchange (buildClientFirstMessage {} rawNonce).1 st ∧
      st.clientNonce = Base64.encode rawNonce := by
  have hread := read_buildClientFirstMessage rawNonce
  obtain ⟨st, user', hsecret, hkeys, hflag, hnonce, hbare⟩ := h.secretFor
    { cbindFlag := ch 'n', clientNonce := Base64.encode rawNonce
      clientFirstMessageBare :=
        ch 'n' :: ch '=' :: ch ',' :: ch 'r' :: ch '=' :: Base64.encode rawNonce }
  refine ⟨st, user', ?_, hkeys, ⟨?_, ?_, hflag, ?_⟩, hnonce⟩
  · simp [PgBouncer.scramClientFirst, hread, hmock, h.not_md5, hsecret]
  · rw [hnonce]
    rfl
  · rw [hbare]
    rfl
  · rw [hnonce]
    exact Base64.encode_clean rawNonce

theorem scramClientFinal_eq_none {st read : ScramState} {data nonce proof : Bytes}
    (hread : readClientFinalMessage st (cString data) = some (read, nonce, proof))
    (h : some nonce ≠ st.serverNonce.map (st.clientNonce ++ ·) ∨
      c.sha256 (xorBytes proof (c.hmac st.storedKey (authMessage read))) ≠ st.storedKey) :
    scramClientFinal c st data = none := by
  by_contra hsome
  obtain ⟨st', hst'⟩ := Option.ne_none_iff_exists'.1 hsome
  obtain ⟨read', nonce', proof', key, hread', hnonce, hkey, -⟩ := scramClientFinal_cases hst'
  rw [hread] at hread'
  cases hread'
  obtain ⟨⟨message, rfl⟩, -⟩ := readClientFinalMessage_state hread
  rcases h with h | h
  · apply h
    simp only [verifyFinalNonce] at hnonce
    split at hnonce
    · rename_i n hn
      rw [hn, Option.map_some, of_decide_eq_true hnonce]
    · cases hnonce
  · simp only [verifyClientProof] at hkey
    split at hkey
    · rename_i hhash
      exact h hhash
    · cases hkey

/-- **The two halves agree.**  An exchange between them is accepted by both if what the
server half has stored was made from what the client half knows, for any number of
iterations the client half is prepared to do; the server half then has the ClientKey of
the password.  It rejects a final message with another nonce or with a proof that does not
hash to the StoredKey, and whatever it accepts has shown a key with the hash of the
password's. -/
theorem scram_roles_agree (c : Crypto) (env : ScramEnv) (password salt : Bytes) (iterations : Int)
    (user credentials : Credentials) (rawNonce : Bytes) (hmock : user.mockAuth = false)
    (hmade : MadeFrom c env password salt iterations user)
    (hknows : Knows c password salt iterations credentials) (hlow : 1 ≤ iterations)
    (hhigh : iterations ≤ scramMaxIterations) (hraw : rawNonce.length = scramRawNonceLen)
    (hserver : env.nonce.length = scramRawNonceLen) :
    (∃ st user' cl cl' final st' signature,
      scramClientFirst c env user {} (buildClientFirstMessage {} rawNonce).2 = some (st, user') ∧
      readServerFirstMessage (buildClientFirstMessage {} rawNonce).1
        (cString st.serverFirstMessage) = some cl ∧
      buildClientFinalMessage c cl credentials = some (cl', final) ∧
      scramClientFinal c st final = some st' ∧
      readServerFinalMessage (cString (LoginCtx.serverFinalMessage c st')) = some signature ∧
      verifyServerSignature c cl' credentials signature = true ∧
      st'.clientKey = c.clientKey (c.salted password salt iterations) ∧
      ∀ data st'', scramClientFinal c st data = some st'' →
        c.sha256 st''.clientKey = c.sha256 (c.clientKey (c.salted password salt iterations))) ∧
    ∀ (st read : ScramState) (data nonce proof : Bytes),
      readClientFinalMessage st (cString data) = some (read, nonce, proof) →
      some nonce ≠ st.serverNonce.map (st.clientNonce ++ ·) ∨
        c.sha256 (xorBytes proof (c.hmac st.storedKey (authMessage read))) ≠ st.storedKey →
      scramClientFinal c st data = none := by
  refine ⟨?_, fun st read data nonce proof => scramClientFinal_eq_none⟩
  obtain ⟨st, user', hfirst, hkeys, hmatch, hnonce⟩ := hmade.scramClientFirst hmock rawNonce
  have hread := @read_serverFirst _ env _ _ _ _ _ hmatch hkeys hlow hhigh
  obtain ⟨cl, hcl⟩ : ∃ cl, cl = { (buildClientFirstMessage {} rawNonce).1 with
      serverFirstMessage := some (serverFirst env st).serverFirstMessage
      serverNonce := st.clientNonce ++ Base64.encode env.nonce, salt, iterations } := ⟨_, rfl⟩
  rw [← hcl] at hread
  have hserverNonce : cl.serverNonce = st.clientNonce ++ Base64.encode env.nonce := by rw [hcl]
  have hshort : cl.serverNonce.length ≤ 48 := by
    rw [hserverNonce, List.length_append, hnonce, Base64.length_encode, Base64.length_encode, hraw,
      hserver]
    decide
  have hclean : ∀ x ∈ st.clientNonce ++ Base64.encode env.nonce, x ≠ ch ',' ∧ x ≠ 0 := by
    intro x hx
    exact (List.mem_append.1 hx).elim (hmatch.nonceClean x) (Base64.encode_clean _ x)
  obtain ⟨salted, hbuild⟩ := buildClientFinalMessage_eq hknows (by rw [hcl]) (by rw [hcl]) hshort
  obtain ⟨cl', hcl'⟩ : ∃ cl', cl' = { cl with
      clientFinalMessageWithoutProof := clientFinalWithoutProof cl.serverNonce
      saltedPassword := salted } := ⟨_, rfl⟩
  obtain ⟨hbuild, hverify⟩ := hbuild cl' hcl'
  obtain ⟨read, hreadEq⟩ : ∃ read, read = { serverFirst env st with
      clientFinalMessageWithoutProof :=
        clientFinalWithoutProof (st.clientNonce ++ Base64.encode env.nonce) } := ⟨_, rfl⟩
  -- both sides sign the same text
  have hsame : cl'.authMessage = authMessage read := by
    rw [hcl', hreadEq, hcl]
    simp only [ScramClientState.authMessage, authMessage, Option.getD_some, hmatch.bare]
    rfl
  have hfinal := @scramClientFinal_clientFinal c (serverFirst env st) read
    (Base64.encode env.nonce) (c.clientKey (c.salted password salt iterations)) hmatch.flag rfl
    hclean (c.hmac_length _ _) hkeys.storedKey.symm hreadEq
  rw [hsame] at hbuild hverify
  rw [hserverNonce, ← hkeys.storedKey] at hbuild
  refine ⟨_, user', cl, cl', _, _, _, hfirst, hread, hbuild, hfinal, read_serverFinalMessage _, ?_,
    rfl, ?_⟩
  · rw [hverify, decide_eq_true_eq, ← hkeys.serverKey, hreadEq]
    rfl
  · intro data st'' haccept
    obtain ⟨read, nonce, proof, key, hr, -, hkey, rfl⟩ := scramClientFinal_cases haccept
    obtain ⟨⟨message, rfl⟩, hlength⟩ := readClientFinalMessage_state hr
    rw [← hkeys.storedKey]
    exact (verifyClientProof_key hlength hkey).1

def zeroNonce : Bytes := List.replicate scramRawNonceLen 0

def rounds (n : Int) : ScramEnv :=
  { salt := [ch 's'], nonce := zeroNonce, mockNonce := text "mock", iterations := n }

theorem scram_roles_agree_one_round :
    ∃ st user' cl cl' final st' signature,
      scramClientFirst .masking (rounds 1) { name := text "u", passwd := text "p" } {}
        (buildClientFirstMessage {} zeroNonce).2 = some (st, user') ∧
      readServerFirstMessage (buildClientFirstMessage {} zeroNonce).1
        (cString st.serverFirstMessage) = some cl ∧
      buildClientFinalMessage .masking cl { name := text "u", passwd := text "p" } =
        some (cl', final) ∧
      scramClientFinal .masking st final = some st' ∧
      readServerFinalMessage (cString (LoginCtx.serverFinalMessage .masking st')) =
        some signature ∧
      verifyServerSignature .masking cl' { name := text "u", passwd := text "p" } signature =
        true := by
  have h := scram_roles_agree .masking (rounds 1) (text "p") [ch 's'] 1
    { name := text "u", passwd := text "p" } { name := text "u", passwd := text "p" } zeroNonce rfl
    (.plaintext (by decide) rfl rfl rfl rfl) (.password rfl rfl) (by decide) (by decide)
    rfl rfl
  obtain ⟨⟨st, user', cl, cl', final, st', signature, hfirst, hread, hbuild, hfinal, hsignature,
    hverify, -⟩, -⟩ := h
  exact ⟨st, user', cl, cl', final, st', signature, hfirst, hread, hbuild, hfinal, hsignature,
    hverify⟩

/-- With `scram_iterations` one above the limit, the client half gives up on the second
message, whatever the password. -/
theorem too_many_iterations :
    ∃ user credentials, user.mockAuth = false ∧
      MadeFrom .masking (rounds 1000001) (text "p") [ch 's'] 1000001 user ∧
      Knows .masking (text "p") [ch 's'] 1000001 credentials ∧
      zeroNonce.length = scramRawNonceLen ∧ (rounds 1000001).nonce.length = scramRawNonceLen ∧
      ∃ st user', scramClientFirst .masking (rounds 1000001) user {}
          (buildClientFirstMessage {} zeroNonce).2 = some (st, user') ∧
        readServerFirstMessage (buildClientFirstMessage {} zeroNonce).1
          (cString st.serverFirstMessage) = none := by
  have hmessage : (scramClientFirst .masking (rounds 1000001)
      { name := text "u", passwd := text "p" } {} (buildClientFirstMessage {} zeroNonce).2).map
      (fun r => readServerFirstMessage (buildClientFirstMessage {} zeroNonce).1
        (cString r.1.serverFirstMessage)) = some none := by decide
  obtain ⟨⟨st, user'⟩, hfirst, hread⟩ := Option.map_eq_some_iff.1 hmessage
  exact ⟨{ name := text "u", passwd := text "p" }, { name := text "u", passwd := text "p" }, rfl,
    .plaintext (by decide) rfl rfl rfl rfl, .password rfl rfl, rfl, rfl, st, user', hfirst,
    hread⟩

end PgBouncer
