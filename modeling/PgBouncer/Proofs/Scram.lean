/-
Which passwords a client can get past.

A SCRAM exchange is decided by one comparison: the key recovered from the client's
proof is hashed and compared with the StoredKey.  The signature the proof is combined
with covers the whole exchange except the proof itself, so whoever has a key with the
right hash can write the two messages that are accepted.  That is all a client needs,
and `canPass_scram_iff` says so.

An empty password is a password like any other for the SCRAM half, while
`check_client_passwd` refuses it; and the password that stands for NULL in the row of an
auth_query is the three letters `md5`, which is no MD5 secret but a password in plain
text.
-/
import Mathlib.Data.Bool.AllAny
import Mathlib.Data.List.TakeWhile
import PgBouncer.Auth.LoginWorld

namespace PgBouncer

/-! ### Bytes -/

theorem xorBytes_xorBytes (a b : Bytes) (h : a.length = b.length) :
    xorBytes (xorBytes a b) b = a := by
  induction a generalizing b with
  | nil => simp [xorBytes]
  | cons x a ih =>
    cases b with
    | nil => simp at h
    | cons y b =>
      have hrest : xorBytes (xorBytes a b) b = a := ih b (by simpa using h)
      simp only [xorBytes, List.zipWith_cons_cons] at hrest ⊢
      rw [hrest, UInt8.xor_assoc, UInt8.xor_self, UInt8.xor_zero]

theorem length_xorBytes (a b : Bytes) : (xorBytes a b).length = min a.length b.length := by
  simp [xorBytes]

theorem cString_eq_self {b : Bytes} (h : ∀ x ∈ b, x ≠ 0) : cString b = b := by
  rw [cString, List.takeWhile_eq_self_iff]
  intro x hx
  simpa using h x hx

/-! ### Attributes -/

theorem attrValue_comma {v : Bytes} (rest : Bytes) (h : ∀ x ∈ v, x ≠ ch ',') :
    attrValue (v ++ ch ',' :: rest) = (v, rest) := by
  have hall : ∀ x ∈ v, (x != ch ',') = true := by simpa using h
  simp [attrValue, List.takeWhile_append_of_pos hall, List.dropWhile_append_of_pos hall]

theorem attrValue_last {v : Bytes} (h : ∀ x ∈ v, x ≠ ch ',') : attrValue v = (v, []) := by
  have hall : ∀ x ∈ v, (x != ch ',') = true := by simpa using h
  simp [attrValue, List.takeWhile_eq_self_iff.mpr hall, List.dropWhile_eq_nil_iff.mpr hall]

/-! ### The client's side of an exchange -/

/-- `"n,,n=,r=x"`. -/
def clientFirst : Bytes :=
  [ch 'n', ch ',', ch ',', ch 'n', ch '=', ch ',', ch 'r', ch '=', ch 'x']

/-- What the server has taken from `clientFirst`. -/
def afterClientFirst : ScramState :=
  { cbindFlag := ch 'n', clientNonce := [ch 'x']
    clientFirstMessageBare := [ch 'n', ch '=', ch ',', ch 'r', ch '=', ch 'x'] }

theorem read_clientFirst :
    readClientFirstMessage {} (cString clientFirst) = some afterClientFirst := by
  decide

/-- The final message up to the comma in front of the proof. -/
def clientFinalWithoutProof (nonce : Bytes) : Bytes :=
  [ch 'c', ch '='] ++ cbindNone ++ [ch ',', ch 'r', ch '='] ++ nonce

def clientFinal (nonce proof : Bytes) : Bytes :=
  clientFinalWithoutProof nonce ++ [ch ',', ch 'p', ch '='] ++ Base64.encode proof

/-- The server reads back what the client wrote. -/
theorem read_clientFinal {st : ScramState} {nonce proof : Bytes} (hflag : st.cbindFlag = ch 'n')
    (hnonce : ∀ x ∈ nonce, x ≠ ch ',') (hproof : proof.length = scramKeyLen) :
    readClientFinalMessage st (clientFinal nonce proof) =
      some ({ st with clientFinalMessageWithoutProof := clientFinalWithoutProof nonce },
        nonce, proof) := by
  have hclean : ∀ x ∈ Base64.encode proof, x ≠ ch ',' :=
    fun x hx => (Base64.encode_clean proof x hx).1
  have hbind : readAttrValue (ch 'c') (clientFinal nonce proof) =
      some (cbindNone, [ch 'r', ch '='] ++ nonce ++ [ch ',', ch 'p', ch '='] ++
        Base64.encode proof) := by
    have h := attrValue_comma ([ch 'r', ch '='] ++ nonce ++ [ch ',', ch 'p', ch '='] ++
      Base64.encode proof) (show ∀ x ∈ cbindNone, x ≠ ch ',' from
        List.all_iff_forall_prop.1 rfl)
    simp only [clientFinal, clientFinalWithoutProof, List.cons_append, List.nil_append,
      List.append_assoc, readAttrValue, and_self, if_true] at h ⊢
    rw [h]
  have hattr : readAttrValue (ch 'r') ([ch 'r', ch '='] ++ nonce ++ [ch ',', ch 'p', ch '='] ++
      Base64.encode proof) = some (nonce, [ch 'p', ch '='] ++ Base64.encode proof) := by
    have h := attrValue_comma ([ch 'p', ch '='] ++ Base64.encode proof) hnonce
    simp only [List.cons_append, List.nil_append, List.append_assoc, readAttrValue, and_self,
      if_true] at h ⊢
    rw [h]
  have hread : readProof ([ch 'p', ch '='] ++ Base64.encode proof).length
      ([ch 'p', ch '='] ++ Base64.encode proof) =
      some (Base64.encode proof, [], [ch 'p', ch '='] ++ Base64.encode proof) := by
    simp only [List.cons_append, List.nil_append, List.length_cons, readProof, readAnyAttr]
    rw [if_pos (by decide), attrValue_last hclean]
    simp
  have hdecode : decodeKey (Base64.encode proof) = some proof := by
    simp [decodeKey, Base64.decode_encode, hproof]
  have htake : (clientFinal nonce proof).take ((clientFinal nonce proof).length -
      ([ch 'p', ch '='] ++ Base64.encode proof).length - 1) = clientFinalWithoutProof nonce := by
    have hlen : (clientFinal nonce proof).length -
        ([ch 'p', ch '='] ++ Base64.encode proof).length - 1 =
        (clientFinalWithoutProof nonce).length := by
      simp only [clientFinal, List.length_append, List.length_cons, List.length_nil]
      omega
    rw [hlen, clientFinal, List.append_assoc, List.take_left]
  rw [readClientFinalMessage, hbind]
  simp only [Option.bind_eq_bind, Option.bind_some]
  rw [if_neg (by simp [hflag]), hattr]
  simp only [Option.bind_some]
  rw [hread]
  simp only [Option.bind_some, hdecode, List.isEmpty_nil, Bool.not_true, Bool.false_eq_true,
    if_false, htake]

/-- Whoever has a key that hashes to the StoredKey can finish the exchange: the signature
does not depend on the proof. -/
theorem scramClientFinal_clientFinal {c : Crypto} {st st' : ScramState} {nonce key : Bytes}
    (hflag : st.cbindFlag = ch 'n') (hserver : st.serverNonce = some nonce)
    (hclean : ∀ x ∈ st.clientNonce ++ nonce, x ≠ ch ',' ∧ x ≠ 0)
    (hkey : key.length = scramKeyLen) (hhash : c.sha256 key = st.storedKey)
    (hst' : st' = { st with
      clientFinalMessageWithoutProof := clientFinalWithoutProof (st.clientNonce ++ nonce) }) :
    scramClientFinal c st (clientFinal (st.clientNonce ++ nonce)
      (xorBytes key (c.hmac st.storedKey (authMessage st')))) =
      some { st' with clientKey := key } := by
  obtain ⟨proof, hp⟩ : ∃ proof, proof = xorBytes key (c.hmac st.storedKey (authMessage st')) :=
    ⟨_, rfl⟩
  rw [← hp]
  have hstored : st'.storedKey = st.storedKey := by rw [hst']
  have hsig : (c.hmac st.storedKey (authMessage st')).length = scramKeyLen := c.hmac_length _ _
  have hproof : proof.length = scramKeyLen := by
    rw [hp, length_xorBytes, hkey, hsig, Nat.min_self]
  have hback : xorBytes proof (c.hmac st.storedKey (authMessage st')) = key := by
    rw [hp]
    exact xorBytes_xorBytes _ _ (hkey.trans hsig.symm)
  have hzero : ∀ x ∈ clientFinal (st.clientNonce ++ nonce) proof, x ≠ 0 := by
    have hfixed : ∀ x ∈ [ch 'c', ch '='] ++ cbindNone ++ [ch ',', ch 'r', ch '='], x ≠ 0 :=
      List.all_iff_forall_prop.1 rfl
    have hmid : ∀ x ∈ [ch ',', ch 'p', ch '='], x ≠ 0 := List.all_iff_forall_prop.1 rfl
    intro x hx
    simp only [clientFinal, clientFinalWithoutProof] at hx
    rcases List.mem_append.mp hx with hx | hx
    · rcases List.mem_append.mp hx with hx | hx
      · rcases List.mem_append.mp hx with hx | hx
        · exact hfixed x hx
        · exact (hclean x hx).2
      · exact hmid x hx
    · exact (Base64.encode_clean _ x hx).2
  have hread := @read_clientFinal st (st.clientNonce ++ nonce) proof hflag
    (fun x hx => (hclean x hx).1) hproof
  rw [← hst'] at hread
  have hverify : verifyFinalNonce st' (st.clientNonce ++ nonce) = true := by
    simp [hst', verifyFinalNonce, hserver]
  have hkeyOk : verifyClientProof c st' proof = some key := by
    simp only [verifyClientProof]
    rw [hstored, hback, if_pos hhash]
  simp [scramClientFinal, cString_eq_self hzero, hread, hverify, hkeyOk]

variable {st st' : ScramState} {data salt : Bytes} {env : ScramEnv} {user : Credentials}

/-- Reading the final message changes nothing but the text that is signed. -/
theorem readClientFinalMessage_state {nonce proof : Bytes}
    (h : readClientFinalMessage st data = some (st', nonce, proof)) :
    (∃ message, st' = { st with clientFinalMessageWithoutProof := message }) ∧
      proof.length = scramKeyLen := by
  simp only [readClientFinalMessage, Option.bind_eq_bind, Option.bind_eq_some_iff] at h
  obtain ⟨_, _, h⟩ := h
  split at h
  · cases h
  simp only [Option.bind_eq_some_iff] at h
  obtain ⟨_, _, ⟨value, rest, atProof⟩, _, proof', hdecode, h⟩ := h
  split at h
  · cases h
  simp only [Option.some.injEq, Prod.mk.injEq] at h
  obtain ⟨rfl, rfl, rfl⟩ := h
  refine ⟨⟨_, rfl⟩, ?_⟩
  simp only [decodeKey, Option.filter_eq_some_iff] at hdecode
  simpa using hdecode.2

variable {c : Crypto}

/-- What a finished exchange has gone through. -/
theorem scramClientFinal_cases (h : scramClientFinal c st data = some st') :
    ∃ read nonce proof key, readClientFinalMessage st (cString data) = some (read, nonce, proof) ∧
      verifyFinalNonce read nonce = true ∧ verifyClientProof c read proof = some key ∧
      st' = { read with clientKey := key } := by
  simp only [scramClientFinal, Option.bind_eq_bind, Option.bind_eq_some_iff] at h
  obtain ⟨⟨read, nonce, proof⟩, hread, h⟩ := h
  split at h
  · cases h
  rename_i hnonce
  simp only [Option.bind_eq_some_iff] at h
  obtain ⟨key, hkey, h⟩ := h
  cases h
  exact ⟨read, nonce, proof, key, hread, by simpa using hnonce, hkey, rfl⟩

theorem verifyClientProof_key {proof key : Bytes} (hlen : proof.length = scramKeyLen)
    (h : verifyClientProof c st proof = some key) :
    c.sha256 key = st.storedKey ∧ key.length = scramKeyLen := by
  simp only [verifyClientProof] at h
  split at h
  · rename_i hhash
    cases h
    refine ⟨hhash, ?_⟩
    rw [length_xorBytes, hlen, c.hmac_length]
    rfl
  · cases h

/-- A finished exchange has shown such a key. -/
theorem exists_key_of_scramClientFinal (h : (scramClientFinal c st data).isSome) :
    ∃ key, key.length = scramKeyLen ∧ c.sha256 key = st.storedKey := by
  obtain ⟨out, hout⟩ := Option.isSome_iff_exists.mp h
  obtain ⟨read, nonce, proof, key, hread, -, hproof, -⟩ := scramClientFinal_cases hout
  obtain ⟨⟨message, rfl⟩, hlen⟩ := readClientFinalMessage_state hread
  obtain ⟨hhash, hkey⟩ := verifyClientProof_key hlen hproof
  exact ⟨key, hkey, hhash⟩

/-! ### What a client needs -/

/-- The StoredKey an exchange with a user is decided on. -/
def storedKeyOf (c : Crypto) (env : ScramEnv) (user : Credentials) : Option Bytes :=
  if user.mockAuth then some (List.replicate scramKeyLen 0)
  else if getPasswordType user.passwd = .md5 then none
  else (secretFor c env user {}).map (·.1.storedKey)

/-- Some answer to the server's challenge gets a client past the password check of a
method. -/
def CanPass (c : Crypto) (env : ScramEnv) (salt : Bytes) (user : Credentials) : AuthType → Prop
  | .scramSha256 =>
    ∃ first final st user', scramClientFirst c env user {} first = some (st, user') ∧
      (scramClientFinal c st final).isSome
  | auth =>
    ∃ passwd, passwd ≠ [] ∧ 0 ∉ passwd ∧ checkClientPasswd c user auth salt passwd = true

/-- Reading the first message changes nothing but what the client says in it. -/
theorem readClientFirstMessage_state (h : readClientFirstMessage st data = some st') :
    ∃ flag bare nonce, st' = { st with
      cbindFlag := flag, clientFirstMessageBare := bare, clientNonce := nonce } := by
  unfold readClientFirstMessage at h
  split at h
  · simp only [Option.bind_eq_bind, Option.bind_none, Option.ite_none_left_eq_some,
      Option.bind_eq_some_iff] at h
    obtain ⟨-, -, -, ⟨nonce, s⟩, -, -, -, h⟩ := h
    cases h
    exact ⟨_, _, _, rfl⟩
  · cases h

/-- The keys do not depend on the exchange so far, and nothing else of it changes. -/
theorem secretFor_spec (st : ScramState) :
    (secretFor c env user st).map (·.1.storedKey) = (secretFor c env user {}).map (·.1.storedKey) ∧
    ∀ p, secretFor c env user st = some p →
      p.1.cbindFlag = st.cbindFlag ∧ p.1.clientNonce = st.clientNonce := by
  unfold secretFor
  cases user.verifier with
  | some v => exact ⟨rfl, fun p hp => by cases hp; exact ⟨rfl, rfl⟩⟩
  | none =>
    cases getPasswordType user.passwd with
    | md5 => exact ⟨rfl, fun p hp => by cases hp⟩
    | plaintext => exact ⟨rfl, fun p hp => by cases hp; exact ⟨rfl, rfl⟩⟩
    | scramSha256 =>
      cases parseScramSecret user.passwd with
      | none => exact ⟨rfl, fun p hp => by cases hp⟩
      | some secret => exact ⟨rfl, fun p hp => by cases hp; exact ⟨rfl, rfl⟩⟩

theorem storedKey_of_scramClientFirst {user' : Credentials}
    (h : scramClientFirst c env user {} data = some (st, user')) :
    storedKeyOf c env user = some st.storedKey := by
  simp only [scramClientFirst, Option.bind_eq_bind, Option.bind_eq_some_iff] at h
  obtain ⟨st₁, hread, h⟩ := h
  rw [storedKeyOf]
  by_cases hmock : user.mockAuth = true
  · rw [if_pos hmock] at h ⊢
    obtain ⟨flag, bare, nonce, rfl⟩ := readClientFirstMessage_state hread
    cases h
    rfl
  · rw [if_neg hmock] at h ⊢
    by_cases hmd5 : getPasswordType user.passwd = .md5
    · rw [if_pos hmd5] at h
      cases h
    · rw [if_neg hmd5] at h ⊢
      simp only [Option.bind_eq_some_iff] at h
      obtain ⟨⟨st₂, user₂⟩, hsecret, h⟩ := h
      cases h
      rw [← (secretFor_spec st₁).1, hsecret]
      rfl

theorem exists_scramClientFirst {key : Bytes} (h : storedKeyOf c env user = some key) :
    ∃ st user', scramClientFirst c env user {} clientFirst = some (st, user') ∧
      st.storedKey = key ∧ st.cbindFlag = ch 'n' ∧ st.clientNonce = [ch 'x'] ∧
      st.serverNonce = some (Base64.encode env.nonce) := by
  simp only [scramClientFirst, read_clientFirst, Option.bind_eq_bind, Option.bind_some]
  rw [storedKeyOf] at h
  by_cases hmock : user.mockAuth = true
  · rw [if_pos hmock] at h ⊢
    exact ⟨_, _, rfl, Option.some.inj h, rfl, rfl, rfl⟩
  · rw [if_neg hmock] at h ⊢
    by_cases hmd5 : getPasswordType user.passwd = .md5
    · rw [if_pos hmd5] at h
      cases h
    · rw [if_neg hmd5] at h ⊢
      rw [← (secretFor_spec afterClientFirst).1] at h
      obtain ⟨⟨st, user'⟩, hsecret, hkey⟩ := Option.map_eq_some_iff.mp h
      obtain ⟨hflag, hnonce⟩ := (secretFor_spec afterClientFirst).2 _ hsecret
      rw [hsecret]
      exact ⟨_, _, rfl, hkey, hflag, hnonce, rfl⟩

/-- **SCRAM needs a key with the right hash, and nothing else.** -/
theorem canPass_scram_iff :
    CanPass c env salt user .scramSha256 ↔
      ∃ key, key.length = scramKeyLen ∧ storedKeyOf c env user = some (c.sha256 key) := by
  constructor
  · rintro ⟨first, final, st, user', hfirst, hfinal⟩
    obtain ⟨key, hlen, hhash⟩ := exists_key_of_scramClientFinal hfinal
    exact ⟨key, hlen, by rw [storedKey_of_scramClientFirst hfirst, hhash]⟩
  · rintro ⟨key, hlen, hkey⟩
    obtain ⟨st, user', hfirst, hstored, hflag, hclient, hserver⟩ := exists_scramClientFirst hkey
    have hclean : ∀ x ∈ st.clientNonce ++ Base64.encode env.nonce, x ≠ ch ',' ∧ x ≠ 0 := by
      rw [hclient]
      intro x hx
      rcases List.mem_cons.mp hx with rfl | hx
      · decide
      · exact Base64.encode_clean _ x hx
    have hfinal := scramClientFinal_clientFinal hflag hserver hclean hlen hstored.symm rfl
    exact ⟨clientFirst, _, st, user', hfirst, by rw [hfinal]; rfl⟩

/-- A password in plain text has a key, and it is the client's to compute. -/
theorem storedKeyOf_plaintext (hmock : user.mockAuth = false) (hcached : user.verifier = none)
    (htype : getPasswordType user.passwd = .plaintext) :
    storedKeyOf c env user = some (c.sha256 (c.clientKey
      (c.saltedPassword (c.saslprep user.passwd) env.salt env.iterations))) := by
  simp [storedKeyOf, hmock, secretFor, hcached, htype, buildAdhocScramSecret]

theorem canPass_scram_plaintext (hmock : user.mockAuth = false) (hcached : user.verifier = none)
    (htype : getPasswordType user.passwd = .plaintext) : CanPass c env salt user .scramSha256 :=
  canPass_scram_iff.mpr ⟨_, c.hmac_length _ _, storedKeyOf_plaintext hmock hcached htype⟩

/-! ### The empty password -/

/-- The StoredKey of a user with an empty password that was not made from that password:
that of a user who does not exist, and a cached one. -/
def fixedKey (user : Credentials) : Option Bytes :=
  if user.mockAuth then some (List.replicate scramKeyLen 0)
  else user.verifier.map (·.scramStoredKey)

theorem getPasswordType_nil : getPasswordType [] = .plaintext := by decide

theorem storedKeyOf_nil (hp : user.passwd = []) :
    storedKeyOf c env user = some ((fixedKey user).getD (c.sha256 (c.clientKey
      (c.saltedPassword (c.saslprep []) env.salt env.iterations)))) := by
  have htype : getPasswordType user.passwd = .plaintext := by rw [hp]; exact getPasswordType_nil
  cases hmock : user.mockAuth with
  | true => simp [storedKeyOf, fixedKey, hmock]
  | false =>
    cases hv : user.verifier with
    | some v => simp [storedKeyOf, fixedKey, hmock, htype, secretFor, hv]
    | none =>
      rw [storedKeyOf_plaintext hmock hv htype, hp]
      simp [fixedKey, hmock, hv]

/-- **An empty password is refused by every method but SCRAM**, and by SCRAM only if the
keys are cached ones that no key belongs to. -/
theorem not_canPass_nil_iff (c : Crypto) (env : ScramEnv) (salt : Bytes) (user : Credentials)
    (auth : AuthType) (hp : user.passwd = []) :
    ¬ CanPass c env salt user auth ↔
      auth ≠ .scramSha256 ∨
        ∃ stored, fixedKey user = some stored ∧
          ∀ key, key.length = scramKeyLen → c.sha256 key ≠ stored := by
  have hcheck : ∀ auth passwd, checkClientPasswd c user auth salt passwd = false := by
    intro auth passwd
    simp [checkClientPasswd, hp]
  by_cases hscram : auth = .scramSha256
  · subst hscram
    rw [canPass_scram_iff, storedKeyOf_nil hp]
    cases hkey : fixedKey user with
    | some stored =>
      simp only [Option.getD_some, Option.some.injEq, not_exists, not_and, ne_eq,
        not_true_eq_false, false_or, exists_eq_left']
      exact forall₂_congr fun key _ => not_congr eq_comm
    | none =>
      simp only [Option.getD_none, ne_eq, not_true_eq_false, reduceCtorEq, false_and,
        exists_false, or_self, iff_false, not_not]
      exact ⟨_, c.hmac_length _ _, rfl⟩
  · refine iff_of_true ?_ (.inl hscram)
    rintro hpass
    cases auth with
    | scramSha256 => exact hscram rfl
    | _ =>
      obtain ⟨passwd, -, -, hok⟩ := hpass
      exact absurd hok (by rw [hcheck]; exact Bool.false_ne_true)

/-- The first 32 bytes, filled up with zeros. -/
def pad32 (b : Bytes) : Bytes := (b ++ List.replicate 32 0).take 32

/-- A digit for the lower half of a byte. -/
def lowDigit (b : UInt8) : UInt8 := (text "0123456789abcdef").getD (b.toNat % 16) 0

theorem isHexDigit_lowDigit (b : UInt8) : isHexDigit (lowDigit b) = true := by
  have h : ∀ n < 16, isHexDigit ((text "0123456789abcdef").getD n 0) = true := by decide
  exact h _ (Nat.mod_lt _ (by decide))

/-- Hash functions by which short texts can be told apart. -/
def Crypto.masking : Crypto where
  sha256 b := (pad32 b).map (· + 1)
  hmac k b := xorBytes (pad32 k) (pad32 b)
  md5Hex b := (pad32 b).map lowDigit
  saslprep b := b
  hmac_length k b := by simp [length_xorBytes, pad32]
  md5Hex_length b := by simp [pad32]
  md5Hex_digits b := by simp [isHexDigit_lowDigit]

def scramEnv : ScramEnv :=
  { salt := text "salt", nonce := text "nonce", mockNonce := text "mock", iterations := 4096 }

/-- `"u" ""` in the auth_file: no MD5 answer is accepted. -/
theorem not_canPass_nil_md5 :
    ¬ CanPass .masking scramEnv (text "1234") { name := [ch 'u'], held := [[]] } .md5 :=
  (not_canPass_nil_iff _ _ _ _ _ rfl).mpr (.inl (by decide))

/-- The same user is let in by SCRAM. -/
theorem canPass_nil_scram :
    CanPass .masking scramEnv (text "1234") { name := [ch 'u'], held := [[]] } .scramSha256 :=
  canPass_scram_plaintext rfl rfl getPasswordType_nil

/-! ### The password that stands for NULL -/

theorem getPasswordType_nullPassword : getPasswordType LoginWorld.nullPassword = .plaintext := by
  decide

theorem isHexDigit_ne_zero {x : UInt8} (h : isHexDigit x = true) : x ≠ 0 := by
  rintro rfl
  exact absurd h (by decide)

/-- Whatever the method, a client gets past it with the password `md5`. -/
theorem canPass_nullPassword (hmock : user.mockAuth = false) (hcached : user.verifier = none)
    (hp : user.passwd = LoginWorld.nullPassword) {auth : AuthType}
    (hauth : auth = .plain ∨ auth = .md5 ∨ auth = .scramSha256) :
    CanPass c env salt user auth := by
  have htype : getPasswordType user.passwd = .plaintext := by
    rw [hp]
    exact getPasswordType_nullPassword
  have hne : user.passwd.isEmpty = false := by rw [hp]; rfl
  rcases hauth with rfl | rfl | rfl
  · refine ⟨user.passwd, by rw [hp]; decide, by rw [hp]; decide, ?_⟩
    simp [checkClientPasswd, hmock, hne, htype]
  · refine ⟨c.md5Encrypt ((c.md5Encrypt user.passwd user.name).drop 3) salt, ?_, ?_, ?_⟩
    · simp [Crypto.md5Encrypt, md5Prefix]
    · intro hzero
      rcases List.mem_append.mp hzero with hz | hz
      · exact absurd hz (by decide)
      · exact isHexDigit_ne_zero (List.all_eq_true.mp (c.md5Hex_digits _) _ hz) rfl
    · have hlen : (c.md5Encrypt ((c.md5Encrypt user.passwd user.name).drop 3) salt).length =
          md5PasswdLen := by
        simp [Crypto.md5Encrypt, md5Prefix, md5PasswdLen, c.md5Hex_length]
      simp [checkClientPasswd, hmock, hne, htype, hlen]
  · exact canPass_scram_plaintext hmock hcached htype

end PgBouncer
