/-
When a login to a backend is mutual.

In a SCRAM exchange the server shows with its signature that it knows the password as
well.  pgbouncer verifies the signature if it gets one, and closes the connection if it
is wrong.  It does not wait for one: AuthenticationOk and ReadyForQuery are taken at any
time.  So whether a login that has started an exchange is mutual is up to the server, and
`mutual_iff` says what it has to send.
-/
import PgBouncer.Auth.ServerLogin
import PgBouncer.Proofs.Scram

namespace PgBouncer

open LoginCtx (getString getUint32be)

/-- The kind of an authentication request. -/
def authCmd (body : Bytes) : Option Nat := (getUint32be body).map Prod.fst

/-- What an observer of the messages keeps: whether the first ReadyForQuery has come, and
whether before it an AuthenticationSASLFinal has come after the last AuthenticationSASL. -/
structure Seen where
  ready : Bool := false
  final : Bool := false
  deriving DecidableEq

def Seen.add (seen : Seen) : StartupMsg → Seen
  | .readyForQuery => { seen with ready := true }
  | .authenticationRequest body =>
    if seen.ready then seen
    else if authCmd body = some authReqSasl then { seen with final := false }
    else if authCmd body = some authReqSaslFin then { seen with final := true }
    else seen
  | _ => seen

/-- What an observer has seen after some messages. -/
def seenIn (es : List (StartupMsg × SrvEnv)) : Seen := (es.map Prod.fst).foldl Seen.add {}

/-- The exchange was mutual: a signature was accepted, for a text that begins with the nonce
pgbouncer has chosen for it and goes on with one that extends it. -/
def Exchange.Mutual (c : Crypto) (e : Exchange) : Prop :=
  ∃ a, e.accepted = some a ∧
    a.scramState.clientFirstMessageBare = text "n=,r=" ++ e.clientNonce ∧
    a.scramState.serverFirstMessage.isSome ∧ e.clientNonce <+: a.scramState.serverNonce ∧
    verifyServerSignature c a.scramState a.credentials a.signature = true

namespace ServerLogin

variable {c : Crypto} {env : SrvEnv} {s s' : ServerLogin} {body data : Bytes}

/-! ### One authentication request -/

/-- What an authentication request does that is answered. -/
inductive Answered (c : Crypto) (env : SrvEnv) (s s' : ServerLogin) : Option Nat → Prop
  | plain {cmd} (notSasl : cmd ≠ some authReqSasl) (notFin : cmd ≠ some authReqSaslFin)
      (scram : s'.scramState = s.scramState) (exchange : s'.exchange = s.exchange) :
      Answered c env s s' cmd
  | sasl (fresh : s.scramState.clientNonce = none)
      (scram : s'.scramState = (buildClientFirstMessage s.scramState env.rawNonce).1)
      (exchange : s'.exchange = some { clientNonce := Base64.encode env.rawNonce }) :
      Answered c env s s' (some authReqSasl)
  | cont (st : ScramClientState) (data message : Bytes)
      (read : readServerFirstMessage s.scramState data = some st)
      (build : buildClientFinalMessage c st (getSrvPsw env.psw) = some (s'.scramState, message))
      (exchange : s'.exchange = s.exchange) : Answered c env s s' (some authReqSaslCont)
  | fin (signature : Bytes) (spoken : s.scramState.serverFirstMessage.isSome)
      (verified : verifyServerSignature c s.scramState (getSrvPsw env.psw) signature = true)
      (scram : s'.scramState = {})
      (exchange : s'.exchange = s.exchange.map fun e =>
        { e with accepted := some ⟨s.scramState, getSrvPsw env.psw, signature⟩ }) :
      Answered c env s s' (some authReqSaslFin)

theorem answerAuthreq_cases (h : s.answerAuthreq c env body = (s', true)) :
    Answered c env s s' (authCmd body) ∧ s'.state = s.state ∧
      s'.execOnConnect = s.execOnConnect := by
  unfold answerAuthreq at h
  unfold authCmd
  split at h
  · cases h
  rename_i cmd data hcmd
  rw [hcmd, Option.map_some]
  show Answered c env s s' (some cmd) ∧ _
  split at h
  · rename_i hok
    cases h
    exact ⟨.plain (by rw [hok]; decide) (by rw [hok]; decide) rfl rfl, rfl, rfl⟩
  split at h
  · rename_i hpassword
    cases h
    exact ⟨.plain (by rw [hpassword]; decide) (by rw [hpassword]; decide) rfl rfl, rfl, rfl⟩
  split at h
  · rename_i hmd5
    split at h
    · cases h
    · simp only [loginMd5Psw] at h
      split at h <;> cases h
      all_goals exact ⟨.plain (by rw [hmd5]; decide) (by rw [hmd5]; decide) rfl rfl, rfl, rfl⟩
  split at h
  · rename_i hsasl
    rw [hsasl]
    split at h
    · unfold loginScramSha256 at h
      split at h
      · cases h
      split at h
      · cases h
      rename_i hfresh
      simp only [Prod.mk.injEq] at h
      obtain ⟨rfl, -⟩ := h
      exact ⟨.sasl (by simpa using hfresh) rfl rfl, rfl, rfl⟩
    · cases h
  split at h
  · rename_i hcont
    rw [hcont]
    unfold loginScramSha256Cont at h
    split at h
    · cases h
    split at h
    · cases h
    rename_i st hread
    split at h
    · cases h
    rename_i st' message hbuild
    simp only [Prod.mk.injEq] at h
    obtain ⟨rfl, -⟩ := h
    exact ⟨.cont st _ message hread hbuild rfl, rfl, rfl⟩
  split at h
  · rename_i hfin
    rw [hfin]
    simp only [loginScramSha256Final] at h
    split at h
    · cases h
    rename_i hspoken
    split at h
    · cases h
    rename_i signature _
    split at h
    · rename_i hverified
      cases h
      exact ⟨.fin signature (by simpa [Option.isNone_iff_eq_none, ← Option.isSome_iff_ne_none]
        using hspoken) hverified rfl rfl, rfl, rfl⟩
    · cases h
  · cases h

/-! ### What the server's first message changes -/

theorem readServerFirstMessage_state {st st' : ScramClientState}
    (h : readServerFirstMessage st data = some st') :
    st'.clientNonce = st.clientNonce ∧
      st'.clientFirstMessageBare = st.clientFirstMessageBare ∧
      (∃ rest, readAttrValue (ch 'r') data = some (st'.serverNonce, rest)) ∧
      ∃ nonce, st.clientNonce = some nonce ∧ nonce <+: st'.serverNonce := by
  unfold readServerFirstMessage at h
  rw [Option.bind_eq_bind, Option.bind_eq_some_iff] at h
  obtain ⟨nonce, hnonce, h⟩ := h
  rw [Option.bind_eq_bind, Option.bind_eq_some_iff] at h
  obtain ⟨⟨serverNonce, rest⟩, hread, h⟩ := h
  dsimp only at h
  by_cases hextends : (!nonce.isPrefixOf serverNonce) = true
  · rw [if_pos hextends] at h
    cases h
  rw [if_neg hextends, Option.bind_eq_some_iff] at h
  obtain ⟨⟨encodedSalt, rest⟩, -, h⟩ := h
  rw [Option.bind_eq_some_iff] at h
  obtain ⟨salt, -, h⟩ := h
  rw [Option.bind_eq_some_iff] at h
  obtain ⟨⟨iterationsStr, rest⟩, -, h⟩ := h
  rw [Option.bind_eq_bind, Option.bind_eq_some_iff] at h
  obtain ⟨iterations, -, h⟩ := h
  split at h
  · cases h
  split at h
  · cases h
  cases h
  exact ⟨rfl, rfl, ⟨_, hread⟩, nonce, hnonce, by simpa using hextends⟩

theorem calculateClientProof_state (c : Crypto) (st : ScramClientState)
    (credentials : Credentials) :
    ∃ salted, (calculateClientProof c st credentials).1 =
      { st with saltedPassword := salted } := by
  simp only [calculateClientProof]
  split
  · exact ⟨st.saltedPassword, rfl⟩
  · exact ⟨_, rfl⟩

theorem buildClientFinalMessage_state {st st' : ScramClientState} {credentials : Credentials}
    {message : Bytes} (h : buildClientFinalMessage c st credentials = some (st', message)) :
    st'.clientNonce = st.clientNonce ∧ st'.serverNonce = st.serverNonce ∧
      st'.clientFirstMessageBare = st.clientFirstMessageBare := by
  simp only [buildClientFinalMessage] at h
  split at h
  · cases h
  obtain ⟨salted, hsalted⟩ := calculateClientProof_state c
    { st with clientFinalMessageWithoutProof := (text "c=biws,r=" ++ st.serverNonce).take 511 }
    credentials
  simp only [Option.some.injEq, Prod.mk.injEq] at h
  rw [hsalted] at h
  rw [← h.1]
  exact ⟨rfl, rfl, rfl⟩

/-! ### The exchange and what an observer sees of it -/

/-- An exchange that waits for a message of the server. -/
structure Underway (st : ScramClientState) (e : Exchange) : Prop where
  clientNonce : st.clientNonce = some e.clientNonce
  bare : st.clientFirstMessageBare = text "n=,r=" ++ e.clientNonce
  serverNonce : st.serverFirstMessage.isSome → e.clientNonce <+: st.serverNonce
  pending : e.accepted = none

/-- The last exchange was mutual if and only if its AuthenticationSASLFinal has come. -/
structure Watched (c : Crypto) (s : ServerLogin) (seen : Seen) : Prop where
  exec : s.state = .login → s.execOnConnect = seen.ready
  underway : s.scramState.clientNonce ≠ none →
    ∃ e, s.exchange = some e ∧ Underway s.scramState e
  idle : s.scramState.clientNonce = none → s.scramState = {}
  final : ∀ e, s.exchange = some e → (e.Mutual c ↔ seen.final = true)

theorem Watched.initial : Watched c {} {} :=
  ⟨fun _ => rfl, fun h => absurd rfl h, fun _ => rfl, fun _ h => nomatch h⟩

theorem not_mutual {e : Exchange} (h : e.accepted = none) : ¬ e.Mutual c := by
  rintro ⟨a, ha, -⟩
  rw [h] at ha
  cases ha

/-- An answered request keeps it. -/
theorem Watched.answered {seen : Seen} (h : Watched c s seen) (hready : seen.ready = false)
    (hans : Answered c env s s' (authCmd body)) (hstate : s'.state = s.state)
    (hexec : s'.execOnConnect = s.execOnConnect) :
    Watched c s' (seen.add (.authenticationRequest body)) := by
  have hlogin : s'.state = .login → s'.execOnConnect = false := by
    intro hl
    rw [hexec, h.exec (hstate ▸ hl), hready]
  simp only [Seen.add, hready, Bool.false_eq_true, if_false]
  generalize authCmd body = cmd at hans
  cases hans with
  | plain notSasl notFin scram exchange =>
    rw [if_neg notSasl, if_neg notFin]
    refine ⟨fun hl => (hlogin hl).trans hready.symm, ?_, ?_, ?_⟩
    · rw [scram, exchange]
      exact h.underway
    · rw [scram]
      exact h.idle
    · rw [exchange]
      exact h.final
  | sasl fresh scram exchange =>
    rw [if_pos rfl]
    have hempty := h.idle fresh
    rw [hempty] at scram
    refine ⟨hlogin, fun _ => ⟨_, exchange, ?_⟩, ?_, ?_⟩
    · rw [scram]
      exact ⟨rfl, rfl, nofun, rfl⟩
    · rw [scram]
      intro hnone
      cases hnone
    · intro e he
      rw [exchange, Option.some.injEq] at he
      rw [← he]
      exact iff_of_false (not_mutual rfl) Bool.false_ne_true
  | cont st data message read build exchange =>
    rw [if_neg (by decide), if_neg (by decide)]
    obtain ⟨hnonce, hbare, -, nonce, hn, hextends⟩ := readServerFirstMessage_state read
    obtain ⟨hnonce', hserver', hbare'⟩ := buildClientFinalMessage_state build
    have hsome : s.scramState.clientNonce ≠ none := by rw [hn]; exact Option.some_ne_none _
    obtain ⟨e, he, hunder⟩ := h.underway hsome
    refine ⟨fun hl => (hlogin hl).trans hready.symm,
      fun _ => ⟨e, exchange.trans he, ?_, ?_, ?_, hunder.pending⟩, ?_, ?_⟩
    · rw [hnonce', hnonce, hunder.clientNonce]
    · rw [hbare', hbare, hunder.bare]
    · rw [hunder.clientNonce, Option.some.injEq] at hn
      rw [hserver', hn]
      exact fun _ => hextends
    · intro hnone
      rw [hnonce', hnonce] at hnone
      exact absurd hnone hsome
    · rw [exchange]
      exact h.final
  | fin signature spoken verified scram exchange =>
    rw [if_neg (by decide), if_pos rfl]
    have hsome : s.scramState.clientNonce ≠ none := by
      intro hnone
      rw [h.idle hnone] at spoken
      cases spoken
    obtain ⟨e, he, hunder⟩ := h.underway hsome
    refine ⟨hlogin, fun hne => ?_, fun _ => scram, ?_⟩
    · rw [scram] at hne
      exact absurd rfl hne
    · intro e' he'
      rw [exchange, he, Option.map_some, Option.some.injEq] at he'
      rw [← he']
      exact iff_of_true ⟨_, rfl, hunder.bare, spoken, hunder.serverNonce spoken, verified⟩ rfl

theorem Watched.of_same {seen seen' : Seen} (h : Watched c s seen)
    (hscram : s'.scramState = s.scramState) (hexchange : s'.exchange = s.exchange)
    (hfinal : seen'.final = seen.final)
    (hexec : s'.state = .login → s'.execOnConnect = seen'.ready) : Watched c s' seen' := by
  refine ⟨hexec, ?_, ?_, ?_⟩
  · rw [hscram, hexchange]
    exact h.underway
  · rw [hscram]
    exact h.idle
  · rw [hexchange, hfinal]
    exact h.final

/-- One message keeps it, unless the connection is closed. -/
theorem Watched.step {seen : Seen} {e : StartupMsg × SrvEnv} (h : Watched c s seen)
    (hstep : s.step c e = some s') : s'.state = .closed ∨ Watched c s' (seen.add e.1) := by
  obtain ⟨msg, env⟩ := e
  unfold ServerLogin.step at hstep
  split at hstep
  swap
  · cases hstep
  rename_i hlogin
  cases hstep
  have hexec := h.exec hlogin
  cases msg with
  | readyForQuery =>
    simp only [handleServerStartup]
    split
    · exact .inr (h.of_same rfl rfl rfl fun hl => nomatch hl)
    split
    · split
      · exact .inr (h.of_same rfl rfl rfl fun _ => rfl)
      · exact .inl rfl
    · exact .inr (h.of_same rfl rfl rfl fun hl => nomatch hl)
  | parameterStatus body =>
    simp only [handleServerStartup, loadParameter]
    split
    · split
      · exact .inr h
      · exact .inl rfl
    · exact .inl rfl
  | authenticationRequest body =>
    simp only [handleServerStartup]
    split
    · rename_i hignored
      rw [hexec] at hignored
      exact .inr (h.of_same rfl rfl (by simp [Seen.add, hignored])
        fun _ => by simp [Seen.add, hexec, hignored])
    · rename_i hnot
      split
      · rename_i hres
        have hans := answerAuthreq_cases (Prod.ext_iff.2 ⟨rfl, hres⟩ :
          s.answerAuthreq c env body = ((s.answerAuthreq c env body).1, true))
        rw [hexec, Bool.not_eq_true] at hnot
        exact .inr (h.answered hnot hans.1 hans.2.1 hans.2.2)
      · exact .inl rfl
  | backendKeyData body =>
    simp only [handleServerStartup]
    split
    · exact .inr h
    · split
      · exact .inl rfl
      · exact .inr (h.of_same rfl rfl rfl fun _ => hexec)
  | noticeResponse =>
    simp only [handleServerStartup, ite_self]
    exact .inr h
  | errorResponse | unknown =>
    simp only [handleServerStartup]
    split
    · exact .inr h
    · exact .inl rfl

/-- So does a whole login. -/
theorem Watched.run {es : List (StartupMsg × SrvEnv)} {seen : Seen} (h : Watched c s seen)
    (hrun : s.run c es = some s') :
    s'.state = .closed ∨ Watched c s' ((es.map Prod.fst).foldl Seen.add seen) := by
  induction es generalizing s seen with
  | nil =>
    cases hrun
    exact .inr h
  | cons e es ih =>
    obtain ⟨s₁, hfirst, hrest⟩ := Option.bind_eq_some_iff.1 hrun
    rcases h.step hfirst with hclosed | hwatched
    · -- nothing comes after the end of a connection
      cases es with
      | nil =>
        cases hrest
        exact .inl hclosed
      | cons e' es =>
        have hnone : s₁.step c e' = none := by
          rw [ServerLogin.step, if_neg (by rw [hclosed]; decide)]
        rw [Run.exec, hnone] at hrest
        cases hrest
    · exact ih hwatched hrest

end ServerLogin

/-- **A login that has started a SCRAM exchange is mutual if and only if the server has sent
an AuthenticationSASLFinal** after its last AuthenticationSASL and before its first
ReadyForQuery. -/
theorem mutual_iff (c : Crypto) (es : List (StartupMsg × SrvEnv)) (s : ServerLogin) (e : Exchange)
    (hrun : ServerLogin.run c {} es = some s) (hready : s.state = .ready)
    (hstarted : s.exchange = some e) : e.Mutual c ↔ (seenIn es).final = true := by
  rcases ServerLogin.Watched.initial.run hrun with hclosed | hwatched
  · rw [hready] at hclosed
    cases hclosed
  · exact hwatched.final e hstarted

def passwordP : SrvEnv :=
  { psw := { userCredentials := { name := text "u", passwd := text "p" } }, rawNonce := text "abc" }

/-- AuthenticationSASL with one mechanism. -/
def authenticationSasl : StartupMsg :=
  .authenticationRequest ([0, 0, 0, 10] ++ scramSha256Name ++ [0, 0])

def authenticationOk : StartupMsg := .authenticationRequest [0, 0, 0, 0]

/-- A login with all its messages. -/
def wholeExchange : List (StartupMsg × SrvEnv) :=
  let key := Crypto.masking.serverKey (Crypto.masking.saltedPassword (text "p") [ch 's'] 1)
  let signature := Crypto.masking.hmac key
    (text "n=,r=YWJj,r=YWJjx,s=cw==,i=1,c=biws,r=YWJjx")
  [authenticationSasl, .authenticationRequest ([0, 0, 0, 11] ++ text "r=YWJjx,s=cw==,i=1"),
    .authenticationRequest ([0, 0, 0, 12] ++ text "v=" ++ Base64.encode signature),
    authenticationOk, .readyForQuery].map (·, passwordP)

theorem mutual_iff_wholeExchange : ∃ s e, ServerLogin.run .masking {} wholeExchange = some s ∧
    s.state = .ready ∧ s.exchange = some e ∧ e.Mutual .masking := by
  have hrun : (ServerLogin.run .masking {} wholeExchange).map
      (fun s => (s.state, s.exchange.isSome)) = some (.ready, true) := by decide +kernel
  obtain ⟨s, hs, heq⟩ := Option.map_eq_some_iff.1 hrun
  simp only [Prod.mk.injEq] at heq
  obtain ⟨e, he⟩ := Option.isSome_iff_exists.1 heq.2
  exact ⟨s, e, hs, heq.1, he,
    (mutual_iff .masking wholeExchange s e hs heq.1 he).2 (by decide)⟩

/-- **A server that knows nothing gets through**: it asks for SCRAM, and says that all is well
without an answer to what pgbouncer has sent. -/
theorem ready_without_signature : ∃ s e, ServerLogin.run .masking {}
      ([authenticationSasl, authenticationOk, .readyForQuery].map (·, passwordP)) = some s ∧
    s.state = .ready ∧ s.exchange = some e ∧ ¬ e.Mutual .masking := by
  have hrun : (ServerLogin.run .masking {}
      ([authenticationSasl, authenticationOk, .readyForQuery].map (·, passwordP))).map
      (fun s => (s.state, s.exchange)) = some (.ready, some { clientNonce := text "YWJj" }) := by
    decide +kernel
  obtain ⟨s, hs, heq⟩ := Option.map_eq_some_iff.1 hrun
  simp only [Prod.mk.injEq] at heq
  exact ⟨s, _, hs, heq.1, heq.2, ServerLogin.not_mutual rfl⟩

end PgBouncer
