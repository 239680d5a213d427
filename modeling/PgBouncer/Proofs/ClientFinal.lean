/-
The buffer of the client's final message in a SCRAM exchange.

`build_client_final_message` puts its message together in a buffer of 512 bytes.  The first
part, with the nonce the server has chosen the end of, is printed with the size of the
buffer at hand, and so is the ",p=" behind it, with a test whether it was cut off.  The
proof is then written wherever these have ended.  So there is a range of nonces that pass
the test and leave no room for the 44 bytes of the proof and the zero byte behind it.
-/
import PgBouncer.Auth.ScramClient
import PgBouncer.Proofs.ServerLogin

namespace PgBouncer

variable {c : Crypto} {st st' : ScramClientState} {credentials : Credentials}

/-! ### The parts of the message -/

theorem readAttrValue_subset {attr : UInt8} {s value rest : Bytes}
    (h : readAttrValue attr s = some (value, rest)) : value ⊆ s := by
  match s, h with
  | a :: eq :: s, h =>
    by_cases hattr : a = attr ∧ eq = ch '='
    · have hvalue : some (attrValue s) = some (value, rest) := by
        rw [← h]
        exact (if_pos hattr).symm
      obtain ⟨rfl, -⟩ := Prod.mk.inj (Option.some.inj hvalue)
      intro b hb
      exact List.mem_cons_of_mem _
        (List.mem_cons_of_mem _ ((List.takeWhile_sublist _).subset hb))
    · have hnone : none = some (value, rest) := by
        rw [← h]
        exact (if_neg hattr).symm
      nomatch hnone

/-- The nonce of the server is a part of its message, so there is no zero byte in it. -/
theorem serverNonce_clean {data : Bytes} (h : readServerFirstMessage st (cString data) = some st') :
    ∀ b ∈ st'.serverNonce, b ≠ 0 := by
  obtain ⟨-, -, ⟨rest, hread⟩, -⟩ := ServerLogin.readServerFirstMessage_state h
  intro b hb
  have hmem : b ∈ data.takeWhile (· != 0) := readAttrValue_subset hread hb
  have hne := List.mem_takeWhile_imp hmem
  exact bne_iff_ne.mp hne

section

variable (hkey : credentials.scramPassthroughValid = true →
  credentials.scramClientKey.length = scramKeyLen)

include hkey in
theorem length_proof : (calculateClientProof c st credentials).2.length = scramKeyLen := by
  unfold calculateClientProof
  split
  next heq =>
    split at heq
    next hvalid =>
      obtain ⟨-, rfl⟩ := Prod.mk.inj heq
      rw [length_xorBytes, hkey hvalid, c.hmac_length]
      rfl
    next =>
      obtain ⟨-, rfl⟩ := Prod.mk.inj heq
      rw [length_xorBytes, c.hmac_length, Crypto.clientKey, c.hmac_length]
      rfl

/-! ### The buffer -/

theorem clean_start (h : ∀ b ∈ st.serverNonce, b ≠ 0) :
    ∀ b ∈ text "c=biws,r=" ++ st.serverNonce, b ≠ 0 := by
  intro b hb
  rcases List.mem_append.mp hb with htext | hnonce
  · have hall : ∀ b ∈ text "c=biws,r=", b ≠ 0 := List.all_iff_forall_prop.1 rfl
    exact hall b htext
  · exact h b hnonce

/-- The first part of the message, in the buffer. -/
theorem snprintf_stack (stack : Vector UInt8 512) (s : Bytes) :
    ∃ post, CBuffer.snprintf { bytes := stack.toList } s = ⟨s.take 511 ++ 0 :: post, false⟩ ∧
      (s.take 511).length + 1 + post.length = 512 := by
  have hsize : (CBuffer.mk stack.toList false).size = 512 := stack.size_toArray
  have heq := CBuffer.snprintf_eq (b := ⟨stack.toList, false⟩) (by rw [hsize]; decide) s
  rw [hsize] at heq
  refine ⟨_, heq, ?_⟩
  have hlen : stack.toList.length = 512 := hsize
  rw [List.length_drop, hlen, List.length_take]
  omega

variable (c : Crypto) (stack : Vector UInt8 512) (hclean : ∀ b ∈ st.serverNonce, b ≠ 0)

include hkey hclean

/-- What is built where the nonce is short enough to be printed in full. -/
theorem buildClientFinalMessageIn_of_lt (hlen : st.serverNonce.length < 500) :
    let start := text "c=biws,r=" ++ st.serverNonce
    let r := calculateClientProof c { st with clientFinalMessageWithoutProof := start } credentials
    ∃ post, st.serverNonce.length + 13 + post.length = 512 ∧
      let buf := CBuffer.putString ⟨start ++ text ",p=" ++ 0 :: post, false⟩
        (start ++ text ",p=").length (Base64.encode r.2)
      buildClientFinalMessageIn c stack st credentials = (buf, some (r.1, buf.string)) := by
  intro start r
  have hstart : start.length = 9 + st.serverNonce.length := List.length_append
  have hprinted : start.take 511 = start := List.take_of_length_le (by omega)
  have hstartClean : ∀ b ∈ start, b ≠ 0 := clean_start hclean
  obtain ⟨post, hprint, hpost⟩ := snprintf_stack stack start
  rw [hprinted] at hprint hpost
  have htext : (text ",p=").length = 3 := rfl
  have hcat : (CBuffer.mk (start ++ 0 :: post) false).strlcat (text ",p=") = _ :=
    CBuffer.strlcat_eq hstartClean (by omega)
  refine ⟨post.drop 3, ?_, ?_⟩
  · rw [List.length_drop]
    omega
  unfold buildClientFinalMessageIn
  dsimp only
  rw [hprint, CBuffer.string_of_clean hstartClean, hcat]
  have hsize : ¬(CBuffer.mk (start ++ text ",p=" ++ 0 :: post.drop (text ",p=").length)
      false).size ≤ start.length + (text ",p=").length := by
    simp only [CBuffer.size, List.length_append, List.length_cons]
    omega
  have hencoded : ¬pgB64EncLen scramKeyLen < (Base64.encode r.2).length := by
    rw [Base64.length_encode, length_proof hkey]
    exact lt_irrefl _
  have hend : (start ++ text ",p=").length = start.length + (text ",p=").length :=
    List.length_append
  rw [if_neg hsize, if_neg hencoded, hend]
  rfl

omit hkey in
/-- A nonce that is too long to be printed is noticed, and nothing is written that does not
fit. -/
theorem buildClientFinalMessageIn_of_le (credentials : Credentials)
    (hlen : 500 ≤ st.serverNonce.length) :
    (buildClientFinalMessageIn c stack st credentials).2 = none := by
  have hstart : (text "c=biws,r=" ++ st.serverNonce).length = 9 + st.serverNonce.length :=
    List.length_append
  obtain ⟨post, hprint, hpost⟩ := snprintf_stack stack (text "c=biws,r=" ++ st.serverNonce)
  rw [List.length_take] at hpost
  have hclean' : ∀ b ∈ (text "c=biws,r=" ++ st.serverNonce).take 511, b ≠ 0 := by
    intro b hb
    exact clean_start hclean b (List.mem_of_mem_take hb)
  have hfull : (CBuffer.snprintf { bytes := stack.toList }
        (text "c=biws,r=" ++ st.serverNonce)).size ≤
      (CBuffer.strlcat (CBuffer.snprintf { bytes := stack.toList }
        (text "c=biws,r=" ++ st.serverNonce)) (text ",p=")).2 := by
    rw [hprint, CBuffer.strlcat, CBuffer.string_of_clean hclean']
    have htext : (text ",p=").length = 3 := rfl
    simp only [CBuffer.size, List.length_append, List.length_cons, List.length_take]
    omega
  unfold buildClientFinalMessageIn
  dsimp only
  rw [CBuffer.size_strlcat, if_pos hfull]

/-- In between the proof goes beyond the buffer. -/
theorem buildClientFinalMessageIn_outOfBounds (hlong : 456 ≤ st.serverNonce.length)
    (hlen : st.serverNonce.length < 500) :
    (buildClientFinalMessageIn c stack st credentials).1.outOfBounds = true ∧
      (buildClientFinalMessageIn c stack st credentials).2.isSome := by
  obtain ⟨post, hpost, hbuilt⟩ := buildClientFinalMessageIn_of_lt hkey c stack hclean hlen
  rw [hbuilt]
  refine ⟨CBuffer.outOfBounds_putString ?_, rfl⟩
  rw [Base64.length_encode, length_proof hkey, CBuffer.size, List.length_append,
    List.length_cons]
  have hkeyLen : (scramKeyLen + 2) / 3 * 4 = 44 := rfl
  omega

/-- A nonce that leaves room for the proof: the message is as it should be. -/
theorem buildClientFinalMessageIn_full (hlen : st.serverNonce.length < 456) :
    let start := text "c=biws,r=" ++ st.serverNonce
    let r := calculateClientProof c { st with clientFinalMessageWithoutProof := start } credentials
    (buildClientFinalMessageIn c stack st credentials).1.outOfBounds = false ∧
      (buildClientFinalMessageIn c stack st credentials).2 =
        some (r.1, start ++ text ",p=" ++ Base64.encode r.2) := by
  intro start r
  obtain ⟨post, hpost, hbuilt⟩ := buildClientFinalMessageIn_of_lt hkey c stack hclean (by omega)
  have hpre : ∀ b ∈ start ++ text ",p=", b ≠ 0 := by
    intro b hb
    rcases List.mem_append.mp hb with hb | hb
    · exact clean_start hclean b hb
    · have hall : ∀ b ∈ text ",p=", b ≠ 0 := List.all_iff_forall_prop.1 rfl
      exact hall b hb
  have hencoded : (Base64.encode r.2).length = 44 := by
    rw [Base64.length_encode, length_proof hkey]
    rfl
  obtain ⟨hbounds, hstring⟩ := (CBuffer.putString_end_iff post hpre
    fun b hb => (Base64.encode_clean r.2 b hb).2).mpr (by omega)
  rw [hbuilt]
  exact ⟨hbounds, congrArg (fun message => some (r.1, message)) hstring⟩

/-- The message without the buffer: nothing is built where there is no room for it. -/
theorem buildClientFinalMessage_eq_in :
    buildClientFinalMessage c st credentials =
      if (buildClientFinalMessageIn c stack st credentials).1.outOfBounds then none
      else (buildClientFinalMessageIn c stack st credentials).2 := by
  have hlength : ∀ start, (Base64.encode (calculateClientProof c
      { st with clientFinalMessageWithoutProof := start } credentials).2).length = 44 := by
    intro start
    rw [Base64.length_encode, length_proof hkey]
    rfl
  have hstart : (text "c=biws,r=" ++ st.serverNonce).length = 9 + st.serverNonce.length :=
    List.length_append
  have htext : (text ",p=").length = 3 := rfl
  by_cases hlen : st.serverNonce.length < 456
  · obtain ⟨hbounds, hbuilt⟩ := buildClientFinalMessageIn_full hkey c stack hclean hlen
    have hprinted : (text "c=biws,r=" ++ st.serverNonce).take 511 =
        text "c=biws,r=" ++ st.serverNonce := List.take_of_length_le (by omega)
    rw [hbounds, hbuilt]
    unfold buildClientFinalMessage
    dsimp only
    rw [hprinted, if_neg]
    · rfl
    · rw [List.length_append, List.length_append, hlength]
      omega
  · have hnone : buildClientFinalMessage c st credentials = none := by
      unfold buildClientFinalMessage
      dsimp only
      rw [if_pos]
      rw [List.length_append, List.length_append, List.length_take, hlength]
      omega
    rw [hnone]
    by_cases hshort : st.serverNonce.length < 500
    · obtain ⟨hbounds, -⟩ :=
        buildClientFinalMessageIn_outOfBounds hkey c stack hclean (by omega) hshort
      rw [hbounds]
      rfl
    · rw [buildClientFinalMessageIn_of_le c stack hclean credentials (by omega), ite_self]

end

/-- **The client's final message.**  For every message that is accepted from a server, the
answer fails to be built, or it is built within the buffer and is the whole of what it should
be, exactly if the nonce does not have between 456 and 499 bytes.  That the key of the client
has 32 bytes is in its type in C. -/
theorem buildClientFinalMessageIn_iff (c : Crypto) (stack : Vector UInt8 512) {data : Bytes}
    (hread : readServerFirstMessage st (cString data) = some st') (credentials : Credentials)
    (hkey : credentials.scramPassthroughValid = true →
      credentials.scramClientKey.length = scramKeyLen) :
    let start := text "c=biws,r=" ++ st'.serverNonce
    let proof := (calculateClientProof c
      { st' with clientFinalMessageWithoutProof := start } credentials).2
    let r := buildClientFinalMessageIn c stack st' credentials
    (r.2 = none ∨ r.1.outOfBounds = false ∧
        r.2.map Prod.snd = some (start ++ text ",p=" ++ Base64.encode proof)) ↔
      ¬(456 ≤ st'.serverNonce.length ∧ st'.serverNonce.length ≤ 499) := by
  intro start proof r
  have hclean := serverNonce_clean hread
  by_cases hlong : st'.serverNonce.length < 456
  · obtain ⟨hbounds, hbuilt⟩ := buildClientFinalMessageIn_full hkey c stack hclean hlong
    exact iff_of_true (Or.inr ⟨hbounds, congrArg (Option.map Prod.snd) hbuilt⟩) (by omega)
  by_cases hlen : st'.serverNonce.length < 500
  · obtain ⟨hbounds, hbuilt⟩ :=
      buildClientFinalMessageIn_outOfBounds hkey c stack hclean (Nat.le_of_not_lt hlong) hlen
    refine iff_of_false ?_ (by omega)
    rintro (hnone | ⟨hinside, -⟩)
    · exact absurd hnone (Option.isSome_iff_ne_none.mp hbuilt)
    · exact Bool.false_ne_true (hinside.symm.trans hbounds)
  · have hnone : r.2 = none :=
      buildClientFinalMessageIn_of_le c stack hclean credentials (Nat.le_of_not_lt hlen)
    exact iff_of_true (Or.inl hnone) (by omega)

/-! ### Two servers -/

/-- A client that has asked with the nonce "x". -/
def asked : ScramClientState where
  clientNonce := some (text "x")
  clientFirstMessageBare := text "n=,r=x"

/-- A server that takes a nonce of some length. -/
def serverFirstOf (n : Nat) : Bytes :=
  text "r=" ++ List.replicate n (ch 'x') ++ text ",s=c2FsdA==,i=1"

/-- What is known after its message. -/
def answeredWith (n : Nat) : ScramClientState :=
  { asked with
    serverFirstMessage := some (serverFirstOf n)
    serverNonce := List.replicate n (ch 'x')
    salt := text "salt"
    iterations := 1 }

/-- The message for a user with a password, in a buffer of zero bytes. -/
def finalMessage (n : Nat) : CBuffer × Option (ScramClientState × Bytes) :=
  buildClientFinalMessageIn .masking (Vector.replicate 512 0) (answeredWith n)
    { name := text "u", passwd := text "p" }

theorem buildClientFinalMessageIn_iff_short :
    readServerFirstMessage asked (cString (serverFirstOf 40)) = some (answeredWith 40) ∧
      ((finalMessage 40).2 = none ∨ (finalMessage 40).1.outOfBounds = false) := by
  have hread : readServerFirstMessage asked (cString (serverFirstOf 40)) =
      some (answeredWith 40) := by decide
  have h := (buildClientFinalMessageIn_iff .masking (Vector.replicate 512 0) hread
    { name := text "u", passwd := text "p" } nofun).mpr (by decide)
  unfold finalMessage
  exact ⟨hread, h.imp_right And.left⟩

/-- A server that takes a nonce of 470 bytes makes pgbouncer write behind its buffer. -/
theorem client_final_out_of_bounds :
    readServerFirstMessage asked (cString (serverFirstOf 470)) = some (answeredWith 470) ∧
      (finalMessage 470).1.outOfBounds = true ∧ (finalMessage 470).2.isSome := by
  have hclean : ∀ b ∈ (answeredWith 470).serverNonce, b ≠ 0 := by
    intro b hb
    rw [List.eq_of_mem_replicate hb]
    decide
  have hlen : (answeredWith 470).serverNonce.length = 470 := List.length_replicate
  refine ⟨by decide +kernel, ?_⟩
  unfold finalMessage
  exact buildClientFinalMessageIn_outOfBounds (by exact nofun) _ _ hclean (by omega) (by omega)

end PgBouncer
