/-
Where cancel requests end up.

The number of hops in a key falls with every hop and no request is sent on with none left,
so three times is the most.  Nothing else in the key changes on the way, so when the request
gets to the bouncer the key says it comes from, setting the two bits again gives back the
key that was issued.  What the argument needs is that the bouncer knows itself by the id
in its keys.  There are two bytes for it, but the setting `peer_id` takes any integer, and a
bouncer with an id above them sends its own requests on to somebody else.
-/
import PgBouncer.Peering

namespace PgBouncer.Peering

variable {β : Type*}

/-! ### The bytes of a key -/

/-- A fact about all bytes is a fact about 256 of them. -/
theorem forall_byte {P : UInt8 → Prop} (h : ∀ i : Fin 256, P (UInt8.ofFin i)) (b : UInt8) : P b :=
  h b.toFin

theorem ttl_sub_one (b : UInt8) (h : b &&& cancellationTtlMask ≠ 0) :
    ((b - 1) &&& cancellationTtlMask).toNat + 1 = (b &&& cancellationTtlMask).toNat ∧
      (b - 1) ||| cancellationTtlMask = b ||| cancellationTtlMask := by
  revert b
  exact forall_byte (by decide +kernel)

theorem or_ttlMask_and (b : UInt8) :
    (b ||| cancellationTtlMask) &&& cancellationTtlMask = cancellationTtlMask := by
  rw [← UInt8.toBitVec_inj]
  ext i
  simp only [UInt8.toBitVec_and, UInt8.toBitVec_or, BitVec.getElem_and, BitVec.getElem_or]
  grind

theorem keyPeerId_refresh (key : CancelKey) : keyPeerId (refresh key) = keyPeerId key := by
  simp [keyPeerId, refresh]

/-! ### The key of a client -/

section Welcome

variable {peerId : Nat} (hpos : 0 < peerId) (random : CancelKey)

include hpos

theorem welcomeClient_seven :
    (welcomeClient peerId random)[7] = random[7] ||| cancellationTtlMask := by
  simp [welcomeClient, hpos]

theorem refresh_welcomeClient :
    refresh (welcomeClient peerId random) = welcomeClient peerId random := by
  have hbits : (welcomeClient peerId random)[7] ||| cancellationTtlMask =
      (welcomeClient peerId random)[7] := by
    rw [welcomeClient_seven hpos, UInt8.or_assoc, UInt8.or_self]
  rw [refresh, hbits, Vector.set_getElem_self]

theorem ttl_welcomeClient : ttl (welcomeClient peerId random) = 3 := by
  rw [ttl, welcomeClient_seven hpos, or_ttlMask_and]
  rfl

/-- Two bytes of the id are in the key. -/
theorem keyPeerId_welcomeClient : keyPeerId (welcomeClient peerId random) = peerId % 65536 := by
  have hlow : peerId &&& 0xFF = peerId % 256 := Nat.and_two_pow_sub_one_eq_mod peerId 8
  have hhigh : (peerId >>> 8) &&& 0xFF = peerId / 256 % 256 := by
    rw [Nat.shiftRight_eq_div_pow]
    exact Nat.and_two_pow_sub_one_eq_mod _ 8
  have hone : (welcomeClient peerId random)[1].toNat = peerId % 256 := by
    simp [welcomeClient, hpos, hlow]
  have htwo : (welcomeClient peerId random)[2].toNat = peerId / 256 % 256 := by
    simp [welcomeClient, hpos, hhigh]
  rw [keyPeerId, hone, htwo, Nat.shiftLeft_eq]
  omega

end Welcome

/-! ### One bouncer -/

namespace Bouncer

variable {b : Bouncer β} {key key' : CancelKey} {peer : β}

/-- A request that is sent on has lost a hop and nothing else. -/
theorem forwarded_key (h : b.acceptCancelRequest key = .forwarded peer key') :
    ttl key' + 1 = ttl key ∧ refresh key' = refresh key := by
  unfold acceptCancelRequest acceptCancelRequestForPeer at h
  dsimp only at h
  split_ifs at h with _ httl
  cases hpeer : b.findPeer (key[1].toNat + key[2].toNat <<< 8) with
  | none =>
    rw [hpeer] at h
    nomatch h
  | some q =>
    rw [hpeer] at h
    obtain ⟨-, rfl⟩ := Outcome.forwarded.inj h
    constructor
    · simpa [ttl] using (ttl_sub_one key[7] httl).1
    · simp [refresh, (ttl_sub_one key[7] httl).2]

/-- A bouncer with the id in the key looks for a client. -/
theorem acceptCancelRequest_own (hpos : 0 < b.peerId) (hid : b.peerId = keyPeerId key)
    (hclient : refresh key ∈ b.clients) : b.acceptCancelRequest key = .found (refresh key) := by
  have hany : b.clients.any (· == refresh key) = true :=
    List.any_eq_true.mpr ⟨_, hclient, beq_self_eq_true _⟩
  unfold acceptCancelRequest
  rw [if_neg (fun h => h.2 hid), if_pos hpos]
  exact if_pos hany

/-- A bouncer with another id does not look for one. -/
theorem keyPeerId_of_found (hpos : 0 < b.peerId) (h : b.acceptCancelRequest key = .found key') :
    b.peerId = keyPeerId key := by
  by_contra hid
  unfold acceptCancelRequest at h
  rw [if_pos ⟨hpos, hid⟩] at h
  unfold acceptCancelRequestForPeer at h
  split_ifs at h
  dsimp only at h
  split at h <;> nomatch h

/-- Only a client with the key that was sent is found, but for the two bits. -/
theorem found_key (h : b.acceptCancelRequest key = .found key') :
    key' ∈ b.clients ∧ refresh key' = refresh key ∧ (b.peerId = 0 ∨ b.peerId = keyPeerId key) := by
  unfold acceptCancelRequest acceptCancelRequestForPeer at h
  dsimp only at h
  split_ifs at h with hid _ _ hany hany
  · split at h <;> cases h
  all_goals
    cases h
    refine ⟨by simpa using hany, by simp [refresh, UInt8.or_assoc], ?_⟩
    unfold keyPeerId
    omega

end Bouncer

/-! ### The way of a request -/

/-- On its way a request only loses hops. -/
theorem Network.afterHops_key {net : Network β} {n : Nat} {b b' : β} {key key' : CancelKey}
    (h : net.afterHops n (b, key) = some (b', key')) :
    ttl key' + n = ttl key ∧ refresh key' = refresh key := by
  induction n generalizing b key with
  | zero =>
    obtain ⟨-, rfl⟩ := Prod.mk.inj (Option.some.inj h)
    exact ⟨rfl, rfl⟩
  | succ n ih =>
    unfold Network.afterHops at h
    cases hstep : (net b).acceptCancelRequest key with
    | forwarded peer key₁ =>
      rw [hstep] at h
      obtain ⟨httl, hrest⟩ := ih h
      obtain ⟨httl₁, hrest₁⟩ := Bouncer.forwarded_key hstep
      exact ⟨by omega, hrest.trans hrest₁⟩
    | found key₁ =>
      rw [hstep] at h
      nomatch h
    | disconnected reason =>
      rw [hstep] at h
      nomatch h

/-- **Cancel requests among peers.**  For any bouncers that know each other in any way and a
client that is logged in at `k`: no bouncer's copy of the client's cancel request is sent on
more than three times, whenever it gets to `k` the key that is looked for there is the one
that is stored for the client, and if it is sent to `k` it is looked for there at once, exactly
if the id of `k` fits into two bytes. -/
theorem Network.cancel_routed_iff (net : Network β) (k : β) (hpos : 0 < (net k).peerId)
    (random : CancelKey) (hclient : welcomeClient (net k).peerId random ∈ (net k).clients) :
    let key := welcomeClient (net k).peerId random
    ((∀ b, net.afterHops 4 (b, key) = none) ∧
      (∀ b n key', net.afterHops n (b, key) = some (k, key') →
        (net k).acceptCancelRequest key' = .found key) ∧
      (net k).acceptCancelRequest key = .found key) ↔
    (net k).peerId < 65536 := by
  intro key
  have hfresh : refresh key = key := refresh_welcomeClient hpos random
  have hid : keyPeerId key = (net k).peerId % 65536 := keyPeerId_welcomeClient hpos random
  constructor
  · rintro ⟨-, -, hdirect⟩
    have hown := Bouncer.keyPeerId_of_found hpos hdirect
    omega
  · intro hfits
    have hreach : ∀ b n key', net.afterHops n (b, key) = some (k, key') →
        (net k).acceptCancelRequest key' = .found key := by
      intro b n key' h
      have hkey : refresh key' = key := (net.afterHops_key h).2.trans hfresh
      have hid' : keyPeerId key' = keyPeerId key := by
        rw [← keyPeerId_refresh key', hkey]
      rw [← hkey]
      exact Bouncer.acceptCancelRequest_own hpos (by omega) (hkey ▸ hclient)
    refine ⟨fun b => ?_, hreach, hreach k 0 key rfl⟩
    cases h : net.afterHops 4 (b, key) with
    | none => rfl
    | some request =>
      -- A fourth hop would need a fourth one in the key.
      have httl := (net.afterHops_key h).1
      have hthree := ttl_welcomeClient hpos random
      change ttl request.2 + 4 = ttl (welcomeClient (net k).peerId random) at httl
      omega

/-- **Every cancel request ends.**  Whatever the bouncers know of each other and whatever the
key, also one that nobody has issued, a request is sent on no more often than its key says.
Then it is dropped, or it has found a client, and only one with the key that was sent, but for
the two bits, at a bouncer that has no id or the one in the key. -/
theorem Network.request_ends (net : Network β) (b : β) (key : CancelKey) :
    ∃ n ≤ ttl key, ∃ b' key', net.afterHops n (b, key) = some (b', key') ∧
      ((∃ reason, (net b').acceptCancelRequest key' = .disconnected reason) ∨
        ∃ k ∈ (net b').clients, (net b').acceptCancelRequest key' = .found k ∧
          refresh k = refresh key ∧ ((net b').peerId = 0 ∨ (net b').peerId = keyPeerId key)) := by
  induction hleft : ttl key using Nat.strongRecOn generalizing b key with
  | ind hops ih =>
    cases hstep : (net b).acceptCancelRequest key with
    | forwarded peer key₁ =>
      obtain ⟨httl, hkey⟩ := Bouncer.forwarded_key hstep
      obtain ⟨n, hn, b', key', hafter, hend⟩ := ih (ttl key₁) (by omega) peer key₁ rfl
      -- A hop costs one of those that are left, and changes nothing else of the key.
      rw [hkey, ← keyPeerId_refresh key₁, hkey, keyPeerId_refresh] at hend
      exact ⟨n + 1, by omega, b', key', by rw [afterHops, hstep]; exact hafter, hend⟩
    | disconnected reason => exact ⟨0, Nat.zero_le _, b, key, rfl, .inl ⟨reason, hstep⟩⟩
    | found k =>
      obtain ⟨hclient, hk⟩ := Bouncer.found_key hstep
      exact ⟨0, Nat.zero_le _, b, key, rfl, .inr ⟨k, hclient, hstep, hk⟩⟩

/-! ### Two bouncers -/

/-- Random bytes that happen to be zero. -/
def zeros : CancelKey := Vector.replicate 8 0

/-- A bouncer with a given id that has a client, and one with the id `1` that has none.  They
know each other as the peer `1`. -/
def couple (peerId : Nat) : Network Bool := fun second =>
  { peerId := if second then 1 else peerId
    findPeer := fun id => if id = 1 then some !second else none
    clients := if second then [] else [welcomeClient peerId zeros] }

theorem cancel_routed_iff_couple :
    0 < (couple 2 false).peerId ∧
      welcomeClient 2 zeros ∈ (couple 2 false).clients ∧
      (couple 2 false).acceptCancelRequest (welcomeClient 2 zeros) =
        .found (welcomeClient 2 zeros) :=
  have hpos : 0 < (couple 2 false).peerId := by decide
  have hclient : welcomeClient 2 zeros ∈ (couple 2 false).clients := List.mem_singleton.mpr rfl
  ⟨hpos, hclient,
    ((Network.cancel_routed_iff (couple 2) false hpos zeros hclient).mpr (by decide)).2.2⟩

/-- The bouncer with the id 65537 sends a request of its own client on to the other one, and
that one does not know the client. -/
theorem own_request_forwarded :
    ∃ key, (couple 65537 false).acceptCancelRequest (welcomeClient 65537 zeros) =
        .forwarded true key ∧
      (couple 65537).afterHops 1 (false, welcomeClient 65537 zeros) = some (true, key) ∧
      (couple 65537 true).acceptCancelRequest key =
        .disconnected (text "failed cancel request") :=
  ⟨_, rfl, rfl, by decide⟩

end PgBouncer.Peering
