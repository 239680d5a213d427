/-
Which addresses the address column of an HBA line matches.

`match_inet4` and `match_inet6` mask the address of the client and compare the result
with the address of the rule as it is stored.  Bit by bit this asks that the client has
the rule's bit where the mask is set, and that the rule has no bit where it is not.  So
a rule whose address has a bit outside its mask matches nobody, not even the address it
names, and `prefixMask` has exactly the bits a prefix length stands for.
-/
import PgBouncer.Auth.HbaAddress

namespace PgBouncer.Access

/-! ### Bits of an address -/

/-- A bit of an address, counted from the left. -/
def bit (b : Bytes) (k : Nat) : Bool := (b.getD (k / 8) 0).toNat.testBit (7 - k % 8)

theorem bit_zipWith {a b : Bytes} (hlen : a.length = b.length) (k : Nat) :
    bit (List.zipWith (· &&& ·) a b) k = (bit a k && bit b k) := by
  have hget : (List.zipWith (· &&& ·) a b).getD (k / 8) 0 =
      a.getD (k / 8) 0 &&& b.getD (k / 8) 0 := by
    simp only [List.getD_eq_getElem?_getD, List.getElem?_zipWith]
    by_cases h : k / 8 < a.length
    · simp [List.getElem?_eq_getElem h, List.getElem?_eq_getElem (hlen ▸ h)]
    · rw [List.getElem?_eq_none (Nat.not_lt.mp h),
        List.getElem?_eq_none (hlen ▸ Nat.not_lt.mp h)]
      rfl
  rw [bit, hget, UInt8.toNat_and, Nat.testBit_and]
  rfl

/-- An address is determined by its bits. -/
theorem eq_of_bit_eq {a b : Bytes} (hlen : a.length = b.length) (h : ∀ k, bit a k = bit b k) :
    a = b := by
  refine List.ext_getElem hlen fun i ha hb => UInt8.toNat_inj.mp (Nat.eq_of_testBit_eq fun j => ?_)
  by_cases hj : j < 8
  · have hk := h (8 * i + (7 - j))
    have hdiv : (8 * i + (7 - j)) / 8 = i := by omega
    have hmod : 7 - (8 * i + (7 - j)) % 8 = j := by omega
    rw [bit, bit, hdiv, hmod] at hk
    simpa [List.getD_eq_getElem?_getD, ha, hb] using hk
  · have hlt : ∀ x : UInt8, x.toNat < 2 ^ j := fun x =>
      Nat.lt_of_lt_of_le x.toNat_lt (Nat.pow_le_pow_right (by decide) (Nat.not_lt.mp hj))
    rw [Nat.testBit_lt_two_pow (hlt _), Nat.testBit_lt_two_pow (hlt _)]

/-- What the comparison asks of each bit. -/
theorem masked_iff {src mask base : Bytes} (hsrc : src.length = base.length)
    (hmask : mask.length = base.length) :
    masked src mask base = true ↔ ∀ k, (bit src k && bit mask k) = bit base k := by
  have hlen : (List.zipWith (· &&& ·) src mask).length = base.length := by
    simp [hsrc, hmask]
  have hbit := @bit_zipWith src mask (hsrc.trans hmask.symm)
  rw [masked, decide_eq_true_eq]
  constructor
  · rintro rfl k
    exact (hbit k).symm
  · intro h
    exact eq_of_bit_eq hlen fun k => (hbit k).trans (h k)

/-! ### Masks -/

namespace Library

theorem length_prefixMask {n bits : Nat} (h : bits ≤ 8 * n) : (prefixMask n bits).length = n := by
  unfold prefixMask
  split_ifs <;> simp
  all_goals omega

/-- A byte of a mask that is partly set. -/
theorem testBit_part : ∀ r < 8, ∀ j < 8, 0 < r →
    ((255 : UInt8) <<< UInt8.ofNat (8 - r)).toNat.testBit (7 - j) = decide (j < r) := by
  decide

/-- A prefix length stands for so many bits from the left. -/
theorem bit_prefixMask (n bits k : Nat) : bit (prefixMask n bits) k = decide (k < bits) := by
  have hj : k % 8 < 8 := Nat.mod_lt _ (by decide)
  unfold bit prefixMask
  rw [List.append_assoc, List.getD_eq_getElem?_getD]
  by_cases hwhole : k / 8 < bits / 8
  · rw [List.getElem?_append_left (by simpa using hwhole), List.getElem?_replicate, if_pos hwhole]
    have hset : ∀ j < 8, (255 : UInt8).toNat.testBit (7 - j) = true := by decide
    rw [Option.getD_some, hset _ hj, eq_comm, decide_eq_true_eq]
    omega
  · rw [List.getElem?_append_right (by simpa using hwhole), List.length_replicate]
    by_cases hpart : bits % 8 ≠ 0 ∧ k / 8 = bits / 8
    · rw [if_pos hpart.1, hpart.2, Nat.sub_self]
      rw [List.cons_append, List.getElem?_cons_zero, Option.getD_some,
        testBit_part _ (Nat.mod_lt _ (by decide)) _ hj (Nat.pos_of_ne_zero hpart.1)]
      exact decide_eq_decide.mpr (by omega)
    · rw [List.getElem?_append_right, List.getElem?_replicate]
      · have hout : ¬k < bits := by omega
        simp [apply_ite (Option.getD · (0 : UInt8)), hout]
      · split_ifs
        · simp
          omega
        · simp

end Library

/-! ### The column -/

variable {lib : Library} {nameFile : Bytes → Option HbaName} {ruleType : RuleType}
  {ts rest : Line} {address : HbaAddress}

/-- The bits the column asks for: those of the prefix length, or those of the mask. -/
def covers (lib : Library) (family : Family) : Line → Nat → Bool
  | .ident s :: ts, k =>
    if s.contains (ch '/') then
      (lib.strtoul (s.drop ((s.takeWhile (· ≠ ch '/')).length + 1))).any (k < ·)
    else
      match ts with
      | .ident mask :: _ => (lib.inetPton family mask).any (bit ·.toList k)
      | _ => false
  | _, _ => false

/-- The address of a rule, and a mask with the bits that the column asks for. -/
theorem parseAddress_cases (hhost : ruleType ≠ .socket)
    (h : parseAddress (lib.outside nameFile) ruleType ts = some (address, rest)) :
    address = .all ∨ ∃ (family : Family) (base mask : Bytes),
      address = family.hbaAddress base mask ∧ base.length = family.bytes ∧
        mask.length = family.bytes ∧ ∀ k, bit mask k = covers lib family ts k := by
  unfold parseAddress at h
  rw [if_neg hhost] at h
  split at h
  · rename_i s ts
    split_ifs at h with hall hslash
    · exact .inl (congrArg Prod.fst (Option.some.inj h)).symm
    · obtain ⟨address', hcidr, heq⟩ := Option.map_eq_some_iff.mp h
      obtain ⟨⟨family, base⟩, -, hmask⟩ := Option.bind_eq_some_iff.mp hcidr
      obtain ⟨mask, hnmask, rfl⟩ := Option.map_eq_some_iff.mp hmask
      obtain ⟨bits, hbits, hle⟩ := Option.bind_eq_some_iff.mp hnmask
      obtain ⟨hbound, hmask'⟩ := Option.ite_none_left_eq_some.mp hle
      obtain rfl := Option.some.inj hmask'
      refine .inr ⟨family, base.toList, _, (congrArg Prod.fst heq).symm, base.length_toList,
        Library.length_prefixMask (Nat.not_lt.mp hbound), fun k => ?_⟩
      unfold covers
      dsimp only
      rw [Library.bit_prefixMask, if_pos hslash, hbits]
      rfl
    · split at h
      · rename_i maskText ts
        obtain ⟨address', hmasked, heq⟩ := Option.map_eq_some_iff.mp h
        obtain ⟨⟨family, base⟩, -, hpton⟩ := Option.bind_eq_some_iff.mp hmasked
        obtain ⟨mask, hmask, rfl⟩ := Option.map_eq_some_iff.mp hpton
        refine .inr ⟨family, base.toList, mask.toList, (congrArg Prod.fst heq).symm,
          base.length_toList, mask.length_toList, fun k => ?_⟩
        unfold covers
        dsimp only
        rw [if_neg hslash, hmask]
        rfl
      · exact nomatch h
  · exact nomatch h

theorem addressMatch_iff {family : Family} {base mask src : Bytes}
    (hbase : base.length = family.bytes) (hmask : mask.length = family.bytes)
    (hsrc : src.length = family.bytes) :
    (family.hbaAddress base mask).addressMatch (family.pgAddr src) = true ↔
      ∀ k, (bit src k && bit mask k) = bit base k := by
  have h := @masked_iff src mask base (hsrc.trans hbase.symm) (hmask.trans hbase.symm)
  cases family with
  | inet => exact h
  | inet6 => exact h

/-- **The address column.**  For every line with an address that is accepted, a client's
address of the family matches exactly if it agrees with the rule's on all bits of the
mask, for all clients, if and only if the rule's address has no bit outside the mask. -/
theorem address_column_iff {family : Family} {base mask : Bytes} (hhost : ruleType ≠ .socket)
    (h : parseAddress (lib.outside nameFile) ruleType ts =
      some (family.hbaAddress base mask, rest)) :
    (∀ src : Bytes, src.length = family.bytes →
        ((family.hbaAddress base mask).addressMatch (family.pgAddr src) = true ↔
          ∀ k, covers lib family ts k = true → bit src k = bit base k)) ↔
      ∀ k, bit base k = true → covers lib family ts k = true := by
  obtain hall | ⟨family', base', mask', heq, hbase, hmask, hbits⟩ := parseAddress_cases hhost h
  · cases family <;> exact nomatch hall
  obtain ⟨rfl, rfl, rfl⟩ : family = family' ∧ base = base' ∧ mask = mask' := by
    cases family <;> cases family' <;> cases heq <;> exact ⟨rfl, rfl, rfl⟩
  constructor
  · intro hexact k hk
    have hself := (addressMatch_iff hbase hmask hbase).mp ((hexact base hbase).mpr fun _ _ => rfl) k
    rw [hk, hbits] at hself
    exact hself
  · intro hinside src hsrc
    rw [addressMatch_iff hbase hmask hsrc]
    simp only [hbits]
    constructor
    · intro hmatch k hk
      rw [← hmatch k, hk, Bool.and_true]
    · intro hagree k
      cases hk : covers lib family ts k with
      | true => rw [hagree k hk, Bool.and_true]
      | false =>
        rw [Bool.and_false, eq_comm]
        exact Bool.eq_false_iff.mpr fun hbit => nomatch hk.symm.trans (hinside k hbit)

/-- A library that knows one address, `10.1.0.0`, and the numbers 8 and 16. -/
def oneAddress : Library where
  inetPton
    | .inet, s => if s = kw "10.1.0.0" then some #v[10, 1, 0, 0] else none
    | .inet6, _ => none
  strtoul s := if s = kw "8" then some 8 else if s = kw "16" then some 16 else none

theorem address_column_iff_sixteen :
    parseAddress (oneAddress.outside fun _ => none) .host [.ident (kw "10.1.0.0/16")] =
      some (.inet4 [10, 1, 0, 0] [255, 255, 0, 0], []) ∧
    ∀ src : Bytes, src.length = 4 →
      ((HbaAddress.inet4 [10, 1, 0, 0] [255, 255, 0, 0]).addressMatch (.inet4 src) = true ↔
        ∀ k, covers oneAddress .inet [.ident (kw "10.1.0.0/16")] k = true →
          bit src k = bit [10, 1, 0, 0] k) := by
  have hparse : parseAddress (oneAddress.outside fun _ => none) .host
      [.ident (kw "10.1.0.0/16")] = some (.inet4 [10, 1, 0, 0] [255, 255, 0, 0], []) := by
    decide
  refine ⟨hparse, (@address_column_iff oneAddress (fun _ => none) .host
    [.ident (kw "10.1.0.0/16")] [] .inet [10, 1, 0, 0] [255, 255, 0, 0] (by decide)
    hparse).mpr fun k hk => ?_⟩
  have hcovers : ∀ k < 16, covers oneAddress .inet [.ident (kw "10.1.0.0/16")] k = true := by
    decide
  refine hcovers k (Nat.not_le.mp fun hle => ?_)
  obtain ⟨i, hi⟩ : ∃ i, k / 8 = i + 2 := ⟨k / 8 - 2, by omega⟩
  have hzero : ([10, 1, 0, 0] : Bytes).getD (i + 2) 0 = 0 := by
    rcases i with _ | _ | _ <;> rfl
  rw [bit, hi, hzero] at hk
  simp at hk

/-- The rule `10.1.0.0/8` is for everything in `10.0.0.0/8`, and matches nothing, its own
address included. -/
theorem own_address_refused :
    ∃ address rest,
      parseAddress (oneAddress.outside fun _ => none) .host
        [.ident (kw "10.1.0.0/8"), .ident (kw "trust")] = some (address, rest) ∧
      covers oneAddress .inet [.ident (kw "10.1.0.0/8"), .ident (kw "trust")] 7 = true ∧
      covers oneAddress .inet [.ident (kw "10.1.0.0/8"), .ident (kw "trust")] 8 = false ∧
      address.addressMatch (.inet4 [10, 1, 0, 0]) = false ∧
      address.addressMatch (.inet4 [10, 0, 0, 0]) = false :=
  ⟨_, _, rfl, by decide⟩

end PgBouncer.Access
