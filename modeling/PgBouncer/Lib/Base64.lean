/-
Base64, as the SCRAM messages use it.

`encode` writes four symbols for every three bytes and pads the last group;
`decode` reads symbol by symbol, with the position in the group, the bits read so
far and whether padding has begun as its state.  What the proofs need is that
decoding undoes encoding, how long an encoded text is, and that it is printable and has no
comma in it.
-/
import Mathlib.Algebra.Group.Nat.Defs
import Mathlib.Data.List.Basic

namespace Base64

/-- The symbol for six bits. -/
def symbol (i : Nat) : UInt8 :=
  if i < 26 then (65 + i).toUInt8
  else if i < 52 then (71 + i).toUInt8
  else if i < 62 then (i - 4).toUInt8
  else if i = 62 then 43
  else 47

/-- The six bits of a symbol. -/
def value (c : UInt8) : Option Nat :=
  let n := c.toNat
  if 65 ≤ n ∧ n ≤ 90 then some (n - 65)
  else if 97 ≤ n ∧ n ≤ 122 then some (n - 71)
  else if 48 ≤ n ∧ n ≤ 57 then some (n + 4)
  else if n = 43 then some 62
  else if n = 47 then some 63
  else none

/-- `'='`. -/
def pad : UInt8 := 61

/-- The four groups of six bits in a number of 24. -/
def sextet (buf i : Nat) : Nat :=
  buf / 2 ^ (18 - 6 * i) % 64

/-- Encode, group by group. -/
def encode : List UInt8 → List UInt8
  | [] => []
  | [a] =>
    let buf := a.toNat * 65536
    [symbol (sextet buf 0), symbol (sextet buf 1), pad, pad]
  | [a, b] =>
    let buf := a.toNat * 65536 + b.toNat * 256
    [symbol (sextet buf 0), symbol (sextet buf 1), symbol (sextet buf 2), pad]
  | a :: b :: c :: rest =>
    let buf := a.toNat * 65536 + b.toNat * 256 + c.toNat
    symbol (sextet buf 0) :: symbol (sextet buf 1) :: symbol (sextet buf 2) ::
      symbol (sextet buf 3) :: encode rest

/-- What has been read of a group. -/
structure State where
  buf : Nat := 0
  pos : Nat := 0
  /-- Where padding has begun; zero if it has not. -/
  fin : Nat := 0
  deriving DecidableEq

/-- The bytes of a full group. -/
def flush (buf fin : Nat) : List UInt8 :=
  (buf / 65536 % 256).toUInt8 ::
    ((if fin = 0 ∨ 1 < fin then [(buf / 256 % 256).toUInt8] else []) ++
      if fin = 0 ∨ 2 < fin then [(buf % 256).toUInt8] else [])

/-- Add six bits. -/
def State.add (s : State) (b : Nat) : State × List UInt8 :=
  if s.pos + 1 = 4 then ({ s with buf := 0, pos := 0 }, flush (s.buf * 64 + b) s.fin)
  else ({ s with buf := s.buf * 64 + b, pos := s.pos + 1 }, [])

/-- Read one symbol. -/
def State.read (s : State) (c : UInt8) : Option (State × List UInt8) :=
  if c = pad then
    if s.fin ≠ 0 then some (s.add 0)
    else if s.pos = 2 then some ({ s with fin := 1 }.add 0)
    else if s.pos = 3 then some ({ s with fin := 2 }.add 0)
    else none
  else (value c).map s.add

def decodeFrom : State → List UInt8 → Option (List UInt8)
  | s, [] => if s.pos = 0 then some [] else none
  | s, c :: cs => (s.read c).bind fun r => (decodeFrom r.1 cs).map (r.2 ++ ·)

/-- Decode; `none` if the text is not Base64. -/
def decode (text : List UInt8) : Option (List UInt8) :=
  decodeFrom {} text

/-! ### Decoding undoes encoding -/

theorem symbol_facts :
    ∀ i, i < 64 → value (symbol i) = some i ∧ symbol i ≠ pad ∧ symbol i ≠ 44 ∧ symbol i ≠ 0 := by
  decide

theorem sextet_lt (buf i : Nat) : sextet buf i < 64 :=
  Nat.mod_lt _ (by decide)

/-- Reading a symbol that does not fill its group. -/
theorem decodeFrom_symbol {buf pos i : Nat} (hi : i < 64) (hpos : pos < 3)
    (text : List UInt8) :
    decodeFrom ⟨buf, pos, 0⟩ (symbol i :: text) = decodeFrom ⟨buf * 64 + i, pos + 1, 0⟩ text := by
  have hne : pos + 1 ≠ 4 := by omega
  rw [decodeFrom, State.read, if_neg (symbol_facts i hi).2.1, (symbol_facts i hi).1]
  simp [State.add, hne]

/-- Reading the symbol that fills a group. -/
theorem decodeFrom_last {buf i : Nat} (hi : i < 64) (text : List UInt8) :
    decodeFrom ⟨buf, 3, 0⟩ (symbol i :: text) =
      (decodeFrom {} text).map (flush (buf * 64 + i) 0 ++ ·) := by
  rw [decodeFrom, State.read, if_neg (symbol_facts i hi).2.1, (symbol_facts i hi).1]
  simp [State.add]

theorem toUInt8_toNat_mod (b : UInt8) (n : Nat) (h : n % 256 = b.toNat) :
    (n % 256).toUInt8 = b := by
  rw [h]
  simp

/-- Four symbols are read back as the three bytes they were written for. -/
theorem decodeFrom_group (a b c : UInt8) (text : List UInt8) :
    decodeFrom {} (symbol (sextet (a.toNat * 65536 + b.toNat * 256 + c.toNat) 0) ::
      symbol (sextet (a.toNat * 65536 + b.toNat * 256 + c.toNat) 1) ::
      symbol (sextet (a.toNat * 65536 + b.toNat * 256 + c.toNat) 2) ::
      symbol (sextet (a.toNat * 65536 + b.toNat * 256 + c.toNat) 3) :: text) =
    (decodeFrom {} text).map ([a, b, c] ++ ·) := by
  have ha := a.toNat_lt
  have hb := b.toNat_lt
  have hc := c.toNat_lt
  have hbuf : ∀ buf, buf < 2 ^ 24 → ((sextet buf 0 * 64 + sextet buf 1) * 64 + sextet buf 2) * 64 +
      sextet buf 3 = buf := by
    intro buf hlt
    simp only [sextet]
    omega
  rw [decodeFrom_symbol (sextet_lt _ _) (by decide), decodeFrom_symbol (sextet_lt _ _) (by decide),
    decodeFrom_symbol (sextet_lt _ _) (by decide), decodeFrom_last (sextet_lt _ _), Nat.zero_mul,
    Nat.zero_add]
  rw [hbuf _ (by omega)]
  have hflush : flush (a.toNat * 65536 + b.toNat * 256 + c.toNat) 0 = [a, b, c] := by
    simp only [flush]
    rw [toUInt8_toNat_mod a _ (by omega), toUInt8_toNat_mod b _ (by omega),
      toUInt8_toNat_mod c _ (by omega)]
    rfl
  rw [hflush]

theorem decode_two (a b : UInt8) : decode (encode [a, b]) = some [a, b] := by
  have ha := a.toNat_lt
  have hb := b.toNat_lt
  have hbuf : ∀ buf, buf < 2 ^ 24 → buf % 256 = 0 →
      ((sextet buf 0 * 64 + sextet buf 1) * 64 + sextet buf 2) * 64 + 0 = buf := by
    intro buf hlt hlow
    simp only [sextet]
    omega
  rw [decode, encode, decodeFrom_symbol (sextet_lt _ _) (by decide),
    decodeFrom_symbol (sextet_lt _ _) (by decide), decodeFrom_symbol (sextet_lt _ _) (by decide),
    Nat.zero_mul, Nat.zero_add]
  simp only [decodeFrom, State.read, State.add, if_true]
  simp only [Nat.reduceAdd, Nat.reduceEqDiff, if_true, if_false, ne_eq, not_true_eq_false,
    Option.bind_some, Option.map_some, List.append_nil]
  rw [hbuf _ (by omega) (by omega)]
  simp only [flush]
  rw [toUInt8_toNat_mod a _ (by omega), toUInt8_toNat_mod b _ (by omega)]
  rfl

theorem decode_one (a : UInt8) : decode (encode [a]) = some [a] := by
  have ha := a.toNat_lt
  have hbuf : ∀ buf, buf < 2 ^ 24 → buf % 65536 = 0 →
      ((sextet buf 0 * 64 + sextet buf 1) * 64 + 0) * 64 + 0 = buf := by
    intro buf hlt hlow
    simp only [sextet]
    omega
  rw [decode, encode, decodeFrom_symbol (sextet_lt _ _) (by decide),
    decodeFrom_symbol (sextet_lt _ _) (by decide), Nat.zero_mul, Nat.zero_add]
  simp only [decodeFrom, State.read, State.add, if_true]
  simp only [Nat.reduceAdd, Nat.reduceEqDiff, if_true, if_false, ne_eq, not_true_eq_false,
    Option.bind_some, Option.map_some, List.append_nil, List.nil_append, Nat.one_ne_zero,
    not_false_eq_true]
  rw [hbuf _ (by omega) (by omega)]
  simp only [flush]
  rw [toUInt8_toNat_mod a _ (by omega)]
  rfl

/-- **Decoding undoes encoding.** -/
theorem decode_encode (bytes : List UInt8) : decode (encode bytes) = some bytes := by
  induction bytes using encode.induct with
  | case1 => rfl
  | case2 a => exact decode_one a
  | case3 a b => exact decode_two a b
  | case4 a b c rest ih =>
    rw [decode, encode, decodeFrom_group, ← decode, ih]
    rfl

/-- What holds of every symbol and of the padding holds throughout an encoded text. -/
theorem forall_mem_encode {P : UInt8 → Prop} (hall : ∀ i, i < 64 → P (symbol i)) (hpad : P pad)
    (bytes : List UInt8) : ∀ c ∈ encode bytes, P c := by
  have hsymbol : ∀ buf i, P (symbol (sextet buf i)) := fun buf i => hall _ (sextet_lt buf i)
  induction bytes using encode.induct with
  | case1 => simp [encode]
  | case2 a =>
    simp only [encode, List.forall_mem_cons]
    exact ⟨hsymbol _ _, hsymbol _ _, hpad, hpad, by simp⟩
  | case3 a b =>
    simp only [encode, List.forall_mem_cons]
    exact ⟨hsymbol _ _, hsymbol _ _, hsymbol _ _, hpad, by simp⟩
  | case4 a b c rest ih =>
    simp only [encode, List.forall_mem_cons]
    exact ⟨hsymbol _ _, hsymbol _ _, hsymbol _ _, hsymbol _ _, ih⟩

/-- No comma and no zero byte in an encoded text. -/
theorem encode_clean (bytes : List UInt8) : ∀ c ∈ encode bytes, c ≠ 44 ∧ c ≠ 0 :=
  forall_mem_encode (fun i hi => (symbol_facts i hi).2.2) (by decide) bytes

theorem length_encode (bytes : List UInt8) :
    (encode bytes).length = (bytes.length + 2) / 3 * 4 := by
  induction bytes using encode.induct with
  | case1 => rfl
  | case2 a => simp [encode]
  | case3 a b => simp [encode]
  | case4 a b c rest ih =>
    simp only [encode, List.length_cons, ih]
    omega

/-- Nothing but printable characters in an encoded text. -/
theorem encode_printable (bytes : List UInt8) : ∀ c ∈ encode bytes, 33 ≤ c ∧ c ≤ 126 :=
  forall_mem_encode (by decide) (by decide) bytes

/-- What can be decoded has no comma and no zero byte in it. -/
theorem decodeFrom_clean {text bytes : List UInt8} {s : State}
    (h : decodeFrom s text = some bytes) : ∀ c ∈ text, c ≠ 44 ∧ c ≠ 0 := by
  induction text generalizing s bytes with
  | nil => simp
  | cons x text ih =>
    obtain ⟨r, hread, hrest⟩ := Option.bind_eq_some_iff.1 h
    obtain ⟨bytes', hrest, -⟩ := Option.map_eq_some_iff.1 hrest
    rw [List.forall_mem_cons]
    refine ⟨⟨?_, ?_⟩, ih hrest⟩ <;> rintro rfl <;> simp [State.read, pad, value] at hread

theorem decode_clean {text bytes : List UInt8} (h : decode text = some bytes) :
    ∀ c ∈ text, c ≠ 44 ∧ c ≠ 0 := decodeFrom_clean h

end Base64
