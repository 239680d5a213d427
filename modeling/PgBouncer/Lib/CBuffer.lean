/-
Buffers of a fixed size, and the C functions that fill them.

A buffer is its bytes and a mark that is set by a write outside of it; what such a write
does to other memory is not described.  `snprintf` and `strlcat` are told the size and keep
to it, while `putString` copies wherever it is told to.  For each of them the lemmas say
when it stays in the buffer and which string is in the buffer afterwards.
-/
import Mathlib.Data.List.Basic

structure CBuffer where
  bytes : List UInt8
  /-- There was a write outside of the buffer. -/
  outOfBounds : Bool := false
  deriving DecidableEq

namespace CBuffer

variable (b : CBuffer)

def size : Nat := b.bytes.length

/-- `buf[i] = v`. -/
def store (i : Nat) (v : UInt8) : CBuffer :=
  if i < b.size then { b with bytes := b.bytes.set i v } else { b with outOfBounds := true }

/-- Some bytes, one after the other. -/
def write (b : CBuffer) (i : Nat) : List UInt8 → CBuffer
  | [] => b
  | v :: vs => (b.store i v).write (i + 1) vs

/-- Some bytes and a zero byte. -/
def putString (i : Nat) (s : List UInt8) : CBuffer :=
  (b.write i s).store (i + s.length) 0

/-- The string that the buffer starts with. -/
def string : List UInt8 := b.bytes.takeWhile (· != 0)

/-- `snprintf(buf, sizeof(buf), …)`, for the text to be printed. -/
def snprintf (s : List UInt8) : CBuffer :=
  if 0 < b.size then b.putString 0 (s.take (b.size - 1)) else b

/-- `strlcat(buf, s, sizeof(buf))`, with the length it returns. -/
def strlcat (s : List UInt8) : CBuffer × Nat :=
  let pos := b.string.length
  (if pos < b.size then b.putString pos (s.take (b.size - pos - 1)) else b, pos + s.length)

/-! ### Writes -/

theorem size_store (i : Nat) (v : UInt8) : (b.store i v).size = b.size := by
  unfold store
  split
  · exact List.length_set
  · rfl

theorem size_write (i : Nat) (s : List UInt8) : (b.write i s).size = b.size := by
  induction s generalizing b i with
  | nil => rfl
  | cons v vs ih => rw [write, ih, size_store]

theorem size_putString (i : Nat) (s : List UInt8) : (b.putString i s).size = b.size := by
  rw [putString, size_store, size_write]

/-- A string that does not fit with its zero byte is written out of bounds. -/
theorem outOfBounds_putString {b : CBuffer} {i : Nat} {s : List UInt8}
    (h : b.size ≤ i + s.length) : (b.putString i s).outOfBounds = true := by
  unfold putString store
  rw [size_write, if_neg (Nat.not_lt.mpr h)]

theorem store_append (pre post : List UInt8) (x v : UInt8) (out : Bool) :
    (CBuffer.mk (pre ++ x :: post) out).store pre.length v = ⟨pre ++ v :: post, out⟩ := by
  have hin : pre.length < (CBuffer.mk (pre ++ x :: post) out).size := by
    simp [size]
  rw [store, if_pos hin]
  simp

/-- The bytes that are overwritten are as many as those that are written. -/
theorem write_append (s : List UInt8) :
    ∀ (pre old post : List UInt8) (out : Bool), old.length = s.length →
      (CBuffer.mk (pre ++ old ++ post) out).write pre.length s = ⟨pre ++ s ++ post, out⟩ := by
  induction s with
  | nil =>
    intro pre old post out hlen
    rw [List.length_eq_zero_iff.mp hlen]
    rfl
  | cons v vs ih =>
    intro pre old post out hlen
    obtain ⟨x, rest, rfl⟩ := List.exists_cons_of_length_eq_add_one hlen
    have hrest : rest.length = vs.length := Nat.succ.inj hlen
    have hstep := ih (pre ++ [v]) rest post out hrest
    rw [List.length_append] at hstep
    rw [write, List.append_assoc, List.cons_append, store_append]
    simpa using hstep

/-- A string that fits replaces as many bytes and one more, and leaves the rest alone. -/
theorem putString_eq {b : CBuffer} {i : Nat} {s : List UInt8} (h : i + s.length < b.size) :
    b.putString i s =
      ⟨b.bytes.take i ++ s ++ 0 :: b.bytes.drop (i + s.length + 1), b.outOfBounds⟩ := by
  obtain ⟨bytes, out⟩ := b
  change i + s.length < bytes.length at h
  have hpre : (bytes.take i).length = i := by
    rw [List.length_take]
    omega
  have hsplit : bytes = bytes.take i ++ (bytes.drop i).take s.length ++
      bytes[i + s.length] :: bytes.drop (i + s.length + 1) := by
    rw [← List.drop_eq_getElem_cons h, ← List.drop_drop, List.append_assoc,
      List.take_append_drop, List.take_append_drop]
  have hold : ((bytes.drop i).take s.length).length = s.length := by
    rw [List.length_take, List.length_drop]
    omega
  have hwrite := write_append s (bytes.take i) ((bytes.drop i).take s.length)
    (bytes[i + s.length] :: bytes.drop (i + s.length + 1)) out hold
  have hstore := store_append (bytes.take i ++ s) (bytes.drop (i + s.length + 1))
    bytes[i + s.length] 0 out
  rw [← hsplit, hpre] at hwrite
  rw [List.length_append, hpre] at hstore
  rw [putString, hwrite, hstore]

theorem string_of_clean {pre post : List UInt8} {out : Bool} (h : ∀ c ∈ pre, c ≠ 0) :
    (CBuffer.mk (pre ++ 0 :: post) out).string = pre := by
  unfold string
  rw [List.takeWhile_append_of_pos fun c hc => bne_iff_ne.mpr (h c hc)]
  simp

/-! ### The functions of C -/

/-- What is printed is cut off to fit. -/
theorem snprintf_eq {b : CBuffer} (hpos : 0 < b.size) (s : List UInt8) :
    b.snprintf s = ⟨s.take (b.size - 1) ++ 0 :: b.bytes.drop ((s.take (b.size - 1)).length + 1),
      b.outOfBounds⟩ := by
  have hfit : 0 + (s.take (b.size - 1)).length < b.size := by
    rw [List.length_take]
    omega
  rw [snprintf, if_pos hpos, putString_eq hfit]
  simp

theorem size_strlcat (s : List UInt8) : (b.strlcat s).1.size = b.size := by
  unfold strlcat
  dsimp only
  split
  · exact size_putString _ _ _
  · rfl

/-- A string that fits is put behind the one that is there. -/
theorem strlcat_eq {pre post s : List UInt8} {out : Bool} (hclean : ∀ c ∈ pre, c ≠ 0)
    (hfit : s.length ≤ post.length) :
    (CBuffer.mk (pre ++ 0 :: post) out).strlcat s =
      (⟨pre ++ s ++ 0 :: post.drop s.length, out⟩, pre.length + s.length) := by
  have hsize : (CBuffer.mk (pre ++ 0 :: post) out).size = pre.length + (post.length + 1) := by
    simp [size]
  have htake : s.take (pre.length + (post.length + 1) - pre.length - 1) = s :=
    List.take_of_length_le (by omega)
  have hdrop : (pre ++ 0 :: post).drop (pre.length + s.length + 1) = post.drop s.length := by
    rw [Nat.add_assoc, List.drop_length_add_append]
    rfl
  unfold strlcat
  dsimp only
  rw [string_of_clean hclean, hsize, htake, if_pos (by omega),
    putString_eq (by rw [hsize]; omega), hdrop]
  simp

/-- A string is copied to the end of another one: all goes well exactly if there is room. -/
theorem putString_end_iff {pre s : List UInt8} (post : List UInt8) (hpre : ∀ c ∈ pre, c ≠ 0)
    (hs : ∀ c ∈ s, c ≠ 0) :
    let b := (CBuffer.mk (pre ++ 0 :: post) false).putString pre.length s
    (b.outOfBounds = false ∧ b.string = pre ++ s) ↔ s.length ≤ post.length := by
  intro b
  have hsize : (CBuffer.mk (pre ++ 0 :: post) false).size = pre.length + (post.length + 1) := by
    simp [size]
  constructor
  · rintro ⟨hbounds, -⟩
    by_contra hlong
    have hout : b.outOfBounds = true := outOfBounds_putString (by rw [hsize]; omega)
    rw [hbounds] at hout
    nomatch hout
  · intro hfits
    have hb : b = ⟨(pre ++ 0 :: post).take pre.length ++ s ++
        0 :: (pre ++ 0 :: post).drop (pre.length + s.length + 1), false⟩ :=
      putString_eq (by rw [hsize]; omega)
    rw [List.take_left] at hb
    refine ⟨congrArg outOfBounds hb, ?_⟩
    rw [hb]
    refine string_of_clean fun c hc => ?_
    rcases List.mem_append.mp hc with hc | hc
    · exact hpre c hc
    · exact hs c hc

end CBuffer
