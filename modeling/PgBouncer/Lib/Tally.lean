/-
What a change of one value does to a sum over keys.
-/
import Mathlib.Logic.Function.Basic
import Mathlib.Data.List.Basic
import Mathlib.Algebra.BigOperators.Group.List.Basic
import Mathlib.Algebra.Order.Group.Int
import Mathlib.Algebra.Ring.Int.Defs

namespace Tally

variable {κ ρ : Type*}

variable (count : ρ → Int) (record : κ → ρ)

/-- The sum over a list of keys of what a record counts for. -/
def tally (keys : List κ) : Int :=
  (keys.map fun k => count (record k)).sum

theorem tally_cons (k : κ) (keys : List κ) :
    tally count record (k :: keys) = count (record k) + tally count record keys := by
  simp [tally]

theorem tally_append (keys keys' : List κ) :
    tally count record (keys ++ keys') = tally count record keys + tally count record keys' := by
  simp [tally]

variable [DecidableEq κ]

/-- A key that counts for nothing can go. -/
theorem tally_filter_ne (keys : List κ) {k : κ} (hk : count (record k) = 0) :
    tally count record (keys.filter (· ≠ k)) = tally count record keys := by
  induction keys with
  | nil => rfl
  | cons x keys ih =>
    by_cases hx : x = k
    · rw [hx, List.filter_cons_of_neg (by simp), ih, tally_cons, hk, Int.zero_add]
    · rw [List.filter_cons_of_pos (by simpa using hx), tally_cons, tally_cons, ih]

theorem tally_update_of_not_mem {keys : List κ} {k : κ} (hk : k ∉ keys) (r : ρ) :
    tally count (Function.update record k r) keys = tally count record keys := by
  unfold tally
  congr 1
  refine List.map_congr_left fun x hx => ?_
  have hne : x ≠ k := fun h => hk (h ▸ hx)
  rw [Function.update_of_ne hne]

/-- A change of one record changes one summand. -/
theorem tally_update {keys : List κ} (hnodup : keys.Nodup) {k : κ} (hk : k ∈ keys) (r : ρ) :
    tally count (Function.update record k r) keys =
      tally count record keys - count (record k) + count r := by
  induction keys with
  | nil => exact (List.not_mem_nil hk).elim
  | cons x keys ih =>
    obtain ⟨hx, hnodup⟩ := List.nodup_cons.mp hnodup
    rw [tally_cons, tally_cons]
    rcases List.mem_cons.mp hk with rfl | hk
    · rw [Function.update_self, tally_update_of_not_mem count record hx]
      omega
    · have hne : x ≠ k := fun h => hx (h ▸ hk)
      rw [Function.update_of_ne hne, ih hnodup hk]
      omega

end Tally
