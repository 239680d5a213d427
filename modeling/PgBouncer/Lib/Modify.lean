/-
Lists as tables: one entry is changed, the others stay.

A table of numbered objects is a list here, looked up with `l[i]?` and changed with
`List.modify`.  The lemmas below take a statement about the whole table apart into
the entry that changes and the rest: statements about every entry, and counts over
the lists the entries carry.
-/
import Mathlib.Data.List.Perm.Basic
import Mathlib.Data.List.Count

namespace Modify

variable {α β : Type} {l : List α} {i : Nat} {a : α}

/-- The entry at an index and the entries elsewhere. -/
theorem perm_of_getElem? (h : l[i]? = some a) : (a :: l.eraseIdx i).Perm l := by
  obtain ⟨hi, rfl⟩ := List.getElem?_eq_some_iff.mp h
  exact List.getElem_cons_eraseIdx_perm hi

/-- Counting over a table: what the entry at `i` contributes, and the rest. -/
theorem count_flatMap [DecidableEq β] (f : α → List β) (h : l[i]? = some a) (x : β) :
    (l.flatMap f).count x = (f a).count x + ((l.eraseIdx i).flatMap f).count x := by
  rw [← ((perm_of_getElem? h).flatMap_right f).count_eq, List.flatMap_cons, List.count_append]

/-- The same after the entry was changed. -/
theorem count_flatMap_modify [DecidableEq β] (f : α → List β) (g : α → α) (h : l[i]? = some a)
    (x : β) :
    ((l.modify i g).flatMap f).count x
      = (f (g a)).count x + ((l.eraseIdx i).flatMap f).count x := by
  have hg : (l.modify i g)[i]? = some (g a) := by simp [h]
  rw [count_flatMap f hg, List.eraseIdx_modify_of_eq]

/-- A change the entry's list does not see. -/
theorem flatMap_modify (f : α → List β) (g : α → α) (hg : ∀ a, l[i]? = some a → f (g a) = f a) :
    (l.modify i g).flatMap f = l.flatMap f := by
  have hmap : (l.modify i g).map f = l.map f := by
    refine List.ext_getElem? fun j => ?_
    rw [List.getElem?_map, List.getElem?_map, List.getElem?_modify]
    cases hj : l[j]? with
    | none => rfl
    | some b =>
      by_cases hij : i = j
      · subst hij
        simp [hg b hj]
      · simp [hij]
  rw [List.flatMap_def, List.flatMap_def, hmap]

/-- What holds of every entry, and of the changed one, holds of every entry after. -/
theorem forall_modify {p : Nat → α → Prop} {g : α → α} (h : ∀ j a, l[j]? = some a → p j a)
    (hg : ∀ a, l[i]? = some a → p i (g a)) : ∀ j a, (l.modify i g)[j]? = some a → p j a := by
  intro j b hb
  by_cases hij : i = j
  · subst hij
    rw [List.getElem?_modify_eq] at hb
    cases hl : l[i]? with
    | none => simp [hl] at hb
    | some a =>
      rw [hl] at hb
      obtain rfl := Option.some.inj hb
      exact hg a hl
  · rw [List.getElem?_modify_ne _ _ hij] at hb
    exact h j b hb

/-- What holds of every entry, and of a new one, holds of every entry after. -/
theorem forall_concat {p : Nat → α → Prop} (h : ∀ j a, l[j]? = some a → p j a)
    (hnew : p l.length a) : ∀ j b, (l ++ [a])[j]? = some b → p j b := by
  intro j b hb
  by_cases hj : j < l.length
  · rw [List.getElem?_append_left hj] at hb
    exact h j b hb
  · rw [List.getElem?_append_right (by omega)] at hb
    obtain ⟨hlt, rfl⟩ := List.getElem?_eq_some_iff.mp hb
    have hz : j - l.length = 0 := by simpa using hlt
    have hjl : j = l.length := by omega
    subst hjl
    simpa using hnew

end Modify
