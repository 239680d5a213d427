/-
Insertion into an ordered list.

The element is put before the first one that is larger.  An element that compares equal
is not expected, and there is no result if one is met on the way.
-/
import Mathlib.Data.List.Basic

namespace PutInOrder

variable {α : Type*} {cmp : α → α → Ordering}

/-- Puts an element before the first larger one. -/
def put (cmp : α → α → Ordering) (x : α) : List α → Option (List α)
  | [] => some [x]
  | y :: l =>
    match cmp y x with
    | .eq => none
    | .gt => some (x :: y :: l)
    | .lt => (put cmp x l).map (y :: ·)

theorem perm_of_put {x : α} {l l' : List α} (h : put cmp x l = some l') : l'.Perm (x :: l) := by
  induction l generalizing l' with
  | nil =>
    cases h
    exact .refl _
  | cons y l ih =>
    unfold put at h
    split at h
    · exact nomatch h
    · cases h
      exact .refl _
    · obtain ⟨l₁, hl₁, rfl⟩ := Option.map_eq_some_iff.mp h
      exact ((ih hl₁).cons y).trans (.swap x y l)

/-- There is a result if nothing compares equal. -/
theorem exists_put {x : α} {l : List α} (h : ∀ y ∈ l, cmp y x ≠ .eq) :
    ∃ l', put cmp x l = some l' := by
  induction l with
  | nil => exact ⟨_, rfl⟩
  | cons y l ih =>
    obtain ⟨l', hl'⟩ := ih fun z hz => h z (List.mem_cons_of_mem _ hz)
    unfold put
    cases hcmp : cmp y x with
    | eq => exact absurd hcmp (h y List.mem_cons_self)
    | gt => exact ⟨_, rfl⟩
    | lt => exact ⟨_, by rw [hl']; rfl⟩

/-- The list stays ordered, by a relation that goes with the comparison. -/
theorem pairwise_put {R : α → α → Prop} {x : α} {l l' : List α}
    (hlt : ∀ y ∈ l, cmp y x = .lt → R y x) (hgt : ∀ y ∈ l, cmp y x = .gt → R x y)
    (htrans : ∀ y ∈ l, ∀ z ∈ l, R x y → R y z → R x z) (hl : l.Pairwise R)
    (h : put cmp x l = some l') : l'.Pairwise R := by
  induction l generalizing l' with
  | nil =>
    cases h
    exact List.pairwise_singleton _ _
  | cons y l ih =>
    obtain ⟨hy, hl⟩ := List.pairwise_cons.mp hl
    unfold put at h
    split at h
    · exact nomatch h
    · rename_i hcmp
      cases h
      have hxy := hgt y List.mem_cons_self hcmp
      refine List.pairwise_cons.mpr ⟨fun z hz => ?_, List.pairwise_cons.mpr ⟨hy, hl⟩⟩
      rcases List.mem_cons.mp hz with rfl | hz
      · exact hxy
      · exact htrans y List.mem_cons_self z (List.mem_cons_of_mem _ hz) hxy (hy z hz)
    · rename_i hcmp
      obtain ⟨l₁, hl₁, rfl⟩ := Option.map_eq_some_iff.mp h
      refine List.pairwise_cons.mpr ⟨fun z hz => ?_, ?_⟩
      · rcases List.mem_cons.mp ((perm_of_put hl₁).mem_iff.mp hz) with rfl | hz
        · exact hlt y List.mem_cons_self hcmp
        · exact hy z hz
      · exact ih (fun z hz => hlt z (List.mem_cons_of_mem _ hz))
          (fun z hz => hgt z (List.mem_cons_of_mem _ hz))
          (fun z hz z' hz' => htrans z (List.mem_cons_of_mem _ hz) z' (List.mem_cons_of_mem _ hz'))
          hl hl₁

end PutInOrder
