/-
Undoing additions and removals in the order they were made.

A set is kept as a list.  Elements are added that are not there and removed that are
there.  To undo a sequence of such operations one should go through it backwards.
This file says what happens if one goes through it forwards: taking an element out
where it was added, if it is there, and putting it in where it was removed.  It works
out for an element unless the sequence first adds it and last removes it; then the
element is left over.
-/
import Mathlib.Data.List.Basic
import Mathlib.Data.List.Count
import Mathlib.Data.List.Nodup

namespace UndoLog

/-- An operation on a set. -/
inductive Op (α : Type)
  | keep
  | add (a : α)
  | remove (a : α)
  deriving DecidableEq

variable {α : Type} [DecidableEq α]

/-! ### Doing -/

def apply (l : List α) : Op α → List α
  | .keep => l
  | .add a => if a ∈ l then l else l ++ [a]
  | .remove a => l.erase a

/-- An operation that does something. -/
def Legal (l : List α) : Op α → Prop
  | .keep => True
  | .add a => a ∉ l
  | .remove a => a ∈ l

def applyAll (l : List α) (ops : List (Op α)) : List α :=
  ops.foldl apply l

/-- Each operation does something when its turn comes. -/
def LegalAll : List α → List (Op α) → Prop
  | _, [] => True
  | l, op :: ops => Legal l op ∧ LegalAll (apply l op) ops

theorem applyAll_append (l : List α) (ops ops' : List (Op α)) :
    applyAll l (ops ++ ops') = applyAll (applyAll l ops) ops' :=
  List.foldl_append

theorem apply_perm {l l' : List α} (h : l.Perm l') (op : Op α) :
    (apply l op).Perm (apply l' op) := by
  cases op with
  | keep => exact h
  | add a =>
    simp only [apply, h.mem_iff]
    split
    · exact h
    · exact h.append_right [a]
  | remove a => exact h.erase a

variable {ops : List (Op α)}

theorem applyAll_perm :
    ∀ {l l' : List α}, l.Perm l' → (applyAll l ops).Perm (applyAll l' ops) := by
  induction ops with
  | nil => intro l l' h; exact h
  | cons op ops ih => intro l l' h; exact ih (apply_perm h op)

omit [DecidableEq α] in
theorem legal_perm {l l' : List α} (h : l.Perm l') {op : Op α} (hop : Legal l op) :
    Legal l' op := by
  cases op with
  | keep => trivial
  | add a => exact fun hmem => hop (h.mem_iff.mpr hmem)
  | remove a => exact h.mem_iff.mp hop

theorem nodup_apply {l : List α} (h : l.Nodup) (op : Op α) : (apply l op).Nodup := by
  cases op with
  | keep => exact h
  | add a =>
    rw [apply]
    split
    · exact h
    · rename_i ha
      exact List.nodup_append.mpr ⟨h, List.nodup_singleton a, fun x hx y hy hxy =>
        ha (List.mem_singleton.mp hy ▸ hxy ▸ hx)⟩
  | remove a => exact h.erase a

theorem nodup_applyAll :
    ∀ {l : List α}, l.Nodup → (applyAll l ops).Nodup := by
  induction ops with
  | nil => intro l h; exact h
  | cons op ops ih => intro l h; exact ih (nodup_apply h op)

/-- Taking elements off the front of a list. -/
theorem applyAll_remove (front back : List α) :
    applyAll (front ++ back) (front.map .remove) = back := by
  induction front with
  | nil => rfl
  | cons a front ih =>
    rw [List.map_cons, applyAll, List.foldl_cons, apply, List.cons_append, List.erase_cons_head]
    exact ih

theorem legalAll_remove (front back : List α) :
    LegalAll (front ++ back) (front.map .remove) := by
  induction front with
  | nil => trivial
  | cons a front ih =>
    refine ⟨List.mem_cons_self, ?_⟩
    rw [apply, List.cons_append, List.erase_cons_head]
    exact ih

/-! ### Undoing, element by element -/

/-- How often `a` is in the list after one operation was undone, `n` times before. -/
def undoCount (a : α) (n : Nat) : Op α → Nat
  | .keep => n
  | .add b => if b = a then n - 1 else n
  | .remove b => if b = a then n + 1 else n

def undoAll (a : α) (n : Nat) (ops : List (Op α)) : Nat :=
  ops.foldl (undoCount a) n

/-- The operations on one element. -/
def on (a : α) (ops : List (Op α)) : List (Op α) :=
  ops.filter fun op => op = .add a ∨ op = .remove a

/-- The element is not first added and last removed. -/
def Restorable (a : α) (ops : List (Op α)) : Prop :=
  ¬((on a ops).head? = some (.add a) ∧ (on a ops).getLast? = some (.remove a))

instance (a : α) (ops : List (Op α)) : Decidable (Restorable a ops) :=
  inferInstanceAs (Decidable (¬_))

/-- The element of an operation. -/
def Op.elem? : Op α → Option α
  | .keep => none
  | .add a | .remove a => some a

/-- No element is first added and last removed. -/
def RestorableAll (ops : List (Op α)) : Prop :=
  ∀ a ∈ ops.filterMap Op.elem?, Restorable a ops

instance (ops : List (Op α)) : Decidable (RestorableAll ops) :=
  inferInstanceAs (Decidable (∀ a ∈ ops.filterMap Op.elem?, Restorable a ops))

theorem restorableAll_iff : RestorableAll ops ↔ ∀ a, Restorable a ops := by
  refine ⟨fun h a => ?_, fun h a _ => h a⟩
  by_cases ha : a ∈ ops.filterMap Op.elem?
  · exact h a ha
  · have hnil : on a ops = [] := by
      refine List.filter_eq_nil_iff.mpr fun op hop hon => ha ?_
      refine List.mem_filterMap.mpr ⟨op, hop, ?_⟩
      rcases of_decide_eq_true hon with rfl | rfl <;> rfl
    rw [Restorable, hnil]
    simp

/-- Operations on other elements make no difference. -/
theorem undoAll_on (a : α) (ops : List (Op α)) :
    ∀ n, undoAll a n ops = undoAll a n (on a ops) := by
  induction ops with
  | nil => intro n; rfl
  | cons op ops ih =>
    intro n
    rw [on, List.filter_cons]
    split
    · exact ih _
    · rename_i hop
      have hsame : undoCount a n op = n := by
        cases op with
        | keep => rfl
        | add b => exact if_neg fun h => hop (by simp [h])
        | remove b => exact if_neg fun h => hop (by simp [h])
      show undoAll a (undoCount a n op) ops = _
      rw [hsame]
      exact ih n

/-- The operations on one element take turns. -/
inductive Turns (a : α) : Bool → List (Op α) → Bool → Prop
  | nil (b : Bool) : Turns a b [] b
  | add {ops : List (Op α)} {b : Bool} (h : Turns a true ops b) : Turns a false (.add a :: ops) b
  | remove {ops : List (Op α)} {b : Bool} (h : Turns a false ops b) :
      Turns a true (.remove a :: ops) b

theorem mem_apply_of_ne {l : List α} {a : α} {op : Op α} (h : ¬(op = .add a ∨ op = .remove a)) :
    a ∈ apply l op ↔ a ∈ l := by
  cases op with
  | keep => rfl
  | add b =>
    have hne : a ≠ b := fun hab => h (.inl (hab ▸ rfl))
    rw [apply]
    split
    · rfl
    · simp [hne]
  | remove b =>
    have hne : a ≠ b := fun hab => h (.inr (hab ▸ rfl))
    exact List.mem_erase_of_ne hne

theorem turns_on (a : α) :
    ∀ {l : List α}, l.Nodup → LegalAll l ops →
      Turns a (decide (a ∈ l)) (on a ops) (decide (a ∈ applyAll l ops)) := by
  induction ops with
  | nil => intro l _ _; exact .nil _
  | cons op ops ih =>
    intro l hnodup hlegal
    have hrest := ih (nodup_apply hnodup op) hlegal.2
    rw [on, List.filter_cons]
    by_cases hop : op = .add a ∨ op = .remove a
    · rw [if_pos (decide_eq_true hop)]
      rcases hop with rfl | rfl
      · have hnot : a ∉ l := hlegal.1
        have hmem : a ∈ apply l (.add a) := by simp [apply, hnot]
        rw [decide_eq_true hmem] at hrest
        rw [decide_eq_false hnot]
        exact .add hrest
      · have hmem : a ∈ l := hlegal.1
        have hnot : a ∉ apply l (.remove a) := hnodup.not_mem_erase
        rw [decide_eq_false hnot] at hrest
        rw [decide_eq_true hmem]
        exact .remove hrest
    · rw [if_neg (by simpa using hop)]
      rw [decide_eq_decide.mpr (mem_apply_of_ne hop)] at hrest
      exact hrest

/-- From an element that is there, going forwards puts it back. -/
theorem undoAll_of_present {a : α} :
    ∀ (k : Nat) {ops : List (Op α)} {b : Bool}, ops.length ≤ k → Turns a true ops b →
      ∀ n, undoAll a n ops = n + (!b).toNat := by
  intro k
  induction k with
  | zero =>
    intro ops b hlen h n
    cases h with
    | nil => rfl
    | remove => exact absurd hlen (by simp)
  | succ k ih =>
    intro ops b hlen h n
    cases h with
    | nil => rfl
    | remove h' =>
      cases h' with
      | nil => simp [undoAll, undoCount]
      | @add rest _ h'' =>
        have hlen' : rest.length ≤ k := by
          simp only [List.length_cons] at hlen
          omega
        have hrest := ih hlen' h'' n
        simpa [undoAll, undoCount] using hrest

omit [DecidableEq α] in
theorem getLast_of_turns {a : α} {b b' : Bool} (h : Turns a b ops b') (hne : ops ≠ []) :
    ops.getLast? = some (if b' then .add a else .remove a) := by
  induction h with
  | nil => exact absurd rfl hne
  | @add ops b' h ih | @remove ops b' h ih =>
    cases ops with
    | nil =>
      cases h
      rfl
    | cons op rest =>
      rw [List.getLast?_cons_cons]
      exact ih (by simp)

/-- **Undoing forwards restores an element exactly if it is not first added and last
removed.** -/
theorem undoAll_eq_count_iff {l : List α} (a : α) (hnodup : l.Nodup) (hlegal : LegalAll l ops) :
    undoAll a ((applyAll l ops).count a) ops = l.count a ↔ Restorable a ops := by
  have hturns := turns_on a hnodup hlegal
  have hcount : ∀ {l : List α}, l.Nodup → l.count a = (decide (a ∈ l)).toNat := by
    intro l hl
    by_cases hmem : a ∈ l
    · rw [List.count_eq_one_of_mem hl hmem, decide_eq_true hmem]
      rfl
    · rw [List.count_eq_zero_of_not_mem hmem, decide_eq_false hmem]
      rfl
  rw [undoAll_on, hcount hnodup, hcount (nodup_applyAll hnodup), Restorable]
  generalize decide (a ∈ applyAll l ops) = after at hturns ⊢
  generalize decide (a ∈ l) = before at hturns ⊢
  generalize on a ops = ops at hturns ⊢
  cases hturns with
  | nil => exact ⟨fun _ h => absurd h.1 (by simp), fun _ => rfl⟩
  | remove h =>
    rw [undoAll_of_present _ (Nat.le_refl _) (.remove h)]
    refine ⟨fun _ hc => absurd hc.1 (by simp), fun _ => ?_⟩
    cases after <;> rfl
  | @add rest _ h =>
    rw [getLast_of_turns (.add h) (by simp)]
    have hundo : undoAll a after.toNat (.add a :: rest) = undoAll a (after.toNat - 1) rest := by
      simp [undoAll, undoCount]
    rw [hundo, undoAll_of_present _ (Nat.le_refl _) h]
    cases after <;> simp

end UndoLog
