/-
What is left of a log behind a position.

A log lists entries in the order of their positions.  Entries up to some position
are settled; some entries are free, and a free entry is settled as soon as
everything ahead of it is.  `waiting` is the rest, and the lemmas say how it changes
when the log grows and when the position moves.
-/
import Mathlib.Data.List.TakeWhile

namespace Waiting

variable {α : Type} (free : α → Bool) (pos : α → Nat)

/-- The entries behind position `n`, from the first one on that is not free. -/
def waiting (n : Nat) (log : List α) : List α :=
  (log.filter (n < pos ·)).dropWhile free

/-- The entries that are not free. -/
def bound (log : List α) : List α :=
  log.filter (!free ·)

variable {free pos}

variable {log : List α} {n : Nat}

theorem mem_waiting {x : α} (h : x ∈ waiting free pos n log) :
    x ∈ log ∧ n < pos x := by
  have hmem := (List.dropWhile_sublist _).subset h
  simpa using hmem

theorem mem_bound {x : α} : x ∈ bound free log ↔ x ∈ log ∧ free x = false := by
  simp [bound]

@[simp] theorem bound_append (log log' : List α) :
    bound free (log ++ log') = bound free log ++ bound free log' :=
  List.filter_append log log'

variable (free pos) in
theorem waiting_sublist (n : Nat) (log : List α) : (waiting free pos n log).Sublist log :=
  (List.dropWhile_sublist _).trans List.filter_sublist

/-- Free entries in front do not matter. -/
theorem dropWhile_filter_dropWhile (f : α → Bool) (log : List α) :
    (log.filter f).dropWhile free = ((log.dropWhile free).filter f).dropWhile free := by
  induction log with
  | nil => rfl
  | cons x rest ih =>
    by_cases hx : free x = true
    · rw [List.dropWhile_cons_of_pos hx, ← ih, List.filter_cons]
      split
      · rw [List.dropWhile_cons_of_pos hx]
      · rfl
    · rw [List.dropWhile_cons_of_neg hx]

/-- Moving the position on is filtering what is waiting. -/
theorem waiting_of_le {n' : Nat} (h : n ≤ n') (log : List α) :
    waiting free pos n' log =
      ((waiting free pos n log).filter (n' < pos ·)).dropWhile free := by
  have hfilter : log.filter (n' < pos ·) = (log.filter (n < pos ·)).filter (n' < pos ·) := by
    rw [List.filter_filter]
    refine List.filter_congr fun x _ => ?_
    have : n' < pos x → n < pos x := Nat.lt_of_le_of_lt h
    simpa using this
  rw [waiting, hfilter, dropWhile_filter_dropWhile]
  rfl

/-- If everything settled is free, then it is in front. -/
theorem dropWhile_filter_of_bound (hsorted : log.Pairwise (pos · ≤ pos ·))
    (h : ∀ x ∈ bound free log, n < pos x) :
    (log.filter (n < pos ·)).dropWhile free = log.dropWhile free := by
  induction log with
  | nil => rfl
  | cons x rest ih =>
    obtain ⟨hx, hrest⟩ := List.pairwise_cons.mp hsorted
    by_cases hfree : free x = true
    · rw [List.dropWhile_cons_of_pos hfree]
      have ih' := ih hrest fun y hy =>
        h y (mem_bound.mpr ⟨List.mem_cons_of_mem x (mem_bound.mp hy).1, (mem_bound.mp hy).2⟩)
      rw [List.filter_cons]
      split
      · rw [List.dropWhile_cons_of_pos hfree, ih']
      · exact ih'
    · have hpos : n < pos x :=
        h x (mem_bound.mpr ⟨List.mem_cons_self, Bool.eq_false_iff.mpr hfree⟩)
      -- The list is sorted, so nothing behind `x` is settled either.
      have hall : (x :: rest).filter (n < pos ·) = x :: rest := by
        refine List.filter_eq_self.mpr fun y hy => ?_
        rcases List.mem_cons.mp hy with rfl | hy'
        · exact decide_eq_true hpos
        · exact decide_eq_true (Nat.lt_of_lt_of_le hpos (hx y hy'))
      rw [hall]

theorem dropWhile_eq_nil_of_bound (h : ∀ x ∈ bound free log, pos x ≤ n) :
    (log.filter (n < pos ·)).dropWhile free = [] := by
  refine List.dropWhile_eq_nil_iff.mpr fun x hx => ?_
  obtain ⟨hmem, hpos⟩ := List.mem_filter.mp hx
  by_contra hfree
  have hle := h x (mem_bound.mpr ⟨hmem, Bool.eq_false_iff.mpr hfree⟩)
  exact absurd (of_decide_eq_true hpos) (Nat.not_lt.mpr hle)

/-- **Settling a prefix of what is waiting.**  The prefix ends with an entry that is not
free, or it is everything. -/
theorem waiting_settle {n' : Nat} {front back : List α} (hsorted : log.Pairwise (pos · ≤ pos ·))
    (hle : n ≤ n')
    (hsplit : waiting free pos n log = front ++ back)
    (hfront : ∀ x ∈ bound free front, pos x ≤ n') (hback : ∀ x ∈ bound free back, n' < pos x)
    (hlast : back = [] ∨ ∃ init x, front = init ++ [x] ∧ free x = false) :
    waiting free pos n' log = back.dropWhile free := by
  have hsub := waiting_sublist free pos n log
  have hsorted' : (front ++ back).Pairwise (pos · ≤ pos ·) := hsplit ▸ hsorted.sublist hsub
  rw [waiting_of_le hle, hsplit]
  rcases hlast with rfl | ⟨init, x, rfl, hx⟩
  · rw [List.append_nil]
    exact dropWhile_eq_nil_of_bound hfront
  · have hxpos : pos x ≤ n' := hfront x (mem_bound.mpr ⟨by simp, hx⟩)
    have hnil : (init ++ [x]).filter (n' < pos ·) = [] := by
      refine List.filter_eq_nil_iff.mpr fun y hy => ?_
      have hyx : pos y ≤ pos x := by
        rcases List.mem_append.mp hy with hy' | hy'
        · have hpair := (List.pairwise_append.mp hsorted').1
          exact (List.pairwise_append.mp hpair).2.2 y hy' x List.mem_cons_self
        · exact List.mem_singleton.mp hy' ▸ Nat.le_refl _
      simpa using Nat.le_trans hyx hxpos
    rw [List.filter_append, hnil, List.nil_append]
    exact dropWhile_filter_of_bound (List.pairwise_append.mp hsorted').2.1 hback

/-- New entries join what is waiting. -/
theorem waiting_append {new : List α} (hpos : ∀ x ∈ new, n < pos x)
    (hfree : waiting free pos n log = [] → new.dropWhile free = new) :
    waiting free pos n (log ++ new) = waiting free pos n log ++ new := by
  have hnew : new.filter (n < pos ·) = new :=
    List.filter_eq_self.mpr fun x hx => decide_eq_true (hpos x hx)
  rw [waiting, List.filter_append, hnew, List.dropWhile_append]
  split
  · rename_i hempty
    have hnil : waiting free pos n log = [] := List.isEmpty_iff.mp hempty
    rw [hnil, List.nil_append, hfree hnil]
  · rfl

theorem bound_dropWhile (log : List α) : bound free (log.dropWhile free) = bound free log := by
  induction log with
  | nil => rfl
  | cons x rest ih =>
    by_cases hx : free x = true
    · rw [List.dropWhile_cons_of_pos hx, ih]
      simp [bound, hx]
    · rw [List.dropWhile_cons_of_neg hx]

theorem bound_waiting_append {new : List α} (hpos : ∀ x ∈ bound free new, n < pos x) :
    bound free (waiting free pos n (log ++ new)) =
      bound free (waiting free pos n log) ++ bound free new := by
  have hnew : bound free (new.filter (n < pos ·)) = bound free new := by
    rw [bound, List.filter_filter]
    refine List.filter_congr fun x hx => ?_
    by_cases hfree : free x = true
    · simp [hfree]
    · have hlt := hpos x (mem_bound.mpr ⟨hx, Bool.eq_false_iff.mpr hfree⟩)
      simp [hlt]
  rw [waiting, waiting, bound_dropWhile, bound_dropWhile, List.filter_append, bound_append, hnew]

/-- Free entries do not wait when nothing does. -/
theorem waiting_append_free {new : List α} (hnil : waiting free pos n log = [])
    (hfree : ∀ x ∈ new, free x = true) : waiting free pos n (log ++ new) = [] := by
  rw [waiting, List.filter_append, List.dropWhile_append]
  have hempty : ((log.filter (n < pos ·)).dropWhile free).isEmpty = true := by
    rw [List.isEmpty_iff]
    exact hnil
  rw [if_pos hempty]
  exact List.dropWhile_eq_nil_iff.mpr fun x hx => hfree x (List.mem_filter.mp hx).1

end Waiting
