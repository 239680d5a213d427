/-
Lists that know their length, and things that are in one of them.

A program that keeps its objects in lists according to their state moves an object by
taking it off one list and putting it on another; the length is a counter beside the list.
`Filed` says of a family of such lists that they and the objects agree: an object is in the
list its key says, once, in no other, and the counters are right.  Every move keeps it.
-/
import Mathlib.Data.List.Nodup
import Mathlib.Logic.Function.Basic

/-- A list with a counter. -/
structure StatList (α : Type*) where
  items : List α := []
  curCount : Int := 0
  deriving DecidableEq

namespace StatList

variable {ι α : Type*}

def append (l : StatList α) (x : α) : StatList α := ⟨l.items ++ [x], l.curCount + 1⟩

def prepend (l : StatList α) (x : α) : StatList α := ⟨x :: l.items, l.curCount + 1⟩

def remove [DecidableEq α] (l : StatList α) (x : α) : StatList α :=
  ⟨l.items.erase x, l.curCount - 1⟩

/-- Remove, in a loop over the list, what is not wanted any more. -/
def removeWhere (l : StatList α) (p : α → Bool) : StatList α :=
  ⟨l.items.filter fun x => !p x, l.curCount - (l.items.filter p).length⟩

/-- The first element. -/
def first (l : StatList α) : Option α := l.items.head?

/-- What follows an element; `none` behind the last one. -/
def next [DecidableEq α] (l : StatList α) (x : α) : Option α :=
  (l.items.drop (l.items.idxOf x + 1)).head?

/-- The counter is right, and nothing is in the list twice. -/
structure Sound (l : StatList α) : Prop where
  nodup : l.items.Nodup
  count : l.curCount = l.items.length

theorem Sound.empty : Sound (⟨[], 0⟩ : StatList α) := ⟨List.nodup_nil, rfl⟩

variable {l : StatList α}

theorem Sound.append (h : l.Sound) {x : α} (hx : x ∉ l.items) :
    (l.append x).Sound := by
  refine ⟨List.nodup_append.2 ⟨h.nodup, List.nodup_singleton x, ?_⟩, ?_⟩
  · rintro y hy z hz rfl
    exact hx (List.mem_singleton.1 hz ▸ hy)
  · simp [StatList.append, h.count]

theorem Sound.prepend (h : l.Sound) {x : α} (hx : x ∉ l.items) :
    (l.prepend x).Sound :=
  ⟨List.nodup_cons.2 ⟨hx, h.nodup⟩, by simp [StatList.prepend, h.count]⟩

theorem Sound.removeWhere (h : l.Sound) (p : α → Bool) :
    (l.removeWhere p).Sound := by
  refine ⟨h.nodup.filter _, ?_⟩
  have hsum := @List.length_eq_length_filter_add _ l.items p
  simp only [StatList.removeWhere, h.count]
  omega

variable [DecidableEq α]

theorem Sound.remove (h : l.Sound) {x : α} (hx : x ∈ l.items) :
    (l.remove x).Sound := by
  refine ⟨h.nodup.erase x, ?_⟩
  have hpos := List.length_pos_of_mem hx
  simp only [StatList.remove, List.length_erase_of_mem hx, h.count]
  omega

theorem mem_remove (h : l.Sound) {x y : α} :
    y ∈ (l.remove x).items ↔ y ≠ x ∧ y ∈ l.items :=
  h.nodup.mem_erase_iff

/-- Taking an element off the list is taking off all that is equal to it. -/
theorem remove_eq_removeWhere (h : l.Sound) {x : α} (hx : x ∈ l.items) :
    l.remove x = l.removeWhere fun y => y = x := by
  have hlen : (l.items.filter fun y => decide (y = x)).length = 1 := by
    rw [← List.countP_eq_length_filter]
    exact List.count_eq_one_of_mem h.nodup hx
  simp only [StatList.remove, StatList.removeWhere, h.nodup.erase_eq_filter, hlen, bne,
    beq_eq_decide]
  rfl

/-! ### Families of lists -/

variable [DecidableEq ι]

/-- Take something off the list it is in. -/
def takeOff (lists : ι → StatList α) (x : α) : Option ι → ι → StatList α
  | none => lists
  | some i => Function.update lists i ((lists i).remove x)

/-- Put something on a list, at its end or in front. -/
def putOn (lists : ι → StatList α) (x : α) (front : Bool) : Option ι → ι → StatList α
  | none => lists
  | some i => Function.update lists i (if front then (lists i).prepend x else (lists i).append x)

/-- Everything is in the list its key says, and only there. -/
structure Filed (lists : ι → StatList α) (key : α → Option ι) : Prop where
  mem : ∀ {i x}, x ∈ (lists i).items ↔ key x = some i
  sound : ∀ i, (lists i).Sound

omit [DecidableEq α] [DecidableEq ι] in
theorem Filed.empty : Filed (fun _ : ι => (⟨[], 0⟩ : StatList α)) fun _ => none :=
  ⟨by simp, fun _ => .empty⟩

variable {lists : ι → StatList α} {key : α → Option ι}

theorem Filed.takeOff (h : Filed lists key) (x : α) :
    Filed (takeOff lists x (key x)) (Function.update key x none) := by
  cases hx : key x with
  | none =>
    rw [← hx, Function.update_eq_self]
    rw [hx]
    exact h
  | some j =>
    refine ⟨fun {i y} => ?_, fun i => ?_⟩
    · by_cases hi : i = j
      · subst hi
        rw [StatList.takeOff, Function.update_self, mem_remove (h.sound i)]
        by_cases hy : y = x
        · simp [hy]
        · simp [hy, h.mem]
      · rw [StatList.takeOff, Function.update_of_ne hi]
        by_cases hy : y = x
        · subst hy
          simp [h.mem, hx, Ne.symm hi]
        · simp [hy, h.mem]
    · by_cases hi : i = j
      · subst hi
        rw [StatList.takeOff, Function.update_self]
        exact (h.sound i).remove (h.mem.2 hx)
      · rw [StatList.takeOff, Function.update_of_ne hi]
        exact h.sound i

theorem Filed.putOn (h : Filed lists key) {x : α} (hx : key x = none) (front : Bool)
    (new : Option ι) :
    Filed (putOn lists x front new) (Function.update key x new) := by
  cases new with
  | none =>
    have hkey : Function.update key x none = key := by rw [← hx, Function.update_eq_self]
    rw [hkey]
    exact h
  | some j =>
    have hnot : ∀ i, x ∉ (lists i).items := fun i hmem => by
      cases hx.symm.trans (h.mem.1 hmem)
    refine ⟨fun {i y} => ?_, fun i => ?_⟩
    · by_cases hi : i = j
      · subst hi
        rw [StatList.putOn, Function.update_self]
        by_cases hy : y = x
        · cases front <;> simp [hy, append, prepend]
        · cases front <;> simp [hy, append, prepend, h.mem]
      · rw [StatList.putOn, Function.update_of_ne hi]
        by_cases hy : y = x
        · subst hy
          simp [hnot i, Ne.symm hi]
        · simp [hy, h.mem]
    · by_cases hi : i = j
      · subst hi
        rw [StatList.putOn, Function.update_self]
        cases front
        · exact (h.sound i).append (hnot i)
        · exact (h.sound i).prepend (hnot i)
      · rw [StatList.putOn, Function.update_of_ne hi]
        exact h.sound i

/-- **Moving one thing.**  It goes from the list of its old key to the list of its new one. -/
theorem Filed.move (h : Filed lists key) (x : α) (front : Bool) (new : Option ι) :
    Filed (StatList.putOn (StatList.takeOff lists x (key x)) x front new)
      (Function.update key x new) := by
  have hput := (h.takeOff x).putOn (Function.update_self x none key) front new
  rwa [Function.update_idem] at hput

omit [DecidableEq α] [DecidableEq ι] in
theorem Filed.congr {key' : α → Option ι} (h : Filed lists key) (hkey : ∀ x, key' x = key x) :
    Filed lists key' :=
  funext hkey ▸ h

end StatList
