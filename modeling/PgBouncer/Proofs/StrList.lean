/-
What `strlist_contains` finds.

A name that has no comma and no blank in it is found exactly if it is an element of the
list.  The search goes on behind the character that follows an occurrence, so occurrences
that overlap are not looked at; but an element starts behind a separator, and there is none
in the name.  A name with a separator in it is never an element, but the list that is this
name contains it.
-/
import Mathlib.Data.List.Basic
import PgBouncer.StrList

namespace PgBouncer.StrList

/-- The elements of a list. -/
def elements (liststr : Bytes) : List Bytes := (liststr.splitOnP isSep).filter (· ≠ [])

/-- The string occurs, with a separator or the end of the list on both sides. -/
def Occurs (str : Bytes) (prev : Option UInt8) (l : Bytes) : Prop :=
  ∃ before behind, l = before ++ (str ++ behind) ∧ (before.getLast?.or prev).all isSep = true ∧
    behind.head?.all isSep = true

variable {str l before behind : Bytes} {prev : Option UInt8}

/-! ### The first occurrence -/

theorem strstr_none (h : strstr str l = none) : l ≠ before ++ (str ++ behind) := by
  induction l generalizing before with
  | nil =>
    rintro heq
    simp only [strstr, ite_eq_right_iff, reduceCtorEq, imp_false] at h
    exact h (List.append_eq_nil_iff.mp (List.append_eq_nil_iff.mp heq.symm).2).1
  | cons c rest ih =>
    rw [strstr] at h
    split_ifs at h with hpre
    intro heq
    cases before with
    | nil => exact hpre ⟨behind, heq.symm⟩
    | cons b before => exact ih (Option.map_eq_none_iff.mp h) (List.cons.inj heq).2

theorem strstr_some (h : strstr str l = some (before, behind)) :
    l = before ++ (str ++ behind) ∧
      ∀ before' behind', l = before' ++ (str ++ behind') → before.length ≤ before'.length := by
  induction l generalizing before with
  | nil =>
    rw [strstr] at h
    split_ifs at h with hnil
    cases h
    exact ⟨by rw [hnil]; rfl, fun _ _ _ => Nat.zero_le _⟩
  | cons c rest ih =>
    rw [strstr] at h
    split_ifs at h with hpre
    · cases h
      exact ⟨(List.prefix_iff_eq_append.mp hpre).symm, fun _ _ _ => Nat.zero_le _⟩
    · obtain ⟨⟨before₀, behind₀⟩, hrest, heq⟩ := Option.map_eq_some_iff.mp h
      cases heq
      obtain ⟨hl, hfirst⟩ := ih hrest
      refine ⟨by rw [hl]; rfl, fun before' behind' heq => ?_⟩
      cases before' with
      | nil => exact absurd ⟨behind', heq.symm⟩ hpre
      | cons b before' => exact Nat.succ_le_succ (hfirst before' behind' (List.cons.inj heq).2)

/-- Behind the first occurrence of a string without separators, the next one that counts
starts behind the character that follows. -/
theorem behind_of_later {before' behind' : Bytes} (hsep : ∀ c ∈ str, isSep c = false)
    (heq : before ++ (str ++ behind) = before' ++ (str ++ behind'))
    (hlater : before.length < before'.length) (hlast : (before'.getLast?.or prev).all isSep) :
    ∃ c mid, behind = c :: (mid ++ (str ++ behind')) ∧ before' = before ++ (str ++ c :: mid) := by
  have hbefore : before <+: before' := List.prefix_of_prefix_length_le
    ⟨_, heq⟩ (List.prefix_append _ _) (Nat.le_of_lt hlater)
  obtain ⟨gap, rfl⟩ := hbefore
  have hgap : gap ≠ [] := by
    rintro rfl
    simp at hlater
  rw [List.append_assoc, List.append_cancel_left_eq] at heq
  -- the gap ends with a separator, so it is not a part of the string
  have hlong : ¬gap <+: str := by
    intro hpre
    have hmem : gap.getLast hgap ∈ str := hpre.subset (List.getLast_mem hgap)
    rw [List.getLast?_append_of_ne_nil _ hgap, List.getLast?_eq_some_getLast hgap,
      Option.some_or, Option.all_some, hsep _ hmem] at hlast
    exact nomatch hlast
  have hstr : str <+: gap := by
    rcases List.prefix_or_prefix_of_prefix (List.prefix_append str behind)
      (heq ▸ List.prefix_append gap (str ++ behind')) with hpre | hpre
    · exact hpre
    · exact absurd hpre hlong
  obtain ⟨mid, rfl⟩ := hstr
  rw [List.append_assoc, List.append_cancel_left_eq] at heq
  cases mid with
  | nil => exact absurd (by simp) hlong
  | cons c mid => exact ⟨c, mid, heq, rfl⟩

theorem getLast?_behind {c : UInt8} {mid : Bytes} :
    (before ++ (str ++ c :: mid)).getLast?.or prev = mid.getLast?.or (some c) := by
  cases hmid : mid.getLast? <;> simp [List.getLast?_append, List.getLast?_cons, hmid]

/-! ### The loop -/

theorem strlistLoop_iff (hstr : str ≠ []) (hsep : ∀ c ∈ str, isSep c = false) {turns : Nat}
    (hturns : l.length < turns) : strlistLoop str turns prev l = true ↔ Occurs str prev l := by
  induction turns generalizing prev l with
  | zero => exact absurd hturns (Nat.not_lt_zero _)
  | succ turns ih =>
    rw [strlistLoop]
    cases hfind : strstr str l with
    | none =>
      refine ⟨nofun, ?_⟩
      rintro ⟨before, behind, heq, -⟩
      exact absurd heq (strstr_none hfind)
    | some found =>
      obtain ⟨before, behind⟩ := found
      obtain ⟨rfl, hfirst⟩ := strstr_some hfind
      dsimp only
      split_ifs with hsides
      · rw [Bool.and_eq_true] at hsides
        exact iff_of_true rfl ⟨before, behind, rfl, hsides⟩
      · have hlen : behind.tail.length < turns := by
          have hpos := List.length_pos_iff.mpr hstr
          simp only [List.length_append, List.length_tail] at hturns ⊢
          omega
        rw [ih hlen]
        constructor
        · rintro ⟨before', behind', htail, hlast, hhead⟩
          cases behind with
          | nil => simp [hstr] at htail
          | cons c rest =>
            refine ⟨before ++ (str ++ c :: before'), behind', ?_, ?_, hhead⟩
            · rw [List.tail_cons] at htail
              simp [htail]
            · rw [getLast?_behind]
              exact hlast
        · rintro ⟨before', behind', heq, hlast, hhead⟩
          rcases Nat.lt_or_eq_of_le (hfirst _ _ heq) with hlater | hsame
          · obtain ⟨c, mid, rfl, rfl⟩ := behind_of_later hsep heq hlater hlast
            refine ⟨mid, behind', rfl, ?_, hhead⟩
            rw [getLast?_behind] at hlast
            exact hlast
          · obtain ⟨rfl, hrest⟩ := List.append_inj heq hsame
            obtain rfl := List.append_cancel_left hrest
            exact absurd (Bool.and_eq_true_iff.mpr ⟨hlast, hhead⟩) hsides

/-! ### The elements -/

theorem occurs_of_mem_splitOnP (h : str ∈ l.splitOnP isSep) :
    (∀ c ∈ str, isSep c = false) ∧ Occurs str none l := by
  induction hn : l.length using Nat.strongRecOn generalizing l with
  | _ n ih =>
    by_cases hsep : ∃ c ∈ l, isSep c = true
    · obtain ⟨c, hmem, hc⟩ := hsep
      obtain ⟨xs, as, rfl⟩ := List.append_of_mem hmem
      rw [List.length_append, List.length_cons] at hn
      rw [List.splitOnP_append_cons _ _ hc, List.mem_append] at h
      rcases h with h | h
      · obtain ⟨hstr, before, behind, rfl, hlast, hhead⟩ := ih xs.length (by omega) h rfl
        refine ⟨hstr, before, behind ++ c :: as, by simp, hlast, ?_⟩
        cases behind with
        | nil => exact hc
        | cons => exact hhead
      · obtain ⟨hstr, before, behind, rfl, hlast, hhead⟩ := ih as.length (by omega) h rfl
        refine ⟨hstr, xs ++ ([] ++ c :: before), behind, by simp, ?_, hhead⟩
        rw [getLast?_behind]
        cases hbefore : before.getLast? with
        | none => exact hc
        | some => rwa [hbefore] at hlast
    · have hfree : ∀ c ∈ l, isSep c = false := fun c hc =>
        Bool.eq_false_iff.mpr fun htrue => hsep ⟨c, hc, htrue⟩
      rw [List.splitOnP_eq_singleton hfree, List.mem_singleton] at h
      subst h
      exact ⟨hfree, [], [], by simp, rfl, rfl⟩

theorem mem_splitOnP_of_occurs (hsep : ∀ c ∈ str, isSep c = false) (h : Occurs str none l) :
    str ∈ l.splitOnP isSep := by
  obtain ⟨before, behind, rfl, hlast, hhead⟩ := h
  have hbehind : str ∈ (str ++ behind).splitOnP isSep := by
    cases behind with
    | nil => simp [List.splitOnP_eq_singleton hsep]
    | cons c rest => simp [List.splitOnP_append_cons_of_forall_mem hsep c hhead]
  rcases List.eq_nil_or_concat before with rfl | ⟨xs, c, rfl⟩
  · exact hbehind
  · have hc : isSep c = true := by simpa using hlast
    rw [List.concat_eq_append, List.append_assoc, List.singleton_append,
      List.splitOnP_append_cons _ _ hc]
    exact List.mem_append_right _ hbehind

/-! ### Names -/

theorem strlistContains_iff (hsep : ∀ c ∈ str, isSep c = false) (liststr : Bytes) :
    strlistContains liststr str = true ↔ str ∈ elements liststr := by
  by_cases hnil : str = []
  · simp [strlistContains, elements, hnil]
  · rw [strlistContains, if_neg (by simpa using hnil),
      strlistLoop_iff hnil hsep (Nat.lt_succ_self _), elements, List.mem_filter]
    constructor
    · exact fun h => ⟨mem_splitOnP_of_occurs hsep h, by simpa using hnil⟩
    · exact fun h => (occurs_of_mem_splitOnP h.1).2

/-- The name is found in the list; it is an element, if it has no comma and no blank in it. -/
structure Listed (liststr str : Bytes) : Prop where
  contains : strlistContains liststr str = true
  member : (∀ c ∈ str, isSep c = false) → str ∈ elements liststr

theorem listed_of_contains {liststr : Bytes} (h : strlistContains liststr str = true) :
    Listed liststr str :=
  ⟨h, fun hsep => (strlistContains_iff hsep liststr).mp h⟩

/-- **Who can be in a list.**  For a name that a client sends, `strlist_contains` tells for
every list whether the name is one of its elements, exactly if there is no comma and no
blank in the name. -/
theorem strlistContains_exact_iff (str : Bytes) :
    (∀ liststr, strlistContains liststr str = true ↔ str ∈ elements liststr) ↔
      ∀ c ∈ str, isSep c = false := by
  constructor
  · intro h
    by_cases hnil : str = []
    · simp [hnil]
    · -- the list that is this name
      have hself : strlistContains str str = true := by
        obtain ⟨c, rest, rfl⟩ := List.exists_cons_of_ne_nil hnil
        simp [strlistContains, strlistLoop, strstr]
      exact (occurs_of_mem_splitOnP (List.mem_of_mem_filter ((h str).mp hself))).1
  · exact fun hsep liststr => strlistContains_iff hsep liststr

/-- `a,b` is in the list `a,b`, whose elements are `a` and `b`. -/
theorem strlistContains_across_elements :
    strlistContains [97, 44, 98] [97, 44, 98] = true ∧ elements [97, 44, 98] = [[97], [98]] := by
  decide

end PgBouncer.StrList
