/-
Loops with a condition and a way out.

A turn of such a loop looks at its condition, and then runs a body that may break out
of it.  `run` takes a bound on the number of turns and gives up when it is not enough.
The rule for it is that of total correctness: an invariant that every turn keeps, and a
measure that every turn lowers and that is a bound therefore.
-/
import Mathlib.Data.Nat.Notation

namespace While

variable {σ : Type*} {body : σ → Option σ}

/-- `while (cond) { if (!body) break; }` with a bound on the number of turns. -/
def run (cond : σ → Bool) (body : σ → Option σ) : ℕ → σ → Option σ
  | 0, _ => none
  | n + 1, s =>
    if cond s then
      match body s with
      | none => some s
      | some s' => run cond body n s'
    else some s

/-- The loop ends within any bound above the measure, always in the same state, and the
invariant is true of it. -/
theorem ends {Inv : σ → Prop} (cond : σ → Bool) (μ : σ → ℕ)
    (hbody : ∀ {s s'}, Inv s → body s = some s' → Inv s' ∧ μ s' < μ s) {s : σ} (hs : Inv s) :
    ∃ t, Inv t ∧ ∀ n, μ s < n → run cond body n s = some t := by
  induction hm : μ s using Nat.strongRecOn generalizing s with
  | _ m ih =>
    have hleave : (∀ n, run cond body (n + 1) s = some s) →
        ∃ t, Inv t ∧ ∀ n, m < n → run cond body n s = some t := by
      refine fun hrun => ⟨s, hs, fun n hn => ?_⟩
      cases n with
      | zero => exact absurd hn (Nat.not_lt_zero m)
      | succ n => exact hrun n
    cases hcond : cond s with
    | false => exact hleave fun n => by simp [run, hcond]
    | true =>
      cases hnext : body s with
      | none => exact hleave fun n => by simp [run, hcond, hnext]
      | some s' =>
        obtain ⟨hs', hlt⟩ := hbody hs hnext
        obtain ⟨t, ht, hrun⟩ := ih (μ s') (hm ▸ hlt) hs' rfl
        refine ⟨t, ht, fun n hn => ?_⟩
        cases n with
        | zero => exact absurd hn (Nat.not_lt_zero m)
        | succ n =>
          simp only [run, hcond, if_true, hnext]
          exact hrun n (Nat.lt_of_lt_of_le (hm ▸ hlt) (Nat.le_of_lt_succ hn))

end While
