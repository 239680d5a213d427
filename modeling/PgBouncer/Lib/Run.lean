/-
Runs of a machine whose steps may be impossible.

A machine is a partial step function.  A run is a list of events; it exists if every
event is possible where it happens.  `Meets` says of a run that each of its events
meets a condition in the state it happens in, and `invariant` is the rule for what such
a run preserves.
-/
import Mathlib.Data.Option.Basic

namespace Run

variable {σ ε : Type*} {step : σ → ε → Option σ}

/-- One event after the other. -/
def exec (step : σ → ε → Option σ) : σ → List ε → Option σ
  | s, [] => some s
  | s, e :: es => (step s e).bind fun s => exec step s es

/-- Every event of a run meets a condition in the state it happens in. -/
def Meets (step : σ → ε → Option σ) (cond : σ → ε → Prop) : σ → List ε → Prop
  | _, [] => True
  | s, e :: es => cond s e ∧ ∀ s', step s e = some s' → Meets step cond s' es

/-- What every step keeps that meets the condition, a run keeps whose events all do. -/
theorem invariant {Inv : σ → Prop} {cond : σ → ε → Prop}
    (hstep : ∀ {s e s'}, Inv s → cond s e → step s e = some s' → Inv s') {s s' : σ} {es : List ε}
    (hmeets : Meets step cond s es) (hrun : exec step s es = some s') (hs : Inv s) : Inv s' := by
  induction es generalizing s with
  | nil => exact Option.some.inj hrun ▸ hs
  | cons e es ih =>
    obtain ⟨s₁, hfirst, hrest⟩ := Option.bind_eq_some_iff.mp hrun
    exact ih (hmeets.2 s₁ hfirst) hrest (hstep hs hmeets.1 hfirst)

theorem exec_append (s : σ) (es es' : List ε) :
    exec step s (es ++ es') = (exec step s es).bind fun s => exec step s es' := by
  induction es generalizing s with
  | nil => rfl
  | cons e es ih =>
    simp only [List.cons_append, exec, Option.bind_assoc]
    cases step s e with
    | none => rfl
    | some s => exact ih s

/-- A run ends with its last event. -/
theorem exec_concat {s s' : σ} {es : List ε} {e : ε} :
    exec step s (es ++ [e]) = some s' ↔ ∃ s₁, exec step s es = some s₁ ∧ step s₁ e = some s' := by
  rw [exec_append, Option.bind_eq_some_iff]
  simp [exec]

section

variable {cond cond' : σ → ε → Prop} {s : σ} {es es' : List ε}

theorem meets_concat {e : ε} : Meets step cond s (es ++ [e]) ↔
    Meets step cond s es ∧ ∀ s', exec step s es = some s' → cond s' e := by
  induction es generalizing s with
  | nil => simp [Meets, exec]
  | cons first es ih =>
    simp only [List.cons_append, Meets, exec, Option.bind_eq_some_iff, ih]
    constructor
    · rintro ⟨hfirst, hrest⟩
      exact ⟨⟨hfirst, fun s' hs' => (hrest s' hs').1⟩,
        fun s₂ ⟨s₁, hs₁, hs₂⟩ => (hrest s₁ hs₁).2 s₂ hs₂⟩
    · rintro ⟨⟨hfirst, hrest⟩, hlast⟩
      exact ⟨hfirst, fun s' hs' => ⟨hrest s' hs', fun s₂ hs₂ => hlast s₂ ⟨s', hs', hs₂⟩⟩⟩

theorem Meets.mono (h : Meets step cond s es) (hcond : ∀ s e, cond s e → cond' s e) :
    Meets step cond' s es := by
  induction es generalizing s with
  | nil => trivial
  | cons e es ih => exact ⟨hcond s e h.1, fun s' hs' => ih (h.2 s' hs')⟩

/-- What a run meets its first part meets. -/
theorem Meets.append_left (h : Meets step cond s (es ++ es')) : Meets step cond s es := by
  induction es generalizing s with
  | nil => trivial
  | cons e es ih => exact ⟨h.1, fun s' hs' => ih (h.2 s' hs')⟩

end

/-- Whether a run meets a decidable condition can be computed. -/
instance decidableMeets {cond : σ → ε → Prop} [∀ s e, Decidable (cond s e)] :
    ∀ (s : σ) (es : List ε), Decidable (Meets step cond s es)
  | _, [] => isTrue trivial
  | s, e :: es =>
    if hcond : cond s e then
      match hstep : step s e with
      | none => isTrue ⟨hcond, fun _ h => nomatch hstep.symm.trans h⟩
      | some s' =>
        match decidableMeets s' es with
        | isTrue h => isTrue ⟨hcond, fun _ h' => Option.some.inj (hstep.symm.trans h') ▸ h⟩
        | isFalse h => isFalse fun hmeets => h (hmeets.2 s' hstep)
    else isFalse fun hmeets => hcond hmeets.1

/-- A run can be computed, and with it what is decidable of the state it comes to. -/
theorem exists_of_any {o : Option σ} {P Q : σ → Prop} [DecidablePred P]
    (hany : o.any (fun s => decide (P s)) = true) (h : ∀ s, o = some s → P s → Q s) :
    ∃ s, o = some s ∧ Q s := by
  cases o with
  | none => exact nomatch hany
  | some s => exact ⟨s, rfl, h s rfl (of_decide_eq_true hany)⟩

theorem meets_of_forall {cond : σ → ε → Prop} (h : ∀ s e, cond s e) (s : σ) (es : List ε) :
    Meets step cond s es := by
  induction es generalizing s with
  | nil => trivial
  | cons e es ih => exact ⟨h s e, fun s' _ => ih s'⟩

end Run
