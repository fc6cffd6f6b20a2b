import Mathlib.Data.List.Basic

set_option autoImplicit true

namespace Runs

/-- The state after the requests, served one after the other. -/
def final (step : σ → ρ → σ) : σ → List ρ → σ
  | s, [] => s
  | s, r :: rs => final step (step s r) rs

/-- `P` holds of every request of the run, in the state the request is served in. -/
def EveryStep (step : σ → ρ → σ) (P : σ → ρ → Prop) : σ → List ρ → Prop
  | _, [] => True
  | s, r :: rs => P s r ∧ EveryStep step P (step s r) rs

variable {step : σ → ρ → σ} {P Q : σ → ρ → Prop} {I : σ → Prop}

@[simp] theorem final_nil (s : σ) : final step s [] = s := rfl

@[simp] theorem final_cons (s : σ) (r : ρ) (rs : List ρ) :
    final step s (r :: rs) = final step (step s r) rs := rfl

@[simp] theorem everyStep_nil (s : σ) : EveryStep step P s [] := trivial

@[simp] theorem everyStep_cons (s : σ) (r : ρ) (rs : List ρ) :
    EveryStep step P s (r :: rs) ↔ P s r ∧ EveryStep step P (step s r) rs := Iff.rfl

theorem final_append (s : σ) (rs rs' : List ρ) :
    final step s (rs ++ rs') = final step (final step s rs) rs' := by
  induction rs generalizing s with
  | nil => rfl
  | cons r rs ih => exact ih (step s r)

theorem EveryStep.imp (h : EveryStep step P s rs) (hpq : ∀ s r, P s r → Q s r) :
    EveryStep step Q s rs := by
  induction rs generalizing s with
  | nil => trivial
  | cons r rs ih => exact ⟨hpq s r h.1, ih h.2⟩

theorem everyStep_of_forall (h : ∀ s r, P s r) (s : σ) (rs : List ρ) : EveryStep step P s rs := by
  induction rs generalizing s with
  | nil => trivial
  | cons r rs ih => exact ⟨h s r, ih (step s r)⟩

/-- Two step properties that agree wherever the invariant holds agree on whole runs. -/
theorem everyStep_congr (hI : ∀ s r, I s → I (step s r))
    (hpq : ∀ s r, I s → (P s r ↔ Q s r)) (s : σ) (hs : I s) (rs : List ρ) :
    EveryStep step P s rs ↔ EveryStep step Q s rs := by
  induction rs generalizing s with
  | nil => exact Iff.rfl
  | cons r rs ih => exact and_congr (hpq s r hs) (ih (step s r) (hI s r hs))

/-- The invariant rule: what every step allowed by `P` keeps holds at the end of the run. -/
theorem EveryStep.invariant (h : EveryStep step P s rs)
    (hI : ∀ s r, I s → P s r → I (step s r)) (hs : I s) : I (final step s rs) := by
  induction rs generalizing s with
  | nil => exact hs
  | cons r rs ih => exact ih h.2 (hI s r hs h.1)

/-- What every step allowed by `P` keeps holds before each step of the run. -/
theorem EveryStep.strengthen (h : EveryStep step P s rs)
    (hI : ∀ s r, I s → P s r → I (step s r)) (hs : I s) :
    EveryStep step (fun s r => I s ∧ P s r) s rs := by
  induction rs generalizing s with
  | nil => trivial
  | cons r rs ih => exact ⟨⟨hs, h.1⟩, ih h.2 (hI s r hs h.1)⟩

theorem everyStep_append (s : σ) (rs rs' : List ρ) :
    EveryStep step P s (rs ++ rs') ↔
      EveryStep step P s rs ∧ EveryStep step P (final step s rs) rs' := by
  induction rs generalizing s with
  | nil => simp
  | cons r rs ih => simp [ih, and_assoc]

/-- What a step keeps exactly when `P` allows it holds after every part of a run exactly when `P`
allows every step of it. -/
theorem everywhere_iff (hI : ∀ s r, I s → (I (step s r) ↔ P s r)) (hs : I s) (rs : List ρ) :
    (∀ before rest, rs = before ++ rest → I (final step s before)) ↔ EveryStep step P s rs := by
  induction rs generalizing s with
  | nil =>
    constructor
    · intro _
      trivial
    · intro _ before rest h
      obtain ⟨rfl, -⟩ := List.append_eq_nil_iff.1 h.symm
      exact hs
  | cons r rs ih =>
    constructor
    · intro h
      have hstep : I (step s r) := h [r] rs rfl
      refine ⟨(hI s r hs).1 hstep, (ih hstep).1 ?_⟩
      intro before rest heq
      exact h (r :: before) rest (by rw [heq]; rfl)
    · intro h before rest heq
      cases before with
      | nil => exact hs
      | cons r' before =>
        obtain ⟨rfl, rfl⟩ := List.cons.inj heq
        exact (ih ((hI s r hs).2 h.1)).2 h.2 before rest rfl

/-- What every step keeps holds at the end of every run. -/
theorem invariant (hI : ∀ s r, I s → I (step s r)) (hs : I s) (rs : List ρ) :
    I (final step s rs) := by
  induction rs generalizing s with
  | nil => exact hs
  | cons r rs ih => exact ih (hI s r hs)

/-- What a step gives exactly where it was given and `P` allows the step holds at the end of the
runs that `P` allows. -/
theorem final_iff (hI : ∀ s r, I (step s r) ↔ I s ∧ P s r) (s : σ) (rs : List ρ) :
    I (final step s rs) ↔ I s ∧ EveryStep step P s rs := by
  induction rs generalizing s with
  | nil => exact (and_iff_left trivial).symm
  | cons r rs ih => rw [final_cons, ih, hI, everyStep_cons, and_assoc]

/-- What relates every state to the next relates the ends of every run. -/
theorem related {R : σ → σ → Prop} (hrefl : ∀ s, R s s) (htrans : ∀ s t u, R s t → R t u → R s u)
    (hstep : ∀ s r, R s (step s r)) (s : σ) (rs : List ρ) : R s (final step s rs) := by
  induction rs generalizing s with
  | nil => exact hrefl s
  | cons r rs ih => exact htrans _ _ _ (hstep s r) (ih (step s r))

/-- A request that changes nothing changes nothing however often it is repeated. -/
theorem final_replicate (h : step s r = s) (n : Nat) : final step s (List.replicate n r) = s := by
  induction n with
  | zero => rfl
  | succ n ih =>
    rw [List.replicate_succ, final_cons, h]
    exact ih

/-- The relation holds between any two states of the run, the later one on the right. -/
def Stable (step : σ → ρ → σ) (R : σ → σ → Prop) (s : σ) (rs : List ρ) : Prop :=
  ∀ before after rest, rs = before ++ after ++ rest →
    R (final step s before) (final step s (before ++ after))

theorem EveryStep.related {R : σ → σ → Prop} (hrefl : ∀ s, R s s)
    (htrans : ∀ s t u, R s t → R t u → R s u)
    (h : EveryStep step (fun s r => R s (step s r)) s rs) : R s (final step s rs) := by
  induction rs generalizing s with
  | nil => exact hrefl s
  | cons r rs ih => exact htrans _ _ _ h.1 (ih h.2)

/-- What a preorder relates along a run it relates step by step. -/
theorem stable_iff {R : σ → σ → Prop} (hrefl : ∀ s, R s s)
    (htrans : ∀ s t u, R s t → R t u → R s u) :
    Stable step R s rs ↔ EveryStep step (fun s r => R s (step s r)) s rs := by
  constructor
  · intro h
    induction rs generalizing s with
    | nil => trivial
    | cons r rs ih =>
      refine ⟨h [] [r] rs rfl, ih ?_⟩
      intro before after rest heq
      exact h (r :: before) after rest (by rw [heq]; rfl)
  · intro h before after rest heq
    rw [heq, List.append_assoc, everyStep_append, everyStep_append] at h
    rw [final_append]
    exact h.2.1.related hrefl htrans

end Runs
