import Mathlib.Data.List.Forall2
import Mathlib.Order.Basic

set_option autoImplicit true

namespace DecisionList

/-- A condition, which may raise, and the verdict when it is the first that holds. -/
structure Clause (ε ω : Type) where
  condition : Except ε Bool
  verdict : ω

/-- The verdict of the first clause whose condition holds. -/
def decide (default : ω) : List (Clause ε ω) → Except ε ω
  | [] => .ok default
  | c :: clauses =>
    match c.condition with
    | .error e => .error e
    | .ok true => .ok c.verdict
    | .ok false => decide default clauses

variable {ε ω υ : Type} {default : ω} {c c' : Clause ε ω} {clauses clauses' : List (Clause ε ω)}

@[simp] theorem decide_nil : decide default ([] : List (Clause ε ω)) = .ok default := rfl

theorem decide_holds (h : c.condition = .ok true) :
    decide default (c :: clauses) = .ok c.verdict := by
  simp only [decide, h]

theorem decide_fails (h : c.condition = .ok false) :
    decide default (c :: clauses) = decide default clauses := by
  simp only [decide, h]

theorem decide_cons_eq_ok (h : decide default (c :: clauses) = .ok v) :
    c.condition = .ok true ∧ v = c.verdict ∨
      c.condition = .ok false ∧ decide default clauses = .ok v := by
  match hc : c.condition with
  | .error e =>
    rw [decide, hc] at h
    cases h
  | .ok true =>
    rw [decide_holds hc] at h
    cases h
    exact .inl ⟨rfl, rfl⟩
  | .ok false =>
    rw [decide_fails hc] at h
    exact .inr ⟨rfl, h⟩

theorem decide_eq_ok (h : decide default clauses = .ok v) :
    v = default ∨ ∃ c ∈ clauses, c.condition = .ok true ∧ v = c.verdict := by
  induction clauses with
  | nil =>
    cases h
    exact .inl rfl
  | cons c clauses ih =>
    obtain ⟨hc, hv⟩ | ⟨-, hrest⟩ := decide_cons_eq_ok h
    · exact .inr ⟨c, .head _, hc, hv⟩
    · rcases ih hrest with hdefault | ⟨c', hc', hholds, hv⟩
      · exact .inl hdefault
      · exact .inr ⟨c', .tail _ hc', hholds, hv⟩

/-- The second condition holds wherever the first does, if it does not raise. -/
def Implies (x y : Except ε Bool) : Prop := x = .ok true → ∀ b, y = .ok b → b = true

/-- The same verdict, on a condition that holds more often. -/
structure Widens (c c' : Clause ε ω) : Prop where
  condition : Implies c.condition c'.condition
  verdict : c'.verdict = c.verdict

/-- The verdicts fall from clause to clause, down to the default. -/
def Falling [LE ω] (default : ω) : List (Clause ε ω) → Prop
  | [] => True
  | c :: clauses =>
    default ≤ c.verdict ∧ (∀ c' ∈ clauses, c'.verdict ≤ c.verdict) ∧ Falling default clauses

theorem le_head [Preorder ω] (hfalling : Falling default (c :: clauses))
    (h : decide default (c :: clauses) = .ok v) : v ≤ c.verdict := by
  rcases decide_eq_ok h with rfl | ⟨c', hc', -, rfl⟩
  · exact hfalling.1
  · rcases List.mem_cons.1 hc' with rfl | hmem
    · exact le_rfl
    · exact hfalling.2.1 c' hmem

/-- Decisions by falling verdicts never fall when the conditions get wider. -/
theorem decide_mono [Preorder ω] (hfalling : Falling default clauses)
    (hwidens : List.Forall₂ Widens clauses clauses') (h : decide default clauses = .ok v)
    (h' : decide default clauses' = .ok v') : v ≤ v' := by
  induction hwidens with
  | nil =>
    cases h
    cases h'
    exact le_rfl
  | @cons c c' clauses clauses' hc _ ih =>
    obtain ⟨-, rfl⟩ | ⟨hfails', hrest'⟩ := decide_cons_eq_ok h'
    · rw [hc.verdict]
      exact le_head hfalling h
    · obtain ⟨hholds, -⟩ | ⟨-, hrest⟩ := decide_cons_eq_ok h
      · cases hc.condition hholds _ hfails'
      · exact ih hfalling.2.2 hrest hrest'

end DecisionList
