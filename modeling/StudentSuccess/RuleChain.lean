import Mathlib.Data.List.Forall2

set_option autoImplicit true

namespace RuleChain

/-- What a rule does when it does not raise: hand a state on, or end the evaluation. -/
inductive Step (σ ω : Type)
  | next (s : σ)
  | exit (out : ω)

abbrev Rule (ε σ ω : Type) := σ → Except ε (Step σ ω)

variable {ε σ ω : Type} {last : σ → ω} {r : Rule ε σ ω} {rules : List (Rule ε σ ω)}

/-- The rules in order, each on the state handed on to it; `last` is the default output. -/
def eval (last : σ → ω) : List (Rule ε σ ω) → σ → Except ε ω
  | [], s => .ok (last s)
  | r :: rules, s =>
    match r s with
    | .error e => .error e
    | .ok (.exit out) => .ok out
    | .ok (.next s') => eval last rules s'

/-- The result is an exception, a state of `J` handed on, or an output of `Q`. -/
def Holds (J : σ → Prop) (Q : ω → Prop) : Except ε (Step σ ω) → Prop
  | .error _ => True
  | .ok (.next s) => J s
  | .ok (.exit out) => Q out

/-- On the states of `I` the rule hands on a state of `J` or ends with an output of `Q`. -/
def Keeps (I J : σ → Prop) (Q : ω → Prop) (r : Rule ε σ ω) : Prop :=
  ∀ s, I s → Holds J Q (r s)

/-- Partial correctness: what the rules return from a state of `I` satisfies `Q`. -/
def Ensures (last : σ → ω) (I : σ → Prop) (Q : ω → Prop) (rules : List (Rule ε σ ω)) : Prop :=
  ∀ s, I s → ∀ out, eval last rules s = .ok out → Q out

/-- The rules return, with an output of `Q`. -/
def Yields (last : σ → ω) (rules : List (Rule ε σ ω)) (s : σ) (Q : ω → Prop) : Prop :=
  ∃ out, eval last rules s = .ok out ∧ Q out

/-- The rule ends the evaluation where `c` holds, with an output of `Q`, and hands `next` on
elsewhere. -/
structure Guards (c : Prop) (Q : σ → ω → Prop) (next : σ → σ) (r : Rule ε σ ω) : Prop where
  exits : c → ∀ s, ∃ out, r s = .ok (.exit out) ∧ Q s out
  passes : ¬ c → ∀ s, r s = .ok (.next (next s))

theorem guards_of_ite {c : Prop} [Decidable c] {Q : σ → ω → Prop} {next : σ → σ} {out : σ → ω}
    (hr : ∀ s, r s = if c then .ok (.exit (out s)) else .ok (.next (next s)))
    (hQ : ∀ s, Q s (out s)) : Guards c Q next r := by
  constructor
  · intro hc s
    rw [hr, if_pos hc]
    exact ⟨out s, rfl, hQ s⟩
  · intro hc s
    rw [hr, if_neg hc]

theorem eval_next (h : r s = .ok (.next s')) :
    eval last (r :: rules) s = eval last rules s' := by
  simp only [eval, h]

theorem eval_exit (h : r s = .ok (.exit out)) : eval last (r :: rules) s = .ok out := by
  simp only [eval, h]

theorem eval_error (h : r s = .error e) : eval last (r :: rules) s = .error e := by
  simp only [eval, h]

@[simp] theorem holds_error (e : ε) : Holds J Q (.error e : Except ε (Step σ ω)) := trivial

@[simp] theorem holds_next (s : σ) :
    Holds J Q (.ok (.next s) : Except ε (Step σ ω)) ↔ J s := Iff.rfl

@[simp] theorem holds_exit (out : ω) :
    Holds J Q (.ok (.exit out) : Except ε (Step σ ω)) ↔ Q out := Iff.rfl

theorem ensures_nil (h : ∀ s, I s → Q (last s)) :
    Ensures last I Q ([] : List (Rule ε σ ω)) := by
  intro s hs out ho
  cases ho
  exact h s hs

theorem ensures_cons (hr : Keeps I J Q r) (h : Ensures last J Q rules) :
    Ensures last I Q (r :: rules) := by
  intro s hs out ho
  have hkeep := hr s hs
  match hrs : r s with
  | .error e =>
    rw [eval_error hrs] at ho
    cases ho
  | .ok (.exit out') =>
    rw [eval_exit hrs] at ho
    rw [hrs] at hkeep
    cases ho
    exact hkeep
  | .ok (.next s') =>
    rw [eval_next hrs] at ho
    rw [hrs] at hkeep
    exact h s' hkeep out ho

theorem Keeps.and {I' J' : σ → Prop} {Q' : ω → Prop} (h : Keeps I J Q r) (h' : Keeps I' J' Q' r) :
    Keeps (fun s => I s ∧ I' s) (fun s => J s ∧ J' s) (fun out => Q out ∧ Q' out) r := by
  intro s hs
  have hr := h s hs.1
  have hr' := h' s hs.2
  match hrs : r s with
  | .error e => trivial
  | .ok (.next s') =>
    rw [hrs] at hr hr'
    exact ⟨hr, hr'⟩
  | .ok (.exit out) =>
    rw [hrs] at hr hr'
    exact ⟨hr, hr'⟩

/-- Rules that keep one invariant up to a point, and what holds from there. -/
theorem ensures_append {front : List (Rule ε σ ω)} (hr : ∀ r ∈ front, Keeps I I Q r)
    (h : Ensures last I Q rules) : Ensures last I Q (front ++ rules) := by
  induction front with
  | nil => exact h
  | cons r front ih =>
    have hfront : ∀ r ∈ front, Keeps I I Q r := fun r' hr' => hr r' (.tail _ hr')
    exact ensures_cons (hr r (.head _)) (ih hfront)

theorem ensures_of_keeps (hr : ∀ r ∈ rules, Keeps I I Q r) (hlast : ∀ s, I s → Q (last s)) :
    Ensures last I Q rules := by
  have h := ensures_append hr (ensures_nil (ε := ε) hlast)
  rwa [List.append_nil] at h

@[simp] theorem yields_nil : Yields last ([] : List (Rule ε σ ω)) s Q ↔ Q (last s) := by
  constructor
  · intro h
    obtain ⟨out, ho, hq⟩ := h
    cases ho
    exact hq
  · intro h
    exact ⟨last s, rfl, h⟩

theorem yields_next (h : r s = .ok (.next s')) :
    Yields last (r :: rules) s Q ↔ Yields last rules s' Q := by
  simp only [Yields, eval_next h]

theorem yields_exit (h : r s = .ok (.exit out)) :
    Yields last (r :: rules) s Q ↔ Q out := by
  constructor
  · intro hy
    obtain ⟨out', ho, hq⟩ := hy
    rw [eval_exit h] at ho
    cases ho
    exact hq
  · intro hq
    exact ⟨out, eval_exit h, hq⟩

theorem yields_error (h : r s = .error e) : ¬ Yields last (r :: rules) s Q := by
  intro hy
  obtain ⟨out, ho, -⟩ := hy
  rw [eval_error h] at ho
  cases ho

/-- Rules that return still do so when another last rule only hands on. -/
theorem returns_append_of_next {front : List (Rule ε σ ω)} {r' : Rule ε σ ω}
    (hr' : ∀ s, ∃ s', r' s = .ok (.next s')) (h : eval last (front ++ [r]) s = .ok out) :
    ∃ out', eval last (front ++ [r']) s = .ok out' := by
  induction front generalizing s with
  | nil =>
    obtain ⟨s', hs'⟩ := hr' s
    exact ⟨last s', eval_next hs'⟩
  | cons f front ih =>
    rw [List.cons_append] at h ⊢
    match hfs : f s with
    | .error e =>
      rw [eval_error hfs] at h
      cases h
    | .ok (.exit out') => exact ⟨out', eval_exit hfs⟩
    | .ok (.next s') =>
      rw [eval_next hfs] at h ⊢
      exact ih h

/-- The result of a rule with the output it may end with turned into another. -/
def mapExit (f : ω → υ) : Except ε (Step σ ω) → Except ε (Step σ υ)
  | .error e => .error e
  | .ok (.next s) => .ok (.next s)
  | .ok (.exit out) => .ok (.exit (f out))

/-- From a state of `I` the second rule does what the first does, but for its output, which `f`
turns into the second's; what they hand on is a state of `I` again. -/
def Mirrors (I : σ → Prop) (f : ω → υ) (r : Rule ε σ ω) (r' : Rule ε σ υ) : Prop :=
  ∀ s, I s → r' s = mapExit f (r s) ∧ Holds I (fun _ => True) (r s)

theorem mirrors_next {r' : Rule ε σ υ} {f : ω → υ} (h : r s = .ok (.next s₁))
    (h' : r' s = .ok (.next s₁)) (hI : I s₁) :
    r' s = mapExit f (r s) ∧ Holds I (fun _ => True) (r s) := by
  rw [h, h']
  exact ⟨rfl, hI⟩

theorem mirrors_exit {r' : Rule ε σ υ} {f : ω → υ} (h : r s = .ok (.exit out))
    (h' : r' s = .ok (.exit (f out))) :
    r' s = mapExit f (r s) ∧ Holds I (fun _ => True) (r s) := by
  rw [h, h']
  exact ⟨rfl, trivial⟩

theorem mirrors_error {r' : Rule ε σ υ} {f : ω → υ} (h : r s = .error e) (h' : r' s = .error e) :
    r' s = mapExit f (r s) ∧ Holds I (fun _ => True) (r s) := by
  rw [h, h']
  exact ⟨rfl, trivial⟩

/-- Chains of rules that mirror each other end with outputs that `f` relates, or raise the same
exception. -/
theorem eval_mirrors {last' : σ → υ} {f : ω → υ} {rules' : List (Rule ε σ υ)}
    (hrules : List.Forall₂ (Mirrors I f) rules rules') (hlast : ∀ s, I s → last' s = f (last s))
    (s : σ) (hs : I s) : eval last' rules' s = (eval last rules s).map f := by
  induction hrules generalizing s with
  | nil => exact congrArg Except.ok (hlast s hs)
  | @cons r r' rules rules' hr _ ih =>
    obtain ⟨hstep, hkeeps⟩ := hr s hs
    match hrs : r s with
    | .error e =>
      rw [hrs] at hstep
      rw [eval_error hstep, eval_error hrs]
      rfl
    | .ok (.exit out) =>
      rw [hrs] at hstep
      rw [eval_exit hstep, eval_exit hrs]
      rfl
    | .ok (.next s') =>
      rw [hrs] at hstep hkeeps
      rw [eval_next hstep, eval_next hrs]
      exact ih s' hkeeps

/-- Two results that may be exceptions: the same exception, or values related by `Q`. -/
inductive Agree (Q : α → ω → Prop) : Except ε α → Except ε ω → Prop
  | error (e : ε) : Agree Q (.error e) (.error e)
  | ok {a : α} {out : ω} (h : Q a out) : Agree Q (.ok a) (.ok out)

theorem agree_next {x : Except ε α} (h : r s = .ok (.next s'))
    (hrest : Agree Q x (eval last rules s')) : Agree Q x (eval last (r :: rules) s) := by
  rw [eval_next h]
  exact hrest

theorem agree_exit {a : α} (h : r s = .ok (.exit out)) (hout : Q a out) :
    Agree Q (.ok a) (eval last (r :: rules) s) := by
  rw [eval_exit h]
  exact .ok hout

theorem agree_error (h : r s = .error e) :
    Agree (ω := ω) (α := α) Q (.error e) (eval last (r :: rules) s) := by
  rw [eval_error h]
  exact .error e

theorem Agree.of_ok {x : Except ε α} {y : Except ε ω} (h : Agree Q x y) (hy : y = .ok out) :
    ∃ a, x = .ok a ∧ Q a out := by
  cases h with
  | error e => cases hy
  | ok hq =>
    cases hy
    exact ⟨_, rfl, hq⟩

theorem Agree.to_ok {x : Except ε α} {y : Except ε ω} (h : Agree Q x y) (hx : x = .ok a) :
    ∃ out, y = .ok out ∧ Q a out := by
  cases h with
  | error e => cases hx
  | ok hq =>
    cases hx
    exact ⟨_, rfl, hq⟩

theorem Agree.map_right {x : Except ε α} {y : Except ε ω} {g : ω → υ} {Q' : α → υ → Prop}
    (h : Agree Q x y) (hg : ∀ a out, Q a out → Q' a (g out)) : Agree Q' x (y.map g) := by
  cases h with
  | error e => exact .error e
  | ok hq => exact .ok (hg _ _ hq)

theorem Agree.map_eq {x : Except ε α} {y : Except ε ω} {f : α → β} {g : ω → β} (h : Agree Q x y)
    (hfg : ∀ a out, Q a out → f a = g out) : x.map f = y.map g := by
  cases h with
  | error e => rfl
  | ok hq => exact congrArg Except.ok (hfg _ _ hq)

/-- When the first result is no exception, the second goes the same way, with a state or an output
related to the first's. -/
inductive Follows (R : σ → σ → Prop) (Q : ω → ω → Prop) :
    Except ε (Step σ ω) → Except ε (Step σ ω) → Prop
  | error (e : ε) (y : Except ε (Step σ ω)) : Follows R Q (.error e) y
  | next {s s' : σ} (h : R s s') : Follows R Q (.ok (.next s)) (.ok (.next s'))
  | exit {out out' : ω} (h : Q out out') : Follows R Q (.ok (.exit out)) (.ok (.exit out'))

theorem Follows.of_next {R : σ → σ → Prop} {Q : ω → ω → Prop} {y : Except ε (Step σ ω)}
    (h : Follows R Q (.ok (.next s)) y) : ∃ s', y = .ok (.next s') ∧ R s s' := by
  cases h with
  | next hR => exact ⟨_, rfl, hR⟩

theorem Follows.of_exit {R : σ → σ → Prop} {Q : ω → ω → Prop} {y : Except ε (Step σ ω)}
    (h : Follows R Q (.ok (.exit out)) y) : ∃ out', y = .ok (.exit out') ∧ Q out out' := by
  cases h with
  | exit hQ => exact ⟨_, rfl, hQ⟩

/-- From related states the second rule goes the way the first goes. -/
def FollowsRule (R : σ → σ → Prop) (Q : ω → ω → Prop) (r r' : Rule ε σ ω) : Prop :=
  ∀ s s', R s s' → Follows R Q (r s) (r' s')

theorem followsRule_refl {Q : ω → ω → Prop} (hQ : ∀ out, Q out out) (r : Rule ε σ ω) :
    FollowsRule Eq Q r r := by
  intro s s' h
  subst h
  match r s with
  | .error e => exact .error e _
  | .ok (.next s') => exact .next rfl
  | .ok (.exit out) => exact .exit (hQ out)

/-- What a chain of rules returns is returned, up to `Q`, by a chain that follows it. -/
theorem eval_follows {R : σ → σ → Prop} {Q : ω → ω → Prop} {last' : σ → ω}
    {rules' : List (Rule ε σ ω)} (hrules : List.Forall₂ (FollowsRule R Q) rules rules')
    (hlast : ∀ s s', R s s' → Q (last s) (last' s')) (hs : R s s')
    (h : eval last rules s = .ok out) : ∃ out', eval last' rules' s' = .ok out' ∧ Q out out' := by
  induction hrules generalizing s s' with
  | nil =>
    cases h
    exact ⟨_, rfl, hlast s s' hs⟩
  | @cons r r' rules rules' hr _ ih =>
    have hstep := hr s s' hs
    generalize hx : r s = x at hstep
    generalize hy : r' s' = y at hstep
    cases hstep with
    | error e =>
      rw [eval_error hx] at h
      cases h
    | next hR =>
      rw [eval_next hx] at h
      rw [eval_next hy]
      exact ih hR h
    | exit hQ =>
      rw [eval_exit hx] at h
      cases h
      exact ⟨_, eval_exit hy, hQ⟩

theorem Agree.returns_iff {x : Except ε α} {y : Except ε ω} (h : Agree Q x y) :
    (∃ a, x = .ok a) ↔ ∃ out, y = .ok out := by
  cases h with
  | error e => simp
  | ok hq => simp

end RuleChain
