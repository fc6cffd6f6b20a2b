import Mathlib.Data.List.Basic
import Mathlib.Data.List.Count

set_option autoImplicit true

/-- Cells with a current value each, and the log of the changes made to them. -/
structure Ledger (κ : Type u) (σ : Type v) where
  current : κ → Option σ
  entries : List (κ × σ × σ)

namespace Ledger

variable {κ : Type u} {σ : Type v}

/-- The entries form a chain from one value to the other. -/
def Linked : σ → List (σ × σ) → σ → Prop
  | s, [], t => s = t
  | s, e :: es, t => e.1 = s ∧ Linked e.2 es t

def log (l : Ledger κ σ) (k : κ) (s t : σ) : Ledger κ σ :=
  { l with entries := l.entries ++ [(k, s, t)] }

@[simp] theorem log_current (l : Ledger κ σ) (k : κ) (s t : σ) :
    (l.log k s t).current = l.current := rfl

@[simp] theorem log_entries (l : Ledger κ σ) (k : κ) (s t : σ) :
    (l.log k s t).entries = l.entries ++ [(k, s, t)] := rfl

theorem Linked.append {s t : σ} (h : Linked s es t) (h' : Linked t es' u) :
    Linked s (es ++ es') u := by
  induction es generalizing s with
  | nil => exact Eq.subst (motive := fun x => Linked x es' u) (Eq.symm h) h'
  | cons e es ih => exact ⟨h.1, ih h.2⟩

variable [DecidableEq κ]

/-- The changes of one cell, in the order of the log. -/
def entriesOf (l : Ledger κ σ) (k : κ) : List (σ × σ) :=
  (l.entries.filter fun e => e.1 = k).map (·.2)

/-- Every cell's entries lead from its initial value to its current one. -/
def Chained (initial : κ → Option σ) (l : Ledger κ σ) : Prop :=
  ∀ k t, l.current k = some t → ∃ s, initial k = some s ∧ Linked s (l.entriesOf k) t

/-- The cell takes a new value; whether an entry tells of it is up to the caller. -/
def move (l : Ledger κ σ) (k : κ) (t : σ) : Ledger κ σ :=
  { l with current := fun k' => if k' = k then (l.current k).map fun _ => t else l.current k' }

@[simp] theorem move_entries (l : Ledger κ σ) (k : κ) (t : σ) : (l.move k t).entries = l.entries :=
  rfl

theorem move_changed_iff {l : Ledger κ σ} (hs : l.current k = some s) (hne : s ≠ t)
    (k' : κ) (s' t' : σ) :
    (l.current k' = some s' ∧ (l.move k t).current k' = some t' ∧ s' ≠ t') ↔
      k' = k ∧ s' = s ∧ t' = t := by
  by_cases hk : k' = k
  · subst hk
    simp only [move, if_true, hs, Option.map_some, Option.some.injEq, true_and]
    constructor
    · rintro ⟨h, h', -⟩
      exact ⟨h.symm, h'.symm⟩
    · rintro ⟨rfl, rfl⟩
      exact ⟨rfl, rfl, hne⟩
  · simp only [move, hk, if_false, false_and, iff_false]
    rintro ⟨h, h', hne'⟩
    rw [h] at h'
    exact hne' (Option.some.inj h')

theorem entriesOf_log_self (l : Ledger κ σ) (k : κ) (s t : σ) :
    (l.log k s t).entriesOf k = l.entriesOf k ++ [(s, t)] := by
  simp [entriesOf]

theorem entriesOf_log_of_ne (l : Ledger κ σ) {k k' : κ} (h : k' ≠ k) (s t : σ) :
    (l.log k s t).entriesOf k' = l.entriesOf k' := by
  simp [entriesOf, Ne.symm h]

theorem Chained.move_log {l : Ledger κ σ} (h : Chained initial l) (hs : l.current k = some s) :
    Chained initial ((l.move k t).log k s t) := by
  intro k' t' ht'
  by_cases hk : k' = k
  · subst hk
    obtain ⟨s₀, hs₀, hlinked⟩ := h k' s hs
    have ht : t = t' := by simpa [move, hs] using ht'
    refine ⟨s₀, hs₀, ?_⟩
    rw [entriesOf_log_self]
    exact hlinked.append ⟨rfl, ht⟩
  · rw [entriesOf_log_of_ne _ hk]
    have ht : l.current k' = some t' := by simpa [move, hk] using ht'
    exact h k' t' ht

variable [DecidableEq σ]

/-- A step is audited: a cell changes exactly when one entry for that change is added. -/
def Audited (before after : Ledger κ σ) : Prop :=
  ∃ added, after.entries = before.entries ++ added ∧
    ∀ k s t, (before.current k = some s ∧ after.current k = some t ∧ s ≠ t) ↔
      added.count (k, s, t) = 1

theorem audited_refl (l : Ledger κ σ) : Audited l l := by
  refine ⟨[], by simp, fun k s t => ?_⟩
  rw [List.count_nil]
  refine ⟨?_, fun h => absurd h (by decide)⟩
  rintro ⟨h, h', hne⟩
  rw [h] at h'
  exact absurd (Option.some.inj h') hne

theorem audited_move_log {l : Ledger κ σ} (hs : l.current k = some s) (hne : s ≠ t) :
    Audited l ((l.move k t).log k s t) := by
  refine ⟨[(k, s, t)], rfl, fun k' s' t' => ?_⟩
  rw [log_current, move_changed_iff hs hne, List.count_singleton]
  constructor
  · rintro ⟨rfl, rfl, rfl⟩
    simp
  · intro h
    split_ifs at h with heq
    have he : (k, s, t) = (k', s', t') := by simpa using heq
    cases he
    exact ⟨rfl, rfl, rfl⟩

theorem not_audited_move {l : Ledger κ σ} (hs : l.current k = some s) (hne : s ≠ t) :
    ¬ Audited l (l.move k t) := by
  rintro ⟨added, hadded, haudit⟩
  have hnil : added = [] := by
    rw [move_entries] at hadded
    exact List.self_eq_append_right.1 hadded
  have hcount := (haudit k s t).1 ((move_changed_iff hs hne k s t).2 ⟨rfl, rfl, rfl⟩)
  rw [hnil, List.count_nil] at hcount
  exact absurd hcount (by decide)

end Ledger
