import Mathlib.Logic.Function.Basic
import Mathlib.Data.List.Basic

set_option autoImplicit true

namespace Upserts

/-- A table as the map from its key to the columns of the row. -/
abbrev Store (κ : Type u) (γ : Type v) (ν : Type w) := κ → Option (γ → ν)

/-- The columns that a statement sets, each with its value. -/
abbrev Change (γ : Type v) (ν : Type w) := γ → Option ν

variable {κ : Type u} {γ : Type v} {ν : Type w} [DecidableEq κ] (blank : γ → ν)

def Change.apply (change : Change γ ν) (row : γ → ν) : γ → ν := fun c => (change c).getD (row c)

/-- `INSERT … ON CONFLICT DO UPDATE`: a new row starts from what an insert leaves unset. -/
def upsert (store : Store κ γ ν) (k : κ) (change : Change γ ν) : Store κ γ ν :=
  Function.update store k (some (Change.apply change ((store k).getD blank)))

def batch (store : Store κ γ ν) : List (κ × Change γ ν) → Store κ γ ν
  | [] => store
  | (k, change) :: rest => batch (upsert blank store k change) rest

/-- The value that the statements for the key give the column, the last of them first. -/
def lastSet (k : κ) (c : γ) : List (κ × Change γ ν) → Option ν
  | [] => none
  | (k', change) :: rest => (lastSet k c rest).or (if k' = k then change c else none)

variable {blank} {store : Store κ γ ν} {changes : List (κ × Change γ ν)}

@[simp] theorem upsert_self : upsert blank store k change k =
    some (Change.apply change ((store k).getD blank)) := Function.update_self _ _ _

theorem upsert_of_ne (h : k' ≠ k) : upsert blank store k change k' = store k' :=
  Function.update_of_ne h _ _

theorem batch_absent (h : k ∉ changes.map Prod.fst) : batch blank store changes k = store k := by
  induction changes generalizing store with
  | nil => rfl
  | cons entry changes ih =>
    rw [List.map_cons, List.mem_cons, not_or] at h
    rw [batch, ih h.2, upsert_of_ne h.1]

theorem lastSet_absent (h : k ∉ changes.map Prod.fst) (c : γ) : lastSet k c changes = none := by
  induction changes with
  | nil => rfl
  | cons entry changes ih =>
    rw [List.map_cons, List.mem_cons, not_or] at h
    rw [lastSet, ih h.2, if_neg (Ne.symm h.1), Option.none_or]

/-- A key of the batch has in each column what was set last or, where nothing was set, what was
there. -/
theorem batch_present (h : k ∈ changes.map Prod.fst) : batch blank store changes k =
    some fun c => (lastSet k c changes).getD (((store k).getD blank) c) := by
  induction changes generalizing store with
  | nil => cases h
  | cons entry changes ih =>
    obtain ⟨k', change⟩ := entry
    rw [batch]
    by_cases hrest : k ∈ changes.map Prod.fst
    · rw [ih hrest, Option.some_inj]
      funext c
      rw [lastSet]
      cases lastSet k c changes with
      | some v => rfl
      | none =>
        by_cases hk : k' = k
        · subst hk
          rw [upsert_self, if_pos rfl, Option.none_or]
          rfl
        · rw [upsert_of_ne (Ne.symm hk), if_neg hk]
          rfl
    · rw [List.map_cons, List.mem_cons] at h
      have hk : k = k' := h.resolve_right hrest
      subst hk
      rw [batch_absent hrest, upsert_self, Option.some_inj]
      funext c
      rw [lastSet, lastSet_absent hrest, if_pos rfl, Option.none_or]
      rfl

/-- The same batch a second time changes nothing. -/
theorem batch_batch (store : Store κ γ ν) (changes : List (κ × Change γ ν)) :
    batch blank (batch blank store changes) changes = batch blank store changes := by
  funext k
  by_cases h : k ∈ changes.map Prod.fst
  · rw [batch_present h, batch_present h, Option.some_inj]
    funext c
    rw [Option.getD_some]
    cases lastSet k c changes with
    | none => rfl
    | some v => rfl
  · rw [batch_absent h]

/-- What the last statement for a key sets stays. -/
theorem lastSet_last (h : k ∉ after.map Prod.fst) (hchange : change c = some v)
    (before : List (κ × Change γ ν)) :
    lastSet k c (before ++ (k, change) :: after) = some v := by
  induction before with
  | nil => rw [List.nil_append, lastSet, lastSet_absent h, if_pos rfl, Option.none_or, hchange]
  | cons entry before ih => rw [List.cons_append, lastSet, ih, Option.some_or]

theorem lastSet_eq_none_iff :
    lastSet k c changes = none ↔ ∀ change, (k, change) ∈ changes → change c = none := by
  induction changes with
  | nil => simp [lastSet]
  | cons entry changes ih =>
    obtain ⟨k', change'⟩ := entry
    rw [lastSet, Option.or_eq_none_iff, ih]
    constructor
    · rintro ⟨hrest, hfirst⟩ change hmem
      rcases List.mem_cons.1 hmem with heq | hmem
      · cases heq
        rw [if_pos rfl] at hfirst
        exact hfirst
      · exact hrest change hmem
    · intro h
      refine ⟨fun change hmem => h change (.tail _ hmem), ?_⟩
      split_ifs with hk
      · subst hk
        exact h change' (.head _)
      · rfl

theorem lastSet_mem (h : lastSet k c changes = some v) :
    ∃ change, (k, change) ∈ changes ∧ change c = some v := by
  induction changes with
  | nil => cases h
  | cons entry changes ih =>
    obtain ⟨k', change'⟩ := entry
    rw [lastSet, Option.or_eq_some_iff] at h
    rcases h with h | ⟨-, h⟩
    · obtain ⟨change, hmem, hset⟩ := ih h
      exact ⟨change, .tail _ hmem, hset⟩
    · split_ifs at h with hk
      subst hk
      exact ⟨change', .head _, h⟩

end Upserts
