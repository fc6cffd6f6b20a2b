import StudentSuccess.Upserts

set_option autoImplicit true

namespace Scripts
open Upserts

/-- A statement that writes one row: the upsert makes a row where there is none, and the update does
not. -/
inductive Write (κ : Type u) (γ : Type v) (ν : Type w)
  | upsert (k : κ) (change : Change γ ν)
  | update (k : κ) (change : Change γ ν)

variable {κ : Type u} {γ : Type v} {ν : Type w} [DecidableEq κ] (blank : γ → ν)

def update (store : Store κ γ ν) (k : κ) (change : Change γ ν) : Store κ γ ν := fun k' =>
  if k' = k then (store k').map (Change.apply change) else store k'

def Write.apply (store : Store κ γ ν) : Write κ γ ν → Store κ γ ν
  | .upsert k change => Upserts.upsert blank store k change
  | .update k change => Scripts.update store k change

def replay (store : Store κ γ ν) : List (Write κ γ ν) → Store κ γ ν
  | [] => store
  | w :: ws => replay (w.apply blank store) ws

/-- The key of a write, and what it sets. -/
def Write.entry : Write κ γ ν → κ × Change γ ν
  | .upsert k change => (k, change)
  | .update k change => (k, change)

/-- The keys that get a row. -/
def made : List (Write κ γ ν) → List κ
  | [] => []
  | .upsert k _ :: ws => k :: made ws
  | .update _ _ :: ws => made ws

/-- The writes from the one on that makes the row of the key. -/
def since (k : κ) : List (Write κ γ ν) → List (Write κ γ ν)
  | [] => []
  | .upsert k' change :: ws => if k' = k then .upsert k' change :: ws else since k ws
  | .update _ _ :: ws => since k ws

def upserts (changes : List (κ × Change γ ν)) : List (Write κ γ ν) :=
  changes.map fun entry => .upsert entry.1 entry.2

variable {blank} {store : Store κ γ ν} {ws : List (Write κ γ ν)}

theorem update_absent (h : store k = none) (change : Change γ ν) :
    Scripts.update store k change = store := by
  funext k'
  rw [Scripts.update]
  split_ifs with hk
  · rw [hk, h]
    rfl
  · rfl

theorem replay_append (store : Store κ γ ν) (ws ws' : List (Write κ γ ν)) :
    replay blank store (ws ++ ws') = replay blank (replay blank store ws) ws' := by
  induction ws generalizing store with
  | nil => rfl
  | cons w ws ih => exact ih (w.apply blank store)

theorem replay_upserts (store : Store κ γ ν) (changes : List (κ × Change γ ν)) :
    replay blank store (upserts changes) = batch blank store changes := by
  induction changes generalizing store with
  | nil => rfl
  | cons entry changes ih => exact ih (upsert blank store entry.1 entry.2)

theorem Write.apply_of_ne (w : Write κ γ ν) (h : w.entry.1 ≠ k) :
    w.apply blank store k = store k := by
  cases w with
  | upsert k' change => exact upsert_of_ne (Ne.symm h)
  | update k' change => exact if_neg (Ne.symm h)

theorem Write.apply_of_present (w : Write κ γ ν) (h : w.entry.1 = k) (hrow : store k = some row) :
    w.apply blank store k = some (Change.apply w.entry.2 row) := by
  cases w with
  | upsert k' change =>
    obtain rfl : k' = k := h
    rw [apply, upsert_self, hrow]
    rfl
  | update k' change =>
    obtain rfl : k' = k := h
    rw [apply, Scripts.update, if_pos rfl, hrow]
    rfl

/-- A row that is there has in each column what was set last or, where nothing was set, what was
there. -/
theorem replay_present (h : store k = some row) : replay blank store ws k =
    some fun c => (lastSet k c (ws.map Write.entry)).getD (row c) := by
  induction ws generalizing store row with
  | nil => exact h
  | cons w ws ih =>
    rw [replay, List.map_cons]
    by_cases hk : w.entry.1 = k
    · rw [ih (w.apply_of_present hk h), Option.some_inj]
      funext c
      rw [lastSet, if_pos hk]
      cases lastSet k c (ws.map Write.entry) with
      | some v => rfl
      | none =>
        rw [Option.none_or]
        rfl
    · rw [ih ((w.apply_of_ne hk).trans h), Option.some_inj]
      funext c
      rw [lastSet, if_neg hk, Option.or_none]

/-- A row that is not there is made by an upsert, and only what was written since is in it. -/
theorem replay_absent (h : store k = none) : replay blank store ws k =
    if k ∈ made ws then some fun c => (lastSet k c ((since k ws).map Write.entry)).getD (blank c)
    else none := by
  induction ws generalizing store with
  | nil => exact h
  | cons w ws ih =>
    rw [replay]
    cases w with
    | upsert k' change =>
      by_cases hk : k' = k
      · subst hk
        have hrow : (Write.upsert k' change).apply blank store k' =
            some (Change.apply change blank) := by
          rw [Write.apply, upsert_self, h]
          rfl
        rw [replay_present hrow, made, if_pos (.head _), since, if_pos rfl, Option.some_inj,
          List.map_cons]
        funext c
        rw [Write.entry, lastSet, if_pos rfl]
        cases lastSet k' c (ws.map Write.entry) with
        | some v => rfl
        | none =>
          rw [Option.none_or]
          rfl
      · rw [ih ((Write.apply_of_ne (.upsert k' change) hk).trans h), made, since, if_neg hk]
        simp only [List.mem_cons, Ne.symm hk, false_or]
    | update k' change =>
      have hnone : (Write.update k' change).apply blank store k = none := by
        rw [Write.apply, Scripts.update]
        split_ifs
        · rw [h]
          rfl
        · exact h
      exact ih hnone

theorem lastSet_append (k : κ) (c : γ) (changes changes' : List (κ × Change γ ν)) :
    lastSet k c (changes ++ changes') = (lastSet k c changes').or (lastSet k c changes) := by
  induction changes with
  | nil =>
    rw [List.nil_append, lastSet, Option.or_none]
  | cons entry changes ih =>
    obtain ⟨k', change⟩ := entry
    rw [List.cons_append, lastSet, lastSet, ih, Option.or_assoc]

omit [DecidableEq κ] in
theorem made_append (ws ws' : List (Write κ γ ν)) : made (ws ++ ws') = made ws ++ made ws' := by
  induction ws with
  | nil => rfl
  | cons w ws ih =>
    cases w with
    | upsert k change => exact congrArg (k :: ·) ih
    | update k change => exact ih

omit [DecidableEq κ] in
theorem made_upserts (changes : List (κ × Change γ ν)) :
    made (upserts changes) = changes.map Prod.fst := by
  induction changes with
  | nil => rfl
  | cons entry changes ih => exact congrArg (entry.1 :: ·) ih

omit [DecidableEq κ] in
theorem entry_upserts (changes : List (κ × Change γ ν)) :
    (upserts changes).map Write.entry = changes := by
  rw [upserts, List.map_map]
  exact List.map_id changes

/-- A key with an upsert, in a script that upserts first: what the script sets, it sets whatever was
there before. -/
theorem replay_upserted (h : k ∈ changes.map Prod.fst) :
    replay blank store (upserts changes ++ ws) k =
    some fun c => (lastSet k c (changes ++ ws.map Write.entry)).getD
      (((store k).getD blank) c) := by
  rw [replay_append, replay_upserts, replay_present (batch_present h), Option.some_inj]
  funext c
  rw [lastSet_append]
  cases lastSet k c (ws.map Write.entry) with
  | some v => rfl
  | none => rw [Option.none_or, Option.getD_none]

/-- A script that upserts first changes nothing when it is replayed. -/
theorem replay_replay (h : made ws = []) (store : Store κ γ ν) (changes : List (κ × Change γ ν)) :
    replay blank (replay blank store (upserts changes ++ ws)) (upserts changes ++ ws) =
      replay blank store (upserts changes ++ ws) := by
  funext k
  have hentries : (upserts changes ++ ws).map Write.entry = changes ++ ws.map Write.entry := by
    rw [List.map_append, entry_upserts]
  by_cases hk : k ∈ changes.map Prod.fst
  · rw [replay_present (replay_upserted hk), replay_upserted hk, Option.some_inj, hentries]
    funext c
    cases lastSet k c (changes ++ ws.map Write.entry) with
    | some v => rfl
    | none => rfl
  · cases hrow : store k with
    | some row =>
      rw [replay_present (replay_present hrow), replay_present hrow, Option.some_inj]
      funext c
      cases lastSet k c ((upserts changes ++ ws).map Write.entry) with
      | some v => rfl
      | none => rfl
    | none =>
      have hmade : k ∉ made (upserts changes ++ ws) := by
        rw [made_append, h, List.append_nil, made_upserts]
        exact hk
      have hnone : replay blank store (upserts changes ++ ws) k = none := by
        rw [replay_absent hrow, if_neg hmade]
      rw [replay_absent hnone, if_neg hmade, hnone]

end Scripts
