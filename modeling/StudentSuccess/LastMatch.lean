import Mathlib.Data.List.Basic
import Mathlib.Data.List.Nodup

set_option autoImplicit true

namespace LastMatch

variable {α : Type u} {κ : Type v}

/-- Where every key of one kind is the key of the other, distinct keys of the other are distinct. -/
theorem nodup_filterMap_of_imp {key key' : α → Option κ} {rows : List α}
    (h : ∀ r k, key' r = some k → key r = some k) (hunique : (rows.filterMap key).Nodup) :
    (rows.filterMap key').Nodup := by
  have hsublist : (rows.filterMap key').Sublist (rows.filterMap key) := by
    induction rows with
    | nil => exact List.Sublist.refl _
    | cons r rows ih =>
      have hrest := ih (hunique.sublist ((List.sublist_cons_self r rows).filterMap key))
      cases hkey' : key' r with
      | none =>
        rw [List.filterMap_cons_none hkey']
        exact hrest.trans ((List.sublist_cons_self r rows).filterMap key)
      | some k =>
        rw [List.filterMap_cons_some hkey', List.filterMap_cons_some (h r k hkey')]
        exact hrest.cons_cons k
  exact hunique.sublist hsublist

variable [DecidableEq κ] (key : α → Option κ)

/-- The last row under the key. -/
def last (k : κ) : List α → Option α
  | [] => none
  | r :: rows => (last k rows).or (if key r = some k then some r else none)

variable {key} {rows rows' : List α}

theorem last_append (k : κ) (rows rows' : List α) :
    last key k (rows ++ rows') = (last key k rows').or (last key k rows) := by
  induction rows with
  | nil => rw [List.nil_append, last, Option.or_none]
  | cons r rows ih => rw [List.cons_append, last, ih, last, Option.or_assoc]

theorem last_eq_some (h : last key k rows = some r) : r ∈ rows ∧ key r = some k := by
  induction rows with
  | nil => cases h
  | cons r' rows ih =>
    rw [last, Option.or_eq_some_iff] at h
    rcases h with h | ⟨-, h⟩
    · exact ⟨.tail _ (ih h).1, (ih h).2⟩
    · split_ifs at h with hkey
      cases h
      exact ⟨.head _, hkey⟩

theorem last_eq_none_iff : last key k rows = none ↔ ∀ r ∈ rows, key r ≠ some k := by
  induction rows with
  | nil => simp [last]
  | cons r rows ih =>
    rw [last, Option.or_eq_none_iff, ih, List.forall_mem_cons]
    split_ifs with hkey
    · simp [hkey]
    · simp [hkey]

theorem last_congr {key' : α → Option κ} (h : ∀ r ∈ rows, key r = key' r) (k : κ) :
    last key k rows = last key' k rows := by
  induction rows with
  | nil => rfl
  | cons r rows ih =>
    rw [List.forall_mem_cons] at h
    rw [last, last, ih h.2, h.1]

theorem last_concat (h : key r = some k) (rows : List α) : last key k (rows ++ [r]) = some r := by
  rw [last_append, last, last, if_pos h]
  rfl

theorem exists_perm_concat (h : r ∈ rows) : ∃ rows', rows.Perm (rows' ++ [r]) := by
  obtain ⟨front, back, rfl⟩ := List.append_of_mem h
  exact ⟨front ++ back, List.perm_middle.trans (List.perm_append_singleton r _).symm⟩

theorem last_none_of_perm (h : rows.Perm rows') :
    last key k rows = none ↔ last key k rows' = none := by
  rw [last_eq_none_iff, last_eq_none_iff]
  constructor
  · intro hrows r hr
    exact hrows r (h.mem_iff.2 hr)
  · intro hrows r hr
    exact hrows r (h.mem_iff.1 hr)

/-- Under a key that no two rows have, the only row is the last. -/
theorem last_of_unique (hunique : (rows.filterMap key).Nodup) (hr : r ∈ rows)
    (hkey : key r = some k) : last key k rows = some r := by
  induction rows with
  | nil => cases hr
  | cons r' rows ih =>
    rw [last]
    rcases List.mem_cons.1 hr with rfl | hr
    · rw [List.filterMap_cons_some hkey, List.nodup_cons] at hunique
      have hnone : last key k rows = none := by
        rw [last_eq_none_iff]
        intro r' hr' hkey'
        exact hunique.1 (List.mem_filterMap.2 ⟨r', hr', hkey'⟩)
      rw [hnone, Option.none_or, if_pos hkey]
    · have hrest : (rows.filterMap key).Nodup := by
        rw [List.filterMap_cons] at hunique
        split at hunique
        · exact hunique
        · exact (List.nodup_cons.1 hunique).2
      rw [ih hrest hr, Option.some_or]

/-- Where no two rows have the same key, the last under a key does not depend on the order. -/
theorem last_eq_of_perm (hunique : (rows.filterMap key).Nodup) (h : rows.Perm rows') (k : κ) :
    last key k rows = last key k rows' := by
  cases hlast : last key k rows with
  | none => exact ((last_none_of_perm h).1 hlast).symm
  | some r =>
    obtain ⟨hr, hkey⟩ := last_eq_some hlast
    exact (last_of_unique ((h.filterMap key).nodup_iff.1 hunique) (h.mem_iff.1 hr) hkey).symm

theorem last_of_filter (h : rows.filter (fun r => key r = some k) = [r]) :
    last key k rows = some r := by
  have hmem : ∀ r', r' ∈ rows ∧ key r' = some k ↔ r' = r := by
    intro r'
    have hfilter : r' ∈ rows.filter (fun r => key r = some k) ↔ r' ∈ rows ∧ key r' = some k := by
      rw [List.mem_filter, decide_eq_true_iff]
    rw [← hfilter, h, List.mem_singleton]
  cases hlast : last key k rows with
  | none =>
    obtain ⟨hr, hkey⟩ := (hmem r).2 rfl
    exact absurd hkey (last_eq_none_iff.1 hlast r hr)
  | some r' => rw [(hmem r').1 (last_eq_some hlast)]

end LastMatch
