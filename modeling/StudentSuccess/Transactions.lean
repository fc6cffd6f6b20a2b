import Mathlib.Data.List.Basic

set_option autoImplicit true

/-- A table that sessions write to: each row with the session whose open transaction it is
pending in, or none when it is committed. -/
structure TxTable (σ α : Type) where
  rows : List (Option σ × α)

namespace TxTable

section Rows

variable {σ α : Type} (t : TxTable σ α)

def ofCommitted (rows : List α) : TxTable σ α := ⟨rows.map (Prod.mk none)⟩

def insert (s : σ) (a : α) : TxTable σ α := ⟨t.rows ++ [(some s, a)]⟩

/-- The rows, committed or pending. -/
def values : List α := t.rows.map Prod.snd

def committed : List α := (t.rows.filter fun row => row.1.isNone).map Prod.snd

@[simp] theorem values_ofCommitted (rows : List α) :
    (ofCommitted rows : TxTable σ α).values = rows := by
  rw [values, ofCommitted]
  rw [List.map_map]
  exact List.map_id rows

@[simp] theorem values_insert (s : σ) (a : α) : (t.insert s a).values = t.values ++ [a] :=
  List.map_append

theorem committed_sublist : t.committed.Sublist t.values :=
  List.filter_sublist.map Prod.snd

end Rows

section Sessions

variable {σ α : Type} [DecidableEq σ] (t : TxTable σ α)

def commit (s : σ) : TxTable σ α :=
  ⟨t.rows.map fun row => if row.1 = some s then (none, row.2) else row⟩

def rollback (s : σ) : TxTable σ α := ⟨t.rows.filter fun row => row.1 ≠ some s⟩

/-- The rows that are left when the session's transaction is rolled back. -/
def outside (s : σ) : List α := (t.rollback s).values

@[simp] theorem values_rollback (s : σ) : (t.rollback s).values = t.outside s := rfl

@[simp] theorem values_commit (s : σ) : (t.commit s).values = t.values := by
  rw [values, commit]
  rw [List.map_map]
  apply List.map_congr_left
  intro row _
  dsimp only [Function.comp]
  split_ifs
  · rfl
  · rfl

theorem outside_sublist (s : σ) : (t.outside s).Sublist t.values :=
  List.filter_sublist.map Prod.snd

end Sessions

end TxTable
