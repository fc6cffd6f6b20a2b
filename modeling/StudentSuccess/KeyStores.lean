import Mathlib.Data.List.Basic

namespace StudentSuccess
set_option autoImplicit true

/-- An idempotency key, unless it is empty. -/
def nonEmptyKey (idempotencyKey : Option String) : Option String :=
  idempotencyKey.filter (· ≠ "")

theorem nonEmptyKey_eq_some_iff :
    nonEmptyKey idempotencyKey = some key ↔ idempotencyKey = some key ∧ key ≠ "" := by
  simp [nonEmptyKey, Option.filter_eq_some_iff]

def duplicateCodes (code : String) (keys : List String) (idempotencyKey : Option String) :
    List String :=
  match idempotencyKey with
  | some key => if key ≠ "" ∧ key ∈ keys then [code] else []
  | none => []

@[simp] theorem duplicateCodes_nil : duplicateCodes code [] idempotencyKey = [] := by
  cases idempotencyKey with
  | none => rfl
  | some key => simp [duplicateCodes]

theorem duplicateCodes_eq_nil_iff :
    duplicateCodes code keys idempotencyKey = [] ↔
      ∀ key, nonEmptyKey idempotencyKey = some key → key ∉ keys := by
  simp only [nonEmptyKey_eq_some_iff]
  cases idempotencyKey with
  | none => simp [duplicateCodes]
  | some key => simp [duplicateCodes]

theorem duplicateCodes_of_mem (hne : key ≠ "") (hmem : key ∈ keys) :
    duplicateCodes code keys (some key) = [code] := if_pos ⟨hne, hmem⟩

/-- The store after a call that passed its gate. -/
def register (stores : Prop) [Decidable stores] (keys : List String)
    (idempotencyKey : Option String) : List String :=
  match idempotencyKey with
  | some key => if key ≠ "" ∧ stores then key :: keys else keys
  | none => keys

theorem mem_register_iff [Decidable stores] :
    key ∈ register stores keys idempotencyKey ↔
      key ∈ keys ∨ stores ∧ nonEmptyKey idempotencyKey = some key := by
  rw [nonEmptyKey_eq_some_iff]
  cases idempotencyKey with
  | none => simp [register]
  | some k =>
    unfold register
    dsimp only
    split_ifs with h
    · rw [List.mem_cons, or_comm, Option.some.injEq]
      apply or_congr_right
      constructor
      · intro hkey
        exact ⟨h.2, hkey.symm, hkey ▸ h.1⟩
      · intro hkey
        exact hkey.2.1.symm
    · constructor
      · intro hmem
        exact .inl hmem
      · intro hmem
        obtain hmem | ⟨hstores, hkey, hne⟩ := hmem
        · exact hmem
        · cases hkey
          exact absurd ⟨hne, hstores⟩ h

end StudentSuccess
