import Mathlib.Data.List.Basic
import Mathlib.Data.List.Nodup

set_option autoImplicit true

namespace KeyedImports

/-- What an import counts of the items that it goes through. -/
structure Counts where
  inserted : Nat
  skipped : Nat
  errors : Nat

namespace Counts

def none : Counts := ⟨0, 0, 0⟩

def add (c c' : Counts) : Counts :=
  ⟨c.inserted + c'.inserted, c.skipped + c'.skipped, c.errors + c'.errors⟩

def total (c : Counts) : Nat := c.inserted + c.skipped + c.errors

@[simp] theorem add_inserted (c c' : Counts) : (c.add c').inserted = c.inserted + c'.inserted := rfl

@[simp] theorem add_errors (c c' : Counts) : (c.add c').errors = c.errors + c'.errors := rfl

theorem add_total (c c' : Counts) : (c.add c').total = c.total + c'.total := by
  simp only [add, total]
  omega

theorem none_add (c : Counts) : none.add c = c := by
  simp only [none, add, Nat.zero_add]

theorem add_none (c : Counts) : c.add none = c := by
  simp only [none, add, Nat.add_zero]

theorem add_assoc (c c' c'' : Counts) : (c.add c').add c'' = c.add (c'.add c'') := by
  simp only [add, Nat.add_assoc]

end Counts

/-- What becomes of an item where some are held already: one whose key is held is skipped, the
others a dry import counts, and a real one passes them over, fails on them or holds them. -/
inductive Step (key : α → κ) (passes : α → Prop) (dry : Bool) (held : List α) (a : α) :
    Counts → List α → Prop
  | known (h : key a ∈ held.map key) : Step key passes dry held a ⟨0, 1, 0⟩ held
  | counted (h : key a ∉ held.map key) (hdry : dry = true) :
    Step key passes dry held a ⟨1, 0, 0⟩ held
  | passed (h : key a ∉ held.map key) (hdry : dry = false) (hpasses : passes a) :
    Step key passes dry held a ⟨0, 1, 0⟩ held
  | failed (h : key a ∉ held.map key) (hdry : dry = false) :
    Step key passes dry held a ⟨0, 0, 1⟩ held
  | inserted (h : key a ∉ held.map key) (hdry : dry = false) :
    Step key passes dry held a ⟨1, 0, 0⟩ (held ++ [a])

inductive Steps (key : α → κ) (passes : α → Prop) (dry : Bool) :
    List α → List α → Counts → List α → Prop
  | nil : Steps key passes dry held [] .none held
  | cons : Step key passes dry held a c held₁ → Steps key passes dry held₁ as c' held' →
    Steps key passes dry held (a :: as) (c.add c') held'

variable {key : α → κ} {passes : α → Prop} {dry : Bool} {held held' as : List α}

theorem Step.total (h : Step key passes dry held a c held') : c.total = 1 := by
  cases h <;> rfl

theorem Steps.total (h : Steps key passes dry held as c held') : c.total = as.length := by
  induction h with
  | nil => rfl
  | cons hstep _ ih => rw [Counts.add_total, hstep.total, ih, List.length_cons, Nat.add_comm]

theorem Steps.append (h : Steps key passes dry held as c held₁)
    (h' : Steps key passes dry held₁ as' c' held') :
    Steps key passes dry held (as ++ as') (c.add c') held' := by
  induction h with
  | nil => rwa [Counts.none_add]
  | cons hstep _ ih =>
    rw [Counts.add_assoc]
    exact .cons hstep (ih h')

/-- A step only adds, and what it adds is the item, under a new key. -/
theorem Step.grows (h : Step key passes dry held a c held') :
    held' = held ∨ key a ∉ held.map key ∧ held' = held ++ [a] := by
  cases h with
  | known => exact .inl rfl
  | counted => exact .inl rfl
  | passed => exact .inl rfl
  | failed => exact .inl rfl
  | inserted h => exact .inr ⟨h, rfl⟩

theorem Steps.nodup (h : Steps key passes dry held as c held') (hnodup : (held.map key).Nodup) :
    (held'.map key).Nodup := by
  induction h with
  | nil => exact hnodup
  | cons hstep _ ih =>
    apply ih
    rcases hstep.grows with rfl | ⟨hnew, rfl⟩
    · exact hnodup
    · rw [List.map_append, List.nodup_append]
      refine ⟨hnodup, List.nodup_singleton _, ?_⟩
      intro k hk k' hk' heq
      rw [List.map_singleton, List.mem_singleton] at hk'
      exact hnew (hk' ▸ heq ▸ hk)

theorem Steps.kept (h : Steps key passes dry held as c held') (ha : a ∈ held) : a ∈ held' := by
  induction h with
  | nil => exact ha
  | cons hstep _ ih =>
    apply ih
    rcases hstep.grows with rfl | ⟨-, rfl⟩
    · exact ha
    · exact List.mem_append_left _ ha

theorem Steps.kept_key (h : Steps key passes dry held as c held') (hk : k ∈ held.map key) :
    k ∈ held'.map key := by
  obtain ⟨a, ha, rfl⟩ := List.mem_map.1 hk
  exact List.mem_map_of_mem (h.kept ha)

theorem Steps.mem (h : Steps key passes dry held as c held') (ha : a ∈ held') :
    a ∈ held ∨ a ∈ as := by
  induction h with
  | nil => exact .inl ha
  | cons hstep _ ih =>
    rcases ih ha with hheld | hrest
    · rcases hstep.grows with rfl | ⟨-, rfl⟩
      · exact .inl hheld
      · rw [List.mem_append, List.mem_singleton] at hheld
        rcases hheld with hheld | rfl
        · exact .inl hheld
        · exact .inr (.head _)
    · exact .inr (.tail _ hrest)

/-- A real import that passes nothing over holds the key of every item it has not failed on. -/
theorem Steps.complete (h : Steps key passes false held as c held')
    (hpasses : ∀ a ∈ as, ¬ passes a) :
    ∃ failed : List α, failed.length = c.errors ∧
      ∀ a ∈ as, key a ∈ held'.map key ∨ a ∈ failed := by
  induction h with
  | nil => exact ⟨[], rfl, by simp⟩
  | @cons held a c held₁ as c' held' hstep hsteps ih =>
    rw [List.forall_mem_cons] at hpasses
    obtain ⟨failed, hlength, hfailed⟩ := ih hpasses.2
    cases hstep with
    | known hknown =>
      refine ⟨failed, by rw [hlength, Counts.add_errors, Nat.zero_add], ?_⟩
      rw [List.forall_mem_cons]
      exact ⟨.inl (hsteps.kept_key hknown), hfailed⟩
    | counted _ hdry => cases hdry
    | passed _ _ hpassed => exact absurd hpassed hpasses.1
    | failed =>
      refine ⟨a :: failed, by rw [List.length_cons, hlength, Counts.add_errors, Nat.add_comm], ?_⟩
      rw [List.forall_mem_cons]
      exact ⟨.inr (.head _), fun b hb => (hfailed b hb).imp_right (.tail _)⟩
    | inserted =>
      refine ⟨failed, by rw [hlength, Counts.add_errors, Nat.zero_add], ?_⟩
      rw [List.forall_mem_cons]
      have hheld : key a ∈ (held ++ [a]).map key :=
        List.mem_map_of_mem (List.mem_append_right _ (.head _))
      exact ⟨.inl (hsteps.kept_key hheld), hfailed⟩

/-- Items whose keys are all held leave everything as it is. -/
theorem Steps.known (h : Steps key passes dry held as c held')
    (hknown : ∀ a ∈ as, key a ∈ held.map key) : held' = held ∧ c.inserted = 0 := by
  induction h with
  | nil => exact ⟨rfl, rfl⟩
  | cons hstep _ ih =>
    rw [List.forall_mem_cons] at hknown
    cases hstep with
    | known =>
      obtain ⟨hheld, hinserted⟩ := ih hknown.2
      exact ⟨hheld, by rw [Counts.add_inserted, hinserted]⟩
    | counted hnew => exact absurd hknown.1 hnew
    | passed hnew => exact absurd hknown.1 hnew
    | failed hnew => exact absurd hknown.1 hnew
    | inserted hnew => exact absurd hknown.1 hnew

variable [DecidableEq κ]

def fresh (key : α → κ) (held as : List α) : Nat := as.countP fun a => key a ∉ held.map key

theorem fresh_cons_of_known (h : key a ∈ held.map key) (as : List α) :
    fresh key held (a :: as) = fresh key held as := by
  rw [fresh, List.countP_cons, decide_eq_false (not_not.2 h), if_neg Bool.false_ne_true, fresh,
    Nat.add_zero]

theorem fresh_cons_of_new (h : key a ∉ held.map key) (as : List α) :
    fresh key held (a :: as) = 1 + fresh key held as := by
  rw [fresh, List.countP_cons, decide_eq_true h, if_pos rfl, fresh, Nat.add_comm]

/-- A dry import counts the items whose key is not held, and holds nothing. -/
theorem Steps.inserted_dry (h : Steps key passes true held as c held') :
    held' = held ∧ c.inserted = fresh key held as := by
  induction h with
  | nil => exact ⟨rfl, rfl⟩
  | cons hstep _ ih =>
    cases hstep with
    | known hknown =>
      refine ⟨ih.1, ?_⟩
      rw [Counts.add_inserted, ih.2, fresh_cons_of_known hknown, Nat.zero_add]
    | counted hnew =>
      refine ⟨ih.1, ?_⟩
      rw [Counts.add_inserted, ih.2, fresh_cons_of_new hnew]
    | passed _ hdry => cases hdry
    | failed _ hdry => cases hdry
    | inserted _ hdry => cases hdry

end KeyedImports
