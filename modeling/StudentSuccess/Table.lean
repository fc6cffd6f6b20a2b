import Mathlib.Data.List.Basic
import Mathlib.Data.List.Nodup

set_option autoImplicit true

/-- A table whose rows are listed in the order of their insertion, with its unique key. -/
structure Table (ρ : Type u) (key : ρ → κ) where
  rows : List ρ
  unique : (rows.map key).Nodup

namespace Table

variable {ρ : Type u} {κ : Type v} {key : ρ → κ}

def empty : Table ρ key := ⟨[], by simp⟩

/-- `SELECT … WHERE key = k`. -/
def find? [DecidableEq κ] (t : Table ρ key) (k : κ) : Option ρ :=
  t.rows.find? fun r => key r = k

/-- `UPDATE … WHERE key = k`, of columns outside the key. -/
def update [DecidableEq κ] (t : Table ρ key) (k : κ) (f : ρ → ρ) (hf : ∀ r, key (f r) = key r) :
    Table ρ key where
  rows := t.rows.map fun r => if key r = k then f r else r
  unique := by
    have hkeys : (t.rows.map fun r => if key r = k then f r else r).map key = t.rows.map key := by
      rw [List.map_map]
      apply List.map_congr_left
      intro r _
      by_cases h : key r = k <;> simp [h, hf]
    rw [hkeys]
    exact t.unique

/-- `INSERT` of a row whose key is not in the table. -/
def insert (t : Table ρ key) (r : ρ) (h : key r ∉ t.rows.map key) : Table ρ key where
  rows := t.rows ++ [r]
  unique := by
    rw [List.map_append, List.nodup_append]
    refine ⟨t.unique, by simp, ?_⟩
    intro a ha b hb hab
    rw [List.map_singleton, List.mem_singleton] at hb
    exact h (hb ▸ hab ▸ ha)

/-- `DELETE … WHERE p`. -/
def deleteWhere (t : Table ρ key) (p : ρ → Bool) : Table ρ key where
  rows := t.rows.filter fun r => !p r
  unique := t.unique.sublist (List.filter_sublist.map key)

/-- The order in which a statement visits the rows. -/
structure Scan (ρ : Type u) where
  order : List ρ → List ρ
  perm : ∀ rows, (order rows).Perm rows

def Scan.inserted : Scan ρ where
  order rows := rows
  perm _ := .rfl

/-- An index that holds of the rows and does not know the new one holds of the table with it. -/
theorem nodup_map_concat {g : ρ → β} {rows : List ρ} (h : (rows.map g).Nodup)
    (hr : ∀ r' ∈ rows, g r' ≠ g r) : ((rows ++ [r]).map g).Nodup := by
  rw [List.map_append, List.map_singleton, List.nodup_append]
  refine ⟨h, List.nodup_singleton _, ?_⟩
  intro a ha b hb hab
  rw [List.mem_singleton] at hb
  obtain ⟨r', hr', rfl⟩ := List.mem_map.1 ha
  exact hr r' hr' (hab.trans hb)

/-- An update of one row keeps an index that knows the new value of no other row. -/
theorem nodup_map_update [DecidableEq κ] {g : ρ → β} {f : ρ → ρ} {k : κ} {rows : List ρ}
    (hkey : (rows.map key).Nodup) (h : (rows.map g).Nodup)
    (hf : ∀ r ∈ rows, key r = k → ∀ r' ∈ rows, key r' ≠ k → g r' ≠ g (f r)) :
    ((rows.map fun r => if key r = k then f r else r).map g).Nodup := by
  induction rows with
  | nil => exact List.nodup_nil
  | cons a rows ih =>
    rw [List.map_cons, List.nodup_cons] at hkey h
    have htail : ∀ r ∈ rows, key r = k → ∀ r' ∈ rows, key r' ≠ k → g r' ≠ g (f r) :=
      fun r hr hrk r' hr' => hf r (.tail _ hr) hrk r' (.tail _ hr')
    rw [List.map_cons, List.map_cons, List.nodup_cons]
    refine ⟨?_, ih hkey.2 h.2 htail⟩
    intro hmem
    rw [List.map_map, List.mem_map] at hmem
    obtain ⟨r, hr, heq⟩ := hmem
    rw [Function.comp_apply] at heq
    by_cases hak : key a = k
    · have hrk : key r ≠ k := fun hrk => hkey.1 (hak.trans hrk.symm ▸ List.mem_map_of_mem hr)
      rw [if_pos hak, if_neg hrk] at heq
      exact hf a (.head _) hak r (.tail _ hr) hrk heq
    · rw [if_neg hak] at heq
      by_cases hrk : key r = k
      · rw [if_pos hrk] at heq
        exact hf r (.tail _ hr) hrk a (.head _) hak heq.symm
      · rw [if_neg hrk] at heq
        exact h.1 (heq ▸ List.mem_map_of_mem hr)

theorem map_eq_self_iff {f : ρ → ρ} {rows : List ρ} :
    rows.map f = rows ↔ ∀ r ∈ rows, f r = r := by
  conv_lhs => rhs; rw [← List.map_id rows]
  exact List.map_inj_left

/-- The next value of the sequence behind an `autoincrement` column. -/
def freshId (ids : List Nat) : Nat := ids.foldr max 0 + 1

def nextId {key : ρ → Nat} (t : Table ρ key) : Nat := freshId (t.rows.map key)

theorem nextId_pos {key : ρ → Nat} (t : Table ρ key) : 0 < t.nextId := Nat.succ_pos _

theorem le_foldr_max {n : Nat} {ns : List Nat} (h : n ∈ ns) : n ≤ ns.foldr max 0 := by
  induction ns with
  | nil => cases h
  | cons m ns ih =>
    rw [List.foldr_cons]
    cases h with
    | head => omega
    | tail _ h => have := ih h; omega

theorem nextId_not_mem {key : ρ → Nat} (t : Table ρ key) : t.nextId ∉ t.rows.map key := by
  intro h
  have hle := le_foldr_max h
  rw [nextId, freshId] at hle
  omega

theorem lt_nextId {key : ρ → Nat} (t : Table ρ key) (h : n ∈ t.rows.map key) : n < t.nextId :=
  Nat.lt_succ_of_le (le_foldr_max h)

/-- `INSERT` of a row that takes its key from the sequence. -/
def insertNew {key : ρ → Nat} (t : Table ρ key) (r : Nat → ρ) (h : ∀ n, key (r n) = n) :
    Table ρ key :=
  t.insert (r t.nextId) (by rw [h]; exact t.nextId_not_mem)

@[simp] theorem insertNew_rows {key : ρ → Nat} (t : Table ρ key) (r : Nat → ρ)
    (h : ∀ n, key (r n) = n) : (t.insertNew r h).rows = t.rows ++ [r t.nextId] := rfl

@[simp] theorem insert_rows (t : Table ρ key) (r : ρ) (h : key r ∉ t.rows.map key) :
    (t.insert r h).rows = t.rows ++ [r] := rfl

variable [DecidableEq κ]

theorem update_rows (t : Table ρ key) (k : κ) (f : ρ → ρ) (hf : ∀ r, key (f r) = key r) :
    (t.update k f hf).rows = t.rows.map fun r => if key r = k then f r else r := rfl

theorem find?_key {t : Table ρ key} {k : κ} {r : ρ} (h : t.find? k = some r) : key r = k := by
  simpa using List.find?_some h

theorem find?_of_mem {t : Table ρ key} {r : ρ} (h : r ∈ t.rows) : t.find? (key r) = some r := by
  obtain ⟨rows, unique⟩ := t
  simp only [find?] at h ⊢
  induction rows with
  | nil => cases h
  | cons a rows ih =>
    rw [List.map_cons, List.nodup_cons] at unique
    cases h with
    | head => simp
    | tail _ h =>
      have hne : key a ≠ key r := fun he => unique.1 (he ▸ List.mem_map_of_mem h)
      simpa [hne] using ih unique.2 h

@[simp] theorem find?_update_self (t : Table ρ key) (k : κ) (f : ρ → ρ)
    (hf : ∀ r, key (f r) = key r) : (t.update k f hf).find? k = (t.find? k).map f := by
  simp only [find?, update, List.find?_map, Function.comp_def]
  have hkey : ∀ r : ρ, decide (key (if key r = k then f r else r) = k) = decide (key r = k) := by
    intro r
    by_cases h : key r = k <;> simp [h, hf]
  simp only [hkey]
  cases hfind : t.rows.find? fun r => key r = k with
  | none => rfl
  | some r => simp [show key r = k by simpa using List.find?_some hfind]

@[simp] theorem find?_update_of_ne (t : Table ρ key) {k k' : κ} (h : k' ≠ k) (f : ρ → ρ)
    (hf : ∀ r, key (f r) = key r) : (t.update k f hf).find? k' = t.find? k' := by
  simp only [find?, update, List.find?_map, Function.comp_def]
  have hkey : ∀ r : ρ, decide (key (if key r = k then f r else r) = k') = decide (key r = k') := by
    intro r
    by_cases hr : key r = k <;> simp [hr, hf]
  simp only [hkey]
  cases hfind : t.rows.find? fun r => key r = k' with
  | none => rfl
  | some r =>
    have hr : key r = k' := by simpa using List.find?_some hfind
    simp [hr, h]

theorem find?_eq_none_iff {t : Table ρ key} {k : κ} : t.find? k = none ↔ k ∉ t.rows.map key := by
  simp [find?]

theorem find?_insert (t : Table ρ key) (r : ρ) (h : key r ∉ t.rows.map key) (k : κ) :
    (t.insert r h).find? k = if k = key r then some r else t.find? k := by
  have happend : (t.insert r h).find? k = (t.find? k).or (if key r = k then some r else none) := by
    rw [find?, insert_rows, List.find?_append, find?, List.find?_singleton]
    simp only [decide_eq_true_eq]
  by_cases hk : k = key r
  · subst hk
    rw [happend, find?_eq_none_iff.2 h, if_pos rfl, Option.none_or]
  · rw [happend, if_neg hk, if_neg (Ne.symm hk), Option.or_none]

/-- The order of the rows does not matter to a lookup by the key. -/
theorem find?_eq_of_perm {t t' : Table ρ key} (h : t.rows.Perm t'.rows) (k : κ) :
    t.find? k = t'.find? k := by
  cases hfind : t'.find? k with
  | none =>
    rw [find?_eq_none_iff] at hfind ⊢
    exact fun hk => hfind ((h.map key).mem_iff.1 hk)
  | some r =>
    have hr : r ∈ t.rows := h.mem_iff.2 (List.mem_of_find?_eq_some hfind)
    exact find?_key hfind ▸ find?_of_mem hr

/-- A row found by its key is the only one with the key. -/
theorem filter_of_find? {t : Table ρ key} {k : κ} {r : ρ} (h : t.find? k = some r) :
    t.rows.filter (fun r' => key r' = k) = [r] := by
  obtain ⟨rows, unique⟩ := t
  simp only [find?] at h ⊢
  induction rows with
  | nil => cases h
  | cons a rows ih =>
    rw [List.map_cons, List.nodup_cons] at unique
    by_cases hk : key a = k
    · have hrest : rows.filter (fun r' => key r' = k) = [] := by
        apply List.filter_eq_nil_iff.2
        intro r' hr' hk'
        rw [decide_eq_true_eq] at hk'
        exact unique.1 (hk.trans hk'.symm ▸ List.mem_map_of_mem hr')
      rw [List.find?_cons, decide_eq_true hk, Option.some_inj] at h
      rw [List.filter_cons, if_pos (decide_eq_true hk), hrest, h]
    · rw [List.find?_cons, decide_eq_false hk] at h
      rw [List.filter_cons, decide_eq_false hk]
      exact ih unique.2 h

end Table
