import StudentSuccess.FirstWriters
import StudentSuccess.Pagination
import Mathlib.Data.List.Sort

set_option autoImplicit true

namespace GroupedLatest
open FirstWriters Pagination

variable {α : Type u} {κ : Type v} {τ : Type w} [LinearOrder κ] [LinearOrder τ]

/-- The order of `ORDER BY key, time DESC`. -/
def Before (key : α → κ) (time : α → τ) (a b : α) : Prop :=
  key a < key b ∨ key a = key b ∧ time b ≤ time a

instance (key : α → κ) (time : α → τ) : DecidableRel (Before key time) :=
  fun _ _ => inferInstanceAs (Decidable (_ ∨ _))

/-- The rows by their keys, those of one key with the newest first. -/
def grouped (key : α → κ) (time : α → τ) (rows : List α) : List α :=
  rows.insertionSort (Before key time)

/-- The first row of every key. -/
def latest (key : α → κ) (time : α → τ) (rows : List α) : List α :=
  firsts key (grouped key time rows)

/-- No row is newer than this one; there is none exactly when there are no rows. -/
def IsNewest (time : α → τ) (rows : List α) : Option α → Prop
  | none => rows = []
  | some a => a ∈ rows ∧ ∀ b ∈ rows, time b ≤ time a

variable {key : α → κ} {time : α → τ} {rows rows' : List α}

theorem grouped_perm (rows : List α) : (grouped key time rows).Perm rows :=
  List.perm_insertionSort _ rows

theorem grouped_pairwise (rows : List α) :
    (grouped key time rows).Pairwise (Before key time) := by
  have htotal : Std.Total (Before key time) := by
    refine ⟨fun a b => ?_⟩
    rcases lt_trichotomy (key a) (key b) with hlt | heq | hgt
    · exact .inl (.inl hlt)
    · rcases le_total (time b) (time a) with hle | hle
      · exact .inl (.inr ⟨heq, hle⟩)
      · exact .inr (.inr ⟨heq.symm, hle⟩)
    · exact .inr (.inl hgt)
  have htrans : IsTrans α (Before key time) := by
    refine ⟨fun a b c hab hbc => ?_⟩
    rcases hab with hab | ⟨hab, htime⟩
    · rcases hbc with hbc | ⟨hbc, -⟩
      · exact .inl (hab.trans hbc)
      · exact .inl (hbc ▸ hab)
    · rcases hbc with hbc | ⟨hbc, htime'⟩
      · exact .inl (hab ▸ hbc)
      · exact .inr ⟨hab.trans hbc, htime'.trans htime⟩
  exact List.pairwise_insertionSort _ rows

theorem IsNewest.perm {newest : Option α} (h : IsNewest time rows newest)
    (hperm : rows.Perm rows') :
    IsNewest time rows' newest := by
  cases newest with
  | none => exact (h ▸ hperm).nil_eq.symm
  | some a => exact ⟨hperm.mem_iff.1 h.1, fun b hb => h.2 b (hperm.mem_iff.2 hb)⟩

theorem IsNewest.of_mem {newest : Option α} (h : IsNewest time rows newest) (hb : b ∈ rows) :
    ∃ a, newest = some a ∧ a ∈ rows ∧ time b ≤ time a := by
  cases newest with
  | none => exact absurd (h ▸ hb) List.not_mem_nil
  | some a => exact ⟨a, rfl, h.1, h.2 b hb⟩

/-- The newest rows of the same rows are of the same time. -/
theorem IsNewest.time_eq {newest newest' : Option α} (h : IsNewest time rows newest)
    (h' : IsNewest time rows newest') : newest.map time = newest'.map time := by
  cases newest with
  | none =>
    cases newest' with
    | none => rfl
    | some b => exact absurd (h ▸ h'.1) List.not_mem_nil
  | some a =>
    obtain ⟨b, rfl, hb, hle⟩ := h'.of_mem h.1
    exact congrArg some (le_antisymm hle (h.2 b hb))

theorem isNewest_head? (h : rows.Pairwise fun a b => time b ≤ time a) :
    IsNewest time rows rows.head? := by
  cases rows with
  | nil => rfl
  | cons a rows =>
    refine ⟨.head _, ?_⟩
    intro b hb
    rcases List.mem_cons.1 hb with rfl | hb
    · exact le_rfl
    · exact List.rel_of_pairwise_cons h hb

theorem isNewest_ranked (rows : List α) : IsNewest time rows (ranked time rows).head? :=
  (isNewest_head? (ranked_pairwise rows)).perm (ranked_perm rows)

/-- What is looked up under a key is a newest row of it. -/
theorem isNewest_find?_latest (rows : List α) (k : κ) :
    IsNewest time (rows.filter fun a => key a = k)
      ((latest key time rows).find? fun a => key a = k) := by
  have hsorted : ((grouped key time rows).filter fun a => key a = k).Pairwise
      fun a b => time b ≤ time a := by
    refine ((grouped_pairwise rows).filter _).imp_of_mem fun {a b} ha hb hbefore => ?_
    have hkey : key a = key b := by
      rw [of_decide_eq_true (List.mem_filter.1 ha).2, of_decide_eq_true (List.mem_filter.1 hb).2]
    rcases hbefore with hlt | ⟨-, hle⟩
    · exact absurd hkey hlt.ne
    · exact hle
  rw [latest, find?_firsts, ← List.head?_filter]
  exact (isNewest_head? hsorted).perm ((grouped_perm rows).filter _)

end GroupedLatest
