import StudentSuccess.Runs
import Mathlib.Logic.Function.Basic

set_option autoImplicit true

namespace UniqueInserts

/-- Where a transaction stands that looks a key up and inserts a row of it when there is none. -/
inductive Pc (ν : Type v)
  | idle
  | missed
  | inserted (row : ν)
  | found (row : ν)
  | created (row : ν)
  /-- The index did not take the row. -/
  | refused
  | failed

/-- The committed rows by their key under READ COMMITTED, and the uncommitted entries of the
unique index. -/
structure Store (ι : Type u) (κ : Type w) (ν : Type v) where
  rows : κ → Option ν
  holder : κ → Option ι
  pc : ι → Pc ν

/-- One statement of a transaction, or its failure with the rollback that follows. -/
inductive Tick (ι : Type u) (ν : Type v)
  | look (i : ι)
  | insert (i : ι) (row : ν)
  | commit (i : ι)
  | fail (i : ι)

/-- The transaction has looked and found no row. -/
def Pc.Missed : Pc ν → Prop
  | .missed => True
  | .inserted _ => True
  | .created _ => True
  | .refused => True
  | _ => False

variable {ι : Type u} {κ : Type w} {ν : Type v} [DecidableEq ι] [DecidableEq κ]

def start (rows : κ → Option ν) : Store ι κ ν := ⟨rows, fun _ => none, fun _ => .idle⟩

def Store.setPc (s : Store ι κ ν) (i : ι) (p : Pc ν) : Store ι κ ν :=
  { s with pc := Function.update s.pc i p }

/-- An insert waits for the end of the transaction whose entry the index has of the key, and then
asks what is committed. -/
def step (key : ι → κ) (s : Store ι κ ν) : Tick ι ν → Store ι κ ν
  | .look i =>
    match s.pc i with
    | .idle =>
      match s.rows (key i) with
      | some row => s.setPc i (.found row)
      | none => s.setPc i .missed
    | _ => s
  | .insert i row =>
    match s.pc i with
    | .missed =>
      match s.holder (key i) with
      | some _ => s
      | none =>
        match s.rows (key i) with
        | some _ => s.setPc i .refused
        | none =>
          { s.setPc i (.inserted row) with holder := Function.update s.holder (key i) (some i) }
    | _ => s
  | .commit i =>
    match s.pc i with
    | .inserted row =>
      { s.setPc i (.created row) with
        rows := Function.update s.rows (key i) (some row)
        holder := Function.update s.holder (key i) none }
    | _ => s
  | .fail i =>
    match s.pc i with
    | .idle => s.setPc i .failed
    | .missed => s.setPc i .failed
    | .inserted _ =>
      { s.setPc i .failed with holder := Function.update s.holder (key i) none }
    | _ => s

inductive Moved (key : ι → κ) (s : Store ι κ ν) : Store ι κ ν → Prop
  | same : Moved key s s
  | found (i : ι) (row : ν) (hpc : s.pc i = .idle) (hrow : s.rows (key i) = some row) :
      Moved key s (s.setPc i (.found row))
  | missed (i : ι) (hpc : s.pc i = .idle) (hrow : s.rows (key i) = none) :
      Moved key s (s.setPc i .missed)
  | refused (i : ι) (row : ν) (hpc : s.pc i = .missed) (hrow : s.rows (key i) = some row) :
      Moved key s (s.setPc i .refused)
  | inserted (i : ι) (row : ν) (hpc : s.pc i = .missed) (hfree : s.holder (key i) = none)
      (hrow : s.rows (key i) = none) :
      Moved key s
        { s.setPc i (.inserted row) with holder := Function.update s.holder (key i) (some i) }
  | committed (i : ι) (row : ν) (hpc : s.pc i = .inserted row) :
      Moved key s
        { s.setPc i (.created row) with
          rows := Function.update s.rows (key i) (some row)
          holder := Function.update s.holder (key i) none }
  | failed (i : ι) (hpc : s.pc i = .idle ∨ s.pc i = .missed) : Moved key s (s.setPc i .failed)
  | rolledBack (i : ι) (row : ν) (hpc : s.pc i = .inserted row) :
      Moved key s { s.setPc i .failed with holder := Function.update s.holder (key i) none }

theorem step_moved (key : ι → κ) (s : Store ι κ ν) (t : Tick ι ν) : Moved key s (step key s t) := by
  cases t with
  | look i =>
    cases hpc : s.pc i with
    | idle =>
      cases hrow : s.rows (key i) with
      | some row => simpa only [step, hpc, hrow] using Moved.found i row hpc hrow
      | none => simpa only [step, hpc, hrow] using Moved.missed i hpc hrow
    | _ => simpa only [step, hpc] using Moved.same
  | insert i row =>
    cases hpc : s.pc i with
    | missed =>
      cases hfree : s.holder (key i) with
      | some j => simpa only [step, hpc, hfree] using Moved.same
      | none =>
        cases hrow : s.rows (key i) with
        | some row' => simpa only [step, hpc, hfree, hrow] using Moved.refused i row' hpc hrow
        | none =>
          simpa only [step, hpc, hfree, hrow] using Moved.inserted i row hpc hfree hrow
    | _ => simpa only [step, hpc] using Moved.same
  | commit i =>
    cases hpc : s.pc i with
    | inserted row => simpa only [step, hpc] using Moved.committed i row hpc
    | _ => simpa only [step, hpc] using Moved.same
  | fail i =>
    cases hpc : s.pc i with
    | idle => simpa only [step, hpc] using Moved.failed i (.inl hpc)
    | missed => simpa only [step, hpc] using Moved.failed i (.inr hpc)
    | inserted row => simpa only [step, hpc] using Moved.rolledBack i row hpc
    | _ => simpa only [step, hpc] using Moved.same

/-- What a transaction knows of the rows of its key. -/
def Knows (rows : Option ν) : Pc ν → Prop
  | .inserted _ => rows = none
  | .found row => rows = some row
  | .created row => rows = some row
  | .refused => rows ≠ none
  | _ => True

/-- The invariant of the interleavings that start on the rows `initial`. -/
structure Coherent (key : ι → κ) (initial : κ → Option ν) (s : Store ι κ ν) : Prop where
  held : ∀ k i, s.holder k = some i ↔ key i = k ∧ ∃ row, s.pc i = .inserted row
  knows : ∀ i, Knows (s.rows (key i)) (s.pc i)
  kept : ∀ k row, initial k = some row → s.rows k = some row
  origin : ∀ k row, s.rows k = some row →
    initial k = some row ∨ ∃ i, key i = k ∧ s.pc i = .created row
  absent : ∀ i, (s.pc i).Missed → initial (key i) = none
  single : ∀ i j row row', s.pc i = .created row → s.pc j = .created row' → key i = key j → i = j

variable {key : ι → κ} {initial : κ → Option ν} {s s' : Store ι κ ν}

omit [DecidableEq κ] in
@[simp] theorem setPc_self (s : Store ι κ ν) (i : ι) (p : Pc ν) : (s.setPc i p).pc i = p := by
  simp [Store.setPc]

omit [DecidableEq κ] in
theorem setPc_of_ne (s : Store ι κ ν) {i j : ι} (h : j ≠ i) (p : Pc ν) :
    (s.setPc i p).pc j = s.pc j := by
  simp [Store.setPc, h]

omit [DecidableEq ι] [DecidableEq κ] in
theorem coherent_start (key : ι → κ) (rows : κ → Option ν) :
    Coherent key rows (start rows : Store ι κ ν) where
  held := fun _ _ => iff_of_false nofun fun h => nomatch h.2
  knows := fun _ => trivial
  kept := fun _ _ h => h
  origin := fun _ _ h => .inl h
  absent := fun _ h => nomatch h
  single := fun _ _ _ _ h => nomatch h

omit [DecidableEq κ] in
theorem created_setPc_iff (s : Store ι κ ν) (i : ι) (p : Pc ν)
    (hold : ∀ row, s.pc i ≠ .created row) (hnew : ∀ row, p ≠ .created row) (j : ι) (row : ν) :
    (s.setPc i p).pc j = .created row ↔ s.pc j = .created row := by
  by_cases hji : j = i
  · subst hji
    rw [setPc_self]
    exact iff_of_false (hnew row) (hold row)
  · rw [setPc_of_ne s hji]

omit [DecidableEq κ] in
/-- A transaction that commits nothing goes on, and so does the index. -/
theorem Coherent.reindex (h : Coherent key initial s) (i : ι) (p : Pc ν) (holder : κ → Option ι)
    (hheld : ∀ k j, holder k = some j ↔ key j = k ∧ ∃ row, (s.setPc i p).pc j = .inserted row)
    (hold : ∀ row, s.pc i ≠ .created row) (hnew : ∀ row, p ≠ .created row)
    (hknows : Knows (s.rows (key i)) p) (habsent : p.Missed → initial (key i) = none) :
    Coherent key initial { s.setPc i p with holder := holder } := by
  have hcreated := created_setPc_iff s i p hold hnew
  constructor
  · exact hheld
  · intro j
    by_cases hji : j = i
    · subst hji
      exact (setPc_self s j p).symm ▸ hknows
    · exact (setPc_of_ne s hji p).symm ▸ h.knows j
  · exact h.kept
  · intro k row hrow
    simp only [hcreated]
    exact h.origin k row hrow
  · intro j
    by_cases hji : j = i
    · subst hji
      exact (setPc_self s j p).symm ▸ habsent
    · exact (setPc_of_ne s hji p).symm ▸ h.absent j
  · intro j j' row row' hj hj'
    exact h.single j j' row row' ((hcreated j row).1 hj) ((hcreated j' row').1 hj')

omit [DecidableEq κ] in
/-- A transaction that neither has an entry in the index nor gets one goes on. -/
theorem Coherent.setPc (h : Coherent key initial s) (i : ι) (p : Pc ν)
    (hold : ∀ row, s.pc i ≠ .inserted row) (hnew : ∀ row, p ≠ .inserted row)
    (hold' : ∀ row, s.pc i ≠ .created row) (hnew' : ∀ row, p ≠ .created row)
    (hknows : Knows (s.rows (key i)) p) (habsent : p.Missed → initial (key i) = none) :
    Coherent key initial (s.setPc i p) := by
  refine h.reindex i p s.holder (fun k j => ?_) hold' hnew' hknows habsent
  rw [h.held]
  by_cases hji : j = i
  · subst hji
    rw [setPc_self]
    exact and_congr_right fun _ => iff_of_false (fun hj => hold _ hj.choose_spec)
      fun hj => hnew _ hj.choose_spec
  · rw [setPc_of_ne s hji]

omit [DecidableEq ι] [DecidableEq κ] in
/-- The entry of the key is the transaction's own. -/
theorem Coherent.holder_inserted (h : Coherent key initial s) (hpc : s.pc i = .inserted row) :
    s.holder (key i) = some i := (h.held _ _).2 ⟨rfl, row, hpc⟩

omit [DecidableEq ι] [DecidableEq κ] in
theorem Coherent.inserted_unique (h : Coherent key initial s) (hi : s.pc i = .inserted row)
    (hj : s.pc j = .inserted row') (hkey : key i = key j) : i = j := by
  have hholder := h.holder_inserted hi
  rw [hkey, h.holder_inserted hj] at hholder
  exact (Option.some.inj hholder).symm

omit [DecidableEq ι] [DecidableEq κ] in
theorem Coherent.initial_none (h : Coherent key initial s) (hrow : s.rows k = none) :
    initial k = none := by
  cases hinitial : initial k with
  | none => rfl
  | some row => cases hrow.symm.trans (h.kept k row hinitial)

/-- The entries of the index after one transaction has got or lost its own. -/
theorem Coherent.held_update (h : Coherent key initial s) (i : ι) (p : Pc ν)
    (hfree : ∀ j, s.holder (key i) = some j → j = i)
    (hentry : entry = some i ↔ ∃ row, p = .inserted row) (hnone : entry = some i ∨ entry = none)
    (k : κ) (j : ι) :
    Function.update s.holder (key i) entry k = some j ↔
      key j = k ∧ ∃ row, (s.setPc i p).pc j = .inserted row := by
  by_cases hji : j = i
  · subst hji
    rw [setPc_self, ← hentry]
    by_cases hk : k = key j
    · subst hk
      simp
    · rw [Function.update_of_ne hk, h.held]
      exact iff_of_false (fun hold => hk hold.1.symm) fun hold => hk hold.1.symm
  · rw [setPc_of_ne s hji, ← h.held]
    by_cases hk : k = key i
    · subst hk
      rw [Function.update_self]
      refine iff_of_false ?_ fun hj => hji (hfree j hj)
      rintro rfl
      rcases hnone with hentry | hentry
      · exact hji (Option.some.inj hentry)
      · cases hentry
    · rw [Function.update_of_ne hk]

theorem Coherent.moved (h : Coherent key initial s) (hmoved : Moved key s s') :
    Coherent key initial s' := by
  cases hmoved with
  | same => exact h
  | found i row hpc hrow =>
    exact h.setPc i _ (by simp [hpc]) nofun (by simp [hpc]) nofun hrow nofun
  | missed i hpc hrow =>
    exact h.setPc i _ (by simp [hpc]) nofun (by simp [hpc]) nofun trivial
      fun _ => h.initial_none hrow
  | refused i row hpc hrow =>
    exact h.setPc i _ (by simp [hpc]) nofun (by simp [hpc]) nofun (by simp [Knows, hrow])
      fun _ => h.absent i (by rw [hpc]; trivial)
  | failed i hpc =>
    rcases hpc with hpc | hpc
    · exact h.setPc i _ (by simp [hpc]) nofun (by simp [hpc]) nofun trivial nofun
    · exact h.setPc i _ (by simp [hpc]) nofun (by simp [hpc]) nofun trivial nofun
  | inserted i row hpc hfree hrow =>
    refine h.reindex i _ _ ?_ (by simp [hpc]) nofun hrow fun _ => h.initial_none hrow
    exact h.held_update i _ (fun j hj => nomatch hfree.symm.trans hj) (by simp) (.inl rfl)
  | rolledBack i row hpc =>
    refine h.reindex i _ _ ?_ (by simp [hpc]) nofun trivial nofun
    refine h.held_update i _ (fun j hj => ?_) (by simp) (.inr rfl)
    rw [h.holder_inserted hpc] at hj
    exact (Option.some.inj hj).symm
  | committed i row hpc =>
    have hnone : s.rows (key i) = none := by
      have hknows := h.knows i
      rwa [hpc] at hknows
    -- The row is the first of its key: no other transaction knows of one.
    have hothers : ∀ j row', s.pc j = .created row' → key j ≠ key i := by
      intro j row' hj hkey
      have hknows := h.knows j
      rw [hj, hkey, Knows, hnone] at hknows
      cases hknows
    constructor
    · refine h.held_update i _ (fun j hj => ?_) (by simp) (.inr rfl)
      rw [h.holder_inserted hpc] at hj
      exact (Option.some.inj hj).symm
    · intro j
      change Knows (Function.update s.rows (key i) (some row) (key j))
        ((s.setPc i (.created row)).pc j)
      by_cases hji : j = i
      · subst hji
        rw [setPc_self, Function.update_self]
        rfl
      · rw [setPc_of_ne s hji]
        by_cases hkey : key j = key i
        · have hknows := h.knows j
          rw [hkey, hnone] at hknows
          rw [hkey, Function.update_self]
          cases hj : s.pc j with
          | inserted row' => exact absurd (h.inserted_unique hj hpc hkey) hji
          | found row' => rw [hj] at hknows; cases hknows
          | created row' => rw [hj] at hknows; cases hknows
          | refused => rw [hj] at hknows; exact absurd rfl hknows
          | _ => trivial
        · rw [Function.update_of_ne hkey]
          exact h.knows j
    · intro k row' hrow'
      have hk : k ≠ key i := by
        rintro rfl
        cases hnone.symm.trans (h.kept _ _ hrow')
      exact (Function.update_of_ne hk _ _).trans (h.kept k row' hrow')
    · intro k row' hrow'
      change Function.update s.rows (key i) (some row) k = some row' at hrow'
      by_cases hk : k = key i
      · subst hk
        rw [Function.update_self] at hrow'
        cases hrow'
        exact .inr ⟨i, rfl, setPc_self s i _⟩
      · rw [Function.update_of_ne hk] at hrow'
        rcases h.origin k row' hrow' with hinitial | ⟨j, hj, hcreated⟩
        · exact .inl hinitial
        · have hji : j ≠ i := fun hji => hk (hji ▸ hj.symm)
          exact .inr ⟨j, hj, (setPc_of_ne s hji _).trans hcreated⟩
    · intro j hj
      by_cases hji : j = i
      · subst hji
        exact h.initial_none hnone
      · exact h.absent j ((setPc_of_ne s hji (.created row)) ▸ hj)
    · intro j j' r r' hj hj' hkey
      change (s.setPc i (.created row)).pc j = .created r at hj
      change (s.setPc i (.created row)).pc j' = .created r' at hj'
      by_cases hji : j = i
      · by_cases hji' : j' = i
        · exact hji.trans hji'.symm
        · rw [setPc_of_ne s hji'] at hj'
          exact absurd (hji ▸ hkey.symm) (hothers j' r' hj')
      · rw [setPc_of_ne s hji] at hj
        by_cases hji' : j' = i
        · exact absurd (hji' ▸ hkey) (hothers j r hj)
        · rw [setPc_of_ne s hji'] at hj'
          exact h.single j j' r r' hj hj' hkey

omit [DecidableEq ι] [DecidableEq κ] in
/-- The index turns an insert away for the row of another transaction of the run. -/
theorem Coherent.refused_by (h : Coherent key initial s) (hpc : s.pc i = .refused) :
    ∃ j row, j ≠ i ∧ key j = key i ∧ s.pc j = .created row ∧ s.rows (key i) = some row := by
  have hknows := h.knows i
  have habsent := h.absent i (by rw [hpc]; trivial)
  rw [hpc] at hknows
  obtain ⟨row, hrow⟩ := Option.ne_none_iff_exists'.1 hknows
  rcases h.origin _ row hrow with hinitial | ⟨j, hj, hcreated⟩
  · cases habsent.symm.trans hinitial
  · refine ⟨j, row, ?_, hj, hcreated, hrow⟩
    rintro rfl
    cases hpc.symm.trans hcreated

/-- Every interleaving of the transactions is coherent. -/
theorem coherent_run (key : ι → κ) (rows : κ → Option ν) (ticks : List (Tick ι ν)) :
    Coherent key rows (Runs.final (step key) (start rows) ticks) :=
  Runs.invariant (fun s t h => h.moved (step_moved key s t)) (coherent_start key rows) ticks

/-- The values that transactions have drawn from a sequence, next to those of the committed rows. -/
structure Drawn (ids : List Nat) (next : Nat) (pending : ι → Option Nat) : Prop where
  pos : 0 < next
  below : ∀ n ∈ ids, n < next
  drawn : ∀ i n, pending i = some n → 0 < n ∧ n < next ∧ n ∉ ids
  distinct : ∀ i j n, pending i = some n → pending j = some n → i = j

namespace Drawn

variable {ids : List Nat} {next : Nat} {pending : ι → Option Nat}

omit [DecidableEq ι] in
theorem start (hpos : 0 < next) (hbelow : ∀ n ∈ ids, n < next) :
    Drawn ids next fun _ : ι => none :=
  ⟨hpos, hbelow, nofun, nofun⟩

theorem draw (h : Drawn ids next pending) (i : ι) :
    Drawn ids (next + 1) (Function.update pending i (some next)) := by
  have hpos := h.pos
  have hnew : next ∉ ids := fun hmem => absurd (h.below next hmem) (Nat.lt_irrefl next)
  have hothers : ∀ j, pending j ≠ some next := by
    intro j hj
    exact absurd (h.drawn j next hj).2.1 (Nat.lt_irrefl next)
  constructor
  · omega
  · intro n hn
    have hlt := h.below n hn
    omega
  · intro j n hj
    by_cases hji : j = i
    · subst hji
      rw [Function.update_self] at hj
      cases hj
      exact ⟨hpos, Nat.lt_succ_self next, hnew⟩
    · rw [Function.update_of_ne hji] at hj
      obtain ⟨hn, hlt, hmem⟩ := h.drawn j n hj
      exact ⟨hn, Nat.lt_succ_of_lt hlt, hmem⟩
  · intro j j' n hj hj'
    by_cases hji : j = i
    · by_cases hji' : j' = i
      · exact hji.trans hji'.symm
      · subst hji
        rw [Function.update_self] at hj
        rw [Function.update_of_ne hji', ← hj] at hj'
        exact absurd hj' (hothers j')
    · rw [Function.update_of_ne hji] at hj
      by_cases hji' : j' = i
      · subst hji'
        rw [Function.update_self] at hj'
        rw [← hj'] at hj
        exact absurd hj (hothers j)
      · rw [Function.update_of_ne hji'] at hj'
        exact h.distinct j j' n hj hj'

omit [DecidableEq ι] in
theorem of_pending {pending' : ι → Option Nat} (h : Drawn ids next pending)
    (hsub : ∀ i n, pending' i = some n → pending i = some n) : Drawn ids next pending' where
  pos := h.pos
  below := h.below
  drawn i n hi := h.drawn i n (hsub i n hi)
  distinct i j n hi hj := h.distinct i j n (hsub i n hi) (hsub j n hj)

omit [DecidableEq ι] in
theorem update_none {pending' : ι → Option Nat} [DecidableEq ι] (i : ι)
    (h : Function.update pending' i none j = some n) : j ≠ i ∧ pending' j = some n := by
  by_cases hji : j = i
  · subst hji
    rw [Function.update_self] at h
    cases h
  · rw [Function.update_of_ne hji] at h
    exact ⟨hji, h⟩

theorem drop (h : Drawn ids next pending) (i : ι) :
    Drawn ids next (Function.update pending i none) :=
  h.of_pending fun _ _ hj => (update_none i hj).2

theorem commit (h : Drawn ids next pending) (hi : pending i = some n) :
    Drawn (ids ++ [n]) next (Function.update pending i none) where
  pos := h.pos
  below m hm := by
    rw [List.mem_append, List.mem_singleton] at hm
    rcases hm with hm | rfl
    · exact h.below m hm
    · exact (h.drawn i m hi).2.1
  drawn j m hj := by
    obtain ⟨hji, hpending⟩ := update_none i hj
    obtain ⟨hpos, hlt, hmem⟩ := h.drawn j m hpending
    refine ⟨hpos, hlt, ?_⟩
    rw [List.mem_append, List.mem_singleton]
    rintro (hold | rfl)
    · exact hmem hold
    · exact hji (h.distinct j i m hpending hi)
  distinct j j' m hj hj' :=
    h.distinct j j' m (update_none i hj).2 (update_none i hj').2

end Drawn
end UniqueInserts
