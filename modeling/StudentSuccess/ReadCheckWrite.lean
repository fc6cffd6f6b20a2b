import StudentSuccess.Runs
import Mathlib.Logic.Function.Basic

set_option autoImplicit true

namespace ReadCheckWrite

/-- Where a transaction stands that reads a cell, checks the value and writes a new one. It keeps
the value it read and the number of commits it saw. -/
inductive Pc (σ : Type v)
  | idle
  | read (value : σ) (seen : Nat)
  | wrote (value : σ) (seen : Nat) (new : σ)
  | done

/-- A cell under READ COMMITTED: a read sees the last committed value and takes no lock, a write
takes the row's lock until the transaction ends. -/
structure Cell (ι : Type u) (σ : Type v) where
  value : σ
  commits : Nat
  holder : Option ι
  pc : ι → Pc σ

/-- One statement of a transaction, or its failure. -/
inductive Tick (ι : Type u)
  | advance (i : ι)
  | fail (i : ι)

variable {ι : Type u} {σ : Type v} [DecidableEq ι]

def start (value : σ) : Cell ι σ := ⟨value, 0, none, fun _ => .idle⟩

def Cell.setPc (c : Cell ι σ) (i : ι) (p : Pc σ) : Cell ι σ :=
  { c with pc := Function.update c.pc i p }

/-- `plan i v` is what transaction `i` writes after it has read `v`, if it writes at all. A
statement that waits for the lock changes nothing. -/
def step (plan : ι → σ → Option σ) (c : Cell ι σ) : Tick ι → Cell ι σ
  | .advance i =>
    match c.pc i with
    | .idle => c.setPc i (.read c.value c.commits)
    | .read v n =>
      match plan i v with
      | none => c.setPc i .done
      | some new =>
        match c.holder with
        | some _ => c
        | none => { c.setPc i (.wrote v n new) with holder := some i }
    | .wrote _ _ new =>
      { c.setPc i .done with value := new, commits := c.commits + 1, holder := none }
    | .done => c
  | .fail i =>
    match c.pc i with
    | .wrote _ _ _ => { c.setPc i .done with holder := none }
    | _ => c.setPc i .done

/-- What an open transaction read and saw, and what it is going to write. -/
def Pc.open? (plan : σ → Option σ) : Pc σ → Option (σ × Nat × σ)
  | .read v n => (plan v).map fun new => (v, n, new)
  | .wrote v n new => some (v, n, new)
  | _ => none

/-- The step commits over exactly the value its transaction read. -/
def Lawful (plan : ι → σ → Option σ) (R : σ → σ → Prop) (c : Cell ι σ) (t : Tick ι) : Prop :=
  ((step plan c t).commits = c.commits → (step plan c t).value = c.value) ∧
  ((step plan c t).commits ≠ c.commits → R c.value (step plan c t).value) ∧
  ∀ i v n new, t = .advance i → c.pc i = .wrote v n new → n = c.commits

/-- A transaction that will write reads only when no other one is between its read and its
commit. -/
def Serial (plan : ι → σ → Option σ) (c : Cell ι σ) (t : Tick ι) : Prop :=
  ∀ i, t = .advance i → c.pc i = .idle → plan i c.value ≠ none →
    ∀ j, (c.pc j).open? (plan j) = none

/-- At most one transaction is open, and the cell is as that one read it. -/
structure Exclusive (plan : ι → σ → Option σ) (c : Cell ι σ) : Prop where
  fresh : ∀ i v n new, (c.pc i).open? (plan i) = some (v, n, new) →
    v = c.value ∧ n = c.commits ∧ plan i v = some new
  single : ∀ i j, (c.pc i).open? (plan i) ≠ none → (c.pc j).open? (plan j) ≠ none → i = j

variable {plan : ι → σ → Option σ} {R : σ → σ → Prop} {c : Cell ι σ}

@[simp] theorem setPc_self (c : Cell ι σ) (i : ι) (p : Pc σ) : (c.setPc i p).pc i = p := by
  simp [Cell.setPc]

theorem setPc_of_ne (c : Cell ι σ) {i j : ι} (h : j ≠ i) (p : Pc σ) :
    (c.setPc i p).pc j = c.pc j := by
  simp [Cell.setPc, h]

omit [DecidableEq ι] in
theorem exclusive_start (value : σ) : Exclusive plan (start value) where
  fresh := fun _ _ _ _ h => by cases h
  single := fun _ _ h => absurd rfl h

theorem Exclusive.close {c' : Cell ι σ} (h : Exclusive plan c) (i : ι)
    (hpc : ∀ j, c'.pc j = if j = i then .done else c.pc j)
    (hcell : ∀ j, j ≠ i → (c.pc j).open? (plan j) ≠ none →
      c'.value = c.value ∧ c'.commits = c.commits) : Exclusive plan c' := by
  have hopen : ∀ j, (c'.pc j).open? (plan j) ≠ none →
      j ≠ i ∧ (c'.pc j).open? (plan j) = (c.pc j).open? (plan j) := by
    intro j hj
    by_cases hji : j = i
    · rw [hpc, if_pos hji] at hj
      exact absurd rfl hj
    · exact ⟨hji, by rw [hpc, if_neg hji]⟩
  refine ⟨fun j v n new hj => ?_, fun j k hj hk => ?_⟩
  · obtain ⟨hji, heq⟩ := hopen j (by rw [hj]; exact nofun)
    have hj' := heq ▸ hj
    obtain ⟨hvalue, hcommits⟩ := hcell j hji (by rw [hj']; exact nofun)
    rw [hvalue, hcommits]
    exact h.fresh j v n new hj'
  · obtain ⟨-, hj'⟩ := hopen j hj
    obtain ⟨-, hk'⟩ := hopen k hk
    exact h.single j k (hj' ▸ hj) (hk' ▸ hk)

omit [DecidableEq ι] in
theorem Exclusive.congr {c' : Cell ι σ} (h : Exclusive plan c)
    (hopen : ∀ j, (c'.pc j).open? (plan j) = (c.pc j).open? (plan j))
    (hvalue : c'.value = c.value) (hcommits : c'.commits = c.commits) : Exclusive plan c' := by
  refine ⟨fun j v n new hj => ?_, fun j k hj hk => ?_⟩
  · rw [hvalue, hcommits]
    exact h.fresh j v n new (hopen j ▸ hj)
  · exact h.single j k (hopen j ▸ hj) (hopen k ▸ hk)

/-- A read opens its transaction on the committed value; the rule keeps the others closed. -/
theorem Exclusive.read (h : Exclusive plan c) (hserial : Serial plan c (.advance i))
    (hpc : c.pc i = .idle) : Exclusive plan (c.setPc i (.read c.value c.commits)) := by
  cases hplan : plan i c.value with
  | none =>
    refine h.congr (fun j => ?_) rfl rfl
    by_cases hji : j = i
    · subst hji
      rw [setPc_self, hpc]
      simp only [Pc.open?, hplan, Option.map_none]
    · rw [setPc_of_ne c hji]
  | some new =>
    have hclosed := hserial i rfl hpc (by rw [hplan]; exact nofun)
    have hopen : ∀ j, ((c.setPc i (.read c.value c.commits)).pc j).open? (plan j) ≠ none →
        j = i := by
      intro j hj
      by_contra hji
      rw [setPc_of_ne c hji] at hj
      exact hj (hclosed j)
    refine ⟨fun j v n new' hj => ?_, fun j k hj hk => (hopen j hj).trans (hopen k hk).symm⟩
    obtain rfl := hopen j (by rw [hj]; exact nofun)
    rw [setPc_self] at hj
    simp only [Pc.open?, hplan, Option.map_some, Option.some.injEq, Prod.mk.injEq] at hj
    obtain ⟨rfl, rfl, rfl⟩ := hj
    exact ⟨rfl, rfl, hplan⟩

theorem step_fail (plan : ι → σ → Option σ) (c : Cell ι σ) (i : ι) :
    (∀ j, (step plan c (.fail i)).pc j = if j = i then .done else c.pc j) ∧
      (step plan c (.fail i)).value = c.value ∧
      (step plan c (.fail i)).commits = c.commits := by
  have hpc : ∀ j, (c.setPc i .done).pc j = if j = i then .done else c.pc j := by
    intro j
    by_cases hji : j = i <;> simp [Cell.setPc, hji]
  cases h : c.pc i <;> simp only [step, h] <;> exact ⟨hpc, rfl, rfl⟩

/-- A step that the rule allows keeps the cell exclusive. -/
theorem Exclusive.preserved (h : Exclusive plan c) (hserial : Serial plan c t) :
    Exclusive plan (step plan c t) := by
  cases t with
  | fail i =>
    obtain ⟨hpc, hvalue, hcommits⟩ := step_fail plan c i
    exact h.close i hpc fun _ _ _ => ⟨hvalue, hcommits⟩
  | advance i =>
    cases hpc : c.pc i with
    | idle =>
      simp only [step, hpc]
      exact h.read hserial hpc
    | read v n =>
      cases hplan : plan i v with
      | none =>
        simp only [step, hpc, hplan]
        refine h.close i (fun j => ?_) fun _ _ _ => ⟨rfl, rfl⟩
        by_cases hji : j = i <;> simp [Cell.setPc, hji]
      | some new =>
        cases hholder : c.holder with
        | some k => simpa only [step, hpc, hplan, hholder] using h
        | none =>
          simp only [step, hpc, hplan, hholder]
          refine h.congr (fun j => ?_) rfl rfl
          by_cases hji : j = i
          · subst hji
            simp [Cell.setPc, hpc, Pc.open?, hplan]
          · simp [Cell.setPc, hji]
    | wrote v n new =>
      simp only [step, hpc]
      refine h.close i (fun j => ?_) fun j hji hj => ?_
      · by_cases hji : j = i <;> simp [Cell.setPc, hji]
      · exact absurd (h.single j i hj (by rw [hpc]; exact nofun)) hji
    | done => simpa only [step, hpc] using h

theorem step_commit (plan : ι → σ → Option σ) (hpc : c.pc i = .wrote v n new) :
    (step plan c (.advance i)).value = new ∧
      (step plan c (.advance i)).commits = c.commits + 1 := by
  simp only [step, hpc, and_self]

theorem step_quiet (plan : ι → σ → Option σ) (hpc : ∀ v n new, c.pc i ≠ .wrote v n new) :
    (step plan c (.advance i)).value = c.value ∧
      (step plan c (.advance i)).commits = c.commits := by
  cases h : c.pc i with
  | idle => simp only [step, h, Cell.setPc, and_self]
  | read v n =>
    cases hplan : plan i v with
    | none => simp only [step, h, hplan, Cell.setPc, and_self]
    | some new =>
      cases hholder : c.holder with
      | none => simp only [step, h, hplan, hholder, Cell.setPc, and_self]
      | some k => simp only [step, h, hplan, hholder, and_self]
  | wrote v n new => exact absurd h (hpc v n new)
  | done => simp only [step, h, and_self]

/-- On an exclusive cell every step is lawful. -/
theorem Exclusive.lawful (h : Exclusive plan c)
    (hplan : ∀ i v new, plan i v = some new → R v new) (t : Tick ι) : Lawful plan R c t := by
  cases t with
  | fail i =>
    obtain ⟨-, hvalue, hcommits⟩ := step_fail plan c i
    exact ⟨fun _ => hvalue, fun hne => absurd hcommits hne, fun _ _ _ _ he => nomatch he⟩
  | advance i =>
    by_cases hwrote : ∃ v n new, c.pc i = .wrote v n new
    · obtain ⟨v, n, new, hpc⟩ := hwrote
      obtain ⟨rfl, rfl, hnew⟩ := h.fresh i v n new (by rw [hpc]; rfl)
      obtain ⟨hvalue, hcommits⟩ := step_commit plan hpc
      refine ⟨fun he => ?_, fun _ => hvalue ▸ hplan i _ new hnew, fun j v' n' new' he hj => ?_⟩
      · rw [hcommits] at he
        exact absurd he (Nat.succ_ne_self _)
      · cases he
        rw [hpc] at hj
        cases hj
        rfl
    · have hpc : ∀ v n new, c.pc i ≠ .wrote v n new := fun v n new he => hwrote ⟨v, n, new, he⟩
      obtain ⟨hvalue, hcommits⟩ := step_quiet plan hpc
      refine ⟨fun _ => hvalue, fun hne => absurd hcommits hne, fun j v' n' new' he hj => ?_⟩
      cases he
      exact absurd hj (hpc v' n' new')

end ReadCheckWrite
