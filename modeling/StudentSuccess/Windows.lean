import Mathlib.Order.Interval.Set.Basic
import Mathlib.Order.Monotone.Basic

set_option autoImplicit true

namespace Windows

variable {α : Type u} [LinearOrder α] {f : Nat → α} {t : α}

/-- A sequence that starts at the bottom, grows, and leaves no element behind. -/
structure Boundaries (f : Nat → α) : Prop where
  strictMono : StrictMono f
  bottom : ∀ t, f 0 ≤ t
  unbounded : ∀ t, ∃ i, t < f i

/-- The window from one boundary up to, not including, the next. -/
def halfOpen (f : Nat → α) (i : Nat) : Set α := Set.Ico (f i) (f (i + 1))

/-- The window from one boundary to the next, both included. -/
def closed (f : Nat → α) (i : Nat) : Set α := Set.Icc (f i) (f (i + 1))

theorem halfOpen_subset_closed (f : Nat → α) (i : Nat) : halfOpen f i ⊆ closed f i :=
  Set.Ico_subset_Icc_self

theorem Boundaries.exists_halfOpen (h : Boundaries f) (t : α) : ∃ i, t ∈ halfOpen f i := by
  obtain ⟨n, hn⟩ := h.unbounded t
  induction n with
  | zero => exact absurd (h.bottom t) (not_le.2 hn)
  | succ n ih =>
    rcases lt_or_ge t (f n) with hlt | hge
    · exact ih hlt
    · exact ⟨n, hge, hn⟩

theorem Boundaries.halfOpen_unique (h : Boundaries f) (hi : t ∈ halfOpen f i)
    (hj : t ∈ halfOpen f j) : i = j := by
  have hij : i < j + 1 := h.strictMono.lt_iff_lt.1 (lt_of_le_of_lt hi.1 hj.2)
  have hji : j < i + 1 := h.strictMono.lt_iff_lt.1 (lt_of_le_of_lt hj.1 hi.2)
  omega

/-- The half-open windows partition the order. -/
theorem Boundaries.existsUnique_halfOpen (h : Boundaries f) (t : α) :
    ∃! i, t ∈ halfOpen f i := by
  obtain ⟨i, hi⟩ := h.exists_halfOpen t
  exact ⟨i, hi, fun j hj => h.halfOpen_unique hj hi⟩

/-- A closed window adds its upper boundary to the half-open one. -/
theorem mem_closed_iff (hf : StrictMono f) :
    t ∈ closed f i ↔ t ∈ halfOpen f i ∨ t = f (i + 1) := by
  constructor
  · intro h
    rcases lt_or_eq_of_le h.2 with hlt | heq
    · exact .inl ⟨h.1, hlt⟩
    · exact .inr heq
  · intro h
    rcases h with h | rfl
    · exact halfOpen_subset_closed f i h
    · exact ⟨hf.monotone (Nat.le_succ i), le_rfl⟩

theorem boundary_mem_halfOpen (hf : StrictMono f) (i : Nat) : f i ∈ halfOpen f i :=
  ⟨le_rfl, hf (Nat.lt_succ_self i)⟩

theorem boundary_not_mem_halfOpen (f : Nat → α) (i : Nat) : f (i + 1) ∉ halfOpen f i :=
  fun h => lt_irrefl _ h.2

theorem closed_iff_halfOpen_iff (hf : StrictMono f) :
    (∀ i, t ∈ closed f i ↔ t ∈ halfOpen f i) ↔ ∀ i, t ≠ f (i + 1) := by
  constructor
  · intro h i heq
    have hclosed : t ∈ closed f i := (mem_closed_iff hf).2 (.inr heq)
    exact boundary_not_mem_halfOpen f i (heq ▸ (h i).1 hclosed)
  · intro h i
    rw [mem_closed_iff hf]
    exact or_iff_left (h i)

/-- The closed windows count an element once unless it is an upper boundary. -/
theorem Boundaries.existsUnique_closed_iff (h : Boundaries f) :
    (∃! i, t ∈ closed f i) ↔ ∀ i, t ≠ f (i + 1) := by
  constructor
  · intro hunique i heq
    subst heq
    have hlower : f (i + 1) ∈ closed f i := (mem_closed_iff h.strictMono).2 (.inr rfl)
    have hupper : f (i + 1) ∈ closed f (i + 1) :=
      halfOpen_subset_closed f _ (boundary_mem_halfOpen h.strictMono (i + 1))
    exact absurd (hunique.unique hlower hupper) (Nat.succ_ne_self i).symm
  · intro hne
    have hiff := (closed_iff_halfOpen_iff h.strictMono).2 hne
    obtain ⟨i, hi, hunique⟩ := h.existsUnique_halfOpen t
    exact ⟨i, (hiff i).2 hi, fun j hj => hunique j ((hiff j).1 hj)⟩

end Windows
