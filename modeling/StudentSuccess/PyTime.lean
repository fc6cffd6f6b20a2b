import StudentSuccess.PyNumber
import Mathlib.Data.List.Basic

set_option autoImplicit true

namespace Py

/-- A `datetime`: microseconds since 0001-01-01T00:00, of the UTC instant when it is aware and
of the wall clock when it is naive. -/
inductive DateTime
  | naive (micros : Int)
  | aware (micros : Int)
  deriving DecidableEq

/-- `a - b`, in microseconds. -/
def DateTime.sub : DateTime → DateTime → Except Error Int
  | .aware a, .aware b => .ok (a - b)
  | .naive a, .naive b => .ok (a - b)
  | _, _ => .error .typeError

/-- `a <= b`. -/
def DateTime.le : DateTime → DateTime → Except Error Bool
  | .aware a, .aware b => .ok (decide (a ≤ b))
  | .naive a, .naive b => .ok (decide (a ≤ b))
  | _, _ => .error .typeError

/-- `a if a.tzinfo else a.replace(tzinfo=timezone.utc)`, in microseconds. -/
def DateTime.utc : DateTime → Int
  | .aware a => a
  | .naive a => a

/-- `min(first, *rest)`. -/
def minDateTime (first : DateTime) : List DateTime → Except Error DateTime
  | [] => .ok first
  | t :: rest => do
    let keep ← first.le t
    minDateTime (if keep then first else t) rest

/-- `[t for t in ts if t >= bound]`. -/
def notBefore (bound : DateTime) : List DateTime → Except Error (List DateTime)
  | [] => .ok []
  | t :: rest => do
    let keep ← bound.le t
    let rest ← notBefore bound rest
    return if keep then t :: rest else rest

def DateTime.isAware : DateTime → Bool
  | .naive _ => false
  | .aware _ => true

theorem DateTime.le_same {a b : DateTime} (h : b.isAware = a.isAware) :
    a.le b = .ok (decide (a.utc ≤ b.utc)) := by
  cases a with
  | naive a =>
    cases b with
    | naive b => rfl
    | aware b => cases h
  | aware a =>
    cases b with
    | naive b => cases h
    | aware b => rfl

/-- A naive and an aware datetime are not comparable. -/
theorem DateTime.le_mixed {a b : DateTime} (h : b.isAware ≠ a.isAware) :
    a.le b = .error .typeError := by
  cases a with
  | naive a =>
    cases b with
    | naive b => exact absurd rfl h
    | aware b => rfl
  | aware a =>
    cases b with
    | naive b => rfl
    | aware b => exact absurd rfl h

theorem minDateTime_same {first : DateTime} {ts : List DateTime}
    (h : ∀ t ∈ ts, t.isAware = first.isAware) :
    ∃ t, minDateTime first ts = .ok t ∧ t.isAware = first.isAware ∧
      ((first :: ts).map DateTime.utc).min? = some t.utc := by
  induction ts generalizing first with
  | nil => exact ⟨first, rfl, rfl, rfl⟩
  | cons t ts ih =>
    have htail : ∀ x ∈ ts, x.isAware = first.isAware := fun x hx =>
      h x (List.mem_cons_of_mem t hx)
    rw [minDateTime, DateTime.le_same (h t List.mem_cons_self)]
    change ∃ x, minDateTime (if decide (first.utc ≤ t.utc) then first else t) ts = .ok x ∧ _
    by_cases hle : first.utc ≤ t.utc
    · rw [decide_eq_true hle, if_pos rfl]
      obtain ⟨x, hx, haware, hmin⟩ := ih htail
      refine ⟨x, hx, haware, ?_⟩
      rw [← hmin, List.map_cons, List.map_cons, List.map_cons, List.min?_cons', List.min?_cons',
        List.foldl_cons, min_eq_left hle]
    · rw [decide_eq_false hle, if_neg Bool.false_ne_true]
      have hsame : t.isAware = first.isAware := h t List.mem_cons_self
      obtain ⟨x, hx, haware, hmin⟩ := ih fun x hx => (htail x hx).trans hsame.symm
      refine ⟨x, hx, haware.trans hsame, ?_⟩
      rw [← hmin, List.map_cons, List.map_cons, List.min?_cons', List.min?_cons',
        List.foldl_cons, min_eq_right (not_le.1 hle).le]

theorem minDateTime_mixed {first : DateTime} {ts : List DateTime}
    (h : ∃ t ∈ ts, t.isAware ≠ first.isAware) : minDateTime first ts = .error .typeError := by
  induction ts generalizing first with
  | nil =>
    obtain ⟨t, ht, -⟩ := h
    cases ht
  | cons t ts ih =>
    by_cases hsame : t.isAware = first.isAware
    · have hrest := ((List.exists_mem_cons_iff _ _ _).1 h).resolve_left (not_not_intro hsame)
      rw [minDateTime, DateTime.le_same hsame]
      change minDateTime (if decide (first.utc ≤ t.utc) then first else t) ts = _
      split_ifs
      · exact ih hrest
      · rw [← hsame] at hrest
        exact ih hrest
    · rw [minDateTime, DateTime.le_mixed hsame]
      rfl

theorem notBefore_same {bound : DateTime} {ts : List DateTime}
    (h : ∀ t ∈ ts, t.isAware = bound.isAware) :
    notBefore bound ts = .ok (ts.filter (bound.utc ≤ ·.utc)) := by
  induction ts with
  | nil => rfl
  | cons t ts ih =>
    rw [notBefore, DateTime.le_same (h t List.mem_cons_self),
      ih fun x hx => h x (List.mem_cons_of_mem t hx), List.filter_cons]
    rfl

theorem notBefore_mixed {bound : DateTime} {ts : List DateTime}
    (h : ∃ t ∈ ts, t.isAware ≠ bound.isAware) : notBefore bound ts = .error .typeError := by
  induction ts with
  | nil =>
    obtain ⟨t, ht, -⟩ := h
    cases ht
  | cons t ts ih =>
    by_cases hsame : t.isAware = bound.isAware
    · have hrest := ((List.exists_mem_cons_iff _ _ _).1 h).resolve_left (not_not_intro hsame)
      rw [notBefore, DateTime.le_same hsame, ih hrest]
      rfl
    · rw [notBefore, DateTime.le_mixed hsame]
      rfl

def microsPerDay : Int := 86400000000

/-- `timedelta.days`, of a difference in microseconds. -/
def timedeltaDays (micros : Int) : Int := micros / microsPerDay

def microsPerHour : Rat := 3600000000

/-- The hours a `timedelta` can hold: its days are at most 999999999 either way. -/
def TimedeltaHours (hours : Rat) : Prop :=
  -(24 * 999999999) ≤ hours ∧ hours < 24 * 1000000000

instance (hours : Rat) : Decidable (TimedeltaHours hours) :=
  inferInstanceAs (Decidable (_ ∧ _))

/-- `timedelta(hours=v)` in microseconds. -/
def hoursDelta (v : Value) : Except Error Rat :=
  match v.num? with
  | none => .error .typeError
  | some hours =>
    if TimedeltaHours hours then .ok (hours * microsPerHour) else .error .overflowError

end Py
