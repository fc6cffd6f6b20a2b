import StudentSuccess.Thresholds
import StudentSuccess.PyTime

namespace StudentSuccess
set_option autoImplicit true

/-- The governance tiers of an AI insight, the same six in every engine. -/
inductive AiTier
  | confident
  | advisory
  | stale
  | inFlight
  | unavailable
  | finalizedCopy
  deriving DecidableEq, Repr

def AiTier.text : AiTier → String
  | .confident => "CONFIDENT"
  | .advisory => "ADVISORY"
  | .stale => "STALE"
  | .inFlight => "IN_FLIGHT"
  | .unavailable => "UNAVAILABLE"
  | .finalizedCopy => "FINALIZED_COPY"

inductive Priority
  | unknown
  | low
  | medium
  | high
  | critical
  deriving DecidableEq, Repr

def Priority.text : Priority → String
  | .unknown => "UNKNOWN"
  | .low => "LOW"
  | .medium => "MEDIUM"
  | .high => "HIGH"
  | .critical => "CRITICAL"

/-- One step up the ladder `LOW, MEDIUM, HIGH, CRITICAL`; `UNKNOWN` is not on it. -/
def Priority.upgrade : Priority → Priority
  | .unknown => .unknown
  | .low => .medium
  | .medium => .high
  | .high => .critical
  | .critical => .critical

/-- What the rules read from the outside world. `fromIsoformat` is `datetime.fromisoformat`,
which raises nothing but `ValueError`; `sha256` is the hexadecimal digest of a text. -/
structure RuleEnv where
  now : Int
  fromIsoformat : String → Option Py.DateTime
  sha256 : String → String

/-- The first sixteen digits of the hash of a prefixed user id. -/
def opaqueId (sha256 : String → String) (namePrefix : String) : Option Int → Option String
  | some userId => some (((sha256 (namePrefix ++ toString userId)).take 16).toString)
  | none => none

def fromIsoformatZ (env : RuleEnv) (s : String) : Except Py.Error Py.DateTime :=
  match env.fromIsoformat (s.replace "Z" "+00:00") with
  | some t => .ok t
  | none => .error .valueError

/-- `d.get(key)`. -/
def item (d : List (String × Py.Value)) (key : String) : Py.Value :=
  (Py.get? key d).getD .null

def isNone : Py.Value → Bool
  | .null => true
  | _ => false

/-- `not d`, of an optional dictionary. -/
def noItems (d : Option (List (String × Py.Value))) : Bool := (d.getD []).isEmpty

/-- `None if v == UNKNOWN_V0 else v`: the threshold, when there is one to compare with. -/
def comparable : Py.Value → Option Py.Value
  | .null => none
  | v => if isUnknownV0 v then none else some v

/-- A comparison that is made only when both sides are there. -/
def crosses (cmp : Rat → Py.Value → Except Py.Error Bool) (x : Option Rat)
    (v : Option Py.Value) : Except Py.Error Bool :=
  match x, v with
  | some x, some v => cmp x v
  | _, _ => .ok false

/-- The test is made and holds. -/
def succeeds : Except Py.Error Bool → Bool
  | .ok holds => holds
  | .error _ => false

def isReplayType (executionType : String) : Bool :=
  executionType == "replay" || executionType == "regeneration"

/-- A threshold that no comparison raises on. -/
def Numeric (v : Option Py.Value) : Prop := ∀ w, v = some w → w.num? ≠ none

/-- The comparison of the two sides, if it is made, does not raise. -/
def Compares (x : Option Rat) (v : Option Py.Value) : Prop := x = none ∨ Numeric v

/-- Both sides are there, and the first is at least the second. -/
def AtLeast (x : Option Rat) (v : Option Py.Value) : Prop :=
  ∃ y w z, x = some y ∧ v = some w ∧ w.num? = some z ∧ z ≤ y

theorem succeeds_iff (x : Except Py.Error Bool) : succeeds x = true ↔ x = .ok true := by
  cases x with
  | error e => simp [succeeds]
  | ok holds => simp [succeeds]

theorem eq_ok_succeeds {x : Except Py.Error Bool} (h : Py.Returns x) : x = .ok (succeeds x) := by
  obtain ⟨holds, rfl⟩ := h
  rfl

/-- A comparison raises on what is not a number and on nothing else. -/
def RaisesOnText (cmp : Rat → Py.Value → Except Py.Error Bool) : Prop :=
  ∀ x v, Py.Returns (cmp x v) ↔ v.num? ≠ none

theorem geValue_raisesOnText : RaisesOnText Py.geValue := by
  intro x v
  rw [Py.geValue]
  cases v.num? with
  | none => simp
  | some y => simp

theorem ltValue_raisesOnText : RaisesOnText Py.ltValue := by
  intro x v
  rw [Py.ltValue]
  cases v.num? with
  | none => simp
  | some y => simp

theorem gtValue_raisesOnText : RaisesOnText Py.gtValue := by
  intro x v
  rw [Py.gtValue]
  cases v.num? with
  | none => simp
  | some y => simp

theorem crosses_returns_iff {cmp : Rat → Py.Value → Except Py.Error Bool}
    (hcmp : RaisesOnText cmp) (x : Option Rat) (v : Option Py.Value) :
    Py.Returns (crosses cmp x v) ↔ Compares x v := by
  cases x with
  | none => simp [crosses, Compares, Numeric]
  | some x =>
    cases v with
    | none => simp [crosses, Compares, Numeric]
    | some w => simpa [crosses, Compares, Numeric] using hcmp x w

theorem crosses_geValue_iff (x : Option Rat) (v : Option Py.Value) :
    crosses Py.geValue x v = .ok true ↔ AtLeast x v := by
  cases x with
  | none => simp [crosses, AtLeast]
  | some y =>
    cases v with
    | none => simp [crosses, AtLeast]
    | some w =>
      cases hw : w.num? with
      | none => simp [crosses, AtLeast, Py.geValue, hw]
      | some z => simp [crosses, AtLeast, Py.geValue, hw]

theorem crosses_geValue_false_iff (x : Option Rat) (v : Option Py.Value) :
    crosses Py.geValue x v = .ok false ↔ Compares x v ∧ ¬ AtLeast x v := by
  rw [← crosses_returns_iff geValue_raisesOnText, ← crosses_geValue_iff]
  match crosses Py.geValue x v with
  | .error e => simp
  | .ok true => simp
  | .ok false => simp

end StudentSuccess
