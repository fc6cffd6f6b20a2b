import StudentSuccess.ThresholdHonesty

namespace StudentSuccess
set_option autoImplicit true

/-- A value that an engine compares with, and that a comparison with a number raises on. -/
def malformed (v : Py.Value) : Bool := (comparable v).isSome && v.num?.isNone

/-- The value, or the sentinel in the place of a malformed one. -/
def tolerated (v : Py.Value) : Py.Value := if malformed v then unknownV0 else v

/-- The rule set with the sentinel in the place of the malformed values of the keys. -/
def tolerant (keys : List String) (ruleSet : RuleSet) : RuleSet :=
  ruleSet.map fun entry => if entry.1 ∈ keys then (entry.1, tolerated entry.2) else entry

/-- What is left of a threshold when it is to be a number. -/
def onlyNumeric (v : Option Py.Value) : Option Py.Value := v.filter fun w => w.num?.isSome

theorem get?_tolerant (keys : List String) (key : String) (ruleSet : RuleSet) :
    Py.get? key (tolerant keys ruleSet) =
      (Py.get? key ruleSet).map fun v => if key ∈ keys then tolerated v else v := by
  induction ruleSet with
  | nil => rfl
  | cons entry rest ih =>
    obtain ⟨k, v⟩ := entry
    rw [tolerant] at ih
    rw [tolerant, List.map_cons]
    dsimp only
    by_cases hk : k = key
    · subst hk
      by_cases hmem : k ∈ keys
      · simp only [if_pos hmem, Py.get?, if_true, Option.map_some]
      · simp only [if_neg hmem, Py.get?, if_true, Option.map_some]
    · by_cases hmem : k ∈ keys
      · rw [if_pos hmem, Py.get?, if_neg hk, Py.get?, if_neg hk]
        exact ih
      · rw [if_neg hmem, Py.get?, if_neg hk, Py.get?, if_neg hk]
        exact ih

theorem get?_tolerant_of_mem (h : key ∈ keys) (ruleSet : RuleSet) :
    Py.get? key (tolerant keys ruleSet) = (Py.get? key ruleSet).map tolerated := by
  rw [get?_tolerant]
  simp only [if_pos h]

theorem get?_tolerant_of_not_mem (h : key ∉ keys) (ruleSet : RuleSet) :
    Py.get? key (tolerant keys ruleSet) = Py.get? key ruleSet := by
  rw [get?_tolerant]
  simp only [if_neg h, Option.map_id']

theorem comparable_eq_some (h : comparable v = some w) : v = w := by
  cases v with
  | null => cases h
  | bool b => exact Option.some.inj h
  | int n => exact Option.some.inj h
  | float x => exact Option.some.inj h
  | list xs => exact Option.some.inj h
  | dict entries => exact Option.some.inj h
  | str text =>
    have htext : (if isUnknownV0 (.str text) then none else some (Py.Value.str text)) = some w := h
    rcases ite_eq_iff.1 htext with ⟨-, hnone⟩ | ⟨-, hsome⟩
    · cases hnone
    · exact Option.some.inj hsome

theorem comparable_tolerated (v : Py.Value) :
    comparable (tolerated v) = onlyNumeric (comparable v) := by
  have hsentinel : comparable unknownV0 = none := by decide
  rw [tolerated, malformed, onlyNumeric]
  cases hcomparable : comparable v with
  | none => simp [hcomparable]
  | some w =>
    obtain rfl := comparable_eq_some hcomparable
    cases hnum : v.num? with
    | none => simp [hsentinel, Option.filter, hnum]
    | some x => simp [hcomparable, Option.filter, hnum]

theorem comparable_tolerant_of_mem (h : key ∈ keys) (ruleSet : RuleSet) :
    comparable (item (tolerant keys ruleSet) key) =
      onlyNumeric (comparable (item ruleSet key)) := by
  rw [item, item, get?_tolerant_of_mem h]
  cases Py.get? key ruleSet with
  | none => rfl
  | some v => exact comparable_tolerated v

theorem item_tolerant_of_not_mem (h : key ∉ keys) (ruleSet : RuleSet) :
    item (tolerant keys ruleSet) key = item ruleSet key := by
  rw [item, item, get?_tolerant_of_not_mem h]

/-- A rule set lacks the keys that it lacks with the sentinel in the place of malformed values. -/
theorem missing_tolerant (keys keys' : List String) (ruleSet : RuleSet) :
    missingThresholdKeys (fun _ => true) keys' (tolerant keys ruleSet) =
      missingThresholdKeys (fun _ => true) keys' ruleSet := by
  apply List.filter_congr
  intro key _
  rw [resolveThreshold_true, resolveThreshold_true]
  by_cases h : key ∈ keys
  · rw [get?_tolerant_of_mem h, Option.isNone_map]
  · rw [get?_tolerant_of_not_mem h]

theorem onlyNumeric_of_numeric (h : Numeric v) : onlyNumeric v = v := by
  cases v with
  | none => rfl
  | some w => simp [onlyNumeric, Option.filter, Option.isSome_iff_ne_none, h w rfl]

theorem onlyNumeric_of_not_numeric (h : ¬ Numeric v) : onlyNumeric v = none := by
  cases v with
  | none => rfl
  | some w =>
    by_contra hsome
    apply h
    intro w' hw'
    cases hw'
    intro hnum
    simp [onlyNumeric, Option.filter, hnum] at hsome

section
variable {cmp : Rat → Py.Value → Except Py.Error Bool} (hcmp : RaisesOnText cmp) (x : Option Rat)
  (v : Option Py.Value)
include hcmp

/-- A comparison that is made with a number is made with it when only numbers are left. -/
theorem crosses_extends : Py.Extends (crosses cmp x v) (crosses cmp x (onlyNumeric v)) := by
  intro holds h
  have hcompares := (crosses_returns_iff hcmp x v).1 ⟨holds, h⟩
  rcases hcompares with rfl | hnumeric
  · exact h
  · rw [onlyNumeric_of_numeric hnumeric]
    exact h

end

end StudentSuccess
