import StudentSuccess.PyNumber

namespace StudentSuccess
set_option autoImplicit true

/-- The sentinel of a threshold that the configuration does not give. -/
def unknownV0 : Py.Value := .str "UNKNOWN_V0"

/-- `v == UNKNOWN_V0`. -/
def isUnknownV0 : Py.Value → Bool
  | .str s => s == "UNKNOWN_V0"
  | _ => false

abbrev RuleSet := List (String × Py.Value)

/-- The value an engine takes from the rule set for a key, when it may use it. -/
def resolveThreshold (usable : Py.Value → Bool) (ruleSet : RuleSet) (key : String) :
    Option Py.Value :=
  match Py.get? key ruleSet with
  | some v => if usable v then some v else none
  | none => none

/-- The bindings of an engine's threshold keys, each the rule set's value or the sentinel. -/
def resolveThresholds (usable : Py.Value → Bool) (keys : List String) (ruleSet : RuleSet) :
    RuleSet :=
  keys.map fun k => (k, (resolveThreshold usable ruleSet k).getD unknownV0)

/-- The keys an engine reports as missing, in the order of its keys. -/
def missingThresholdKeys (usable : Py.Value → Bool) (keys : List String) (ruleSet : RuleSet) :
    List String :=
  keys.filter fun k => (resolveThreshold usable ruleSet k).isNone

def threshold (bindings : RuleSet) (key : String) : Py.Value :=
  (Py.get? key bindings).getD .null

def thresholdMissingFlag (key : String) : String := "CONFIG_THRESHOLD_MISSING_" ++ key.toUpper

/-- The flag of a missing threshold is no text that starts otherwise. -/
theorem thresholdMissingFlag_ne (key : String) {text : String}
    (h : text.toList.head? ≠ some 'C') : thresholdMissingFlag key ≠ text := by
  unfold thresholdMissingFlag
  generalize key.toUpper = upper
  intro heq
  apply h
  rw [← heq, String.toList_append]
  simp

theorem get?_map_of_mem {keys : List String} (f : String → α) (h : key ∈ keys) :
    Py.get? key (keys.map fun k => (k, f k)) = some (f key) := by
  induction keys with
  | nil => cases h
  | cons k keys ih =>
    rw [List.map_cons, Py.get?]
    split_ifs with hk
    · rw [hk]
    · exact ih ((List.mem_cons.1 h).resolve_left (Ne.symm hk))

/-- A key of the engine is bound to what the engine takes from the rule set for it. -/
theorem threshold_of_mem (usable : Py.Value → Bool) (hkey : key ∈ keys) (ruleSet : RuleSet) :
    threshold (resolveThresholds usable keys ruleSet) key =
      (resolveThreshold usable ruleSet key).getD unknownV0 := by
  rw [threshold, resolveThresholds, get?_map_of_mem _ hkey, Option.getD_some]

theorem resolveThreshold_true (ruleSet : RuleSet) (key : String) :
    resolveThreshold (fun _ => true) ruleSet key = Py.get? key ruleSet := by
  rw [resolveThreshold]
  cases Py.get? key ruleSet with
  | none => rfl
  | some v => rfl

theorem threshold_resolveThresholds (hkey : key ∈ keys) (hget : Py.get? key ruleSet = some v)
    (husable : usable v = true) :
    threshold (resolveThresholds usable keys ruleSet) key = v := by
  rw [threshold_of_mem usable hkey, resolveThreshold, hget]
  simp only [husable, if_true, Option.getD_some]

end StudentSuccess
