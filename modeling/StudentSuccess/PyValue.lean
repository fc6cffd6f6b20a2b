import Mathlib.Data.Rat.Defs
import Mathlib.Algebra.Order.Field.Rat

set_option autoImplicit true

namespace Py

/-- A Python value of the JSON fragment: what a configuration or a request body may hold.
A finite float is the rational it denotes. -/
inductive Value
  | null
  | bool (b : Bool)
  | int (n : Int)
  | float (x : Rat)
  | str (s : String)
  | list (xs : List Value)
  | dict (entries : List (String × Value))
  deriving Inhabited

/-- The exception classes the modelled code raises or lets through. -/
inductive Error
  | typeError
  | valueError
  | overflowError
  | attributeError
  | keyError
  | multipleResultsFound
  | validationError
  | integrityError
  deriving DecidableEq, Repr

/-- `bool(v)`. -/
def Value.truthy : Value → Bool
  | .null => false
  | .bool b => b
  | .int n => n != 0
  | .float x => x != 0
  | .str s => s != ""
  | .list xs => !xs.isEmpty
  | .dict entries => !entries.isEmpty

/-- `str(v)`; a float, a list and a dict have the text that `repr` gives them. -/
def Value.text (repr : Value → String) : Value → String
  | .null => "None"
  | .bool b => if b then "True" else "False"
  | .int n => toString n
  | .str s => s
  | v => repr v

/-- `bool(s)` of an optional text. -/
def truthyText : Option String → Bool
  | some s => s != ""
  | none => false

/-- `a or b` on an optional text. -/
def orText (a : Option String) (b : String) : String :=
  match a with
  | some s => if s = "" then b else s
  | none => b

/-- The number a value is in an arithmetic comparison; `bool` is a subclass of `int`. -/
def Value.num? : Value → Option Rat
  | .bool b => some (if b then 1 else 0)
  | .int n => some n
  | .float x => some x
  | _ => none

/-- `x >= v`. -/
def geValue (x : Rat) (v : Value) : Except Error Bool :=
  match v.num? with
  | some y => .ok (decide (y ≤ x))
  | none => .error .typeError

/-- `x < v`. -/
def ltValue (x : Rat) (v : Value) : Except Error Bool :=
  match v.num? with
  | some y => .ok (decide (x < y))
  | none => .error .typeError

/-- `x > v`. -/
def gtValue (x : Rat) (v : Value) : Except Error Bool :=
  match v.num? with
  | some y => .ok (decide (y < x))
  | none => .error .typeError

/-- The first entry of a key; an association list keeps the entry that was set last first. -/
def get? (key : String) : List (String × α) → Option α
  | [] => none
  | (k, v) :: rest => if k = key then some v else get? key rest

/-- `d[key] = v`. -/
def setItem (key : String) (v : α) : List (String × α) → List (String × α)
  | [] => [(key, v)]
  | (k, w) :: rest => if k = key then (k, v) :: rest else (k, w) :: setItem key v rest

/-- `rows, error = fetch()` before `if error:`, which lets the empty text of an exception through;
there are no rows then. -/
def checkError : Except String (List α) → Except String (List α)
  | .ok rows => .ok rows
  | .error message => if message = "" then .ok [] else .error message

@[simp] theorem checkError_ok (rows : List α) : checkError (.ok rows) = .ok rows := rfl

theorem checkError_error {message : String} (h : message ≠ "") :
    checkError (.error message : Except String (List α)) = .error message := if_neg h

/-- A computation that may raise returns exactly when each of its steps does. -/
theorem bind_eq_ok {x : Except ε α} {f : α → Except ε β} {b : β} :
    x >>= f = .ok b ↔ ∃ a, x = .ok a ∧ f a = .ok b := by
  cases x with
  | error e => simp [bind, Except.bind]
  | ok a => simp [bind, Except.bind]

theorem map_eq_ok {x : Except ε α} {f : α → β} {b : β} :
    x.map f = .ok b ↔ ∃ a, x = .ok a ∧ f a = b := by
  cases x with
  | error e => simp [Except.map]
  | ok a => simp [Except.map]

/-- The computation does not raise. -/
def Returns (x : Except ε α) : Prop := ∃ a, x = .ok a

@[simp] theorem returns_ok (a : α) : Returns (.ok a : Except ε α) := ⟨a, rfl⟩

@[simp] theorem returns_pure (a : α) : Returns (pure a : Except ε α) := ⟨a, rfl⟩

@[simp] theorem not_returns_error (e : ε) : ¬ Returns (.error e : Except ε α) := by
  intro h
  obtain ⟨a, ha⟩ := h
  cases ha

theorem raises_of_not_returns {x : Except ε α} (h : ¬ Returns x) : ∃ e, x = .error e := by
  cases x with
  | error e => exact ⟨e, rfl⟩
  | ok a => exact absurd (returns_ok a) h

@[simp] theorem returns_map {x : Except ε α} {f : α → β} : Returns (x.map f) ↔ Returns x := by
  cases x with
  | error e => simp [Except.map]
  | ok a => simp [Except.map]

theorem returns_bind {x : Except ε α} {f : α → Except ε β} :
    Returns (x >>= f) ↔ ∃ a, x = .ok a ∧ Returns (f a) := by
  cases x with
  | error e => simp [bind, Except.bind]
  | ok a => simp [bind, Except.bind]

theorem returns_ite {x y : Except ε α} (hx : Returns x) (hy : Returns y) (p : Prop) [Decidable p] :
    Returns (if p then x else y) := by
  by_cases h : p
  · rw [if_pos h]
    exact hx
  · rw [if_neg h]
    exact hy

/-- A sequence whose second step raises on one condition, whatever the first returned. -/
theorem returns_bind_iff {x : Except ε α} {f : α → Except ε β} (h : ∀ a, Returns (f a) ↔ p) :
    Returns (x >>= f) ↔ Returns x ∧ p := by
  rw [returns_bind]
  constructor
  · intro hx
    obtain ⟨a, ha, hf⟩ := hx
    exact ⟨⟨a, ha⟩, (h a).1 hf⟩
  · intro hx
    obtain ⟨⟨a, ha⟩, hp⟩ := hx
    exact ⟨a, ha, (h a).2 hp⟩

theorem returns_bind_pure {x : Except ε α} {f : α → β} :
    Returns (x >>= fun a => pure (f a)) ↔ Returns x := by
  cases x with
  | error e => simp [bind, Except.bind]
  | ok a => simp [bind, Except.bind]

/-- A test that settles the answer when it holds, and what is asked otherwise. -/
theorem returns_test {test : Except ε Bool} {found other : Except ε α} (hfound : Returns found) :
    Returns (test >>= fun b => if b = true then found else other) ↔
      Returns test ∧ (test = .ok true ∨ Returns other) := by
  match test with
  | .error e => simp [bind, Except.bind]
  | .ok true => simp [bind, Except.bind, hfound]
  | .ok false => simp [bind, Except.bind]

/-- A computation that a second one matches whenever it returns. -/
theorem exists_match_iff {x : Except ε α} {y : Except ε β} {R : α → β → Prop}
    (h : ∀ a, x = .ok a → ∃ b, y = .ok b ∧ R a b) :
    (∃ a b, x = .ok a ∧ y = .ok b ∧ R a b) ↔ Returns x := by
  constructor
  · intro hmatch
    obtain ⟨a, -, ha, -⟩ := hmatch
    exact ⟨a, ha⟩
  · intro hx
    obtain ⟨a, ha⟩ := hx
    obtain ⟨b, hb, hR⟩ := h a ha
    exact ⟨a, b, ha, hb, hR⟩

/-- The second computation returns what the first returns, if the first returns. -/
def Extends (x y : Except ε α) : Prop := ∀ a, x = .ok a → y = .ok a

theorem extends_refl (x : Except ε α) : Extends x x := fun _ h => h

theorem Extends.ite {x x' y y' : Except ε α} (hx : Extends x x') (hy : Extends y y') (p : Prop)
    [Decidable p] : Extends (if p then x else y) (if p then x' else y') := by
  by_cases h : p
  · rw [if_pos h, if_pos h]
    exact hx
  · rw [if_neg h, if_neg h]
    exact hy

theorem Extends.bind {x y : Except ε α} {f g : α → Except ε β} (h : Extends x y)
    (hfg : ∀ a, Extends (f a) (g a)) : Extends (x >>= f) (y >>= g) := by
  intro b hb
  obtain ⟨a, ha, hb⟩ := bind_eq_ok.1 hb
  exact bind_eq_ok.2 ⟨a, h a ha, hfg a b hb⟩

theorem Extends.map {x y : Except ε α} (h : Extends x y) (f : α → β) :
    Extends (x.map f) (y.map f) := by
  intro b hb
  obtain ⟨a, ha, hb⟩ := map_eq_ok.1 hb
  exact map_eq_ok.2 ⟨a, h a ha, hb⟩

theorem Extends.test {x y : Except ε Bool} {other other' : Except ε α} (h : Extends x y)
    (hother : Extends other other') (found : Except ε α) :
    Extends (x >>= fun b => if b = true then found else other)
      (y >>= fun b => if b = true then found else other') := by
  apply h.bind
  intro b
  cases b with
  | true => exact extends_refl _
  | false => exact hother

@[simp] theorem get?_nil (key : String) : get? (α := α) key [] = none := rfl

@[simp] theorem get?_setItem_self (key : String) (v : α) (d : List (String × α)) :
    get? key (setItem key v d) = some v := by
  induction d with
  | nil => simp [setItem, get?]
  | cons entry rest ih =>
    obtain ⟨k, w⟩ := entry
    by_cases h : k = key
    · simp [setItem, get?, h]
    · simp [setItem, get?, h, ih]

@[simp] theorem get?_setItem_of_ne {key key' : String} (h : key' ≠ key) (v : α)
    (d : List (String × α)) : get? key' (setItem key v d) = get? key' d := by
  induction d with
  | nil => simp [setItem, get?, Ne.symm h]
  | cons entry rest ih =>
    obtain ⟨k, w⟩ := entry
    by_cases hk : k = key
    · simp [setItem, get?, hk, Ne.symm h]
    · simp [setItem, get?, hk, ih]

end Py
