import StudentSuccess.PyValue

set_option autoImplicit true

namespace Py

/-- The values of type `float`; a finite one is the rational it denotes. -/
inductive Float
  | fin (x : Rat)
  | inf
  | negInf
  | nan
  deriving DecidableEq

/-- `str.isspace` of one character. -/
def isSpace (c : Char) : Bool :=
  let n := c.toNat
  (9 ≤ n && n ≤ 13) || (28 ≤ n && n ≤ 32) || n == 0x85 || n == 0xA0 || n == 0x1680 ||
    (0x2000 ≤ n && n ≤ 0x200A) || n == 0x2028 || n == 0x2029 || n == 0x202F || n == 0x205F ||
    n == 0x3000

def stripChars (cs : List Char) : List Char :=
  ((cs.dropWhile isSpace).reverse.dropWhile isSpace).reverse

def strip (s : String) : String := String.ofList (stripChars s.toList)

/-- The code points of the digit zero in the scripts that have decimal digits. -/
def zeroDigits : List Nat :=
  [0x30, 0x660, 0x6F0, 0x7C0, 0x966, 0x9E6, 0xA66, 0xAE6, 0xB66, 0xBE6, 0xC66, 0xCE6, 0xD66,
    0xDE6, 0xE50, 0xED0, 0xF20, 0x1040, 0x1090, 0x17E0, 0x1810, 0x1946, 0x19D0, 0x1A80, 0x1A90,
    0x1B50, 0x1BB0, 0x1C40, 0x1C50, 0xA620, 0xA8D0, 0xA900, 0xA9D0, 0xA9F0, 0xAA50, 0xABF0,
    0xFF10, 0x104A0, 0x10D30, 0x11066, 0x110F0, 0x11136, 0x111D0, 0x112F0, 0x11450, 0x114D0,
    0x11650, 0x116C0, 0x11730, 0x118E0, 0x11950, 0x11C50, 0x11D50, 0x11DA0, 0x11F50, 0x16A60,
    0x16AC0, 0x16B50, 0x1D7CE, 0x1D7D8, 0x1D7E2, 0x1D7EC, 0x1D7F6, 0x1E140, 0x1E2F0, 0x1E4F0,
    0x1E950, 0x1FBF0]

def digitValue? (c : Char) : Option Nat :=
  (zeroDigits.find? fun z => z ≤ c.toNat && c.toNat ≤ z + 9).map (c.toNat - ·)

/-- Digits with single underscores between them: their value and their number. -/
def scanDigits (acc count : Nat) : List Char → Option (Nat × Nat)
  | [] => some (acc, count)
  | '_' :: c :: cs =>
    match digitValue? c with
    | some d => scanDigits (acc * 10 + d) (count + 1) cs
    | none => none
  | c :: cs =>
    match digitValue? c with
    | some d => scanDigits (acc * 10 + d) (count + 1) cs
    | none => none

def parseDigits : List Char → Option (Nat × Nat)
  | [] => none
  | '_' :: _ => none
  | cs => scanDigits 0 0 cs

def splitSign : List Char → Bool × List Char
  | '-' :: cs => (true, cs)
  | '+' :: cs => (false, cs)
  | cs => (false, cs)

/-- `sys.int_info.default_max_str_digits`. -/
def maxStrDigits : Nat := 4300

/-- `int(s)`. -/
def parseInt (s : String) : Option Int :=
  let (negative, cs) := splitSign (stripChars s.toList)
  match parseDigits cs with
  | some (n, count) =>
    if maxStrDigits < count then none else some (if negative then -(n : Int) else n)
  | none => none

/-- From this magnitude on, a number is beyond the largest float. -/
def floatLimit : Rat := 2 ^ 1024 - 2 ^ 970

def roundToFloat (x : Rat) : Float :=
  if floatLimit ≤ x then .inf else if x ≤ -floatLimit then .negInf else .fin x

def fractionDigits : List Char → Option (Nat × Nat)
  | [] => some (0, 0)
  | cs => parseDigits cs

/-- `digits`, `digits.digits`, `digits.` and `.digits`. -/
def parseMantissa (cs : List Char) : Option Rat :=
  let whole := cs.takeWhile (· ≠ '.')
  match cs.dropWhile (· ≠ '.') with
  | [] => (parseDigits whole).map fun d => (d.1 : Rat)
  | _ :: rest =>
    if whole.isEmpty && rest.isEmpty then none
    else
      match fractionDigits whole, fractionDigits rest with
      | some (n, _), some (f, count) => some ((n : Rat) + (f : Rat) / 10 ^ count)
      | _, _ => none

def parseExponent (cs : List Char) : Option Int :=
  let (negative, ds) := splitSign cs
  (parseDigits ds).map fun d => if negative then -(d.1 : Int) else d.1

/-- `float(s)`. -/
def parseFloat (s : String) : Option Float :=
  let (negative, cs) := splitSign (stripChars s.toList)
  let sign (x : Rat) : Rat := if negative then -x else x
  let word := (String.ofList cs).toLower
  if word = "inf" ∨ word = "infinity" then some (if negative then .negInf else .inf)
  else if word = "nan" then some .nan
  else
    let mantissa := cs.takeWhile fun c => c ≠ 'e' ∧ c ≠ 'E'
    match cs.dropWhile fun c => c ≠ 'e' ∧ c ≠ 'E' with
    | [] => (parseMantissa mantissa).map fun m => roundToFloat (sign m)
    | _ :: rest =>
      match parseMantissa mantissa, parseExponent rest with
      | some m, some e => some (roundToFloat (sign (m * (10 : Rat) ^ e)))
      | _, _ => none

/-- `int(v)`; a float is truncated. -/
def toInt : Value → Except Error Int
  | .bool b => .ok (if b then 1 else 0)
  | .int n => .ok n
  | .float x => .ok (if 0 ≤ x then x.floor else -(-x).floor)
  | .str s =>
    match parseInt s with
    | some n => .ok n
    | none => .error .valueError
  | _ => .error .typeError

/-- `float(v)`; an integer beyond the largest float raises `OverflowError`. -/
def toFloat : Value → Except Error Float
  | .bool b => .ok (.fin (if b then 1 else 0))
  | .int n =>
    if floatLimit ≤ |(n : Rat)| then .error .overflowError else .ok (.fin n)
  | .float x => .ok (.fin x)
  | .str s =>
    match parseFloat s with
    | some x => .ok x
    | none => .error .valueError
  | _ => .error .typeError

/-- `x > y`; nothing compares with what is not a number. -/
def gtFloat (x : Rat) : Float → Bool
  | .fin y => decide (y < x)
  | .inf => false
  | .negInf => true
  | .nan => false

/-- `round(x)`: to the nearest integer, halves to the even one. -/
def roundHalfEven (x : Rat) : Int :=
  let rest := x - x.floor
  if rest < 1 / 2 then x.floor
  else if 1 / 2 < rest then x.floor + 1
  else if x.floor % 2 = 0 then x.floor
  else x.floor + 1

/-- `round(x, digits)`. -/
def roundTo (x : Rat) (digits : Nat) : Rat := roundHalfEven (x * 10 ^ digits) / 10 ^ digits

/-- What `except (ValueError, TypeError)` does not catch is raised again. -/
def catchMalformed (attempt : Except Error α) (fallback : α) : Except Error α :=
  match attempt with
  | .ok a => .ok a
  | .error .valueError => .ok fallback
  | .error .typeError => .ok fallback
  | .error e => .error e

example : parseInt " -1_000 " = some (-1000) := by decide

end Py
