import StudentSuccess.PyNumber
import Mathlib.Data.Int.Log
import Mathlib.Data.Rat.Floor

set_option autoImplicit true

namespace Py

/-- The distance between neighbouring floats of a magnitude: they have 53 binary digits, and the
least of them are multiples of `2 ^ -1074`. -/
def ulp (x : Rat) : Rat := 2 ^ max (Int.log 2 |x| - 52) (-1074)

/-- The multiple of the distance nearest to a rational, of two the even one. -/
def nearest (x : Rat) : Rat := roundHalfEven (x / ulp x) * ulp x

/-- `inf`, for which the first power of two beyond the largest float stands. -/
def infinity : Rat := 2 ^ 1024

/-- The float that an operation gives whose exact result is `x`. -/
def rounded (x : Rat) : Rat := max (-infinity) (min infinity (nearest x))

/-- `x + y`, where at most one of them is infinite. -/
def addFloat (x y : Rat) : Rat :=
  if |x| = infinity then x else if |y| = infinity then y else rounded (x + y)

def subFloat (x y : Rat) : Rat := addFloat x (-y)

/-- `x * y`, of an infinite `x` by a positive `y` only. -/
def mulFloat (x y : Rat) : Rat := if |x| = infinity then x else rounded (x * y)

/-- `x / y`, of finite floats. -/
def divFloat (x y : Rat) : Rat := rounded (x / y)

/-- `round(x, digits)` of a float: the float nearest to the decimal number. -/
def roundFloat (x : Rat) (digits : Nat) : Rat := rounded (roundTo x digits)

/-- One step of `sum`: the sum so far, and what the additions have lost. -/
def sumStep (state : Rat × Rat) (x : Rat) : Rat × Rat :=
  let (total, lost) := state
  let t := addFloat total x
  let loss :=
    if |x| ≤ |total| then addFloat (subFloat total t) x else addFloat (subFloat x t) total
  (t, addFloat lost loss)

/-- `sum(xs)` of floats, which adds up what it loses and puts it back at the end. -/
def sumFloat : List Rat → Rat
  | [] => 0
  | x :: xs =>
    let (total, lost) := xs.foldl sumStep (x, 0)
    if |lost| < infinity then addFloat total lost else total

example : divFloat 1 10 + divFloat 2 10 < addFloat (divFloat 1 10) (divFloat 2 10) := by
  decide +kernel

end Py
