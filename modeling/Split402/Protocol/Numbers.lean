import Mathlib.Data.Rat.Defs

/-! # Numbers

A number of the engine, where code tells numbers apart and does not calculate with them. -/

namespace Split402

inductive JsNumber
  | finite (value : Rat)
  | infinity | negativeInfinity | nan
  deriving DecidableEq, Repr

/-- `Number.isInteger(value)`, with the integer. -/
def JsNumber.toInteger : JsNumber → Option Int
  | .finite value => if value.den = 1 then some value.num else none
  | _ => none

end Split402
