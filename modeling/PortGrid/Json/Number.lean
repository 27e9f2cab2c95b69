import PortGrid.Json.Decimal

/-!
# Numbers in JSON text

A number is kept as a natural number, a negative integer or a double. An integer that fits neither in 64 bits
unsigned nor, if negative, in 64 bits signed is a double; so is minus zero.

Key definitions: `Number`, `Number.text`, `scale?`.
-/

namespace PortGrid.Json

/-- A number as the reader understands it. -/
inductive Number where
  | natural (n : Nat)
  /-- The integer `-n`. -/
  | negative (n : Nat)
  | decimal (x : Float)

def Number.text : Number → String
  | .natural n => s!"integer `{n}`"
  | .negative n => s!"integer `-{n}`"
  | .decimal x => s!"floating point `{decimalText x}`"

def powerOfTen (n : Nat) : Float :=
  Float.ofScientific 1 false n

/-- A double divided by a power of ten, in strides that a double can hold. -/
def divideByPowerOfTen (x : Float) (n : Nat) : Float :=
  if n ≤ 308 then x / powerOfTen n
  else if x == 0.0 then x
  else divideByPowerOfTen (x / powerOfTen 308) (n - 308)
termination_by n

/-- The double for `significand * 10 ^ exponent`, unless it is too large. -/
def scale? (significand : Nat) (exponent : Int) : Option Float :=
  let x := Float.ofNat significand
  if 0 ≤ exponent then
    if exponent ≤ 308 then
      let y := x * powerOfTen exponent.toNat
      if y.isInf then none else some y
    else if x == 0.0 then some x
    else none
  else some (divideByPowerOfTen x exponent.natAbs)

end PortGrid.Json
