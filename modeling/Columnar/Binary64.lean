import Columnar.Arithmetic

/-!
Floating-point numbers as raw words: a `UInt32` is a binary32 number and a `UInt64` a binary64
number, every bit kept. `equal` is numeric equality (no NaN equals anything, the two zeros are
equal), `Binary64.ofInt` rounds to the nearest number with ties to the even significand, and
`Binary64.ofBinary32` widens exactly.
-/
namespace Columnar

namespace Binary32

def exponent (word : UInt32) : Nat :=
  word.toNat / 2 ^ 23 % 2 ^ 8

def fraction (word : UInt32) : Nat :=
  word.toNat % 2 ^ 23

def negative (word : UInt32) : Bool :=
  2 ^ 31 ≤ word.toNat

def isNaN (word : UInt32) : Bool :=
  exponent word = 255 && fraction word ≠ 0

def isZero (word : UInt32) : Bool :=
  exponent word = 0 && fraction word = 0

def equal (a b : UInt32) : Bool :=
  !isNaN a && !isNaN b && (a = b || (isZero a && isZero b))

end Binary32

namespace Binary64

def exponent (word : UInt64) : Nat :=
  word.toNat / 2 ^ 52 % 2 ^ 11

def fraction (word : UInt64) : Nat :=
  word.toNat % 2 ^ 52

def negative (word : UInt64) : Bool :=
  2 ^ 63 ≤ word.toNat

def isNaN (word : UInt64) : Bool :=
  exponent word = 2047 && fraction word ≠ 0

def isZero (word : UInt64) : Bool :=
  exponent word = 0 && fraction word = 0

def equal (a b : UInt64) : Bool :=
  !isNaN a && !isNaN b && (a = b || (isZero a && isZero b))

def nan : UInt64 :=
  UInt64.ofNat (2047 * 2 ^ 52 + 2 ^ 51)

def assemble (sign : Bool) (fields : Nat) : UInt64 :=
  UInt64.ofNat ((if sign then 2 ^ 63 else 0) + fields)

/-- `number / 2 ^ places`, rounded to the nearest whole number, a half to the even one. -/
def roundShift (number places : Nat) : Nat :=
  let quotient := number / 2 ^ places
  let twice := 2 * (number % 2 ^ places)
  if twice < 2 ^ places then quotient
  else if 2 ^ places < twice then quotient + 1
  else quotient + quotient % 2

/-- The exponent and fraction fields of a positive whole number. A significand that rounds up to
the next power of two carries into the exponent field, as it must. -/
def wholeFields (magnitude : Nat) : Nat :=
  let top := Nat.log2 magnitude
  let significand :=
    if top ≤ 52 then magnitude * 2 ^ (52 - top) else roundShift magnitude (top - 52)
  (top + 1023) * 2 ^ 52 + (significand - 2 ^ 52)

def ofInt (number : Int) : UInt64 :=
  if number = 0 then 0 else assemble (number < 0) (wholeFields number.natAbs)

def ofBinary32 (word : UInt32) : UInt64 :=
  let fraction := Binary32.fraction word
  let fields :=
    match Binary32.exponent word with
    | 0 =>
      if fraction = 0 then 0
      else
        let top := Nat.log2 fraction
        (top + 874) * 2 ^ 52 + (fraction * 2 ^ (52 - top) - 2 ^ 52)
    | 255 =>
      2047 * 2 ^ 52 + (if fraction = 0 then 0 else fraction * 2 ^ 29 % 2 ^ 51 + 2 ^ 51)
    | exponent => (exponent + 896) * 2 ^ 52 + fraction * 2 ^ 29
  assemble (Binary32.negative word) fields

end Binary64

end Columnar
