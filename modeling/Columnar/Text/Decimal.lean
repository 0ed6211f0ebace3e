import Columnar.Arithmetic

/-!
Whole numbers as decimal text. `Decimal.text` writes no leading zeros and no plus sign;
`Decimal.int64?` reads an optional sign followed by ASCII digits, any number of leading zeros, and
takes the value only if it fits a signed word of 64 bits.
-/
namespace Columnar.Decimal

/-- The digits of `number` in front of `rest`, at most `fuel` of them. -/
def digitsBefore : Nat → Nat → List Char → List Char
  | 0, _, rest => rest
  | fuel + 1, number, rest =>
    let digits := Char.ofNat (48 + number % 10) :: rest
    if number / 10 = 0 then digits else digitsBefore fuel (number / 10) digits

def digits (number : Nat) : List Char :=
  digitsBefore (number + 1) number []

def text (number : Int) : String :=
  String.ofList (if number < 0 then '-' :: digits number.natAbs else digits number.natAbs)

/-- The number that a non-empty run of ASCII digits denotes. -/
def value? (run : List Char) : Option Nat :=
  if run ≠ [] ∧ run.all Char.isDigit then
    some (run.foldl (fun number digit => 10 * number + (digit.toNat - 48)) 0)
  else none

def signed? : List Char → Option Int
  | '-' :: run => (value? run).map fun number => -(number : Int)
  | '+' :: run => (value? run).map Int.ofNat
  | run => (value? run).map Int.ofNat

def int64? (text : String) : Option Int64 := do
  let number ← signed? text.toList
  if -2 ^ 63 ≤ number ∧ number < 2 ^ 63 then some (Int64.ofInt number) else none

end Columnar.Decimal
