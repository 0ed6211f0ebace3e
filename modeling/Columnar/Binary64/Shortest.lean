import Columnar.Binary64

/-!
The shortest decimal text of a binary64 number. The reals that round to the number form an interval;
`shortest` looks for the coarsest decimal grid with a point in it and takes the point nearest to the
number. `text` writes the digits positionally, with no exponent and with no point after a whole
number.
-/
namespace Columnar.Binary64

/-- A finite positive number as `significand * 2 ^ power`, scaled so that the bounds of its rounding
interval are whole: the number is `middle`, the interval runs from `low` to `high`, all in units of
`1 / unit`, and its ends belong to it iff `closed`. -/
structure Interval where
  low : Nat
  middle : Nat
  high : Nat
  unit : Nat
  closed : Bool

/-- The rounding interval of a finite positive number. Below a power of two the spacing halves. -/
def interval (word : UInt64) : Interval :=
  let e := exponent word
  let f := fraction word
  let significand := if e = 0 then f else 2 ^ 52 + f
  let below := if f = 0 ∧ 1 < e then 1 else 2
  let scaled := 4 * significand
  -- the value is `scaled * 2 ^ (max e 1 - 1077)`
  let up := 2 ^ (max e 1 - 1077)
  let down := 2 ^ (1077 - max e 1)
  ⟨(scaled - below) * up, scaled * up, (scaled + 2) * up, down, significand % 2 = 0⟩

def digitCount : Nat → Nat → Nat
  | 0, _ => 0
  | fuel + 1, n => if n = 0 then 0 else digitCount fuel (n / 10) + 1

/-- The least `k` with `middle / unit < 10 ^ k`, as an integer. -/
def magnitude (i : Interval) : Int :=
  let whole := i.middle / i.unit
  if whole ≠ 0 then digitCount 400 whole
  else
    let inverse := i.unit / i.middle
    let k := digitCount 400 inverse
    -- `10 ^ (k - 1) ≤ unit / middle < 10 ^ k`
    if i.unit ≤ i.middle * 10 ^ (k - 1) then 2 - (k : Int) else 1 - (k : Int)

def Interval.holds (i : Interval) (point : Nat) (place : Int) : Bool :=
  let left := point * 10 ^ place.toNat * i.unit
  let scale := 10 ^ (-place).toNat
  if i.closed then i.low * scale ≤ left && left ≤ i.high * scale
  else i.low * scale < left && left < i.high * scale

/-- The point of the grid of multiples of `10 ^ place` that lies in the interval nearest to the
number; of two equally near points the upper. -/
def Interval.nearest? (i : Interval) (place : Int) : Option Nat :=
  let numerator := i.middle * 10 ^ (-place).toNat
  let denominator := i.unit * 10 ^ place.toNat
  let below := numerator / denominator
  let rest := numerator % denominator
  let (first, second) := if 2 * rest < denominator then (below, below + 1) else (below + 1, below)
  if i.holds first place then some first
  else if i.holds second place then some second
  else none

/-- The point and place of the coarsest grid that meets the interval, from `count` digits on. -/
def shortestFrom (i : Interval) : Nat → Nat → Nat × Int
  | 0, count => (0, magnitude i - count)
  | fuel + 1, count =>
    let place := magnitude i - count
    match i.nearest? place with
    | some point => (point, place)
    | none => shortestFrom i fuel (count + 1)

/-- The shortest decimal that reads back as the number: a point and the power of ten it counts. -/
def shortest (word : UInt64) : Nat × Int :=
  shortestFrom (interval word) 20 1

def positional (point : Nat) (place : Int) : String :=
  let digits := Nat.toDigits 10 point
  if 0 ≤ place then String.ofList (digits ++ List.replicate place.toNat '0')
  else
    let decimals := (-place).toNat
    let filled := List.replicate (decimals + 1 - digits.length) '0' ++ digits
    let whole := filled.length - decimals
    let tail := (filled.drop whole).reverse.dropWhile (· = '0')
    if tail = [] then String.ofList (filled.take whole)
    else String.ofList (filled.take whole ++ '.' :: tail.reverse)

def text (word : UInt64) : String :=
  if isNaN word then "NaN"
  else
    let sign := if negative word then "-" else ""
    let size :=
      if exponent word = 2047 then "inf"
      else if isZero word then "0"
      else
        let (point, place) := shortest word
        positional point place
    sign ++ size

end Columnar.Binary64
