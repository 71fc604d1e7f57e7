/-!
# Shortest decimals

A binary floating-point number is the only one near many decimals. `shortest` finds one with the
fewest digits, and of several the nearest. All arithmetic is on natural numbers and exact.
-/

namespace JsxTidy

/-- The number `digits · 10 ^ exponent`. -/
structure Decimal where
  digits : Nat
  exponent : Int
deriving DecidableEq, Repr

namespace Decimal

/-- A format of binary floating-point numbers. -/
structure BinaryFormat where
  /-- The number of digits of a significand. -/
  precision : Nat
  /-- The least exponent of a significand's last digit. -/
  leastExponent : Int

/-- Numbers of 64 bits. -/
def binary64 : BinaryFormat := ⟨53, -1074⟩

/-- Numbers of 32 bits. -/
def binary32 : BinaryFormat := ⟨24, -149⟩

/-- The number `significand · 2 ^ exponent`. -/
structure Binary where
  significand : Nat
  exponent : Int
deriving DecidableEq, Repr

/-- A fraction of natural numbers. -/
structure Ratio where
  num : Nat
  den : Nat

/-- The fraction `n · base ^ exponent`. -/
def Ratio.scaled (n base : Nat) (exponent : Int) : Ratio :=
  if 0 ≤ exponent then ⟨n * Nat.pow base exponent.toNat, 1⟩ else ⟨n, Nat.pow base (-exponent).toNat⟩

/-- The reals that a binary number stands for: an interval around it, and whether its ends
belong to it. Below a power of two the numbers lie twice as close. -/
structure Interval where
  low : Ratio
  high : Ratio
  closed : Bool

/-- The reals that round to a number. -/
def Binary.interval (format : BinaryFormat) (x : Binary) : Interval :=
  let isBoundary := x.significand == Nat.pow 2 (format.precision - 1)
    && decide (format.leastExponent < x.exponent)
  let below := if isBoundary then 1 else 2
  { low := .scaled (4 * x.significand - below) 2 (x.exponent - 2)
    high := .scaled (4 * x.significand + 2) 2 (x.exponent - 2)
    closed := x.significand % 2 == 0 }

/-- Whether a decimal lies in an interval. -/
def Interval.holds (i : Interval) (d : Decimal) : Bool :=
  let r := Ratio.scaled d.digits 10 d.exponent
  let below := i.low.num * r.den
  let above := i.high.num * r.den
  if i.closed then
    decide (below ≤ r.num * i.low.den) && decide (r.num * i.high.den ≤ above)
  else decide (below < r.num * i.low.den) && decide (r.num * i.high.den < above)

/-- The number of decimal digits of a positive number, counted in at most `fuel` steps. -/
def digitCountWithin : Nat → Nat → Nat
  | 0, _ => 0
  | fuel + 1, n => if n < 10 then 1 else digitCountWithin fuel (n / 10) + 1

/-- The number of decimal digits of a number. -/
def digitCount (n : Nat) : Nat :=
  digitCountWithin (n.log2 + 1) n

/-- How many times a fraction below one can be multiplied by ten before it reaches one, counted
in at most `fuel` steps. -/
def leadingZerosWithin : Nat → Ratio → Nat
  | 0, _ => 0
  | fuel + 1, r =>
    if r.den ≤ r.num then 0 else leadingZerosWithin fuel ⟨r.num * 10, r.den⟩ + 1

/-- The place of the first digit of a positive fraction: the greatest power of ten in it. -/
def magnitude (r : Ratio) : Int :=
  if r.den ≤ r.num then (digitCount (r.num / r.den) : Int) - 1
  else -(leadingZerosWithin 400 r : Int)

/-- The decimals with a given last place next to a fraction, from below and from above. -/
def neighbours (r : Ratio) (place : Int) : Decimal × Decimal :=
  let scale := Ratio.scaled 1 10 place
  let below := r.num * scale.den / (r.den * scale.num)
  (⟨below, place⟩, ⟨below + 1, place⟩)

/-- Whether the first of two decimals around a fraction is the nearer one, or as near and even. -/
def firstIsNearer (r : Ratio) (below above : Decimal) : Bool :=
  let scale := Ratio.scaled 1 10 below.exponent
  let twice := 2 * r.num * scale.den
  let middle := (below.digits + above.digits) * (r.den * scale.num)
  decide (twice < middle) || (twice == middle && below.digits % 2 == 0)

/-- The decimals of `count` digits that stand for a number, the nearer one of two. -/
def ofCount? (r : Ratio) (i : Interval) (top : Int) (count : Nat) : Option Decimal :=
  let (below, above) := neighbours r (top - count + 1)
  match i.holds below, i.holds above with
  | true, true => some (if firstIsNearer r below above then below else above)
  | true, false => some below
  | false, true => some above
  | false, false => none

/-- A decimal without zeros at its end. -/
def trimmed : Nat → Decimal → Decimal
  | 0, d => d
  | fuel + 1, d =>
    if d.digits != 0 && d.digits % 10 == 0 then trimmed fuel ⟨d.digits / 10, d.exponent + 1⟩
    else d

/-- A decimal with the fewest digits that stands for a positive number. -/
def shortest (format : BinaryFormat) (x : Binary) : Decimal :=
  let r := Ratio.scaled x.significand 2 x.exponent
  let i := x.interval format
  let top := magnitude r
  let found := (List.range 17).findSome? fun n => ofCount? r i top (n + 1)
  (found.getD ⟨0, 0⟩).trimmed 20

/-- The decimal digits of a number, as characters. -/
def digitChars (n : Nat) : List Char :=
  Nat.toDigits 10 n

end Decimal

end JsxTidy
