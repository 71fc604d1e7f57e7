import JsxTidy.Decimal.Layout

/-!
# Floating-point values

A value is a binary number with a sign, or infinite. A fraction is rounded to the binary number
nearest to it, and of two that are equally near to the one with the even significand. A value is
written in full, with the fewest digits that are read back as the same value.
-/

namespace JsxTidy.Decimal

/-! ## Rounding to binary -/

/-- The quotient of two numbers, rounded to the nearest one, a half to the even one. -/
def roundDiv (num den : Nat) : Nat :=
  let q := num / den
  let twice := 2 * (num % den)
  if den < twice || (twice == den && q % 2 == 1) then q + 1 else q

/-- The exponent of the last digit of a significand that holds a positive fraction in full
precision: the significand then lies between `2 ^ (precision - 1)` and `2 ^ precision`. -/
def naturalExponent (format : BinaryFormat) (r : Ratio) : Int :=
  let guess : Int := (r.num.log2 : Int) - (r.den.log2 : Int) - format.precision
  -- The quotient lies between `2 ^ (precision - 1)` and `2 ^ (precision + 1)` at this guess.
  let scaled := Ratio.scaled 1 2 guess
  if Nat.pow 2 format.precision * (r.den * scaled.num) ≤ r.num * scaled.den then guess + 1
  else guess

/-- The number nearest to a positive fraction, without a bound from above. -/
def nearest (format : BinaryFormat) (r : Ratio) : Binary :=
  let exponent := max (naturalExponent format r) format.leastExponent
  let scaled := Ratio.scaled 1 2 exponent
  let significand := roundDiv (r.num * scaled.den) (r.den * scaled.num)
  if significand == Nat.pow 2 format.precision then
    ⟨Nat.pow 2 (format.precision - 1), exponent + 1⟩
  else ⟨significand, exponent⟩

/-- Whether a number is too large for its format. -/
def Binary.overflows (format : BinaryFormat) (x : Binary) : Bool :=
  decide (-format.leastExponent - 2 * (format.precision : Int) + 3 < x.exponent)

/-- The number nearest to a positive fraction. It is missing when it is too large. -/
def nearest? (format : BinaryFormat) (r : Ratio) : Option Binary :=
  let x := nearest format r
  if x.overflows format then none else some x

/-- The number nearest to a fraction. Zero has no digits, and neither has what is nearer to it than
to any other number. -/
def rounded? (format : BinaryFormat) (r : Ratio) : Option Binary :=
  if r.num = 0 then some ⟨0, 0⟩
  else (nearest? format r).map fun x => if x.significand = 0 then ⟨0, 0⟩ else x

/-- The fraction that a number is. -/
def Binary.ratio (x : Binary) : Ratio :=
  .scaled x.significand 2 x.exponent

/-! ## Values with a sign -/

/-- A floating-point value. The size of zero has no digits. -/
inductive FloatValue where
  | finite (isNegative : Bool) (size : Binary)
  | infinite (isNegative : Bool)
deriving DecidableEq, Repr

namespace FloatValue

/-- The value of a format nearest to a fraction with a sign. -/
def ofRatio (format : BinaryFormat) (isNegative : Bool) (r : Ratio) : FloatValue :=
  match rounded? format r with
  | some size => finite isNegative size
  | none => infinite isNegative

/-- The value of a format nearest to a value. -/
def convert (format : BinaryFormat) : FloatValue → FloatValue
  | finite isNegative size => ofRatio format isNegative size.ratio
  | infinite isNegative => infinite isNegative

/-- Numbers are written in full, and whole ones without a point. -/
def fullLayout : Layout :=
  ⟨none, none, false⟩

/-- The size of a value as text. -/
def sizeText (format : BinaryFormat) (size : Binary) : List Char :=
  if size.significand = 0 then ['0'] else fullLayout.write (shortest format size)

/-- A value of a format as text. -/
def text (format : BinaryFormat) : FloatValue → List Char
  | finite isNegative size =>
    if isNegative then '-' :: sizeText format size else sizeText format size
  | infinite isNegative => if isNegative then "-inf".toList else "inf".toList

end FloatValue

end JsxTidy.Decimal
