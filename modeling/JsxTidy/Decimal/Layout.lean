import JsxTidy.Decimal.Shortest

/-!
# Writing decimals

A layout says which numbers are written in full and which with an exponent.
-/

namespace JsxTidy.Decimal

/-- How decimals are written. -/
structure Layout where
  /-- The least place of a first digit that is written in full. -/
  leastTop : Option Int
  /-- The greatest place of a first digit that is written in full. -/
  greatestTop : Option Int
  /-- Whether a whole number written in full keeps one digit behind its point. -/
  keepsPoint : Bool

/-- A text of zeros. -/
def zeros (n : Nat) : List Char :=
  List.replicate n '0'

/-- A decimal written in full. -/
def inFull (keepsPoint : Bool) (d : Decimal) : List Char :=
  let ds := digitChars d.digits
  let pointAt : Int := d.exponent + ds.length
  if 0 ≤ d.exponent then
    ds ++ zeros d.exponent.toNat ++ (if keepsPoint then ['.', '0'] else [])
  else if 0 < pointAt then ds.take pointAt.toNat ++ '.' :: ds.drop pointAt.toNat
  else '0' :: '.' :: zeros (-pointAt).toNat ++ ds

/-- A decimal written with one digit before the point and an exponent. -/
def withExponent (d : Decimal) : List Char :=
  let ds := digitChars d.digits
  let top : Int := d.exponent + ds.length - 1
  let mantissa := match ds with
    | [] => []
    | [c] => [c]
    | c :: rest => c :: '.' :: rest
  let sign := if top < 0 then '-' else '+'
  mantissa ++ 'e' :: sign :: digitChars top.natAbs

/-- A decimal written by a layout. -/
def Layout.write (layout : Layout) (d : Decimal) : List Char :=
  let top : Int := d.exponent + (digitChars d.digits).length - 1
  let isSmall := match layout.leastTop with
    | some least => decide (top < least)
    | none => false
  let isLarge := match layout.greatestTop with
    | some greatest => decide (greatest < top)
    | none => false
  if isSmall || isLarge then d.withExponent else d.inFull layout.keepsPoint

end JsxTidy.Decimal
