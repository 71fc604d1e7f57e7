import JsxTidy.Decimal.Float

/-!
# Number literals

The value of a number literal, and the shortest literal with a given value.
-/

namespace JsxTidy.Decimal

/-- The value of a literal: a finite number that is not negative, or infinity. -/
inductive LiteralValue where
  | zero
  | finite (x : Binary)
  | infinite

/-- The value of a digit, also of one above nine. -/
def digitValue (c : Char) : Nat :=
  if c.isDigit then c.toNat - 48
  else if 'a' ≤ c ∧ c ≤ 'z' then c.toNat - 87
  else c.toNat - 55

/-- The value of digits in a base. -/
def ofDigits (base : Nat) (ds : List Char) : Nat :=
  ds.foldl (fun n c => n * base + digitValue c) 0

/-- The value of digits `ds` with the point `places` before their end, times a power of ten. -/
def LiteralValue.ofParts (ds : List Char) (exponent : Int) : LiteralValue :=
  let n := ofDigits 10 ds
  if n == 0 then .zero
  else
    -- Beyond these exponents every number is infinite or zero.
    let magnitude : Int := exponent + (ds.dropWhile (· == '0')).length
    if 400 < magnitude then .infinite
    else if magnitude < -400 then .zero
    else match nearest? binary64 (.scaled n 10 exponent) with
      | some x => if x.significand == 0 then .zero else .finite x
      | none => .infinite

/-- The value of a whole number. -/
def LiteralValue.ofNat (n : Nat) : LiteralValue :=
  if n == 0 then .zero
  else match nearest? binary64 ⟨n, 1⟩ with
    | some x => .finite x
    | none => .infinite

/-- The value of a sign and digits. -/
def signedValue : List Char → Int
  | '-' :: ds => -(ofDigits 10 ds : Int)
  | '+' :: ds => ofDigits 10 ds
  | ds => ofDigits 10 ds

/-- The value of a decimal literal without separators. -/
def LiteralValue.ofDecimal (cs : List Char) : LiteralValue :=
  let isExponentMark := fun c : Char => c == 'e' || c == 'E'
  let mantissa := cs.takeWhile fun c => !isExponentMark c
  let exponent := signedValue ((cs.dropWhile fun c => !isExponentMark c).drop 1)
  let whole := mantissa.takeWhile (· != '.')
  let fraction := (mantissa.dropWhile (· != '.')).drop 1
  .ofParts (whole ++ fraction) (exponent - fraction.length)

/-- The whole number that a literal in some base writes, if it is not a decimal one. -/
def wholeOfBase? : List Char → Option Nat
  | '0' :: c :: ds =>
    if c == 'x' || c == 'X' then some (ofDigits 16 ds)
    else if c == 'o' || c == 'O' then some (ofDigits 8 ds)
    else if c == 'b' || c == 'B' then some (ofDigits 2 ds)
    else if (c :: ds).all fun d => decide ('0' ≤ d) && decide (d ≤ '7') then
      some (ofDigits 8 (c :: ds))
    else none
  | _ => none

/-- The value of a number literal. -/
def LiteralValue.ofRaw (raw : String) : LiteralValue :=
  let cs := raw.toList.filter (· != '_')
  match wholeOfBase? cs with
  | some n => .ofNat n
  | none => .ofDecimal cs

/-- The decimal digits of a whole literal that ends in its mark. -/
def bigIntText (raw : String) : String :=
  let cs := (raw.toList.filter (· != '_')).dropLast
  let n := match cs with
    | '0' :: c :: _ => if c.isDigit then ofDigits 10 cs else (wholeOfBase? cs).getD 0
    | _ => ofDigits 10 cs
  String.ofList (digitChars n)

/-- Whether a binary number is whole. -/
def Binary.isWhole (x : Binary) : Bool :=
  0 ≤ x.exponent || x.significand % Nat.pow 2 (-x.exponent).toNat == 0

/-- The whole part of a binary number. -/
def Binary.floor (x : Binary) : Nat :=
  if 0 ≤ x.exponent then x.significand * Nat.pow 2 x.exponent.toNat
  else x.significand / Nat.pow 2 (-x.exponent).toNat

/-- The usual text of a number: in full from a millionth up to twenty-one digits. -/
def scriptLayout : Layout := ⟨some (-6), some 20, false⟩

/-- The first of two texts, unless the second is shorter. -/
def shorter (a b : List Char) : List Char :=
  if b.length < a.length then b else a

/-- A fraction that begins with zeros behind its point, with an exponent in their place. -/
def foldLeadingZeros (text : List Char) : List Char :=
  let inner := text.drop 1
  let ds := inner.dropWhile (· == '0')
  shorter text (ds ++ 'e' :: '-' :: digitChars inner.length)

/-- A number that ends in zeros, with an exponent in their place. -/
def foldTrailingZeros (text : List Char) : List Char :=
  let base := (text.reverse.dropWhile (· == '0')).reverse
  shorter text (base ++ 'e' :: digitChars (text.length - base.length))

/-- A number with a point and an exponent, with the point moved to the end. -/
def foldPoint (text : List Char) : List Char :=
  let whole := text.takeWhile (· != '.')
  let rest := (text.dropWhile (· != '.')).drop 1
  let fraction := rest.takeWhile (· != 'e')
  let exponent := (rest.dropWhile (· != 'e')).drop 1
  if exponent.isEmpty then text
  else
    let e : Int := signedValue exponent - fraction.length
    let sign := if e < 0 then ['-'] else []
    shorter text (whole ++ fraction ++ 'e' :: sign ++ digitChars e.natAbs)

/-- A number with its exponent in the shortest form. -/
def foldExponent (text : List Char) : List Char :=
  foldPoint (if text.getLast? == some '0' then foldTrailingZeros text else text)

/-- A number in base sixteen. -/
def hexText (n : Nat) : List Char :=
  '0' :: 'x' :: Nat.toDigits 16 n

/-- The shortest literal for a number of at least a thousand or with a fraction. -/
def Binary.literal (x : Binary) : List Char :=
  let full := scriptLayout.write (shortest binary64 x)
  let text := match full with
    | '0' :: '.' :: rest => '.' :: rest
    | other => other
  let text := text.filter (· != '+')
  if x.isWhole then
    let hex := hexText x.floor
    if hex.length < text.length then hex else foldExponent text
  else
    let text := match text with
      | '.' :: '0' :: _ => foldLeadingZeros text
      | other => other
    foldExponent text

/-- The shortest literal for a value. -/
def LiteralValue.text : LiteralValue → List Char
  | .zero => ['0']
  | .infinite => "Infinity".toList
  | .finite x => if x.isWhole && x.floor < 1000 then digitChars x.floor else x.literal

end JsxTidy.Decimal
