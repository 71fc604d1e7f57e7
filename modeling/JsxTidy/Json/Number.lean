import JsxTidy.Decimal.Float
import JsxTidy.Json.Reader

/-!
# Reading JSON: numbers

A numeral has a whole part, and may have a fraction and an exponent. A numeral without these is a
whole number as long as it fits a machine word. Any other numeral is turned into a
floating-point number in steps, each of which rounds: its digits first, as many as fit a machine
word, and then the power of ten that scales them.
-/

namespace JsxTidy.Json

open Decimal

/-- The exponent of a numeral. -/
structure Exponent where
  isNegative : Bool
  digits : List Char
  /-- The byte offset of the first digit. -/
  offset : Nat

/-- A number as it is written, without its sign. -/
structure Numeral where
  whole : List Char
  /-- The digits behind the point, if there is one. -/
  fraction : Option (List Char)
  exponent : Option Exponent

namespace Reader

/-- Reads digits. -/
def digits : Reader (List Char) := fun cursor =>
  .ok (cursor.rest.takeWhile Char.isDigit, cursor.dropWhile Char.isDigit)

/-- Reads digits, of which there has to be one. At the end of the text that is another fault. -/
def someDigits (atEnd : Fault) : Reader (List Char) := do
  match ← digits with
  | [] => failNext (if (← peek?).isNone then atEnd else .invalidNumber)
  | found => return found

/-- Reads the whole part of a numeral. A zero in front stands alone. -/
def wholePart (atEnd : Fault) : Reader (List Char) := do
  match ← peek? with
  | some '0' =>
    advance
    match ← peek? with
    | some c => if c.isDigit then failNext .invalidNumber else return ['0']
    | none => return ['0']
  | _ => someDigits atEnd

/-- Reads the fraction of a numeral if it has one. -/
def fractionPart (atEnd : Fault) : Reader (Option (List Char)) := do
  match ← peek? with
  | some '.' =>
    advance
    return some (← someDigits atEnd)
  | _ => return none

/-- Reads the sign of an exponent. -/
def exponentSign : Reader Bool := do
  match ← peek? with
  | some '+' =>
    advance
    return false
  | some '-' =>
    advance
    return true
  | _ => return false

/-- Reads the exponent of a numeral if it has one. -/
def exponentPart (atEnd : Fault) : Reader (Option Exponent) := do
  match ← peek? with
  | some c =>
    if c = 'e' ∨ c = 'E' then
      advance
      let isNegative ← exponentSign
      let offset := (← get).offset
      return some ⟨isNegative, ← someDigits atEnd, offset⟩
    else return none
  | none => return none

/-- Reads a numeral. -/
def numeral (atEnd : Fault) : Reader Numeral := do
  let whole ← wholePart atEnd
  let fraction ← fractionPart atEnd
  let exponent ← exponentPart atEnd
  return { whole, fraction, exponent }

end Reader

/-- The greatest number in a machine word. -/
def greatestWord : Nat :=
  Nat.pow 2 64 - 1

/-- Digits added behind a number as long as it fits a machine word, and how many of them did. -/
def absorb (n : Nat) : List Char → Nat × Nat
  | [] => (n, 0)
  | c :: rest =>
    let longer := 10 * n + (c.toNat - '0'.toNat)
    if longer ≤ greatestWord then
      let (found, count) := absorb longer rest
      (found, count + 1)
    else (n, 0)

/-- The floating-point number next to a power of ten. -/
def powerOfTen (exponent : Nat) : Ratio :=
  (nearest binary64 ⟨Nat.pow 10 exponent, 1⟩).ratio

/-- The greatest power of ten that is a floating-point number. -/
def greatestPower : Nat :=
  308

/-- A floating-point number divided by a power of ten. -/
def dividedBy (x : Binary) (exponent : Nat) : Binary :=
  let r := x.ratio
  let power := powerOfTen exponent
  (rounded? binary64 ⟨r.num * power.den, r.den * power.num⟩).getD ⟨0, 0⟩

/-- A floating-point number divided by ten to a given power, in steps by powers that are
floating-point numbers themselves. Four steps make any number zero. -/
def dividedInSteps : Nat → Binary → Nat → Binary
  | 0, x, _ => x
  | steps + 1, x, exponent =>
    if exponent ≤ greatestPower then dividedBy x exponent
    else if x.significand = 0 then x
    else dividedInSteps steps (dividedBy x greatestPower) (exponent - greatestPower)

/-- The floating-point number for some digits and a power of ten, if it is not too large. -/
def scaled? (digits : Nat) (exponent : Int) : Option Binary :=
  match rounded? binary64 ⟨digits, 1⟩ with
  | none => none
  | some x =>
    if exponent < 0 then some (dividedInSteps 5 x exponent.natAbs)
    else if exponent.toNat ≤ greatestPower then
      let r := x.ratio
      let power := powerOfTen exponent.toNat
      rounded? binary64 ⟨r.num * power.num, r.den * power.den⟩
    else if x.significand = 0 then some x
    else none

/-- The greatest exponent that is counted. -/
def greatestExponent : Nat :=
  Nat.pow 2 31 - 1

/-- The value of an exponent, or the number of its digits that make it too large to be counted. -/
def countExponent (n count : Nat) : List Char → Except Nat Nat
  | [] => .ok n
  | c :: rest =>
    let longer := 10 * n + (c.toNat - '0'.toNat)
    if longer ≤ greatestExponent then countExponent longer (count + 1) rest
    else .error (count + 1)

/-- The floating-point number that a numeral stands for. -/
def Numeral.float (n : Numeral) (isNegative : Bool) : Reader Number := do
  let (front, taken) := absorb 0 n.whole
  let (all, places) := absorb front (n.fraction.getD [])
  let scale : Int := (n.whole.length - taken : Nat) - places
  match n.exponent with
  | none =>
    match scaled? all scale with
    | some size => return .float isNegative size
    | none => Reader.failHere .numberOutOfRange
  | some e =>
    match countExponent 0 0 e.digits with
    | .ok value =>
      match scaled? all (if e.isNegative then scale - value else scale + value) with
      | some size => return .float isNegative size
      | none => Reader.failHere .numberOutOfRange
    | .error count =>
      if e.isNegative || all == 0 then return .float isNegative ⟨0, 0⟩
      else fun _ => .error ⟨.numberOutOfRange, e.offset + count⟩

/-- The whole number that a numeral stands for, if it is one and fits a machine word. Below zero
half of the words are left, and zero itself has no sign. -/
def Numeral.whole? (n : Numeral) (isNegative : Bool) : Option Int :=
  let (value, taken) := absorb 0 n.whole
  if n.fraction.isSome || n.exponent.isSome || taken < n.whole.length then none
  else if !isNegative then some value
  else if value = 0 ∨ Nat.pow 2 63 < value then none
  else some (-value)

/-- Reads a number behind its sign. -/
def Reader.number (isNegative : Bool) : Reader Number := do
  let n ← Reader.numeral .endOfValue
  match n.whole? isNegative with
  | some value => return .whole value
  | none => n.float isNegative

/-- Steps over a number behind its sign. -/
def Reader.skipNumber : Reader Unit := do
  let _ ← Reader.numeral .invalidNumber

end JsxTidy.Json
