import JsxTidy.Text.Ranges
import JsxTidy.Text.CaseTable

/-!
# Lowercase text

Full lowercase of a text. Every character is lowered on its own, except the capital sigma, whose
lowercase form depends on whether it ends a word.
-/

namespace JsxTidy.Text

/-- The shift that lowers a code point, if one applies. -/
def lowercaseShift? (code : Nat) : Option CaseShift :=
  lowercaseShifts.find? fun run =>
    decide (run.first ≤ code) && decide (code ≤ run.last) && (code - run.first) % run.stride == 0

/-- The lowercase form of one character, whatever stands beside it. -/
def lowerChar (c : Char) : List Char :=
  if c.val < 128 then [c.toLower]
  else if c == 'İ' then ['i', '\u0307']
  else match lowercaseShift? c.toNat with
    | some run => [Char.ofNat (Int.toNat (c.toNat + run.shift))]
    | none => [c]

/-- The first character that letter case does not look through is a cased one. -/
def meetsCased (cs : List Char) : Bool :=
  match cs.dropWhile fun c => inRanges caseIgnorableRanges c.toNat with
  | [] => false
  | c :: _ => inRanges casedRanges c.toNat

/-- A capital sigma ends a word when a cased character comes before it and none after it. -/
def lowerSigma (before after : List Char) : Char :=
  if meetsCased before && !meetsCased after then 'ς' else 'σ'

/-- Lowercase of a text whose earlier characters, last one first, are `before`. -/
def lowercaseAfter (before : List Char) : List Char → List Char
  | [] => []
  | c :: rest =>
    (if c == 'Σ' then [lowerSigma before rest] else lowerChar c)
      ++ lowercaseAfter (c :: before) rest

/-- The full lowercase form of a text. -/
def lowercase (s : String) : String :=
  String.ofList (lowercaseAfter [] s.toList)

end JsxTidy.Text
