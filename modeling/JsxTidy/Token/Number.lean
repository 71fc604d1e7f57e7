import JsxTidy.Complaint
import JsxTidy.Text.Identifier
import JsxTidy.Token.Basic
import JsxTidy.Text.Cursor

/-!
# Number tokens

Digits may be separated by single underscores. A number must not run into a name or another
number. Digits after a leading zero are octal, unless an eight or a nine is among them.
-/

namespace JsxTidy.NumberToken

/-- A lexeme that was read, where it ends, and what is wrong with it. -/
structure Result where
  lexeme : Lexeme
  stop : Cursor
  problems : List Diagnostic

/-- What was expected to be a digit is not one. -/
def noDigit (cursor : Cursor) : Diagnostic :=
  match cursor.char? with
  | some c => ⟨.invalidCharacter c, cursor.offset⟩
  | none => ⟨.unexpectedEnd, cursor.offset⟩

/-- Digits and single underscores between them, from behind a first digit. -/
def moreDigitsFrom (digit : Char → Bool) (offset : Nat) : List Char → Cursor × List Diagnostic
  | '_' :: c :: rest =>
    if digit c then moreDigitsFrom digit (offset + 2) rest
    else (⟨offset + 1, c :: rest⟩, [noDigit ⟨offset + 1, c :: rest⟩])
  | ['_'] => (⟨offset + 1, []⟩, [noDigit ⟨offset + 1, []⟩])
  | c :: rest =>
    if digit c then moreDigitsFrom digit (offset + 1) rest else (⟨offset, c :: rest⟩, [])
  | [] => (⟨offset, []⟩, [])

/-- Digits and single underscores between them, from behind a first digit. -/
def moreDigits (digit : Char → Bool) (cursor : Cursor) : Cursor × List Diagnostic :=
  moreDigitsFrom digit cursor.offset cursor.rest

/-- One or more digits. -/
def digits (digit : Char → Bool) (cursor : Cursor) : Cursor × List Diagnostic :=
  match cursor.char? with
  | some c => if digit c then moreDigits digit cursor.next else (cursor, [noDigit cursor])
  | none => (cursor, [noDigit cursor])

/-- No or more digits. -/
def anyDigits (digit : Char → Bool) (cursor : Cursor) : Cursor × List Diagnostic :=
  match cursor.char? with
  | some c => if digit c then moreDigits digit cursor.next else (cursor, [])
  | none => (cursor, [])

/-- The exponent behind its letter. -/
def exponent (cursor : Cursor) : NumberForm × Cursor × List Diagnostic :=
  match cursor.char? with
  | some '-' => (.negativeExponent, digits Char.isDigit cursor.next)
  | some '+' => (.positiveExponent, digits Char.isDigit cursor.next)
  | _ => (.positiveExponent, digits Char.isDigit cursor)

/-- An exponent with its letter, if there is one. -/
def exponent? (cursor : Cursor) : Option (NumberForm × Cursor × List Diagnostic) :=
  match cursor.char? with
  | some 'e' | some 'E' => some (exponent cursor.next)
  | _ => none

/-- Ends a number, which must not run into a name or a digit. -/
def finish (start stop : Cursor) (problems : List Diagnostic)
    (lexeme : String → Lexeme) : Result :=
  let runsOn := match stop.char? with
    | some c => c.isDigit || Text.isIdentifierStart c
    | none => false
  if runsOn then
    ⟨.unknown, stop.next.dropWhile Text.isIdentifierStart,
      problems ++ [⟨.invalidNumberEnd, stop.offset⟩]⟩
  else ⟨lexeme (start.stringTo stop), stop, problems⟩

/-- A number in a base that its second character names. -/
def inBase (start : Cursor) (form : NumberForm) (digit : Char → Bool) : Result :=
  let (stop, problems) := digits digit (start.skip 2)
  if problems.isEmpty then
    if stop.char? == some 'n' then finish start stop.next [] (.bigInt form)
    else finish start stop [] (.number form)
  else ⟨.unknown, stop, problems⟩

/-- What may follow the decimal point. -/
def afterPoint (start cursor : Cursor) (problems : List Diagnostic) : Result :=
  match exponent? cursor with
  | some (_, stop, more) => finish start stop (problems ++ more) (.number .fraction)
  | none => finish start cursor problems (.number .fraction)

/-- A number that begins with its point. -/
def fraction (start : Cursor) : Result :=
  let (stop, problems) := digits Char.isDigit start.next
  afterPoint start stop problems

/-- What may follow the digits before the decimal point. -/
def afterWhole (start cursor : Cursor) (problems : List Diagnostic) : Result :=
  match cursor.char? with
  | some '.' =>
    let (stop, more) := anyDigits Char.isDigit cursor.next
    afterPoint start stop (problems ++ more)
  | some 'n' => finish start cursor.next problems (.bigInt .decimal)
  | _ =>
    match exponent? cursor with
    | some (form, stop, more) => finish start stop (problems ++ more) (.number form)
    | none => finish start cursor problems (.number .decimal)

/-- A number with digits behind a leading zero. -/
def afterZeros (start cursor : Cursor) : Result :=
  let stop := cursor.dropWhile Char.isDigit
  if (cursor.textTo stop).all fun c => decide (c ≤ '7') then
    finish start stop [] (.number .octal)
  else
    match stop.char? with
    | some '.' =>
      let (last, more) := anyDigits Char.isDigit stop.next
      afterPoint start last more
    | some 'e' =>
      let (form, last, more) := exponent stop.next
      finish start last more (.number form)
    | _ => finish start stop [] (.number .decimal)

/-- A number that begins with a zero. -/
def zero (start : Cursor) : Result :=
  let cursor := start.next
  match cursor.char? with
  | some 'b' | some 'B' => inBase start .binary fun c => c == '0' || c == '1'
  | some 'o' | some 'O' => inBase start .octal fun c => decide ('0' ≤ c) && decide (c ≤ '7')
  | some 'x' | some 'X' => inBase start .hexadecimal fun c =>
      c.isDigit || (decide ('a' ≤ c) && decide (c ≤ 'f')) || (decide ('A' ≤ c) && decide (c ≤ 'F'))
  | some c =>
    if c.isDigit then afterZeros start cursor
    else if c == '_' then finish start cursor [] (.number .decimal)
    else afterWhole start cursor []
  | none => finish start cursor [] (.number .decimal)

/-- The number that begins at a digit. -/
def read (start : Cursor) : Result :=
  match start.char? with
  | some '0' => zero start
  | _ =>
    let (stop, problems) := moreDigits Char.isDigit start.next
    afterWhole start stop problems

end JsxTidy.NumberToken
