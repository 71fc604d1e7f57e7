import JsxTidy.Json.Reader

/-!
# Reading JSON: strings

A string holds characters and escapes. An escape of a character beyond U+FFFF is a pair of
surrogates.
-/

namespace JsxTidy.Json.Reader

/-- The value of a digit of base sixteen. -/
def hexDigit? (c : Char) : Option Nat :=
  if '0' ≤ c ∧ c ≤ '9' then some (c.toNat - '0'.toNat)
  else if 'a' ≤ c ∧ c ≤ 'f' then some (c.toNat - 'a'.toNat + 10)
  else if 'A' ≤ c ∧ c ≤ 'F' then some (c.toNat - 'A'.toNat + 10)
  else none

/-- Reads four digits of base sixteen. -/
def hexUnit : Reader Nat := fun cursor =>
  let digits := cursor.rest.take 4
  if Text.byteLength digits < 4 then
    failHere .endOfString ⟨cursor.offset + Text.byteLength cursor.rest, []⟩
  else
    match digits.mapM hexDigit? with
    | some values => .ok (values.foldl (fun n d => 16 * n + d) 0, cursor.skip 4)
    | none => .error ⟨.invalidEscape, cursor.offset + 4⟩

/-- Reads a character of the escape that has to follow a leading surrogate. -/
def pairMark (mark : Char) : Reader Unit := do
  match ← peek? with
  | none => failHere .endOfString
  | some c => if c = mark then advance else failNext .unfinishedEscape

/-- Reads the digits of an escape, and those of a second one behind a leading surrogate. -/
def escapedCode : Reader Char := do
  let unit ← hexUnit
  if 0xdc00 ≤ unit ∧ unit ≤ 0xdfff then failHere .loneSurrogate
  else if 0xd800 ≤ unit ∧ unit ≤ 0xdbff then
    pairMark '\\'
    pairMark 'u'
    let low ← hexUnit
    if 0xdc00 ≤ low ∧ low ≤ 0xdfff then
      return Char.ofNat (0x10000 + (unit - 0xd800) * 0x400 + (low - 0xdc00))
    else failHere .loneSurrogate
  else return Char.ofNat unit

/-- The character that an escape of one letter stands for. -/
def shortEscape? (c : Char) : Option Char :=
  if c = '"' ∨ c = '\\' ∨ c = '/' then some c
  else if c = 'b' then some '\x08'
  else if c = 'f' then some '\x0c'
  else if c = 'n' then some '\n'
  else if c = 'r' then some '\r'
  else if c = 't' then some '\t'
  else none

/-- Reads an escape behind its backslash. -/
def escape : Reader Char := do
  match ← peek? with
  | none => failHere .endOfString
  | some c =>
    if c = 'u' then
      advance
      escapedCode
    else
      match shortEscape? c with
      | some meant =>
        advance
        return meant
      | none => failNext .invalidEscape

/-- Reads the characters of a string up to its closing quote. -/
def charsFrom : Nat → List Char → Reader (List Char)
  | 0, found => return found.reverse
  | fuel + 1, found => do
    match ← peek? with
    | none => failHere .endOfString
    | some c =>
      if c = '"' then
        advance
        return found.reverse
      else if c = '\\' then
        advance
        charsFrom fuel ((← escape) :: found)
      else if c < ' ' then failNext .controlCharacter
      else
        advance
        charsFrom fuel (c :: found)

/-- Reads a string behind its opening quote. -/
def stringRest : Reader String := do
  return String.ofList (← charsFrom (← stepsLeft) [])

/-- Steps over the characters of a string up to its closing quote. What its escapes stand for is
not looked at. -/
def skipCharsFrom : Nat → Reader Unit
  | 0 => pure ()
  | fuel + 1 => do
    match ← peek? with
    | none => failHere .endOfString
    | some c =>
      if c = '"' then advance
      else if c = '\\' then
        advance
        match ← peek? with
        | none => failHere .endOfString
        | some letter =>
          if letter = 'u' then
            advance
            let _ ← hexUnit
            skipCharsFrom fuel
          else if (shortEscape? letter).isSome then
            advance
            skipCharsFrom fuel
          else failNext .invalidEscape
      else if c < ' ' then failHere .controlCharacter
      else
        advance
        skipCharsFrom fuel

/-- Steps over a string behind its opening quote. -/
def skipStringRest : Reader Unit := do
  skipCharsFrom (← stepsLeft)

end JsxTidy.Json.Reader
