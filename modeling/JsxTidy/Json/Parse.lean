import JsxTidy.Json.Number
import JsxTidy.Json.Text

/-!
# Reading JSON: values

Values may be nested up to a limit. Values that nobody asks for are stepped over, and there the
limit does not count.
-/

namespace JsxTidy.Json

namespace Reader

/-- Reads a value that holds no other ones, if one stands here. -/
def scalar? : Reader (Option Json) := do
  match ← peek? with
  | none => return none
  | some c =>
    if c = 'n' then
      advance
      wordRest ['u', 'l', 'l']
      return some .null
    else if c = 't' then
      advance
      wordRest ['r', 'u', 'e']
      return some (.bool true)
    else if c = 'f' then
      advance
      wordRest ['a', 'l', 's', 'e']
      return some (.bool false)
    else if c = '-' then
      advance
      return some (.number (← number true))
    else if c.isDigit then return some (.number (← number false))
    else if c = '"' then
      advance
      return some (.string (← stringRest))
    else return none

/-- Reads fields up to the end of an object. -/
def fieldsFrom (value : Reader Json) : Nat → List (String × Json) → Reader (List (String × Json))
  | 0, found => return found.reverse
  | fuel + 1, found => do
    if ← objectGoesOn found.isEmpty then
      let name ← stringRest
      colon
      fieldsFrom value fuel ((name, ← value) :: found)
    else return found.reverse

/-- Reads a value, given a reader for the values in it, if it may hold any. -/
def valueAround (inner? : Option (Reader Json)) : Reader Json := do
  match ← peekItem? with
  | none => failNext .endOfValue
  | some c =>
    match ← scalar? with
    | some found => return found
    | none =>
      if c = '[' then
        match inner? with
        | none => failNext .nestedTooDeep
        | some inner =>
          advance
          return .array (← items inner)
      else if c = '\x7b' then
        match inner? with
        | none => failNext .nestedTooDeep
        | some inner =>
          advance
          let found ← fieldsFrom inner (← stepsLeft) []
          closing objectEnd (.ok (ofFields found))
      else failNext .expectedValue

/-- Reads a value in which at most `depth` arrays and objects are nested. -/
def value : Nat → Reader Json
  | 0 => valueAround none
  | depth + 1 => valueAround (some (value depth))

/-- Steps over values up to the end of a list. -/
def skipItemsFrom (inner : Reader Unit) : Nat → Reader Unit
  | 0 => pure ()
  | fuel + 1 => do
    inner
    match ← peekItem? with
    | none => failNext .endOfList
    | some ',' =>
      advance
      skipItemsFrom inner fuel
    | some ']' => advance
    | some _ => failNext .expectedListEnd

/-- Steps over fields up to the end of an object. -/
def skipFieldsFrom (inner : Reader Unit) : Nat → Reader Unit
  | 0 => pure ()
  | fuel + 1 => do
    match ← peekItem? with
    | none => failNext .endOfObject
    | some '"' => advance
    | some _ => failNext .keyNoString
    skipStringRest
    colon
    inner
    match ← peekItem? with
    | none => failNext .endOfObject
    | some ',' =>
      advance
      skipFieldsFrom inner fuel
    | some '\x7d' => advance
    | some _ => failNext .expectedObjectEnd

/-- Steps over a value in which at most `depth` arrays and objects are nested. -/
def skipValue : Nat → Reader Unit
  | 0 => pure ()
  | depth + 1 => do
    match ← peekItem? with
    | none => failNext .endOfValue
    | some c =>
      if c = 'n' then
        advance
        wordRest ['u', 'l', 'l']
      else if c = 't' then
        advance
        wordRest ['r', 'u', 'e']
      else if c = 'f' then
        advance
        wordRest ['a', 'l', 's', 'e']
      else if c = '-' then
        advance
        skipNumber
      else if c.isDigit then skipNumber
      else if c = '"' then
        advance
        skipStringRest
      else if c = '[' then
        advance
        match ← peekItem? with
        | none => failNext .endOfList
        | some ']' => advance
        | some _ => skipItemsFrom (skipValue depth) (← stepsLeft)
      else if c = '\x7b' then
        advance
        match ← peekItem? with
        | none => failNext .endOfObject
        | some '\x7d' => advance
        | some _ => skipFieldsFrom (skipValue depth) (← stepsLeft)
      else failNext .expectedValue

/-- Steps over any value. -/
def skipAny : Reader Unit := do
  skipValue (← stepsLeft)

end Reader

/-- The number of arrays and objects that may be nested. -/
def depthLimit : Nat :=
  127

/-- Reads a text that is one value. -/
def parse (text : List Char) : Except Problem Json :=
  (Reader.value depthLimit).run text

end JsxTidy.Json
