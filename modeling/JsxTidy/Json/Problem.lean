import JsxTidy.Json.Writer
import JsxTidy.Text.Quoted

/-!
# What can be wrong with a JSON text

A problem is a fault and the byte offset where it shows. Lines count from one, and columns count
the bytes of a line that have been read.
-/

namespace JsxTidy.Json

/-- What stands where something else is expected. -/
inductive Found where
  | null
  | bool (b : Bool)
  | number (n : Number)
  | string (s : String)
  | sequence
  | map
deriving DecidableEq, Repr

/-- What can be wrong. -/
inductive Fault where
  | endOfValue
  | endOfString
  | endOfList
  | endOfObject
  | expectedValue
  | expectedWord
  | expectedColon
  | expectedListEnd
  | expectedObjectEnd
  | keyNoString
  | trailingText
  | trailingComma
  | invalidEscape
  | unfinishedEscape
  | loneSurrogate
  | controlCharacter
  | invalidNumber
  | numberOutOfRange
  | nestedTooDeep
  | duplicateField (name : String)
  | missingField (name : String)
  | invalidType (found : Found) (expected : String)
  | invalidValue (found : Found) (expected : String)
  | invalidLength (length : Nat) (expected : String)
  | unknownVariant (name : String) (known : List String)
deriving DecidableEq, Repr

/-- A text between backticks. -/
def ticked (text : String) : String :=
  "\x60" ++ text ++ "\x60"

/-- Some names to choose from. -/
def oneOf : List String → String
  | [] => "there are no variants"
  | [a] => ticked a
  | [a, b] => ticked a ++ " or " ++ ticked b
  | names => "one of " ++ ", ".intercalate (names.map ticked)

/-- What was found, in words. -/
def Found.describe : Found → String
  | null => "null"
  | bool b => "boolean " ++ ticked (if b then "true" else "false")
  | number (.whole n) => "integer " ++ ticked (String.ofList (Number.whole n).text)
  | number n => "floating point " ++ ticked (String.ofList n.text)
  | string s => "string " ++ String.ofList (Text.quoted '"' s.toList)
  | sequence => "sequence"
  | map => "map"

/-- A fault in words. -/
def Fault.message : Fault → String
  | endOfValue => "EOF while parsing a value"
  | endOfString => "EOF while parsing a string"
  | endOfList => "EOF while parsing a list"
  | endOfObject => "EOF while parsing an object"
  | expectedValue => "expected value"
  | expectedWord => "expected ident"
  | expectedColon => "expected \x60:\x60"
  | expectedListEnd => "expected \x60,\x60 or \x60]\x60"
  | expectedObjectEnd => "expected \x60,\x60 or \x60\x7d\x60"
  | keyNoString => "key must be a string"
  | trailingText => "trailing characters"
  | trailingComma => "trailing comma"
  | invalidEscape => "invalid escape"
  | unfinishedEscape => "unexpected end of hex escape"
  | loneSurrogate => "lone leading surrogate in hex escape"
  | controlCharacter => "control character (\\u0000-\\u001F) found while parsing a string"
  | invalidNumber => "invalid number"
  | numberOutOfRange => "number out of range"
  | nestedTooDeep => "recursion limit exceeded"
  | duplicateField name => "duplicate field " ++ ticked name
  | missingField name => "missing field " ++ ticked name
  | invalidType found expected =>
    "invalid type: " ++ found.describe ++ ", expected " ++ expected
  | invalidValue found expected =>
    "invalid value: " ++ found.describe ++ ", expected " ++ expected
  | invalidLength length expected =>
    "invalid length " ++ toString length ++ ", expected " ++ expected
  | unknownVariant name known =>
    "unknown variant " ++ ticked name ++ ", expected " ++ oneOf known

/-- A fault and the byte offset where it shows. -/
structure Problem where
  fault : Fault
  offset : Nat
deriving DecidableEq, Repr

/-- The line and column behind some bytes of a text that begins at the given line and column. -/
def placeFrom (line column : Nat) : Nat → List Char → Nat × Nat
  | bytes, [] => (line, column + bytes)
  | bytes, c :: rest =>
    if bytes < c.utf8Size then (line, column + bytes)
    else if c = '\n' then placeFrom (line + 1) 0 (bytes - c.utf8Size) rest
    else placeFrom line (column + c.utf8Size) (bytes - c.utf8Size) rest

/-- A problem with a text in words. -/
def Problem.describe (p : Problem) (text : List Char) : String :=
  let (line, column) := placeFrom 1 0 p.offset text
  p.fault.message ++ " at line " ++ toString line ++ " column " ++ toString column

end JsxTidy.Json
