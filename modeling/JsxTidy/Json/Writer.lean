import JsxTidy.Decimal.Layout
import JsxTidy.Json.Value

/-!
# Writing JSON

Values are written without blanks. In strings only quotes, backslashes and control characters are
escaped.
-/

namespace JsxTidy.Json

open Decimal

/-- Floating-point numbers have a point, and an exponent from ten to the sixteenth on and below
one hundred-thousandth. -/
def floatLayout : Layout :=
  ⟨some (-5), some 15, true⟩

/-- The size of a floating-point number. -/
def sizeText (size : Binary) : List Char :=
  if size.significand = 0 then ['0', '.', '0'] else floatLayout.write (shortest binary64 size)

/-- A number in the shortest form that is read back as the same number. -/
def Number.text : Number → List Char
  | whole n => if n < 0 then '-' :: digitChars n.natAbs else digitChars n.natAbs
  | float isNegative size => if isNegative then '-' :: sizeText size else sizeText size

/-- Two digits of base sixteen. -/
def hexPair (n : Nat) : List Char :=
  [Nat.digitChar (n / 16), Nat.digitChar (n % 16)]

/-- A character in a string. -/
def escapedChar (c : Char) : List Char :=
  if c = '"' then ['\\', '"']
  else if c = '\\' then ['\\', '\\']
  else if c = '\x08' then ['\\', 'b']
  else if c = '\x0c' then ['\\', 'f']
  else if c = '\n' then ['\\', 'n']
  else if c = '\r' then ['\\', 'r']
  else if c = '\t' then ['\\', 't']
  else if c < ' ' then '\\' :: 'u' :: '0' :: '0' :: hexPair c.toNat
  else [c]

/-- A string with its quotes. -/
def stringText (s : List Char) : List Char :=
  '"' :: (s.flatMap escapedChar ++ ['"'])

mutual

/-- A value as text. -/
def text : Json → List Char
  | null => "null".toList
  | bool true => "true".toList
  | bool false => "false".toList
  | number n => n.text
  | string s => stringText s.toList
  | array [] => ['[', ']']
  | array (first :: rest) => '[' :: (text first ++ itemsText rest)
  | object [] => ['\x7b', '\x7d']
  | object ((name, value) :: rest) =>
    '\x7b' :: (stringText name.toList ++ ':' :: (text value ++ fieldsText rest))

/-- The items of an array behind the first one. -/
def itemsText : List Json → List Char
  | [] => [']']
  | item :: rest => ',' :: (text item ++ itemsText rest)

/-- The fields of an object behind the first one. -/
def fieldsText : List (String × Json) → List Char
  | [] => ['\x7d']
  | (name, value) :: rest =>
    ',' :: (stringText name.toList ++ ':' :: (text value ++ fieldsText rest))

end

/-- A value as a string. -/
def render (value : Json) : String :=
  String.ofList value.text

end JsxTidy.Json
