import JsxTidy.Decimal.Literal
import JsxTidy.Printer.Comment

/-!
# Writing programs: literals

Strings stand in double quotes with a fixed set of escapes, numbers in their shortest form.
-/

namespace JsxTidy.Printer

open Syntax

/-- The escape for a character of a string in double quotes, seen with what follows it. -/
def escapeOf? (c : Char) (rest : List Char) : Option String :=
  match c with
  | '\x00' =>
    match rest with
    | d :: _ => some (if d.isDigit then "\\x00" else "\\0")
    | [] => some "\\0"
  | '\x07' => some "\\x07"
  | '\x08' => some "\\b"
  | '\x0b' => some "\\v"
  | '\x0c' => some "\\f"
  | '\n' => some "\\n"
  | '\r' => some "\\r"
  | '\x1b' => some "\\x1B"
  | '\\' => some "\\\\"
  | '"' => some "\\\""
  | '\u2028' => some "\\u2028"
  | '\u2029' => some "\\u2029"
  | '\u00a0' => some "\\xA0"
  | _ => none

/-- The inside of a string in double quotes. With `lone`, the replacement character and the four
digits behind it stand for half of a pair. -/
def quoted (lone : Bool) : List Char → List Char
  | [] => []
  | '\uFFFD' :: a :: b :: c :: d :: rest =>
    if lone then
      if [a, b, c, d] == ['f', 'f', 'f', 'd'] then '\uFFFD' :: quoted lone rest
      else '\\' :: 'u' :: a :: b :: c :: d :: quoted lone rest
    else '\uFFFD' :: quoted lone (a :: b :: c :: d :: rest)
  | c :: rest =>
    if c == '<' && Text.beginsWith "/script".toList ((rest.take 7).map Char.toLower) then
      '<' :: '\\' :: quoted lone rest
    else match escapeOf? c rest with
      | some escape => escape.toList ++ quoted lone rest
      | none => c :: quoted lone rest

/-- Writes a string. -/
def stringLiteral (value : String) (lone : Bool) : Printer Unit := do
  putChar '"'
  putChars (quoted lone value.toList)
  putChar '"'

/-- Writes a number in its shortest form. -/
def numberLiteral (raw : String) : Printer Unit := do
  let text := (Decimal.LiteralValue.ofRaw raw).text
  spaceBeforeWord
  putChars text
  if text.all Char.isDigit then
    modify fun s => { s with integerMark := some s.length }

/-- Writes a regular expression, apart from a slash or an angle bracket before it. -/
def regExpLiteral (pattern flags : String) : Printer Unit := do
  let opensScript := Text.beginsWith "script".toList (pattern.toList.map Char.toLower)
  match ← lastChar with
  | some '/' => putChar ' '
  | some '<' => if opensScript then putChar ' '
  | _ => pure ()
  put ("/" ++ pattern ++ "/" ++ flags)
  modify fun s => { s with regExpMark := some s.length }

/-- Writes the fixed texts of a template with the pieces between them. -/
def templateParts (write : Node → Printer Unit) : List Node → List Node → Printer Unit
  | [], _ => pure ()
  | .mk (.quasi raw _) _ _ :: quasis, nodes => do
    putChars (withoutScriptEnd raw.toList)
    match nodes with
    | [] => templateParts write quasis []
    | node :: rest =>
      put "$\x7b"
      write node
      put "\x7d"
      templateParts write quasis rest
  | _ :: quasis, nodes => templateParts write quasis nodes

/-- Writes a template. -/
def templateLiteral (write : Node → Printer Unit) (quasis nodes : List Node) : Printer Unit := do
  putChar '\x60'
  templateParts write quasis nodes
  putChar '\x60'

end JsxTidy.Printer
