import JsxTidy.Printer.Basic
import JsxTidy.Text.Find

/-!
# Writing programs: comments

The comments that lead a token are written where a statement, a member or an argument begins, and
nowhere else. A written comment is not written again.
-/

namespace JsxTidy.Printer

open Syntax

/-- A text in which no closing tag of a script occurs: a backslash keeps its parts apart. -/
def withoutScriptEnd : List Char → List Char
  | [] => []
  | c :: rest =>
    if c == '<' && Text.beginsWith "/script".toList ((rest.take 7).map Char.toLower) then
      '<' :: '\\' :: withoutScriptEnd rest
    else c :: withoutScriptEnd rest

/-- The lines of a text without their ends. -/
def linesOf : List Char → List (List Char)
  | [] => [[]]
  | c :: rest =>
    let more := linesOf rest
    if c == '\r' && rest.head? == some '\n' then more
    else if c == '\n' || c == '\r' || c == '\u2028' || c == '\u2029' then [] :: more
    else match more with
      | [] => [[c]]
      | line :: others => (c :: line) :: others

/-- Writes the lines of a comment, each with the indentation of its surroundings. -/
def commentLine (line : List Char) : Printer Unit := do
  if !Text.beginsWith "/*".toList line then indentation
  putChars (withoutScriptEnd (Text.trimStart line))
  if !Text.beginsWith "/*".toList line.reverse then newline

/-- Writes a comment. -/
def comment (c : Comment) : Printer Unit :=
  if c.spansLines then (linesOf c.text.toList).forM commentLine
  else putChars (withoutScriptEnd c.text.toList)

/-- Whether a comment that leads the token at `start` is still to be written. -/
def hasComments (start : Nat) : Printer Bool := do
  return (← get).comments.any fun c => c.leads? == some start

/-- Takes the comments that lead the token at `start`. -/
def takeComments (start : Nat) : Printer (List Comment) := do
  let s ← get
  let (found, others) := s.comments.partition fun c => c.leads? == some start
  set { s with comments := others }
  return found

/-- Writes the first of some comments where a line may have to begin. -/
def firstComment (c : Comment) : Printer Unit := do
  if c.newlineBefore then
    match ← lastChar with
    | none | some '\t' => pure ()
    | some '\n' => indentation
    | some _ =>
      newline
      indentation
  else indentation
  comment c

/-- Whether a comment reaches to the end of its line. -/
def endsLine (c : Comment) : Bool :=
  c.isLine || c.newlineAfter

/-- Writes comments behind another one. -/
def laterComments (previous : Comment) : List Comment → Printer Unit
  | [] => pure ()
  | c :: rest => do
    if endsLine previous then
      newline
      indentation
    else if c.role == .legal then newline
    else putChar ' '
    comment c
    laterComments c rest

/-- Writes some comments in front of a statement. -/
def leadingComments : List Comment → Printer Unit
  | [] => pure ()
  | first :: others => do
    firstComment first
    laterComments first others
    if endsLine (others.getLastD first) then newline
    else modify fun s => { s with indentAsSpace := true }

/-- Writes the comments that lead the statement or member at `start`. -/
def commentsAt (start : Nat) : Printer Unit := do
  leadingComments (← takeComments start)

/-- Writes the comments that lead the argument at `start`, and says whether there were any. -/
def argumentComments (start : Nat) : Printer Bool := do
  let found ← takeComments start
  found.forM fun c => do
    newline
    indentation
    comment c
  if found.isEmpty then return false
  newline
  return true

end JsxTidy.Printer
