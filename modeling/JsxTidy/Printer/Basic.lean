import JsxTidy.Syntax.Comment
import JsxTidy.Text.Blank
import JsxTidy.Text.Identifier

/-!
# Writing programs: the basics

Writing a tree appends to a text. What has been written decides some of what follows: where a
space keeps two words apart, and where parentheses keep an expression from being read as the
statement that it begins. Comments wait in front of the token that they lead and are written once.
-/

namespace JsxTidy

open Syntax

namespace Printer

/-- What surrounds an expression and may call for parentheses around it. -/
structure Place where
  /-- The expression is wrapped unless it binds more tightly. -/
  above : Precedence
  /-- Whether an `in` would be read as part of a loop's head. -/
  forbidIn : Bool
  /-- Whether a call would be read as the arguments of a `new`. -/
  forbidCall : Bool

namespace Place

/-- A place that asks for nothing but a precedence. -/
def within (above : Precedence) : Place :=
  ⟨above, false, false⟩

/-- The loosest place. -/
def loose : Place :=
  within .lowest

/-- The place of a piece between commas. -/
def piece : Place :=
  within .comma

/-- A place of a given precedence that keeps the ban on `in`. -/
def keepIn (place : Place) (above : Precedence) : Place :=
  ⟨above, place.forbidIn, false⟩

/-- A place of a given precedence that keeps both bans. -/
def keep (place : Place) (above : Precedence) : Place :=
  { place with above }

/-- The place inside parentheses, or the place itself. -/
def inside (place : Place) (wrapped : Bool) : Place :=
  if wrapped then { place with forbidIn := false } else place

end Place

/-- The signs that must not run into a following sign. -/
inductive Sign where
  | unary (op : UnaryOp)
  | update (op : UpdateOp)
deriving DecidableEq

/-- The text so far and what matters for its continuation. Marks are lengths of the text. -/
structure PrinterState where
  /-- The text, last character first. -/
  reversed : List Char
  length : Nat
  depth : Nat
  /-- Whether the next indentation is only a space. -/
  indentAsSpace : Bool
  /-- Where an expression statement begins. -/
  statementMark : Option Nat
  /-- Where the expression of an arrow function begins. -/
  arrowMark : Option Nat
  /-- Where a default export begins. -/
  exportMark : Option Nat
  /-- The last sign, and where it ended. -/
  signMark : Option (Sign × Nat)
  /-- Where the last regular expression ended. -/
  regExpMark : Option Nat
  /-- Where a number ended that a point would continue. -/
  integerMark : Option Nat
  /-- The comments still to be written. -/
  comments : List Comment

/-- How to write a piece of syntax that lies inside the current one. -/
structure PrinterEnv where
  descend : Place → Node → StateM PrinterState Unit

end Printer

/-- Writes text. -/
abbrev Printer := ReaderT Printer.PrinterEnv (StateM Printer.PrinterState)

namespace Printer

/-- Writes a piece of syntax at a place. -/
def child (place : Place) (node : Node) : Printer Unit := fun env => env.descend place node

/-- Writes a piece of syntax to which its place does not matter. -/
def part (node : Node) : Printer Unit :=
  child .loose node

/-- Writes a character. -/
def putChar (c : Char) : Printer Unit :=
  modify fun s => { s with reversed := c :: s.reversed, length := s.length + 1 }

/-- Writes characters. -/
def putChars (cs : List Char) : Printer Unit :=
  modify fun s => { s with reversed := cs.reverse ++ s.reversed, length := s.length + cs.length }

/-- Writes a text. -/
def put (text : String) : Printer Unit :=
  putChars text.toList

/-- Writes the end of a line. -/
def newline : Printer Unit :=
  putChar '\n'

/-- The last character written. -/
def lastChar : Printer (Option Char) := do
  return (← get).reversed.head?

/-- Writes the indentation of a line. -/
def indentation : Printer Unit := do
  let s ← get
  if s.indentAsSpace then
    set { s with indentAsSpace := false }
    putChar ' '
  else putChars (List.replicate s.depth '\t')

/-- Writes a piece one step deeper. -/
def deeper (inner : Printer Unit) : Printer Unit := do
  modify fun s => { s with depth := s.depth + 1 }
  inner
  modify fun s => { s with depth := s.depth - 1 }

/-- Writes the end of a statement. -/
def endStatement : Printer Unit :=
  put ";\n"

/-- Writes a piece in parentheses, if they are wanted. -/
def wrapped (wanted : Bool) (inner : Printer Unit) : Printer Unit := do
  if wanted then putChar '('
  inner
  if wanted then putChar ')'

/-- Writes lines between braces, which close at once when there are none. -/
def braces (isEmpty : Bool) (inner : Printer Unit) : Printer Unit := do
  putChar '\x7b'
  if isEmpty then inner
  else
    newline
    deeper inner
    indentation
  putChar '\x7d'

/-- Whether a mark stands at the end of the text. -/
def isHere (mark : Option Nat) : Printer Bool := do
  return mark == some (← get).length

/-- Writes a space if what follows is a word that the last one would run into. -/
def spaceBeforeWord : Printer Unit := do
  let s ← get
  match s.reversed with
  | [] => pure ()
  | c :: _ =>
    if Text.isIdentifierPart c || s.regExpMark == some s.length then putChar ' '

/-- Writes a word, apart from a word before it. -/
def word (text : String) : Printer Unit := do
  spaceBeforeWord
  put text

/-- Whether two signs would be read as another one. -/
def Sign.runsInto : Sign → Sign → Bool
  | .unary .plus, .unary .plus | .unary .plus, .update .increment => true
  | .unary .negate, .unary .negate | .unary .negate, .update .decrement => true
  | _, _ => false

/-- Writes a space if the last sign would run into the next one. -/
def spaceBeforeSign (next : Sign) : Printer Unit := do
  let s ← get
  match s.signMark with
  | some (last, mark) => if mark == s.length && last.runsInto next then putChar ' '
  | none => pure ()

/-- Remembers the sign just written. -/
def rememberSign (sign : Sign) : Printer Unit :=
  modify fun s => { s with signMark := some (sign, s.length) }

/-- Writes pieces one after the other with `between` before each but the first. -/
def separated (between : Printer Unit) (write : Node → Printer Unit) : List Node → Printer Unit
  | [] => pure ()
  | [node] => write node
  | node :: rest => do
    write node
    between
    separated between write rest

/-- Writes pieces with commas between them. -/
def commaSeparated (write : Node → Printer Unit) (nodes : List Node) : Printer Unit :=
  separated (put ", ") write nodes

/-- Writes pieces one below the other, one step deeper, with commas between them. -/
def lines (write : Node → Printer Unit) (nodes : List Node) : Printer Unit := do
  deeper do
    newline
    indentation
    separated (put ",\n" *> indentation) write nodes
  newline
  indentation

/-- Writes something if it is there. -/
def optionally (node : Node) (write : Printer Unit) : Printer Unit := do
  if node.isPresent then write

/-- Writes a text with a condition. -/
def putIf (wanted : Bool) (text : String) : Printer Unit := do
  if wanted then put text

end Printer

end JsxTidy
