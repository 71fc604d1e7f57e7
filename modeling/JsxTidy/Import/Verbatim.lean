import JsxTidy.Syntax.Node
import JsxTidy.Text.Blank
import JsxTidy.Text.Find
import JsxTidy.Text.Offset

/-!
# Imports that keep their text

An import without specifiers is written as it was read. Before the program is written, the source
of each such import is replaced by a marker that occurs nowhere in the text; afterwards the
statement with the marker is replaced by the text of the import.
-/

namespace JsxTidy

open Syntax

namespace VerbatimImport

/-- What every marker begins with. -/
def markerStart : List Char :=
  "__cleanup_verbatim_import_".toList

/-- The letters behind the start of a marker that keep it out of a text: as few as possible. At
most `fuel` more than `count` are tried. -/
def saltFrom (text : List Char) : Nat → Nat → Nat
  | 0, count => count
  | fuel + 1, count =>
    if Text.contains (markerStart ++ List.replicate count 'x') text then
      saltFrom text fuel (count + 1)
    else count

/-- The number of letters that keep markers out of a text. -/
def salt (text : List Char) : Nat :=
  saltFrom text (text.length + 1) 0

/-- The marker of the import with a given number. -/
def markerOf (salt index : Nat) : List Char :=
  markerStart ++ List.replicate salt 'x' ++ (toString index).toList ++ "__".toList

end VerbatimImport

/-- An import that keeps its text. -/
structure VerbatimImport where
  marker : List Char
  original : List Char
deriving DecidableEq, Repr

namespace VerbatimImport

/-- Whether a statement is an import without specifiers. -/
def isBare : Node → Bool
  | .mk (.importDeclaration ..) _ [clause, _, _] => clause.parts.isEmpty
  | _ => false

/-- A statement with a marker in the place of its source. -/
def mark (marker : List Char) : Node → Node
  | .mk kind span [clause, source, _] =>
    .mk kind span
      [clause, .mk (.string (String.ofList marker) false) source.span [], .none]
  | statement => statement

/-- Some statements with markers in the imports that keep their text, and these imports, the first
of which has a given number. -/
def captureFrom (text : List Char) (salt index : Nat) :
    List Node → List Node × List VerbatimImport
  | [] => ([], [])
  | statement :: rest =>
    if isBare statement then
      let marker := markerOf salt index
      let original := Text.sliceBytes statement.span.start statement.span.stop text
      let (others, imports) := captureFrom text salt (index + 1) rest
      (mark marker statement :: others, ⟨marker, original⟩ :: imports)
    else
      let (others, imports) := captureFrom text salt index rest
      (statement :: others, imports)

/-- A program with markers in the imports that keep their text, and these imports. -/
def capture (text : List Char) (p : Program) : Program × List VerbatimImport :=
  let (body, imports) := captureFrom text (salt text) 0 p.body
  ({ p with body }, imports)

/-- The text before and behind the statement with a marker: from the last `import` before it to
the first semicolon behind it. -/
def splitStatement? (marker code : List Char) : Option (List Char × List Char) := do
  let (front, rest) ← Text.splitFirst? marker code
  let (before, _) ← Text.splitLast? "import".toList front
  let (_, after) ← Text.splitFirst? [';'] rest
  return (before, after.drop 1)

/-- A statement with a semicolon at its end. -/
def closed (statement : List Char) : List Char :=
  if (Text.trimEnd statement).getLast? = some ';' then statement else statement ++ [';']

/-- Puts the text of an import back in the place of its marker. -/
def restoreOne (code : List Char) (import' : VerbatimImport) : List Char :=
  match splitStatement? import'.marker code with
  | some (before, after) => before ++ closed import'.original ++ after
  | none => code

/-- Puts the texts of imports back in the place of their markers, one after the other. -/
def restore (imports : List VerbatimImport) (code : List Char) : List Char :=
  imports.foldl restoreOne code

end VerbatimImport

end JsxTidy
