import JsxTidy.Printer.Comment

/-!
# Writing programs: markup

Text between tags and the values of attributes are written as they were read.
-/

namespace JsxTidy.Printer

open Syntax

/-- Writes the text of an attribute in quotes that do not occur in it. -/
def attributeText (text : String) : Printer Unit := do
  let quote := if text.toList.contains '"' then '\'' else '"'
  putChar quote
  put text
  putChar quote

/-- Writes an attribute. -/
def markupAttribute (name value : Node) : Printer Unit := do
  part name
  optionally value do
    putChar '='
    match value with
    | .mk (.string text _) _ _ => attributeText text
    | _ => part value

/-- Writes an opening tag. Its type arguments are lost. -/
def openingTag (name : Node) (attributes : List Node) (closes : Bool) : Printer Unit := do
  putChar '<'
  part name
  attributes.forM fun node => do
    putChar ' '
    part node
  put (if closes then " />" else ">")

/-- Writes an element. -/
def element (opening : Node) (children : List Node) (closing : Node) : Printer Unit := do
  match opening with
  | .mk .openingTag _ [name, _, .mk .list _ attributes] =>
    openingTag name attributes (!closing.isPresent)
  | _ => pure ()
  children.forM part
  match closing with
  | .mk .closingTag _ [name] =>
    put "</"
    part name
    putChar '>'
  | _ => pure ()

/-- Writes markup or a part of it. -/
def markup (kind : Kind) (span : Span) (parts : List Node) : Printer Unit :=
  match kind, parts with
  | .element, [opening, .mk .list _ children, closing] => element opening children closing
  | .fragment, children => do
    put "<>"
    children.forM part
    put "</>"
  | .markupAttribute, [name, value] => markupAttribute name value
  | .spreadAttribute, [e] | .spreadChild, [e] => do
    put "\x7b..."
    part e
    putChar '\x7d'
  | .container, [e] => do
    putChar '\x7b'
    part e
    putChar '\x7d'
  | .emptyExpression, _ => commentsAt span.stop
  | .markupText raw, _ => put raw
  | .namespacedName, [first, second] => do
    part first
    putChar ':'
    part second
  | .memberName, [object, property] => do
    part object
    putChar '.'
    part property
  | _, _ => pure ()

end JsxTidy.Printer
