import JsxTidy.Parser.Function

/-!
# Reading programs: object and array literals
-/

namespace JsxTidy.Parser

open Syntax

/-- Reads a spread. -/
def spread : Parser Node := do
  let start ← startOffset
  advance
  let inner ← assignment
  node .spread start [inner]

/-- Remembers the comma behind the last piece of a literal. -/
def rememberComma (start : Nat) (comma : Option Nat) : Parser Unit :=
  match comma with
  | some offset => modify fun s => { s with trailingCommas := (start, offset) :: s.trailingCommas }
  | none => pure ()

/-- Reads an element of an array literal. -/
def arrayElement : Parser Node := do
  if ← atSymbol "," then node .hole (← startOffset) []
  else if ← atSymbol "..." then spread
  else assignment

/-- Reads an array literal. -/
def arrayLiteral : Parser Node := do
  let start ← startOffset
  advance
  let (elements, comma) ← allowingIn (commaList "]" arrayElement)
  rememberComma start comma
  expectSymbol "]"
  node .array start elements

/-- Reads an accessor of an object literal from behind its word. -/
def accessorProperty (start : Nat) (found : List Modifier) (propertyRole : PropertyRole)
    (role : MethodRole) : Parser Node := do
  noModifiers found
  let (key, isComputed) ← propertyKey
  let value ← methodValue .method false false false
  checkAccessor role value
  node (.property propertyRole false false isComputed) start [key, value]

/-- Reads a method of an object literal from behind its key. -/
def methodProperty (start : Nat) (found : List Modifier) (isGenerator : Bool) (key : Node)
    (isComputed : Bool) : Parser Node := do
  allowModifiers ["async"] .modifierHere found
  let value ← methodValue .method (Modifier.has "async" found) isGenerator false
  node (.property .value true false isComputed) start [key, value]

/-- Reads the value behind the key of a property. -/
def valueProperty (start : Nat) (key : Node) (isComputed : Bool) : Parser Node := do
  expectSymbol ":"
  let value ← assignment
  node (.property .value false false isComputed) start [key, value]

/-- Reads what is behind a key that uses a name as well. A default makes the literal a pattern, or
else it is complained about. -/
def shorthandProperty (start : Nat) (key : Node) (name : String) : Parser Node := do
  let value : Node := .mk (.reference name) key.span []
  if ← eatSymbol "=" then
    let default ← allowingIn assignment
    modify fun s => { s with covers := (start, ⟨.coverDefault, start⟩) :: s.covers }
    node (.property .value false true false) start [key, value, default]
  else node (.property .value false true false) start [key, value]

/-- Reads a property from behind its key. -/
def propertyRest (start : Nat) (found : List Modifier) (isGenerator isName : Bool) (key : Node)
    (isComputed : Bool) : Parser Node := do
  if isGenerator || (← atSymbol "(") || (← atSymbol "<") then
    return ← methodProperty start found isGenerator key isComputed
  noModifiers found
  match key.kind with
  | .word name =>
    if isName && !(← atSymbol ":") then shorthandProperty start key name
    else valueProperty start key isComputed
  | _ => valueProperty start key isComputed

/-- Reads a property with a key, which may be a name that is used. -/
def keyedProperty (start : Nat) (found : List Modifier) : Parser Node := do
  let isGenerator ← eatSymbol "*"
  let first ← token
  let isName := mayName (← around) first.lexeme
  let (key, isComputed) ← propertyKey
  propertyRest start found isGenerator isName key isComputed

/-- Reads a property of an object literal. -/
def objectProperty : Parser Node := do
  if ← atSymbol "..." then return ← spread
  let start ← startOffset
  let found ← modifiers false false
  if ← passAccessorWord "get" then return ← accessorProperty start found .getter .getter
  if ← passAccessorWord "set" then return ← accessorProperty start found .setter .setter
  keyedProperty start found

/-- The rule for an object literal. -/
def objectLiteralRule : Parser Node := do
  let start ← startOffset
  expectSymbol "\x7b"
  let (properties, comma) ← allowingIn (commaList "\x7d" objectProperty)
  rememberComma start comma
  expectSymbol "\x7d"
  node .object start properties

end JsxTidy.Parser
