import JsxTidy.Printer.Basic

/-!
# Writing programs: patterns and targets

Binding patterns stand on one line with spaces inside their braces, assignment targets without.
-/

namespace JsxTidy.Printer

open Syntax

/-- Writes a key, in brackets if it is computed. -/
def key (isComputed : Bool) (node : Node) : Printer Unit := do
  putIf isComputed "["
  child .piece node
  putIf isComputed "]"

/-- Writes what stands behind an equals sign, if there is anything. -/
def initializer (value : Node) : Printer Unit :=
  optionally value do
    put " = "
    child .piece value

/-- Writes a type behind a colon, if there is one. -/
def declaredType (type : Node) : Printer Unit :=
  optionally type do
    put ": "
    part type

/-- The name that a pattern binds by itself, with or without a default. -/
def boundName? : Node → Option String
  | .mk (.binding name) _ _ => some name
  | .mk .patternDefault _ [.mk (.binding name) _ _, _] => some name
  | _ => none

/-- Writes a property of an object pattern, without its key where the name says the same. -/
def patternProperty (isComputed : Bool) (keyNode pattern : Node) : Printer Unit := do
  let isShort := match keyNode with
    | .mk (.word name) _ _ => !isComputed && boundName? pattern == some name
    | _ => false
  if !isShort then
    key isComputed keyNode
    put ": "
  part pattern

/-- Writes an object pattern. -/
def objectPattern (properties : List Node) (rest : Node) : Printer Unit := do
  let all := if rest.isPresent then properties ++ [rest] else properties
  if all.isEmpty then put "\x7b\x7d"
  else
    put "\x7b "
    commaSeparated part all
    put " \x7d"

/-- Whether a list of elements ends in a hole. -/
def endsInHole (elements : List Node) : Bool :=
  match elements.getLast? with
  | some (.mk .hole _ _) => true
  | _ => false

/-- Writes an array pattern. A hole at its end keeps its comma. -/
def arrayPattern (elements : List Node) (rest : Node) : Printer Unit := do
  putChar '['
  commaSeparated part elements
  if !elements.isEmpty && (endsInHole elements || rest.isPresent) then putChar ','
  if rest.isPresent then
    if !elements.isEmpty then putChar ' '
    part rest
  putChar ']'

/-- Whether a target is a reference to a given name. -/
def isReferenceTo (name : String) : Node → Bool
  | .mk (.reference other) _ _ => other == name
  | _ => false

/-- Writes a property of an object target. -/
def targetProperty (isComputed : Bool) (keyNode target : Node) : Printer Unit := do
  let isShort := match keyNode with
    | .mk (.word name) _ _ => !isComputed && isReferenceTo name target
    | _ => false
  if !isShort then
    key isComputed keyNode
    put ": "
  child .piece target

/-- Writes a pattern or a part of one. -/
def pattern (kind : Kind) (parts : List Node) : Printer Unit :=
  match kind, parts with
  | .objectPattern, [.mk .list _ properties, rest] => objectPattern properties rest
  | .patternProperty _ isComputed, [keyNode, inner] => patternProperty isComputed keyNode inner
  | .arrayPattern, [.mk .list _ elements, rest] => arrayPattern elements rest
  | .patternDefault, [inner, value] => do
    part inner
    initializer value
  | .restElement, [inner] => do
    put "..."
    part inner
  | .objectTarget, parts => do
    putChar '\x7b'
    commaSeparated part parts
    putChar '\x7d'
  | .targetName, [name, value] => do
    part name
    initializer value
  | .targetProperty isComputed, [keyNode, target] => targetProperty isComputed keyNode target
  | .arrayTarget, parts => do
    putChar '['
    commaSeparated (child .piece) parts
    if endsInHole parts then putChar ','
    putChar ']'
  | .targetDefault, [target, value] => do
    child .piece target
    initializer value
  | .targetRest, [target] => do
    put "..."
    child .piece target
  | _, _ => pure ()

end JsxTidy.Printer
