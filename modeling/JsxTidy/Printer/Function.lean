import JsxTidy.Printer.Comment
import JsxTidy.Printer.Literal
import JsxTidy.Printer.Pattern

/-!
# Writing programs: functions

Functions, their parameters and bodies. A function that is a value stands in parentheses where it
would otherwise be read as a statement.
-/

namespace JsxTidy.Printer

open Syntax

/-- Writes a string that stands as the first statement, where it must not become a directive. -/
def firstString? : List Node → List Node → Option (Node × List Node)
  | [], .mk .expressionStatement _ [e] :: rest =>
    match e.withoutParens with
    | .mk (.string value lone) span parts => some (.mk (.string value lone) span parts, rest)
    | _ => none
  | _, _ => none

/-- Writes directives, and each of some statements by `write`. -/
def statementList (write : Node → Printer Unit) (directives statements : List Node) :
    Printer Unit := do
  directives.forM part
  match firstString? directives statements with
  | some (text, rest) =>
    wrapped true (part text)
    endStatement
    rest.forM write
  | none => statements.forM write

/-- Writes the body of a function. Comments in front of its closing brace belong to it. -/
def functionBody (span : Span) (directives statements : List Node) : Printer Unit := do
  let ending := span.stop - 1
  let hasEnding ← hasComments ending
  braces (directives.isEmpty && statements.isEmpty && !hasEnding) do
    statementList part directives statements
    commentsAt ending

/-- Writes a list of decorators, each with a space behind it. -/
def decorators (nodes : List Node) : Printer Unit :=
  nodes.forM fun node => do
    part node
    putChar ' '

/-- Whether a decorator's expression needs parentheses. -/
def decoratorNeedsParens : Node → Bool
  | .mk (.reference _) _ _ => false
  | .mk (.member _) _ [object, .mk (.word _) _ _] => decoratorNeedsParens object
  | .mk (.call ..) _ [callee, _, _] => decoratorNeedsParens callee
  | _ => true

/-- Writes a decorator. -/
def decorator (e : Node) : Printer Unit := do
  putChar '@'
  wrapped (decoratorNeedsParens e) (part e)

/-- The word for who may use a member. -/
def accessWord : Access → String
  | .publicAccess => "public"
  | .protectedAccess => "protected"
  | .privateAccess => "private"

/-- Writes who may use a member, if that is said. -/
def access (shape : MemberShape) : Printer Unit := do
  match shape.access with
  | some a => word (accessWord a ++ " ")
  | none => pure ()

/-- Writes a parameter. -/
def parameter (shape : MemberShape) (decorated : List Node) (pattern type value : Node) :
    Printer Unit := do
  decorators decorated
  access shape
  putIf shape.isOverride "override "
  putIf shape.isReadonly "readonly "
  part pattern
  putIf shape.isOptional "?"
  declaredType type
  initializer value

/-- Writes parameters in parentheses, the type of `this` first. -/
def parameterList (this : Node) (parameters : Node) : Printer Unit := do
  let all := if this.isPresent then this :: parameters.parts else parameters.parts
  putChar '('
  commaSeparated part all
  putChar ')'

/-- Writes a function from its type parameters on. -/
def functionRest (generics this parameters result body : Node) : Printer Unit := do
  optionally generics (part generics)
  parameterList this parameters
  declaredType result
  if body.isPresent then
    putChar ' '
    part body
  else putChar ';'

/-- The comment that says that a function has no side effects. -/
def quietComment : String :=
  "/* @__NO_SIDE_EFFECTS__ */"

/-- Writes a function that is not a method. -/
def function (shape : FunctionShape) (parts : List Node) : Printer Unit := do
  match parts with
  | [name, generics, this, parameters, result, body] =>
    putIf shape.isDeclare "declare "
    putIf shape.isAsync "async "
    put "function"
    putIf shape.isGenerator "* "
    optionally name do
      spaceBeforeWord
      part name
    functionRest generics this parameters result body
  | _ => pure ()

/-- Writes a function that is a value. With `kept`, its parentheses stay. -/
def functionValue (kept : Bool) (shape : FunctionShape) (parts : List Node) : Printer Unit := do
  let atStart := (← isHere (← get).statementMark) || (← isHere (← get).exportMark)
  wrapped (kept || atStart) do
    putIf shape.quiet (quietComment ++ " ")
    spaceBeforeWord
    function shape parts

/-- Writes an arrow function. With `kept`, its parentheses stay. -/
def arrow (place : Place) (kept : Bool) (shape : ArrowShape) (parts : List Node) :
    Printer Unit := do
  match parts with
  | [generics, parameters, result, body] =>
    wrapped (kept || place.above.atLeast .assign) do
      putIf shape.quiet (quietComment ++ " ")
      if shape.isAsync then word "async "
      optionally generics (part generics)
      parameterList .none parameters
      declaredType result
      put " => "
      match shape.bodyIsExpression, body with
      | true, .mk .functionBody _ [_, .mk .list _ [.mk .expressionStatement _ [e]]] =>
        modify fun s => { s with arrowMark := some s.length }
        child (place.inside (kept || place.above.atLeast .assign) |>.keep .comma) e
      | _, _ => part body
  | _ => pure ()

/-- Writes a method from behind its modifiers. -/
def methodRest (isComputed isOptional : Bool) (keyNode function : Node) (ending : String) :
    Printer Unit := do
  match function with
  | .mk (.function shape) _ [_, generics, this, parameters, result, body] =>
    if shape.isAsync then word "async "
    putIf shape.isGenerator "*"
    key isComputed keyNode
    putIf isOptional "?"
    optionally generics (part generics)
    parameterList this parameters
    declaredType result
    if body.isPresent then
      putChar ' '
      part body
    else put ending
  | _ => pure ()

end JsxTidy.Printer
