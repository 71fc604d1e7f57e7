import JsxTidy.Printer.Function

/-!
# Writing programs: classes
-/

namespace JsxTidy.Printer

open Syntax

/-- Writes a class. An anonymous class loses its type parameters. -/
def classBody (shape : ClassShape) (decorated : List Node) (name : Node) (parts : List Node) :
    Printer Unit := do
  decorators decorated
  spaceBeforeWord
  putIf shape.isDeclare "declare "
  putIf shape.isAbstract "abstract "
  put "class"
  match parts with
  | [generics, heritage, arguments, .mk .list _ interfaces, body] =>
    if name.isPresent then
      putChar ' '
      part name
      part generics
    optionally heritage do
      put " extends "
      child (.within .afterUnary) heritage
      part arguments
    if !interfaces.isEmpty then
      put " implements "
      commaSeparated part interfaces
    putChar ' '
    part body
  | _ => pure ()

/-- Writes a class. One that is a value stands in parentheses where a statement begins. -/
def classLike (shape : ClassShape) (parts : List Node) : Printer Unit := do
  match parts with
  | [.mk .list _ decorated, name, .mk .classParts _ inner] =>
    let atStart := (← isHere (← get).statementMark) || (← isHere (← get).exportMark)
    wrapped (!shape.isDeclaration && atStart) (classBody shape decorated name inner)
  | _ => pure ()

/-- Writes a member of a class with its comments on lines of their own. -/
def classMember (node : Node) : Printer Unit := do
  commentsAt node.span.start
  indentation
  part node
  match node.kind with
  | .staticBlock | .method .. => newline
  | _ => endStatement

/-- Writes the modifiers of a method or field. -/
def memberModifiers (shape : MemberShape) : Printer Unit := do
  if shape.isDeclare then word "declare "
  access shape
  if shape.isAbstract then word "abstract "
  if shape.isStatic then word "static "

/-- The word of an accessor. -/
def roleWord : MethodRole → String
  | .getter => "get "
  | .setter => "set "
  | _ => ""

/-- Writes a method. -/
def method (role : MethodRole) (shape : MemberShape) (decorated : List Node)
    (keyNode function : Node) : Printer Unit := do
  decorators decorated
  memberModifiers shape
  put (roleWord role)
  methodRest shape.isComputed shape.isOptional keyNode function ";"

/-- Writes a field from its key on. -/
def fieldRest (shape : MemberShape) (keyNode type value : Node) : Printer Unit := do
  key shape.isComputed keyNode
  putIf shape.isOptional "?"
  declaredType type
  initializer value

/-- Writes a field. -/
def field (shape : MemberShape) (decorated : List Node) (keyNode type value : Node) :
    Printer Unit := do
  decorators decorated
  memberModifiers shape
  if shape.isReadonly then word "readonly "
  fieldRest shape keyNode type value

/-- Writes a field with accessors. -/
def accessor (shape : MemberShape) (decorated : List Node) (keyNode type value : Node) :
    Printer Unit := do
  decorators decorated
  if shape.isAbstract then word "abstract "
  access shape
  if shape.isStatic then word "static "
  put "accessor "
  fieldRest { shape with isOptional := false } keyNode type value

/-- Writes a part of a class. -/
def classPart (kind : Kind) (parts : List Node) : Printer Unit :=
  match kind, parts with
  | .classLike shape, parts => classLike shape parts
  | .classBody, members => braces members.isEmpty (members.forM classMember)
  | .method role shape, [.mk .list _ decorated, keyNode, function] =>
    method role shape decorated keyNode function
  | .field shape, [.mk .list _ decorated, keyNode, type, value] =>
    field shape decorated keyNode type value
  | .accessor shape, [.mk .list _ decorated, keyNode, type, value] =>
    accessor shape decorated keyNode type value
  | .staticBlock, statements => do
    put "static "
    braces statements.isEmpty (statements.forM part)
  | .implemented, parts => parts.forM part
  | .decorator, [e] => decorator e
  | _, _ => pure ()

end JsxTidy.Printer
