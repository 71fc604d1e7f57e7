import JsxTidy.Printer.Class

/-!
# Writing programs: types

Types keep the parentheses of their source. Members of type literals and interfaces stand one
below the other.
-/

namespace JsxTidy.Printer

open Syntax

/-- Writes a member of a type literal or interface with its comments on lines of their own. -/
def typeMember (node : Node) : Printer Unit := do
  commentsAt node.span.start
  indentation
  part node
  endStatement

/-- Writes the members of a type literal or interface in braces. -/
def typeMembers (members : List Node) : Printer Unit :=
  braces members.isEmpty (members.forM typeMember)

/-- Writes the result of a function type. -/
def arrowResult (result : Node) : Printer Unit := do
  put " => "
  part result

/-- Writes a type that a module exports. -/
def importType (source options qualifier arguments : Node) : Printer Unit := do
  put "import("
  part source
  optionally options do
    put ", "
    part options
  putChar ')'
  optionally qualifier do
    putChar '.'
    part qualifier
  part arguments

/-- The spelling of a mapped type's modifier. -/
def modifierText (modifier : MappedModifier) (text : String) : String :=
  match modifier with
  | .unchanged => ""
  | .plain => text
  | .plus => "+" ++ text
  | .minus => "-" ++ text

/-- Writes a mapped type. -/
def mappedType (optionality readonlyness : MappedModifier) (name bound renamed type : Node) :
    Printer Unit := do
  put "\x7b "
  put (modifierText readonlyness "readonly ")
  putChar '['
  part name
  put " in "
  part bound
  optionally renamed do
    put " as "
    part renamed
  putChar ']'
  put (modifierText optionality "?")
  putChar ' '
  declaredType type
  put " \x7d"

/-- Writes what a function says of its subject. -/
def typePredicate (asserts : Bool) (subject type : Node) : Printer Unit := do
  putIf asserts "asserts "
  part subject
  optionally type do
    put " is "
    part type

/-- Writes the parameters of a type. A single one has a comma behind it. -/
def typeParameters (parameters : List Node) : Printer Unit := do
  putChar '<'
  if 2 ≤ parameters.length then lines part parameters
  else
    parameters.forM part
    putChar ','
  putChar '>'

/-- Writes a parameter of a type. -/
def typeParameter (isConst isIn isOut : Bool) (name bound default : Node) : Printer Unit := do
  putIf isConst "const "
  putIf isIn "in "
  putIf isOut "out "
  part name
  optionally bound do
    put " extends "
    part bound
  optionally default do
    put " = "
    part default

/-- Writes a signature from its type parameters on. -/
def signatureRest (generics this parameters result : Node) : Printer Unit := do
  part generics
  parameterList this parameters
  declaredType result

/-- Writes a literal that stands as a type. A number keeps its spelling. -/
def literalType (literal : Node) : Printer Unit :=
  match literal with
  | .mk (.number raw) _ _ => put raw
  | _ => child .piece literal

/-- Writes the name of a parameter without its place in a pattern. -/
def indexSignature (isReadonly : Bool) (parts : List Node) : Printer Unit := do
  match parts with
  | [name, nameType, type] =>
    putIf isReadonly "readonly "
    putChar '['
    part name
    declaredType nameType
    putChar ']'
    declaredType type
  | _ => pure ()

/-- Writes a member of a type literal or interface. -/
def signature (kind : Kind) (parts : List Node) : Printer Unit :=
  match kind, parts with
  | .propertySignature isReadonly isOptional isComputed, [keyNode, type] => do
    putIf isReadonly "readonly "
    key isComputed keyNode
    putIf isOptional "?"
    declaredType type
  | .callSignature, [generics, this, parameters, result] =>
    signatureRest generics this parameters result
  | .constructSignature, [generics, parameters, result] => do
    put "new "
    signatureRest generics .none parameters result
  | .methodSignature role isOptional isComputed, [keyNode, generics, this, parameters, result] => do
    put (roleWord role)
    key isComputed keyNode
    putIf isOptional "?"
    signatureRest generics this parameters result
  | .indexSignature isReadonly _, parts => indexSignature isReadonly parts
  | _, _ => pure ()

/-- Writes a type or a part of one. -/
def type (kind : Kind) (parts : List Node) : Printer Unit :=
  match kind, parts with
  | .keywordType name, _ => put name
  | .thisType, _ => put "this"
  | .arrayType, [element] => do
    part element
    put "[]"
  | .tupleType, elements => do
    putChar '['
    commaSeparated part elements
    putChar ']'
  | .namedTupleMember isOptional, [label, element] => do
    part label
    putIf isOptional "?"
    declaredType element
  | .optionalType, [inner] => do
    part inner
    putChar '?'
  | .restType, [inner] => do
    put "..."
    part inner
  | .conditionalType, [checked, .mk .conditionalParts _ [bound, first], second] => do
    part checked
    put " extends "
    part bound
    put " ? "
    part first
    put " : "
    part second
  | .functionType, [generics, this, parameters, result] => do
    part generics
    parameterList this parameters
    arrowResult result
  | .constructorType isAbstract, [generics, parameters, result] => do
    putIf isAbstract "abstract "
    put "new "
    part generics
    parameterList .none parameters
    arrowResult result
  | .importType, [source, options, qualifier, arguments] =>
    importType source options qualifier arguments
  | .indexedType, [object, index] => do
    part object
    putChar '['
    part index
    putChar ']'
  | .inferType, [parameter] => do
    put "infer "
    part parameter
  | .unionType, members => separated (put " | ") part members
  | .intersectionType, members => separated (put " & ") part members
  | .literalType, [literal] => literalType literal
  | .templateType, [.mk .list _ quasis, .mk .list _ types] => templateLiteral part quasis types
  | .mappedType optionality readonlyness, [name, bound, renamed, inner] =>
    mappedType optionality readonlyness name bound renamed inner
  | .typePredicate asserts, [subject, inner] => typePredicate asserts subject inner
  | .typeOperator word, [inner] => do
    put (word ++ " ")
    part inner
  | .typeReference, [name, arguments] => do
    part name
    part arguments
  | .typeQuery, [name, arguments] => do
    put "typeof "
    part name
    part arguments
  | .parenType, [inner] => wrapped true (part inner)
  | .markedType mark before, [inner] => do
    putIf before mark
    part inner
    putIf (!before) mark
  | .qualifiedName, [left, right] => do
    part left
    putChar '.'
    part right
  | .typeLiteral, members => typeMembers members
  | .typeParameters, parameters => typeParameters parameters
  | .typeParameter isConst isIn isOut, [name, bound, default] =>
    typeParameter isConst isIn isOut name bound default
  | .typeArguments, types => do
    putChar '<'
    commaSeparated part types
    putChar '>'
  | kind, parts => signature kind parts

end JsxTidy.Printer
