import JsxTidy.Printer.Statement

/-!
# Writing programs: declarations and modules
-/

namespace JsxTidy.Printer

open Syntax

/-- Writes the name of a namespace with the names nested in it, and its block. -/
def namespaceFrom : Node → Printer Unit
  | .mk (.namespaceDeclaration ..) _ [name, .mk (.moduleScope _) _ [inner]] => do
    part name
    match inner with
    | .mk (.namespaceDeclaration ..) _ _ =>
      putChar '.'
      namespaceFrom inner
    | _ =>
      putChar ' '
      part inner
  | .mk (.namespaceDeclaration ..) _ (name :: _) => do
    part name
    putChar ';'
  | _ => pure ()

/-- Writes a member of an enumeration. -/
def enumMember (isComputed : Bool) (name value : Node) : Printer Unit := do
  putIf isComputed "["
  part name
  putIf isComputed "]"
  optionally value do
    put " = "
    part value

/-- Writes the members of an enumeration, each with its comments on lines of their own. -/
def enumMembers : List Node → Printer Unit
  | [] => pure ()
  | member :: rest => do
    commentsAt member.span.start
    indentation
    part member
    putIf (!rest.isEmpty) ","
    newline
    enumMembers rest

/-- Writes an interface. -/
def interface (name : Node) (parts : List Node) : Printer Unit := do
  match parts with
  | [generics, .mk .list _ parents, .mk .interfaceBody _ members] =>
    put "interface "
    part name
    part generics
    if !parents.isEmpty then
      put " extends "
      commaSeparated part parents
    putChar ' '
    typeMembers members
  | _ => pure ()

/-- Writes a declaration of types or values that only types know. -/
def typedDeclaration (node : Node) : Printer Unit :=
  match node with
  | .mk (.typeAlias isDeclare) _ [name, .mk .aliasParts _ [generics, inner]] => do
    putIf isDeclare "declare "
    put "type "
    part name
    part generics
    put " = "
    part inner
  | .mk (.interfaceDeclaration _) _ [name, .mk .interfaceParts _ parts] => interface name parts
  | .mk (.enumDeclaration isConst isDeclare) _ [name, .mk .enumBody _ members] => do
    indentation
    putIf isDeclare "declare "
    putIf isConst "const "
    put "enum "
    part name
    putChar ' '
    braces members.isEmpty (enumMembers members)
  | .mk (.namespaceDeclaration word isDeclare) _ _ => do
    putIf isDeclare "declare "
    put (match word with
      | .moduleWord => "module "
      | .namespaceWord => "namespace ")
    namespaceFrom node
  | .mk (.globalDeclaration isDeclare _) _ [inner] => do
    putIf isDeclare "declare "
    put "global "
    part inner
  | .mk (.importEquals _) _ [name, source] => do
    put "import "
    part name
    put " = "
    part source
  | _ => pure ()

/-- Whether a declaration is a quiet function. -/
def isQuiet (node : Node) : Bool :=
  match node.kind with
  | .function shape => shape.quiet
  | _ => false

/-- Writes a comment that says of a declaration that it is a quiet function, if it is one. -/
def quietLine (node : Node) : Printer Unit := do
  if isQuiet node then
    indentation
    put quietComment
    newline

/-- Writes a declaration with the end of its statement. -/
def declaration (node : Node) : Printer Unit := do
  match node with
  | .mk (.function shape) _ parts =>
    spaceBeforeWord
    function shape parts
    newline
  | .mk (.classLike shape) _ parts =>
    classLike shape parts
    newline
  | .mk (.variables word isDeclare) _ declarators =>
    variableDeclaration .loose word isDeclare declarators
    endStatement
  | .mk kind _ _ =>
    typedDeclaration node
    match kind with
    | .typeAlias _ | .importEquals _ => endStatement
    | _ => newline

/-- Writes a declaration that is a statement. -/
def declarationStatement (node : Node) : Printer Unit := do
  commentsAt node.span.start
  quietLine node
  indentation
  declaration node

/-- The name that a name node holds, whether a word or a string. -/
def nameText : Node → String
  | .mk (.word name) _ _ => name
  | .mk (.reference name) _ _ => name
  | .mk (.binding name) _ _ => name
  | .mk (.string value _) _ _ => value
  | _ => ""

/-- Writes a name, and another one behind `as` if it differs. -/
def renamed (isType : Bool) (first second : Node) : Printer Unit := do
  putIf isType "type "
  part first
  if nameText first != nameText second then
    put " as "
    part second

/-- Writes specifiers in braces. -/
def specifiers (nodes : List Node) : Printer Unit := do
  if nodes.isEmpty then put "\x7b\x7d"
  else
    put "\x7b "
    commaSeparated part nodes
    put " \x7d"

/-- Whether a specifier stands in braces. -/
def isInBraces (node : Node) : Bool :=
  match node.kind with
  | .importSpecifier _ => true
  | _ => false

/-- Writes what an import brings in. -/
def importClause (nodes : List Node) : Printer Unit := do
  let (inBraces, others) := nodes.partition isInBraces
  commaSeparated part others
  putIf (!others.isEmpty && !inBraces.isEmpty) ", "
  if !inBraces.isEmpty || others.isEmpty then specifiers inBraces

/-- Writes attributes, if there are any. -/
def attributesBehind (node : Node) : Printer Unit :=
  optionally node do
    putChar ' '
    part node

/-- Writes an import. -/
def importDeclaration (isType : Bool) (phase : ImportPhase) (clause source attributes : Node) :
    Printer Unit := do
  put "import "
  putIf isType "type "
  match phase with
  | .evaluation => pure ()
  | .deferred => put "defer "
  | .source => put "source "
  optionally clause do
    importClause clause.parts
    put " from "
  part source
  attributesBehind attributes
  endStatement

/-- Writes a default export. -/
def exportDefault (exported : Node) : Printer Unit := do
  quietLine exported
  indentation
  put "export default "
  match exported with
  | .mk (.function shape) _ parts =>
    if shape.form == .expression then expressionExport else
      function shape parts
      newline
  | .mk (.classLike shape) _ parts =>
    if shape.isDeclaration then
      classLike shape parts
      newline
    else expressionExport
  | .mk (.interfaceDeclaration _) _ _ => typedDeclaration exported
  | _ => expressionExport
where
  /-- Writes an exported expression with the end of its statement. -/
  expressionExport : Printer Unit := do
    modify fun s => { s with exportMark := some s.length }
    child .piece exported
    endStatement

/-- Writes an export of names. Its attributes are lost. -/
def exportNames (isType : Bool) (nodes : List Node) (source : Node) : Printer Unit := do
  indentation
  put "export "
  putIf isType "type "
  specifiers nodes
  optionally source do
    put " from "
    part source
  endStatement

/-- Writes an item of a module. -/
def moduleItem (kind : Kind) (parts : List Node) : Printer Unit :=
  match kind, parts with
  | .importDeclaration isType phase, [clause, source, attributes] => do
    indentation
    importDeclaration isType phase clause source attributes
  | .exportAll isType, [exported, source, attributes] => do
    indentation
    put "export "
    putIf isType "type "
    putChar '*'
    optionally exported do
      put " as "
      part exported
    put " from "
    part source
    attributesBehind attributes
    endStatement
  | .exportDefault, [exported] => exportDefault exported
  | .exportNamed isType, [inner, names, source, _] =>
    if inner.isPresent then do
      quietLine inner
      indentation
      put "export "
      declaration inner
    else exportNames isType names.parts source
  | .exportAssignment, [e] => do
    indentation
    put "export = "
    part e
    endStatement
  | .namespaceExport, [name] => do
    indentation
    put "export as namespace "
    part name
    endStatement
  | _, _ => pure ()

/-- Writes a part of a module item. -/
def modulePart (kind : Kind) (span : Span) (parts : List Node) : Printer Unit :=
  match kind, parts with
  | .importSpecifier isType, [imported, inner] => renamed isType imported inner
  | .importDefault, [inner] => part inner
  | .importNamespace, [inner] => do
    put "* as "
    part inner
  | .attributes keyword, nodes => do
    put (keyword ++ " ")
    specifiers nodes
  | .attribute, [name, value] => do
    part name
    put ": "
    part value
  | .exportSpecifier isType, [inner, exported] => do
    if ← hasComments span.start then
      commentsAt span.start
      indentation
    renamed isType inner exported
  | .externalModule, [source] => do
    put "require("
    part source
    putChar ')'
  | .moduleBlock, [.mk .list _ directives, .mk .list _ statements] =>
    braces (directives.isEmpty && statements.isEmpty) (statementList part directives statements)
  | .parent, [e, arguments] => do
    child (.within .call) e
    part arguments
  | .enumMember isComputed, [name, value] => enumMember isComputed name value
  | _, _ => pure ()

end JsxTidy.Printer
