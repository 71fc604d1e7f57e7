import JsxTidy.Parser.Statement

/-!
# Reading programs: imports and exports
-/

namespace JsxTidy.Parser

open Syntax

/-- Reads a name under which a module exports something: a word or a string. -/
def exportName : Parser Node := do
  match ← lexeme with
  | .string _ _ lone =>
    if lone then complainAt .exportLoneSurrogate (← startOffset)
    literal
  | _ => wordName

/-- Whether a name under which a module exports something stands here. -/
def atExportName : Parser Bool := do
  match ← lexeme with
  | .word _ | .string .. => return true
  | _ => return false

/-- A specifier as it is written: its outer name, its inner name, and whether it is of a type. -/
structure SpecifierNames where
  first : Node
  second : Option Node
  isType : Bool

/-- Reads the other name of a specifier behind `as`, if there is one. -/
def renamed (first : Node) (isType : Bool) : Parser SpecifierNames := do
  if ← eatWord "as" then
    let second ← exportName
    return ⟨first, some second, isType⟩
  else return ⟨first, none, isType⟩

/-- Reads the rest of a specifier that begins with `type` and `as`, of which both may be names. -/
def namesBehindAs (name firstAs : Node) : Parser SpecifierNames := do
  if ← atWord "as" then
    let secondAs ← wordName
    if ← atExportName then
      let last ← exportName
      return ⟨firstAs, some last, true⟩
    else return ⟨name, some secondAs, false⟩
  else if ← atExportName then
    let last ← exportName
    return ⟨name, some last, false⟩
  else return ⟨firstAs, none, true⟩

/-- Reads the rest of a specifier that begins with `type`, which may be a name. -/
def namesBehindType (name : Node) : Parser SpecifierNames := do
  if ← atWord "as" then
    let firstAs ← wordName
    namesBehindAs name firstAs
  else if ← atExportName then
    let inner ← exportName
    renamed inner true
  else return ⟨name, none, false⟩

/-- Reads the names of a specifier, of which `type` and `as` may be names themselves. -/
def specifierNames : Parser SpecifierNames := do
  let startsWithType ← atWord "type"
  let name ← exportName
  if startsWithType then namesBehindType name else renamed name false

/-- Makes the local name of an import. -/
def asBinding (name : Node) : Parser Node := do
  match name with
  | .mk (.word text) span _ =>
    if Words.isReserved text then failAt (.reservedWord text) span.start
    return .mk (.binding text) span []
  | other => failAt .identifierExpected other.span.start

/-- Reads a specifier of an import. -/
def importSpecifier (ofType : Bool) : Parser Node := do
  let start ← startOffset
  let names ← specifierNames
  if ofType && names.isType then complainAt .typeModifierTwice start
  let inner ← asBinding (names.second.getD names.first)
  node (.importSpecifier names.isType) start [names.first, inner]

/-- The word that the attributes of an import begin with, if the token is one. -/
def attributesWord? (t : Token) : Option String :=
  match t.lexeme with
  | .word "with" => some "with"
  | .word "assert" => if t.onNewLine then none else some "assert"
  | _ => none

/-- Reads one attribute of an import. -/
def importAttribute : Parser Node := do
  let start ← startOffset
  let key ← exportName
  expectSymbol ":"
  let value ← stringLiteral
  node .attribute start [key, value]

/-- The key of an attribute. -/
def attributeKey (entry : Node) : String :=
  (entry.parts.head?.bind (keyName? · false)).getD ""

/-- Complains about attributes whose keys come up again. -/
def checkKeys : List Node → Parser Unit
  | entry :: rest => do
    let key := attributeKey entry
    if (rest.map attributeKey).contains key then complainAt (.redeclared key) entry.span.start
    checkKeys rest
  | [] => return ()

/-- Reads the attributes of an import in their braces. -/
def attributesFrom (start : Nat) (keyword : String) : Parser Node := do
  advance
  expectSymbol "\x7b"
  let (entries, _) ← commaList "\x7d" importAttribute
  expectSymbol "\x7d"
  checkKeys entries
  node (.attributes keyword) start entries

/-- Reads the attributes of an import or export, if there are any. -/
def importAttributes : Parser Node := do
  let t ← token
  match attributesWord? t with
  | some keyword => attributesFrom t.span.start keyword
  | none => return .none

/-- Ends an import from behind its specifiers. -/
def importRest (start : Nat) (isType : Bool) (phase : ImportPhase) (specifiers : Node) :
    Parser Node := do
  let source ← stringLiteral
  let attributes ← importAttributes
  semicolon
  node (.importDeclaration isType phase) start [specifiers, source, attributes]

/-- Reads all that a module exports under one name. -/
def importNamespace : Parser Node := do
  let start ← startOffset
  advance
  expectWord "as"
  let name ← bindingName
  node .importNamespace start [name]

/-- Reads the specifiers of an import in braces. -/
def importSpecifiers (isType : Bool) : Parser (List Node) := do
  expectSymbol "\x7b"
  let (specifiers, _) ← commaList "\x7d" (importSpecifier isType)
  expectSymbol "\x7d"
  return specifiers

/-- Reads the specifiers of an import in braces, or its namespace. -/
def importBindings (isType : Bool) : Parser (List Node) := do
  if ← atSymbol "*" then
    let whole ← importNamespace
    return [whole]
  else importSpecifiers isType

/-- Whether specifiers or a namespace stand here. -/
def opensBindings : Parser Bool := do
  return (← atSymbol "*") || (← atSymbol "\x7b")

/-- Reads a name that is declared, if one stands here. -/
def bindingName? : Parser (Option Node) := do
  if mayBind (← lexeme) then
    let name ← bindingName
    return some name
  else return none

/-- Whether `type`, which has been read, makes an import one of types. -/
def typeIsModifier : Parser Bool := do
  let isName := mayBind (← lexeme)
  let mayBeType ←
    if ← atWord "from" then nextToken fun t => t.lexeme.isWord "from" || t.lexeme.isSymbol "="
    else pure true
  return mayBeType && (isName || (← opensBindings))

/-- Whether `defer` or `source`, which has been read, gives an import its phase. -/
def phaseIsModifier (isDefer : Bool) : Parser Bool := do
  if ← atWord "from" then
    nextToken fun t => match t.lexeme with
      | .string .. => false
      | _ => true
  else
    let isName := mayBind (← lexeme)
    return isName || (isDefer && (← opensBindings))

/-- What an import says before its specifiers. -/
structure ImportHead where
  isType : Bool
  phase : ImportPhase
  name : Option Node

/-- What a word that has been read as a name says of an import, if it turns out to be no name. -/
def importModifier? (word : String) : Parser (Option (Bool × ImportPhase)) := do
  if word == "type" then return if ← typeIsModifier then some (true, .evaluation) else none
  if word == "defer" then return if ← phaseIsModifier true then some (false, .deferred) else none
  if word == "source" then return if ← phaseIsModifier false then some (false, .source) else none
  return none

/-- The text of a name that is declared. -/
def boundText (name : Option Node) : String :=
  match name with
  | some (.mk (.binding text) _ _) => text
  | _ => ""

/-- Reads what an import says before its specifiers. -/
def importHead : Parser ImportHead := do
  let first ← bindingName?
  match ← importModifier? (boundText first) with
  | some (isType, phase) =>
    let name ← bindingName?
    return { isType, phase, name }
  | none => return { isType := false, phase := .evaluation, name := first }

/-- Reads where an import comes from, behind its specifiers. -/
def importSource (start : Nat) (head : ImportHead) (specifiers : List Node) : Parser Node := do
  expectWord "from"
  importRest start head.isType head.phase (.list specifiers)

/-- Reads the other specifiers of an import with a default, behind a comma. -/
def importOthers (isType : Bool) (name : Node) : Parser (List Node) := do
  if !(← eatSymbol ",") then return []
  if !(← opensBindings) then unexpected
  if isType then complainAt .typeImportBoth name.span.start
  importBindings isType

/-- Reads the rest of an import that declares a name first. -/
def importNamed (start : Nat) (head : ImportHead) (name : Node) : Parser Node := do
  if head.phase == .evaluation && !(← atSymbol ",") && !(← atWord "from") then
    return ← importEqualsRest start head.isType name
  let others ← importOthers head.isType name
  importSource start head (.mk .importDefault name.span [name] :: others)

/-- Reads the rest of an import that declares no name first. -/
def importUnnamed (start : Nat) (head : ImportHead) : Parser Node := do
  let bindings ← if ← opensBindings then importBindings head.isType else pure []
  importSource start head bindings

/-- Reads an import that is a statement, from behind its keyword. -/
def importFrom (start : Nat) : Parser Node := do
  match ← lexeme with
  | .string .. => importRest start false .evaluation .none
  | _ =>
    let head ← importHead
    match head.name with
    | some name => importNamed start head name
    | none => importUnnamed start head

/-- Reads what `import` begins where a statement stands. -/
def importStatement : Parser Node := do
  if ← nextToken fun t => t.lexeme.isSymbol "(" || t.lexeme.isSymbol "." then
    return ← expressionOrLabeled
  let start ← startOffset
  advance
  importFrom start

/-- The words that can be no local name of an export. -/
def isUnexportable (name : String) : Bool :=
  !isPlainName name || ["implements", "interface", "let", "package", "private", "protected",
    "public", "static"].contains name

/-- Makes the local name of an export, which is a use of that name. -/
def asExported (name : Node) : Parser Node := do
  match name with
  | .mk (.word text) span _ =>
    if isUnexportable text then complainAt .exportReserved span.start
    return .mk (.reference text) span []
  | other =>
    complainAt .exportStringName other.span.start
    return other

/-- Reads a specifier of an export. -/
def exportSpecifier (ofType : Bool) : Parser Node := do
  let start ← startOffset
  let names ← specifierNames
  if ofType && names.isType then complainAt .typeExportModifierTwice start
  node (.exportSpecifier names.isType) start [names.first, names.second.getD names.first]

/-- Makes the name that a specifier exports a use of that name. -/
def asLocalExport (specifier : Node) : Parser Node := do
  match specifier with
  | .mk kind span [first, second] =>
    let first ← asExported first
    return .mk kind span [first, second]
  | other => return other

/-- Passes `from` and says whether a path stands behind it. -/
def passFrom : Parser Bool := do
  if !(← eatWord "from") then return false
  match ← lexeme with
  | .string .. => return true
  | _ => return false

/-- Reads the rest of an export of what another module exports. -/
def exportFrom (start : Nat) (isType : Bool) (specifiers : List Node) : Parser Node := do
  let source ← stringLiteral
  let attributes ← importAttributes
  semicolon
  node (.exportNamed isType) start [.none, .list specifiers, source, attributes]

/-- Reads the rest of an export of what the program declares. -/
def exportLocal (start : Nat) (isType : Bool) (specifiers : List Node) : Parser Node := do
  let specifiers ← specifiers.mapM asLocalExport
  semicolon
  node (.exportNamed isType) start [.none, .list specifiers, .none, .none]

/-- Reads the specifiers of an export, and where the names come from. -/
def exportSpecifiers (start : Nat) (isType : Bool) : Parser Node := do
  expectSymbol "\x7b"
  let (specifiers, _) ← commaList "\x7d" (exportSpecifier isType)
  expectSymbol "\x7d"
  if ← passFrom then exportFrom start isType specifiers else exportLocal start isType specifiers

/-- Reads an export of all that another module exports. -/
def exportAll (start : Nat) (isType : Bool) : Parser Node := do
  advance
  let exported ← if ← eatWord "as" then exportName else pure .none
  expectWord "from"
  let source ← stringLiteral
  let attributes ← importAttributes
  semicolon
  node (.exportAll isType) start [exported, source, attributes]

/-- Reads an expression that is exported. -/
def exportedExpression : Parser Node := do
  let e ← assignment
  semicolon
  return e

/-- Reads what is exported under the name `default`: a function, a class, an interface, or else an
expression. -/
def defaultValue (start : Nat) (decorated : List Node) : Parser Node := do
  match ← lexeme with
  | .word "function" => functionFrom start .declaration false false false
  | .word "class" => classFrom start decorated [] true
  | .word "async" =>
    if ← atAsyncFunction then
      advance
      functionFrom start .declaration true false false
    else exportedExpression
  | .word "abstract" =>
    if ← nextIsWordOnLine "class" then
      let found ← modifiers false false
      classFrom start decorated found true
    else exportedExpression
  | .word "interface" =>
    if ← nextToken fun t => mayBind t.lexeme && !t.onNewLine then interfaceDeclaration start []
    else exportedExpression
  | _ => exportedExpression

/-- Reads an export under the name `default`. -/
def exportDefault (start : Nat) (decorated : List Node) : Parser Node := do
  advance
  let valueStart ← startOffset
  let decorated' ← decorators
  let quiet := (← token).afterQuiet
  let exported ← defaultValue valueStart (decorated ++ decorated')
  node .exportDefault start [markQuietIf quiet exported]

/-- Reads an export of one expression as all of the module. -/
def exportAssignment (start : Nat) : Parser Node := do
  advance
  let e ← goal .expression
  semicolon
  node .exportAssignment start [e]

/-- Reads an export of the module as a global name. -/
def namespaceExport (start : Nat) : Parser Node := do
  advance
  expectWord "namespace"
  let name ← wordName
  semicolon
  node .namespaceExport start [name]

/-- Reads an export that begins with `type`: of types, or of the alias of one. -/
def exportType (start : Nat) (decorated : List Node) : Parser Node := do
  if ← nextToken fun t => t.lexeme.isSymbol "\x7b" then
    advance
    exportSpecifiers start true
  else if ← nextToken fun t => t.lexeme.isSymbol "*" then
    advance
    exportAll start true
  else
    let d ← modifiedDeclaration (← startOffset) decorated
    node (.exportNamed false) start [d, .none, .none, .none]

/-- Complains about an export of resources. -/
def checkExported (declaration : Node) : Parser Unit := do
  match declaration with
  | .mk (.variables word _) span _ => if word.isResource then complainAt .resourceExport span.start
  | _ => pure ()

/-- Reads a declaration that is exported. -/
def exportDeclaration (start : Nat) (decorated : List Node) : Parser Node := do
  let declarationStart ← startOffset
  let decorated' ← decorators
  let quiet := (← token).afterQuiet
  let d ← modifiedDeclaration declarationStart (decorated ++ decorated')
  checkExported d
  node (.exportNamed false) start [markQuietIf quiet d, .none, .none, .none]

/-- Reads an export from its keyword on. -/
def exportStatement (start : Nat) (decorated : List Node) : Parser Node := do
  advance
  match ← lexeme with
  | .symbol "=" => exportAssignment start
  | .symbol "*" => exportAll start false
  | .symbol "\x7b" => exportSpecifiers start false
  | .word "default" => exportDefault start decorated
  | .word "as" => namespaceExport start
  | .word "type" => exportType start decorated
  | _ => exportDeclaration start decorated

/-- Reads a statement that begins with decorators. -/
def decoratedStatement (place : StatementPlace) : Parser Node := do
  let start ← startOffset
  let decorated ← decorators
  match ← lexeme with
  | .word "class" => classStatement start place decorated []
  | .word "export" => exportStatement (← startOffset) decorated
  | _ => modifiedDeclaration start decorated

end JsxTidy.Parser
