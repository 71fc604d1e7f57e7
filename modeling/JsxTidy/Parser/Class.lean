import JsxTidy.Parser.Object

/-!
# Reading programs: classes
-/

namespace JsxTidy.Parser

open Syntax

/-- The key of a class member. -/
structure MemberKey where
  node : Node
  isComputed : Bool
  /-- How a complaint names the member: by the name that its key spells, or as it is written. -/
  title : String

/-- A piece of syntax as it is written behind a place in the text. -/
def writtenFrom (place : Cursor) (node : Node) : String :=
  String.ofList (Text.sliceBytes (node.span.start - place.offset) (node.span.stop - place.offset)
    place.rest)

/-- Complains about a private name with a modifier of access, and about one that is reserved. -/
def checkPrivateKey (found : List Modifier) (name : String) (key : Node) : Parser Unit := do
  if let some m := found.find? fun m => ["public", "private", "protected"].contains m.word then
    complainAt .accessOnPrivate m.offset
  if name == "constructor" then complainAt .privateConstructor key.span.start

/-- Reads the key of a class member. -/
def memberKey (found : List Modifier) : Parser MemberKey := do
  let place := (← get).start
  match ← lexeme with
  | .privateName name =>
    let key ← privateName
    checkPrivateKey found name key
    return ⟨key, false, writtenFrom place key⟩
  | _ =>
    let (key, isComputed) ← propertyKey
    let title := match key.kind with
      | .word name => name
      | .string value _ => value
      | _ => writtenFrom place key
    return ⟨key, isComputed, title⟩

/-- The name that a key spells, unless it is computed. -/
def keyName? (key : Node) (isComputed : Bool) : Option String :=
  if isComputed then none
  else match key.kind with
    | .word name | .privateName name => some name
    | .string value _ => some value
    | .number raw | .bigInt raw => some raw
    | _ => none

/-- Whether a key spells a name in public. -/
def MemberKey.spells (name : String) (key : MemberKey) : Bool :=
  match key.node.kind with
  | .privateName _ => false
  | _ => keyName? key.node key.isComputed == some name

/-- The modifiers of a method. -/
def methodModifiers : List String :=
  ["public", "private", "protected", "static", "abstract", "override", "async"]

/-- The modifiers of a field. -/
def fieldModifiers : List String :=
  ["public", "private", "protected", "static", "abstract", "override", "readonly", "declare",
    "accessor"]

/-- Whether a function has a body. -/
def hasBody : Node → Bool
  | .mk (.function _) _ [_, _, _, _, _, body] => body.isPresent
  | _ => false

/-- Complains about an abstract method or accessor with a body. -/
def checkAbstract (subject : String) (found : List Modifier) (key : MemberKey) (value : Node) :
    Parser Unit := do
  if Modifier.has "abstract" found && hasBody value then
    complainAt (.abstractBody subject key.title) key.node.span.start

/-- Complains about a constructor with type parameters, or with a type of `this`. -/
def checkConstructor (value : Node) : Parser Unit := do
  match value with
  | .mk (.function _) _ [_, generics, this, _, _, _] =>
    if this.isPresent then complainAt .thisInConstructor this.span.start
    if generics.isPresent then complainAt .constructorTypeParameters generics.span.start
  | _ => pure ()

/-- Reads a constructor from behind its key. -/
def constructorRest (start : Nat) (decorated : List Node) (found : List Modifier) (key : Node) :
    Parser Node := do
  allowModifiers ["public", "private", "protected", "async"]
    (.modifierOn · "a constructor declaration") found
  if Modifier.has "async" found then complainAt .constructorAsync key.span.start
  let value ← methodValue .constructor (Modifier.has "async" found) false true
  checkConstructor value
  node (.method .constructor (memberShape found)) start [.list decorated, key, value]

/-- Reads an accessor of a class from behind its word. -/
def classAccessor (start : Nat) (decorated : List Node) (found : List Modifier)
    (role : MethodRole) : Parser Node := do
  let key ← memberKey found
  if key.spells "constructor" && !Modifier.has "static" found then
    complainAt .constructorAccessor key.node.span.start
  if Modifier.has "static" found && key.spells "prototype" then
    complainAt .staticPrototype key.node.span.start
  let value ← methodValue role false false true
  checkAccessor role value
  checkAbstract "Accessor" found key value
  allowModifiers (methodModifiers.erase "async") .modifierHere found
  let shape := { memberShape found with isComputed := key.isComputed }
  node (.method role shape) start [.list decorated, key.node, value]

/-- Reads the value of a field. -/
def fieldValue : Parser Node := do
  if ← eatSymbol "=" then
    within (fun s => { s with allowIn := true, inGenerator := false, inAsync := false }) assignment
  else return .none

/-- Reads a field from behind its key. -/
def fieldRest (start : Nat) (decorated : List Node) (found : List Modifier) (key : MemberKey)
    (shape : MemberShape) : Parser Node := do
  let isDefinite ← eatSymbol "!"
  if isDefinite && shape.isOptional then complainAt .optionalDefinite key.node.span.stop
  let typed ← declaredType
  let value ← fieldValue
  semicolon
  allowModifiers fieldModifiers .modifierHere found
  let shape := { shape with isDefinite }
  if shape.isAbstract && value.isPresent then
    complainAt (.abstractValue key.title) key.node.span.start
  if Modifier.has "accessor" found then
    if shape.isOptional then complainAt .optionalAccessor key.node.span.stop
    node (.accessor shape) start [.list decorated, key.node, typed, value]
  else
    if key.spells "constructor" then complainAt .constructorField key.node.span.start
    node (.field shape) start [.list decorated, key.node, typed, value]

/-- Reads a method or a field. -/
def methodOrField (start : Nat) (decorated : List Node) (found : List Modifier) :
    Parser Node := do
  let isGenerator ← eatSymbol "*"
  let key ← memberKey found
  if Modifier.has "static" found && key.spells "prototype" then
    complainAt .staticPrototype key.node.span.start
  let isOptional ← eatSymbol "?"
  let shape := { memberShape found with isOptional, isComputed := key.isComputed }
  if isGenerator || (← atSymbol "(") || (← atSymbol "<") then
    if isGenerator && key.spells "constructor" && !shape.isStatic then
      complainAt .constructorGenerator key.node.span.start
    let value ← methodValue .method (Modifier.has "async" found) isGenerator true
    checkAbstract "Method" found key value
    allowModifiers methodModifiers .modifierHere found
    node (.method .method shape) start [.list decorated, key.node, value]
  else fieldRest start decorated found key shape

/-- Whether a constructor stands here. -/
def atConstructor : Parser Bool := do
  let isNamed : Bool := match ← lexeme with
    | .word name => name == "constructor"
    | .string value _ _ => value == "constructor"
    | _ => false
  if !isNamed then return false
  nextToken fun t => t.lexeme.isSymbol "(" || t.lexeme.isSymbol "<"

/-- Whether a block of statements among the members stands here. -/
def atStaticBlock : Parser Bool := do
  if !(← atWord "static") then return false
  nextToken fun t => t.lexeme.isSymbol "\x7b"

/-- Reads a block of statements among the members. -/
def staticBlock (start : Nat) (decorated : List Node) : Parser Node := do
  if let d :: _ := decorated then complainAt .decoratorPlace d.span.start
  advance
  expectSymbol "\x7b"
  let body ← within (fun s =>
      { s with inAsync := true, inGenerator := false, inFunction := false, topLevel := false })
    (upTo "\x7d" (goal (.statement .list)))
  expectSymbol "\x7d"
  node .staticBlock start body

/-- Whether a method or a field can begin with a token. -/
def beginsKey : Lexeme → Bool
  | .privateName _ => true
  | .symbol text => text == "*" || text == "["
  | l => isLiteralPropertyName l

/-- Reads a member of a class from behind its modifiers. -/
def modifiedMember (start : Nat) (decorated : List Node) (found : List Modifier) : Parser Node := do
  if ← passAccessorWord "get" then return ← classAccessor start decorated found .getter
  if ← passAccessorWord "set" then return ← classAccessor start decorated found .setter
  if (← atConstructor) && !Modifier.has "static" found then
    let (key, _) ← propertyKey
    return ← constructorRest start decorated found key
  if ← atIndexSignature then return ← indexSignature start found
  if !beginsKey (← lexeme) then unexpected
  within (fun s => { s with inAmbient := s.inAmbient || Modifier.has "declare" found })
    (methodOrField start decorated found)

/-- Reads a member of a class. -/
def classMember : Parser Node := do
  let start ← startOffset
  let decorated ← decorators
  let found ← modifiers true true
  if ← atStaticBlock then return ← staticBlock start decorated
  modifiedMember start decorated found

/-- Passes semicolons between members and says whether a member stands behind them. -/
def beforeMember : Parser Bool := do
  let _ ← many (atSymbol ";") (do advance; return .none)
  return !(← atSymbol "\x7d") && (← lexeme) != .endOfText

/-- Reads the members of a class in their braces. -/
def classBody : Parser Node := do
  let start ← startOffset
  expectSymbol "\x7b"
  let members ← many beforeMember classMember
  expectSymbol "\x7d"
  node .classBody start members

/-- Splits the type arguments off an expression, or reads those behind it. -/
def splitArguments (parent : Node) : Parser (Node × Node) := do
  match parent with
  | .mk .instantiation _ [e, arguments] => return (e, arguments)
  | _ =>
    let arguments ← typeArguments?
    return (parent, arguments)

/-- Passes what else a class is said to extend, with a complaint. -/
def passOtherParent : Parser Unit := do
  if ← atSymbol "," then
    let offset ← startOffset
    advance
    let _ ← goal .leftHandSide
    complainAt .classHeritage offset

/-- Reads what a class extends. -/
def classParent : Parser (Node × Node) := do
  advance
  let parent ← goal .leftHandSide
  let found ← splitArguments parent
  passOtherParent
  return found

/-- Reads an interface that a class implements. -/
def implementedType : Parser Node := do
  let start ← startOffset
  let name ← typeName
  let arguments ← typeArguments?
  node .implemented start [name, arguments]

/-- Reads the interfaces that a class implements. -/
def implementedTypes : Parser (List Node) := do
  advance
  let first ← implementedType
  let others ← many (eatSymbol ",") implementedType
  return first :: others

/-- What a class extends and implements, and where the clauses that say so stand. -/
structure Heritage where
  parent : Node
  arguments : Node
  interfaces : List Node
  extendsAt : Option Nat
  implementsAt : Option Nat

/-- The complaint about what a class extends where this has been said already, or comes behind what
it implements. -/
def Heritage.complaintOfExtends? (found : Heritage) : Option Complaint :=
  if found.extendsAt.isSome then some (.clauseSeen "extends")
  else if found.implementsAt.isSome then some .extendsOrder
  else none

/-- Reads a clause that says what a class extends. -/
def extendsClause (found : Heritage) (start : Nat) : Parser Heritage := do
  if let some complaint := found.complaintOfExtends? then complainAt complaint start
  let (parent, arguments) ← classParent
  return { found with parent, arguments, extendsAt := some start }

/-- Reads a clause that says what a class implements. -/
def implementsClause (found : Heritage) (start : Nat) : Parser Heritage := do
  if let some first := found.implementsAt then complainAt (.clauseSeen "implements") first
  let interfaces ← implementedTypes
  return { found with
    interfaces := found.interfaces ++ interfaces
    implementsAt := found.implementsAt.or (some start) }

/-- Reads the other clauses behind those that have been read. -/
def heritageFrom : Nat → Heritage → Parser Heritage
  | 0, found => return found
  | fuel + 1, found => do
    let start ← startOffset
    if ← atWord "extends" then heritageFrom fuel (← extendsClause found start)
    else if ← atWord "implements" then heritageFrom fuel (← implementsClause found start)
    else return found

/-- Reads what a class extends and implements. Each may be said once, and the former first. -/
def heritage : Parser Heritage := do
  heritageFrom (stepsLeft (← get)) ⟨.none, .none, [], none, none⟩

/-- Reads the name of a class, which may be missing. -/
def className : Parser Node := do
  let isHeritage ←
    if ← atWord "implements" then nextToken fun t => isAnyWord t.lexeme else pure false
  if mayBind (← lexeme) && !isHeritage then bindingName else return .none

/-- Reads what a class has behind its name. -/
def classParts : Parser Node := do
  let start ← startOffset
  let generics ← typeParameters
  let parents ← heritage
  let body ← classBody
  node .classParts start
    [generics, parents.parent, parents.arguments, .list parents.interfaces, body]

/-- Reads a class from its keyword on. -/
def classFrom (start : Nat) (decorated : List Node) (found : List Modifier)
    (isDeclaration : Bool) : Parser Node := do
  expectWord "class"
  let name ← className
  let parts ← classParts
  allowModifiers ["declare", "abstract"] .modifierHere found
  node (.classLike
      { isDeclaration, isAbstract := Modifier.has "abstract" found,
        isDeclare := Modifier.has "declare" found })
    start [.list decorated, name, parts]

/-- The rule for a class that is a value. -/
def classExpressionRule : Parser Node := do
  let start ← startOffset
  let decorated ← decorators
  let found ← modifiers false false
  if !(← atWord "class") then unexpected
  classFrom start decorated found false

end JsxTidy.Parser
