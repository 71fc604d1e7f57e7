import JsxTidy.Parser.Modifier

/-!
# Reading programs: types

Types, their parameters and arguments, and the members of type literals and interfaces.
-/

namespace JsxTidy.Parser

open Syntax

/-- Reads a type. -/
def type : Parser Node :=
  goal .typeExpression

/-- Reads a type in which an `extends` makes no conditional type. -/
def unconditionalType : Parser Node :=
  within (fun s => { s with noConditionalType := true }) type

/-- Reads a type in which an `extends` makes a conditional type. -/
def conditionalAllowed {α : Type} (p : Parser α) : Parser α :=
  within (fun s => { s with noConditionalType := false }) p

/-- Reads the type behind a colon, if there is one. -/
def declaredType : Parser Node := do
  if ← eatSymbol ":" then type else return .none

/-- Reads type parameters. -/
def typeParameters : Parser Node :=
  goal .typeParameters

/-- Reads type arguments. There has to be at least one. -/
def typeArguments : Parser Node := do
  let start ← startOffset
  expectSymbol "<"
  let (types, _) ← commaList ">" type
  expectSymbol ">"
  if types.isEmpty then complainAt .emptyTypeArguments start
  node .typeArguments start types

/-- Reads type arguments if they stand here. -/
def typeArguments? : Parser Node := do
  rereadOpeningAngle
  if ← atSymbol "<" then typeArguments else return .none

/-- Reads type arguments that belong to a name on the same line. -/
def typeArgumentsOnLine : Parser Node := do
  if (← token).onNewLine then return .none else typeArguments?

/-- Reads one type parameter. -/
def typeParameter : Parser Node := do
  let start ← startOffset
  let found ← modifiers true false
  allowModifiers ["in", "out", "const"] (.modifierOn · "a type parameter.") found
  let name ← bindingName
  let bound ← if ← eatWord "extends" then type else pure .none
  let default ← if ← eatSymbol "=" then type else pure .none
  node (.typeParameter (Modifier.has "const" found) (Modifier.has "in" found)
    (Modifier.has "out" found)) start [name, bound, default]

/-- Reads type parameters if they stand here. There has to be at least one. -/
def typeParameterList : Parser Node := do
  if !(← atSymbol "<") then return .none
  let start ← startOffset
  advance
  let (parameters, _) ← commaList ">" typeParameter
  expectSymbol ">"
  if parameters.isEmpty then complainAt .emptyTypeParameters start
  node .typeParameters start parameters

/-- Reads the other parts of a dotted name behind those that have been read. -/
def qualify (start : Nat) : Nat → Node → Parser Node
  | 0, left => return left
  | fuel + 1, left => do
    if ← eatSymbol "." then
      let right ← wordName
      qualify start fuel (← node .qualifiedName start [left, right])
    else return left

/-- Reads what a dotted name begins with: `this`, or a name that is used. -/
def typeRoot : Parser Node := do
  let start ← startOffset
  if ← atWord "this" then
    advance
    node .this start []
  else anyWord .reference

/-- Reads a dotted name whose first part is used. -/
def typeName : Parser Node := do
  let start ← startOffset
  let first ← typeRoot
  qualify start (stepsLeft (← get)) first

/-- Reads a named type. -/
def typeReference : Parser Node := do
  let start ← startOffset
  let name ← typeName
  let arguments ← typeArgumentsOnLine
  node .typeReference start [name, arguments]

/-- Reads the dotted name behind an imported module. -/
def importQualifier : Parser Node := do
  let start ← startOffset
  let first ← wordName
  qualify start (stepsLeft (← get)) first

/-- Reads the options behind the path of an imported module, if there are some. -/
def importOptions : Parser Node := do
  if ← eatSymbol "," then
    if ← atSymbol ")" then return .none else goal .objectLiteral
  else return .none

/-- Reads a type that a module exports. -/
def importType : Parser Node := do
  let start ← startOffset
  advance
  expectSymbol "("
  let source ← stringLiteral
  let options ← importOptions
  let _ ← eatSymbol ","
  expectSymbol ")"
  let qualifier ← if ← eatSymbol "." then importQualifier else pure .none
  let arguments ← typeArgumentsOnLine
  node .importType start [source, options, qualifier, arguments]

/-- Reads the type of a value. -/
def typeQuery : Parser Node := do
  let start ← startOffset
  advance
  if ← atWord "import" then
    let name ← importType
    node .typeQuery start [name, .none]
  else
    let name ← typeName
    let arguments ← typeArgumentsOnLine
    node .typeQuery start [name, arguments]

/-- Reads a literal as a type. -/
def literalType : Parser Node := do
  let start ← startOffset
  if ← eatSymbol "-" then
    let inner ← literal
    let value ← node (.unary .negate) start [inner]
    node .literalType start [value]
  else
    let value ← literal
    node .literalType start [value]

/-- Ends a member of a type literal or interface. -/
def memberEnd : Parser Unit := do
  if !(← eatSymbol ",") then semicolon

/-- Reads the key of a property and says whether it is computed. -/
def propertyKey : Parser (Node × Bool) := do
  match ← lexeme with
  | .string .. | .number .. | .bigInt .. => return (← literal, false)
  | .symbol "[" =>
    advance
    let key ← allowingIn (goal (.assignment true))
    expectSymbol "]"
    return (key, true)
  | _ => return (← wordName, false)

/-- Whether an index signature stands here. -/
def atIndexSignature : Parser Bool := do
  if !(← atSymbol "[") then return false
  lookahead do
    skipToken false
    let first ← lexeme
    if first.isSymbol "..." || first.isSymbol "]" then return true
    if isModifierWord first then
      skipToken false
      if mayBind (← lexeme) then return true
    else if !mayBind first then return false
    else skipToken false
    match ← lexeme with
    | .symbol ":" | .symbol "," => return true
    | .symbol "?" =>
      skipToken false
      match ← lexeme with
      | .symbol ":" | .symbol "," | .symbol "]" => return true
      | _ => return false
    | _ => return false

/-- Reads a parameter of an index signature: its name and its type. -/
def indexParameter : Parser Node := do
  let start ← startOffset
  let name ← wordName
  expectSymbol ":"
  let typed ← type
  node .list start [name, typed]

/-- Reads an index signature. -/
def indexSignature (start : Nat) (found : List Modifier) : Parser Node := do
  allowModifiers ["readonly", "static"] (.modifierOn · "an index signature") found
  expectSymbol "["
  let (parameters, _) ← commaList "]" indexParameter
  if parameters.length != 1 then complainAt .indexSignatureParameter start
  expectSymbol "]"
  if !(← atSymbol ":") then failAt .indexSignatureType start
  let typed ← declaredType
  memberEnd
  let parts := (parameters.head?.map Node.parts).getD []
  node (.indexSignature (Modifier.has "readonly" found) (Modifier.has "static" found)) start
    (parts ++ [typed])

/-- Reads a name and the word `is` on its line. -/
def predicateSubject : Parser (Option Node) := do
  let name ← wordName
  if (← atWord "is") && !(← token).onNewLine then
    advance
    return some name
  else return none

/-- Reads what a function type or signature returns: a type, or what it says of its subject. -/
def returnType : Parser Node := do
  let start ← startOffset
  let subject ← if mayBind (← lexeme) then attempt? predicateSubject else pure none
  let result ← type
  match subject with
  | some name => node (.typePredicate false) start [name, result]
  | none => return result

/-- Reads what is returned, behind a symbol, if that stands here. -/
def declaredResult (symbol : String) : Parser Node := do
  if ← eatSymbol symbol then returnType else return .none

/-- Reads parameters: the type of `this`, and the others. -/
def parametersOf (ofMethod : Bool) : Parser (Node × Node) := do
  match ← goal (.parameters ofMethod) with
  | .mk _ _ [this, others] => return (this, others)
  | other => return (.none, other)

/-- Reads a signature that is called, or that constructs. -/
def callSignature (constructs : Bool) : Parser Node := do
  let start ← startOffset
  if constructs then advance
  let generics ← typeParameters
  let (this, parameters) ← parametersOf false
  let result ← declaredResult ":"
  memberEnd
  if constructs then
    if this.isPresent then complainAt .thisInConstructor this.span.start
    node .constructSignature start [generics, parameters, result]
  else node .callSignature start [generics, this, parameters, result]

/-- Reads an accessor among the members behind its word. -/
def accessorSignature (start : Nat) (found : List Modifier) (role : MethodRole) :
    Parser Node := do
  allowModifiers [] (.modifierOn · "a type member") found
  let (key, isComputed) ← propertyKey
  let (this, parameters) ← parametersOf false
  let result ← declaredResult ":"
  memberEnd
  node (.methodSignature role false isComputed) start [key, .none, this, parameters, result]

/-- Reads a method or a property among the members. -/
def keyedSignature (start : Nat) (found : List Modifier) : Parser Node := do
  allowModifiers ["readonly"] (.modifierOn · "a type member") found
  let (key, isComputed) ← propertyKey
  let isOptional ← eatSymbol "?"
  if (← atSymbol "(") || (← atSymbol "<") then
    noModifiers found
    let generics ← typeParameters
    let (this, parameters) ← parametersOf false
    let result ← declaredResult ":"
    memberEnd
    node (.methodSignature .method isOptional isComputed) start
      [key, generics, this, parameters, result]
  else
    let typed ← declaredType
    memberEnd
    node (.propertySignature (Modifier.has "readonly" found) isOptional isComputed) start
      [key, typed]

/-- Reads a member that has a name. -/
def namedSignature : Parser Node := do
  let start ← startOffset
  let found ← modifiers false false
  if ← passAccessorWord "get" then return ← accessorSignature start found .getter
  if ← passAccessorWord "set" then return ← accessorSignature start found .setter
  if ← atIndexSignature then return ← indexSignature start found
  keyedSignature start found

/-- Whether a signature that constructs stands here. -/
def atConstructSignature : Parser Bool := do
  if !(← atWord "new") then return false
  nextToken fun t => t.lexeme.isSymbol "(" || t.lexeme.isSymbol "<"

/-- Reads a member of a type literal or interface. -/
def typeMember : Parser Node := do
  if (← atSymbol "(") || (← atSymbol "<") then return ← callSignature false
  if ← atConstructSignature then return ← callSignature true
  namedSignature

/-- Reads the members of a type literal or interface in their braces. -/
def typeMembers : Parser (List Node) := do
  expectSymbol "\x7b"
  let members ← upTo "\x7d" typeMember
  expectSymbol "\x7d"
  return members

/-- Whether a mapped type stands here. -/
def atMappedType : Parser Bool :=
  lookahead do
    skipToken false
    if (← atSymbol "+") || (← atSymbol "-") then
      skipToken false
      return ← atWord "readonly"
    if ← atWord "readonly" then skipToken false
    if !(← atSymbol "[") then return false
    skipToken false
    if !isAnyWord (← lexeme) then return false
    skipToken false
    atWord "in"

/-- Reads the sign and the word or symbol of a mapped type's modifier. -/
def mappedModifier (pass : Parser Bool) (expect : Parser Unit) : Parser MappedModifier := do
  if ← pass then return .plain
  if ← eatSymbol "+" then
    expect
    return .plus
  if ← eatSymbol "-" then
    expect
    return .minus
  return .unchanged

/-- Reads a mapped type. -/
def mappedType : Parser Node := do
  let start ← startOffset
  advance
  let readonlyness ← mappedModifier (eatWord "readonly") (expectWord "readonly")
  expectSymbol "["
  let key ← bindingName
  expectWord "in"
  let bound ← type
  let renamed ← if ← eatWord "as" then type else pure .none
  expectSymbol "]"
  let optionality ← mappedModifier (eatSymbol "?") (expectSymbol "?")
  let result ← declaredType
  let _ ← eatSymbol ";"
  expectSymbol "\x7d"
  node (.mappedType optionality readonlyness) start [key, bound, renamed, result]

/-- Reads a type literal. -/
def typeLiteral : Parser Node := do
  let start ← startOffset
  let members ← typeMembers
  node .typeLiteral start members

/-- Whether a named member of a tuple stands here. -/
def atNamedMember : Parser Bool :=
  lookahead do
    if ← atSymbol "..." then skipToken false
    if !isAnyWord (← lexeme) then return false
    skipToken false
    if ← atSymbol ":" then return true
    if !(← atSymbol "?") then return false
    skipToken false
    atSymbol ":"

/-- Reads a named member of a tuple. -/
def namedMember : Parser Node := do
  let nameStart ← startOffset
  let label ← wordName
  let isOptional ← eatSymbol "?"
  expectSymbol ":"
  let element ← type
  node (.namedTupleMember isOptional) nameStart [label, element]

/-- Reads an element of a tuple. -/
def tupleElement : Parser Node := do
  let start ← startOffset
  if ← atNamedMember then
    let isRest ← eatSymbol "..."
    let member ← namedMember
    if isRest then node .restType start [member] else return member
  else if ← eatSymbol "..." then
    let element ← type
    node .restType start [element]
  else
    match ← type with
    | .mk (.markedType "?" false) span [inner] => return .mk .optionalType span [inner]
    | element => return element

/-- Reads a tuple. -/
def tupleType : Parser Node := do
  let start ← startOffset
  advance
  let (elements, _) ← commaList "]" tupleElement
  expectSymbol "]"
  node .tupleType start elements

/-- Reads a type in parentheses. -/
def parenType : Parser Node := do
  let start ← startOffset
  advance
  let inner ← conditionalAllowed type
  expectSymbol ")"
  node .parenType start [inner]

/-- Reads a template of types. -/
def templateType : Parser Node := do
  let start ← startOffset
  let (quasis, types) ← templateParts false type
  node .templateType start [.list quasis, .list types]

/-- The words that are types of their own. -/
def typeWords : List String :=
  ["any", "unknown", "string", "number", "bigint", "symbol", "boolean", "undefined", "never",
    "object"]

/-- Reads a word as a type of its own. -/
def keywordType (name : String) : Parser Node := do
  let start ← startOffset
  advance
  node (.keywordType name) start []

/-- Reads `this` as a type, or what a function says of `this`. -/
def thisType : Parser Node := do
  let start ← startOffset
  advance
  let this ← node .thisType start []
  if (← atWord "is") && !(← token).onNewLine then
    advance
    let result ← type
    node (.typePredicate false) start [this, result]
  else return this

/-- Reads what an assertion is about. -/
def assertedSubject : Parser Node := do
  let start ← startOffset
  if ← eatWord "this" then node .thisType start [] else wordName

/-- Reads what a function asserts of its subject. -/
def assertion : Parser Node := do
  let start ← startOffset
  advance
  let subject ← assertedSubject
  let result ← if ← eatWord "is" then type else pure .none
  node (.typePredicate true) start [subject, result]

/-- Reads a type behind a mark. -/
def markedType (mark : String) : Parser Node := do
  let start ← startOffset
  advance
  let inner ← type
  node (.markedType mark true) start [inner]

/-- Whether a number is behind the current token. -/
def beforeNumber : Parser Bool :=
  nextToken fun t => match t.lexeme with
    | .number .. | .bigInt .. => true
    | _ => false

/-- Reads a word that is a type of its own, or begins the name of one. -/
def wordType (name : String) : Parser Node := do
  if !typeWords.contains name then return ← typeReference
  if ← nextToken fun t => t.lexeme.isSymbol "." then typeReference else keywordType name

/-- Reads a type with nothing around it. -/
def plainType : Parser Node := do
  match ← lexeme with
  | .string .. | .number .. | .bigInt .. | .word "true" | .word "false" => literalType
  | .quasi true _ _ _ => templateType
  | .symbol "-" => if ← beforeNumber then literalType else typeReference
  | .symbol "\x7b" => if ← atMappedType then mappedType else typeLiteral
  | .symbol "[" => tupleType
  | .symbol "(" => parenType
  | .symbol "?" => markedType "?"
  | .symbol "!" => markedType "!"
  | .word "void" => keywordType "void"
  | .word "null" => keywordType "null"
  | .word "this" => thisType
  | .word "typeof" => typeQuery
  | .word "import" => importType
  | .word "asserts" =>
    if ← nextToken fun t => isAnyWord t.lexeme && !t.onNewLine then assertion else typeReference
  | .word name => wordType name
  | _ => typeReference

/-- Whether a type can begin with the current token. -/
def canBeginType : Parser Bool := do
  match ← lexeme with
  | .string .. | .number .. | .bigInt .. | .quasi true _ _ _ => return true
  | .symbol text =>
    if text == "-" then beforeNumber
    else if text == "(" then
      lookahead do
        skipToken false
        match ← lexeme with
        | .symbol ")" | .symbol "..." | .symbol "\x7b" | .symbol "[" => return true
        | .symbol "<" | .symbol "(" => return true
        | .string .. | .number .. | .bigInt .. | .quasi true _ _ _ | .word _ => return true
        | _ => return false
    else return ["\x7b", "[", "<", "|", "&", "*", "?", "!", "..."].contains text
  | .word name =>
    return !Words.isReserved name || ["void", "null", "this", "typeof", "new", "true", "false",
      "import", "function"].contains name
  | _ => return false

/-- Reads a mark behind a type. -/
def markType (mark : String) (start : Nat) (inner : Node) : Parser Node := do
  advance
  node (.markedType mark false) start [inner]

/-- Reads brackets behind a type: with an index, or those of an array. -/
def indexType (start : Nat) (inner : Node) : Parser Node := do
  advance
  if ← canBeginType then
    let index ← type
    expectSymbol "]"
    node .indexedType start [inner, index]
  else
    expectSymbol "]"
    node .arrayType start [inner]

/-- Whether the question mark here belongs to a conditional type. -/
def atConditionalMark : Parser Bool :=
  lookahead do
    skipToken false
    canBeginType

/-- Reads the marks and brackets behind a type that has been read. -/
def typeSuffixes (start : Nat) : Nat → Node → Parser Node
  | 0, inner => return inner
  | fuel + 1, inner => do
    let t ← token
    if t.onNewLine then return inner
    match t.lexeme with
    | .symbol "!" => typeSuffixes start fuel (← markType "!" start inner)
    | .symbol "?" =>
      if ← atConditionalMark then return inner
      typeSuffixes start fuel (← markType "?" start inner)
    | .symbol "[" => typeSuffixes start fuel (← indexType start inner)
    | _ => return inner

/-- Reads a type and what may stand behind it. -/
def suffixedType : Parser Node := do
  let start ← startOffset
  let fuel := stepsLeft (← get)
  typeSuffixes start fuel (← plainType)

/-- Reads the bound of an inferred type, if there is one that does not turn out to belong to a
conditional type. -/
def inferBound? : Parser (Option Node) := do
  if !(← eatWord "extends") then return none
  let bound ← unconditionalType
  if (← around).noConditionalType || !(← atSymbol "?") then return some bound
  return none

/-- Reads the bound of an inferred type, unless it turns out to belong to a conditional type. -/
def inferBound : Parser Node := do
  let bound ← attempt? inferBound?
  return bound.getD .none

/-- Reads the parameter that an inferred type declares. -/
def inferParameter : Parser Node := do
  let start ← startOffset
  let name ← bindingName
  let bound ← inferBound
  node (.typeParameter false false false) start [name, bound, .none]

/-- Reads a type that a conditional type infers. -/
def inferType : Parser Node := do
  let start ← startOffset
  advance
  let parameter ← inferParameter
  node .inferType start [parameter]

/-- Complains about a type behind `readonly` that is neither an array nor a tuple. -/
def checkReadonly (word : String) (start : Nat) (inner : Node) : Parser Unit := do
  let isSequence := inner.kind matches .arrayType | .tupleType
  if word == "readonly" && !isSequence then complainAt .readonlyType start

/-- Reads a type with at most so many words before it that operate on types. -/
def operated : Nat → Parser Node
  | 0 => unexpected
  | fuel + 1 => do
    let start ← startOffset
    match ← lexeme with
    | .word "infer" => inferType
    | .word word =>
      if word == "keyof" || word == "unique" || word == "readonly" then
        advance
        let inner ← operated fuel
        checkReadonly word start inner
        node (.typeOperator word) start [inner]
      else conditionalAllowed suffixedType
    | _ => conditionalAllowed suffixedType

/-- Reads a type with the words before it that operate on types. -/
def operatedType : Parser Node := do
  operated (stepsLeft (← get))

/-- Reads the other types behind those that have been read, the last one of which comes first. -/
def joinMembers (symbol : String) (member : Parser Node) : Nat → List Node → Parser (List Node)
  | 0, members => return members.reverse
  | fuel + 1, members => do
    if ← eatSymbol symbol then
      let next ← member
      joinMembers symbol member fuel (next :: members)
    else return members.reverse

/-- Reads types with a symbol between them. -/
def joinedType (symbol : String) (kind : Kind) (member : Parser Node) : Parser Node := do
  let start ← startOffset
  let leading ← eatSymbol symbol
  let first ← member
  if leading || (← atSymbol symbol) then
    let members ← joinMembers symbol member (stepsLeft (← get)) [first]
    node kind start members
  else return first

/-- Reads a union, or what is tighter. -/
def unionType : Parser Node :=
  joinedType "|" .unionType (joinedType "&" .intersectionType operatedType)

/-- Passes what a parameter begins with. -/
def passParameterStart : Parser Bool := do
  if isModifierWord (← lexeme) then
    let _ ← modifiers false false
  let l ← lexeme
  if mayBind l || l.isWord "this" then
    advance
    return true
  if l.isSymbol "[" || l.isSymbol "\x7b" then
    let before := (← get).problems.length
    let _ ← goal .bindingPattern
    return (← get).problems.length == before
  return false

/-- Whether a function type stands here. -/
def atFunctionType : Parser Bool := do
  if ← atSymbol "<" then return true
  if ← atWord "new" then return true
  if ← atWord "abstract" then return ← nextToken fun t => t.lexeme.isWord "new"
  if !(← atSymbol "(") then return false
  lookahead do
    skipToken false
    if (← atSymbol ")") || (← atSymbol "...") then return true
    if ← passParameterStart then
      match ← lexeme with
      | .symbol ":" | .symbol "," | .symbol "?" | .symbol "=" => return true
      | .symbol ")" =>
        skipToken false
        atSymbol "=>"
      | _ => return false
    else return false

/-- Reads a function type or a constructor type. -/
def functionType : Parser Node := do
  let start ← startOffset
  let isAbstract ← eatWord "abstract"
  let constructs ← eatWord "new"
  let generics ← typeParameters
  let (this, parameters) ← parametersOf false
  expectSymbol "=>"
  let result ← returnType
  if constructs then
    if this.isPresent then complainAt .thisInConstructor this.span.start
    node (.constructorType isAbstract) start [generics, parameters, result]
  else node .functionType start [generics, this, parameters, result]

/-- Reads the bound and the first branch of a conditional type behind `extends`. -/
def conditionalParts (start : Nat) : Parser Node := do
  let bound ← unconditionalType
  expectSymbol "?"
  let first ← conditionalAllowed type
  node .conditionalParts start [bound, first]

/-- The rule for a type. -/
def typeRule : Parser Node := do
  if ← atFunctionType then return ← functionType
  let start ← startOffset
  let checked ← unionType
  if (← around).noConditionalType || (← token).onNewLine then return checked
  let partsStart ← startOffset
  if !(← eatWord "extends") then return checked
  let parts ← conditionalParts partsStart
  expectSymbol ":"
  let second ← conditionalAllowed type
  node .conditionalType start [checked, parts, second]

/-- Reads type arguments of an expression. There are none where what follows cannot stand behind
some. -/
def argumentsBefore (canFollow : Parser Bool) : Parser (Option Node) := do
  rereadOpeningAngle
  let start ← startOffset
  expectSymbol "<"
  let (types, _) ← commaList ">" type
  rereadClosingAngle
  if ← atSymbol ">=" then return none
  expectSymbol ">"
  if types.isEmpty then complainAt .emptyTypeArguments start
  if ← canFollow then
    let arguments ← node .typeArguments start types
    return some arguments
  else return none

/-- Reads type arguments that stand in an expression. What looks like them may be two
comparisons; it is taken for arguments only if what follows can stand behind some. -/
def typeArgumentsInExpression (canFollow : Parser Bool) : Parser (Option Node) := do
  if !((← atSymbol "<") || (← atSymbol "<<")) then return none
  attempt? (argumentsBefore canFollow)

end JsxTidy.Parser
