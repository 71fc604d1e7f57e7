import JsxTidy.Parser.Expression

/-!
# Reading programs: statements and declarations

A statement is told by its first word, if that word has its meaning there. The words that open a
typed declaration are names elsewhere.
-/

namespace JsxTidy.Parser

open Syntax

/-- Reads an expression where `in` is an operator. -/
def fullExpression : Parser Node :=
  allowingIn (goal .expression)

/-- Reads an expression in the parentheses of a statement's head. -/
def headExpression : Parser Node := do
  expectSymbol "("
  let e ← goal .expression
  expectSymbol ")"
  return e

/-- Reads a block. -/
def block : Parser Node := do
  let start ← startOffset
  expectSymbol "\x7b"
  let body ← upTo "\x7d" (goal (.statement .list))
  expectSymbol "\x7d"
  node .block start body

/-- Reads a statement that is the body of another. -/
def bodyStatement : Parser Node :=
  goal (.statement .body)

/-- Complains about a declaration without the value it needs. -/
def checkInitializer (word : VariableWord) (declarator : Node) : Parser Unit := do
  match declarator with
  | .mk (.declarator _) _ [pattern, _, value] =>
    if !value.isPresent && !(← around).inAmbient then
      match pattern.kind, word with
      | .binding _, .const => complainAt .missingConstValue pattern.span.start
      | .binding _, _ => pure ()
      | _, _ => complainAt .missingPatternValue pattern.span.start
  | _ => pure ()

/-- Complains about a declarator that cannot declare a resource: one without a value, unless it
stands in the head of a loop, or one with a pattern. -/
def checkResource (inHead : Bool) (declarator : Node) : Parser Unit := do
  match declarator with
  | .mk (.declarator _) _ [pattern, _, value] =>
    match pattern.kind with
    | .binding _ => pure ()
    | _ => complainAt .resourcePattern pattern.span.start
    if !value.isPresent && !inHead then complainAt .missingResource pattern.span.start
  | _ => pure ()

/-- Reads the mark of a variable that gets its value elsewhere. Only a name can have it. -/
def definiteMark (pattern : Node) : Parser Bool := do
  let isName := match pattern.kind with
    | .binding _ => true
    | _ => false
  if isName && !(← token).onNewLine then eatSymbol "!" else return false

/-- Passes the mark of an optional variable, which there is none of. -/
def passOptionalMark : Parser Unit := do
  if ← atSymbol "?" then
    complainAt .optionalDeclaration (← startOffset)
    advance

/-- Reads one declarator of a variable declaration. -/
def declarator (word : VariableWord) (inHead : Bool) : Parser Node := do
  let start ← startOffset
  let pattern ← bindingPattern
  let isDefinite ← definiteMark pattern
  passOptionalMark
  let typed ← declaredType
  let value ← if ← eatSymbol "=" then assignment else pure .none
  let result ← node (.declarator isDefinite) start [pattern, typed, value]
  if !inHead then checkInitializer word result
  if word.isResource then checkResource inHead result
  return result

/-- Reads a variable declaration from behind its word. -/
def variablesRest (start : Nat) (word : VariableWord) (isDeclare inHead : Bool) :
    Parser Node := do
  let first ← declarator word inHead
  let others ← many (eatSymbol ",") (declarator word inHead)
  if !inHead then semicolon
  node (.variables word isDeclare) start (first :: others)

/-- Whether a statement stands where only one statement can. -/
def isAlone (place : StatementPlace) : Bool :=
  place != .list

/-- Reads a variable statement from behind its word. -/
def variableStatement (start : Nat) (word : VariableWord) (place : StatementPlace) :
    Parser Node := do
  let result ← variablesRest start word false false
  if isAlone place && word != .var then complainAt .lexicalAlone start
  return result

/-- Ends a statement that is an expression. -/
def expressionStatementRest (start : Nat) (e : Node) : Parser Node := do
  semicolon
  node .expressionStatement start [e]

/-- Reads an expression as a statement, or a statement with a label. -/
def expressionOrLabeled : Parser Node := do
  let start ← startOffset
  let e ← goal .expression
  match e with
  | .mk (.reference name) span _ =>
    if ← eatSymbol ":" then
      let body ← goal (.statement .labelBody)
      return ← node .labeledStatement start [.mk (.word name) span [], body]
  | _ => pure ()
  expressionStatementRest start e

/-- Complains about a function that stands where only one statement can. -/
def checkFunctionAlone (start : Nat) (place : StatementPlace) (function : Node) : Parser Unit := do
  if isAlone place then
    match function.kind with
    | .function shape =>
      if shape.isAsync then complainAt .asyncFunctionAlone start
      else if shape.isGenerator then complainAt .generatorAlone start
    | _ => pure ()

/-- Reads a function that is a statement. -/
def functionStatement (place : StatementPlace) : Parser Node := do
  let start ← startOffset
  let isAsync ← eatWord "async"
  let result ← functionFrom start .declaration isAsync false true
  checkFunctionAlone start place result
  return result

/-- Reads a class that is a statement. -/
def classStatement (start : Nat) (place : StatementPlace) (decorated : List Node)
    (found : List Modifier) : Parser Node := do
  let result ← classFrom start decorated found true
  if isAlone place then complainAt .classAlone start
  return result

/-- Reads a statement that begins with `let`, which may be a name. -/
def letStatement (place : StatementPlace) : Parser Node := do
  let start ← startOffset
  let isName ← nextToken fun t => match t.lexeme with
    | .symbol text =>
      text == "." || text == "(" || text == ";" || (AssignOp.ofText? text).isSome
        || (operatorPrecedence? t.lexeme).isSome || (isAlone place && text != "[")
    | .word name => isAlone place || name == "in" || name == "instanceof"
    | _ => isAlone place
  if isName then
    if isAlone place then
      let name ← reference
      expressionStatementRest start name
    else expressionOrLabeled
  else
    advance
    variableStatement start .let place

/-- Reads an `if`. -/
def ifStatement : Parser Node := do
  let start ← startOffset
  advance
  let test ← headExpression
  let first ← goal (.statement .ifBranch)
  let second ← if ← eatWord "else" then goal (.statement .ifBranch) else pure .none
  node .ifStatement start [test, first, second]

/-- Reads a loop that tests behind its body. -/
def doWhileStatement : Parser Node := do
  let start ← startOffset
  advance
  let body ← bodyStatement
  expectWord "while"
  let test ← headExpression
  let _ ← eatSymbol ";"
  node .doWhileStatement start [body, test]

/-- Reads a loop that tests before its body. -/
def whileStatement : Parser Node := do
  let start ← startOffset
  advance
  let test ← headExpression
  let body ← bodyStatement
  node .whileStatement start [test, body]

/-- Complains about variables without a value in the first part of a counting loop. -/
def checkFirst (first : Node) : Parser Unit :=
  match first with
  | .mk (.variables word _) _ declarators => declarators.forM (checkInitializer word)
  | _ => pure ()

/-- Reads a counting loop from behind its start. -/
def forRest (start : Nat) (awaits : Bool) (first : Node) : Parser Node := do
  expectSymbol ";"
  checkFirst first
  let test ←
    if (← atSymbol ";") || (← atSymbol ")") then pure .none else fullExpression
  expectSymbol ";"
  let step ← if ← atSymbol ")" then pure .none else fullExpression
  expectSymbol ")"
  if awaits then complainAt .forAwait start
  let body ← bodyStatement
  node .forStatement start [first, test, step, body]

/-- Reads a loop over keys or values from behind its left side. -/
def forEachRest (start : Nat) (awaits : Bool) (left : Node) : Parser Node := do
  let isIn ← eatWord "in"
  if !isIn then expectWord "of"
  let right ← allowingIn (if isIn then goal .expression else assignment)
  expectSymbol ")"
  if isIn && awaits then complainAt .forAwait start
  let body ← bodyStatement
  if isIn then node .forInStatement start [left, right, body]
  else node (.forOfStatement awaits) start [left, right, body]

/-- Whether a loop over keys or values goes on here. -/
def atForEach : Parser Bool := do
  return (← atWord "in") || (← atWord "of")

/-- Whether a declaration of resources stands here. -/
def atUsing : Parser Bool := do
  if ← atWord "using" then
    nextToken fun t => mayBind t.lexeme && !t.onNewLine && !t.lexeme.isWord "of"
  else if ← atWord "await" then
    lookahead do
      skipToken false
      let t ← token
      if t.onNewLine || !t.lexeme.isWord "using" then return false
      skipToken false
      let t ← token
      return mayBind t.lexeme && !t.onNewLine
  else return false

/-- Reads the word of a variable declaration. -/
def variableWord? : Parser (Option VariableWord) := do
  match ← lexeme with
  | .word "var" =>
    advance
    return some .var
  | .word "const" =>
    advance
    return some .const
  | .word "using" | .word "await" =>
    if !(← atUsing) then return none
    let awaits ← eatWord "await"
    advance
    return some (if awaits then .awaitUsing else .using)
  | _ => return none

/-- Whether a `let` that declares a variable stands here, and no name. -/
def atLetDeclaration : Parser Bool := do
  if ← atWord "let" then
    let declares ← nextToken fun t => match t.lexeme with
      | .word name => name != "in" && name != "of" && name != "instanceof"
      | .symbol text => text == "[" || text == "\x7b"
      | _ => false
    if declares then return true
    -- A variable of the name `of` is told by what follows it.
    lookahead do
      skipToken false
      if !(← atWord "of") then return false
      skipToken false
      match ← lexeme with
      | .symbol text => return text == "=" || text == ";" || text == ","
      | .word name => return name == "of" || name == "in"
      | _ => return false
  else return false

/-- Reads the word of a loop that waits for its values, if it is there. -/
def forAwait : Parser Bool := do
  if ← atWord "await" then
    if !(← around).inAsync then complainAt .awaitOutside (← startOffset)
    advance
    return true
  else return false

/-- Reads a loop from the declaration in its head on, from behind the word of that. -/
def forDeclaration (start : Nat) (awaits : Bool) (headStart : Nat) (word : VariableWord) :
    Parser Node := do
  let left ← forbiddingIn (variablesRest headStart word false true)
  if word.isResource && (← atWord "in") then
    complainAt (.resourceForIn (word == .awaitUsing)) headStart
  if ← atForEach then forEachRest start awaits left else forRest start awaits left

/-- Whether the first part of a loop begins with `async of`. -/
def atAsyncOf : Parser Bool := do
  if ← atWord "async" then nextToken fun t => t.lexeme.isWord "of" else return false

/-- Complains about the names `let` and `async` before the `of` of a loop. -/
def checkForOf (awaits : Bool) (headStart : Nat) (isLet isAsyncOf : Bool) : Parser Unit := do
  if ← atWord "of" then
    if !awaits && isAsyncOf then complainAt .forOfAsync headStart
    if isLet then complainAt .forOfLet headStart

/-- Reads a loop from the expression in its head on. It is a target where the loop is one over keys
or values. -/
def forExpression (start : Nat) (awaits : Bool) (headStart : Nat) : Parser Node := do
  let isLet ← atWord "let"
  let isAsyncOf ← atAsyncOf
  let e ← forbiddingIn (goal .expression)
  if ← atForEach then
    checkForOf awaits headStart isLet isAsyncOf
    let left ← target e
    forEachRest start awaits left
  else forRest start awaits e

/-- Reads a loop from behind the parenthesis of its head. -/
def forHead (start : Nat) (awaits : Bool) : Parser Node := do
  if ← atSymbol ";" then forRest start awaits .none
  else
    let headStart ← startOffset
    match ← variableWord? with
    | some word => forDeclaration start awaits headStart word
    | none =>
      if ← atLetDeclaration then
        advance
        forDeclaration start awaits headStart .let
      else if ← atSymbol ")" then forRest start awaits .none
      else forExpression start awaits headStart

/-- Reads a `for`. -/
def forStatement : Parser Node := do
  let start ← startOffset
  advance
  let awaits ← forAwait
  expectSymbol "("
  forHead start awaits

/-- Reads the value behind a `return`, if there is one. -/
def returnValue : Parser Node := do
  if ← eatSymbol ";" then return .none
  else if ← canInsertSemicolon then return .none
  else
    let e ← fullExpression
    semicolon
    return e

/-- Reads a `return`. -/
def returnStatement : Parser Node := do
  let start ← startOffset
  advance
  let value ← returnValue
  if !(← around).inFunction then complainAt .returnOutside start
  node .returnStatement start [value]

/-- Reads the label that a jump leads to, if it has one. -/
def jumpLabel : Parser Node := do
  if (← atSymbol ";") || (← canInsertSemicolon) then return .none
  else
    match ← lexeme with
    | .word name =>
      if Words.isReserved name then unexpected
      wordName
    | _ => unexpected

/-- Reads a `break` or `continue`. -/
def jumpStatement (kind : Kind) : Parser Node := do
  let start ← startOffset
  advance
  let label ← jumpLabel
  semicolon
  node kind start [label]

/-- Reads what a case of a `switch` is for. -/
def caseTest (start : Nat) : Parser Node := do
  if ← eatWord "default" then return .none
  else if ← eatWord "case" then fullExpression
  else failAt .switchClause start

/-- Whether a case of a `switch` goes on here. -/
def insideCase : Parser Bool := do
  match ← lexeme with
  | .word "case" | .word "default" | .symbol "\x7d" | .endOfText => return false
  | _ => return true

/-- Reads a case of a `switch`. -/
def switchCase : Parser Node := do
  let start ← startOffset
  let test ← caseTest start
  expectSymbol ":"
  let body ← many insideCase (goal (.statement .list))
  node .switchCase start [test, .list body]

/-- Reads a `switch`. -/
def switchStatement : Parser Node := do
  let start ← startOffset
  advance
  let subject ← headExpression
  let casesStart ← startOffset
  expectSymbol "\x7b"
  let cases ← upTo "\x7d" switchCase
  expectSymbol "\x7d"
  let cases ← node .switchCases casesStart cases
  node .switchStatement start [subject, cases]

/-- Reads a `throw`. -/
def throwStatement : Parser Node := do
  let start ← startOffset
  advance
  if (← token).onNewLine then complainAt (.illegalNewline "throw") start
  let e ← goal .expression
  semicolon
  node .throwStatement start [e]

/-- Reads what the handler of a `try` catches, from behind its parenthesis. -/
def catchParameter : Parser Node := do
  let start ← startOffset
  let pattern ← bindingPattern
  let typed ← declaredType
  expectSymbol ")"
  node .catchParameter start [pattern, typed]

/-- Reads the handler of a `try`. -/
def catchClause : Parser Node := do
  let start ← startOffset
  advance
  let caught ← if ← eatSymbol "(" then catchParameter else pure .none
  let body ← block
  node .catchClause start [caught, body]

/-- Reads a `try`. -/
def tryStatement : Parser Node := do
  let start ← startOffset
  advance
  let body ← block
  let handler ← if ← atWord "catch" then catchClause else pure .none
  let finalizer ← if ← eatWord "finally" then block else pure .none
  if !handler.isPresent && !finalizer.isPresent then
    complainAt .catchOrFinally body.span.stop
  node .tryStatement start [body, handler, finalizer]

/-- Reads a `with`. -/
def withStatement : Parser Node := do
  let start ← startOffset
  advance
  let object ← headExpression
  let body ← bodyStatement
  node .withStatement start [object, .mk .withBody body.span [body]]

/-- Whether a typed declaration stands here. -/
def atTypedDeclaration : Parser Bool :=
  let rec go : Nat → Parser Bool
    | 0 => return false
    | fuel + 1 => do
      match ← lexeme with
      | .word "var" | .word "let" | .word "const" | .word "function" | .word "class"
      | .word "enum" => return true
      | .word "interface" | .word "type" =>
        skipToken false
        let t ← token
        return mayBind t.lexeme && !t.onNewLine
      | .word "module" | .word "namespace" =>
        skipToken false
        let t ← token
        let isString := match t.lexeme with
          | .string .. => true
          | _ => false
        return !t.onNewLine && (mayBind t.lexeme || isString)
      | .word "abstract" | .word "accessor" | .word "async" | .word "declare" | .word "private"
      | .word "protected" | .word "public" | .word "readonly" =>
        skipToken false
        if (← token).onNewLine then return false
        go fuel
      | .word "static" =>
        skipToken false
        go fuel
      | .word "global" =>
        skipToken false
        match ← lexeme with
        | .symbol "\x7b" | .word "export" => return true
        | .word name => return !Words.isKeyword name
        | _ => return false
      | .word "import" =>
        skipToken false
        match ← lexeme with
        | .string .. | .symbol "*" | .symbol "\x7b" | .word _ => return true
        | _ => return false
      | .word "export" =>
        skipToken false
        match ← lexeme with
        | .symbol "=" | .symbol "*" | .symbol "\x7b" | .symbol "@" | .word "default"
        | .word "as" => return true
        | _ => go fuel
      | _ => return false
  lookahead do go (stepsLeft (← get))

/-- Reads the name of a member of an enumeration, and whether it stands in brackets. In brackets
it has to be a string or a template without holes. -/
def enumMemberName (start : Nat) : Parser (Node × Bool) := do
  match ← lexeme with
  | .string .. =>
    let name ← literal
    return (name, false)
  | .number .. | .bigInt .. => failAt .enumNumericName start
  | .quasi .. => failAt .enumComputedName start
  | .symbol "[" =>
    let (name, _) ← propertyKey
    match name with
    | .mk (.string ..) _ _ => return (name, true)
    | .mk .template _ [_, .mk .list _ []] => return (name, true)
    | .mk (.number _) span _ => failAt .enumNumericName span.start
    | _ => failAt .enumComputedName name.span.start
  | _ =>
    let name ← wordName
    return (name, false)

/-- Reads a member of an enumeration. -/
def enumMember : Parser Node := do
  let start ← startOffset
  let (name, isComputed) ← enumMemberName start
  let value ← if ← eatSymbol "=" then assignment else pure .none
  node (.enumMember isComputed) start [name, value]

/-- The modifiers that a declaration without modifiers of its own may have. -/
def onlyDeclare (found : List Modifier) : Parser Unit :=
  allowModifiers ["declare"] .modifierHere found

/-- Reads an enumeration from its keyword on. -/
def enumDeclaration (start : Nat) (found : List Modifier) : Parser Node := do
  expectWord "enum"
  let name ← bindingName
  let bodyStart ← startOffset
  expectSymbol "\x7b"
  let (members, _) ← commaList "\x7d" enumMember
  expectSymbol "\x7d"
  let body ← node .enumBody bodyStart members
  allowModifiers ["declare", "const"] .modifierHere found
  node (.enumDeclaration (Modifier.has "const" found) (Modifier.has "declare" found)) start
    [name, body]

/-- Whether the type that the compiler itself provides stands here. -/
def atIntrinsic : Parser Bool := do
  if ← atWord "intrinsic" then nextToken fun t => !t.lexeme.isSymbol "." else return false

/-- Reads a type alias from its keyword on. -/
def typeAlias (start : Nat) (found : List Modifier) : Parser Node := do
  expectWord "type"
  let name ← bindingName
  let partsStart ← startOffset
  let generics ← typeParameters
  expectSymbol "="
  let aliased ← if ← atIntrinsic then keywordType "intrinsic" else type
  let parts ← node .aliasParts partsStart [generics, aliased]
  semicolon
  onlyDeclare found
  node (.typeAlias (Modifier.has "declare" found)) start [name, parts]

/-- Reads an interface that an interface extends. -/
def interfaceParent : Parser Node := do
  let start ← startOffset
  let parent ← goal .leftHandSide
  let (e, arguments) ← splitArguments parent
  node .parent start [e, arguments]

/-- Reads the interfaces that an interface extends. -/
def interfaceParents : Parser (List Node) := do
  advance
  let first ← interfaceParent
  let others ← many (eatSymbol ",") interfaceParent
  return first :: others

/-- Reads an interface from its keyword on. -/
def interfaceDeclaration (start : Nat) (found : List Modifier) : Parser Node := do
  expectWord "interface"
  let name ← bindingName
  let partsStart ← startOffset
  let generics ← typeParameters
  let parents ← if ← atWord "extends" then interfaceParents else pure []
  let bodyStart ← startOffset
  let members ← typeMembers
  let body ← node .interfaceBody bodyStart members
  let parts ← node .interfaceParts partsStart [generics, .list parents, body]
  onlyDeclare found
  node (.interfaceDeclaration (Modifier.has "declare" found)) start [name, parts]

/-- Reads the block of a namespace. -/
def moduleBlock : Parser Node := do
  let start ← startOffset
  expectSymbol "\x7b"
  let (directives, body) ← within (fun s => { s with topLevel := false }) (statements false)
  expectSymbol "\x7d"
  node .moduleBlock start [.list directives, .list body]

/-- Whether the block of a namespace, however nested, asks for strict mode. -/
def isStrictModule : Node → Bool
  | .mk .moduleBlock _ [.mk .list _ directives, _] => directives.any asksForStrict
  | .mk (.namespaceDeclaration ..) _ [_, .mk (.moduleScope strict) _ _] => strict
  | _ => false

/-- Puts the body of a namespace in its scope. -/
def moduleScope (body : Node) : Node :=
  .mk (.moduleScope (isStrictModule body)) body.span [body]

/-- Reads a namespace from its name on, nested at most `fuel` deep. -/
def namespaceFrom (word : NamespaceWord) (isDeclare : Bool) : Nat → Nat → Parser Node
  | 0, _ => unexpected
  | fuel + 1, start => do
    let name ← bindingName
    let body ←
      if ← eatSymbol "." then namespaceFrom word false fuel (← startOffset) else moduleBlock
    node (.namespaceDeclaration word isDeclare) start [name, moduleScope body]

/-- Reads the keyword of a namespace. -/
def namespaceWord : Parser NamespaceWord := do
  if ← eatWord "namespace" then return .namespaceWord
  else
    expectWord "module"
    return .moduleWord

/-- Reads an ambient module from its name on, which is a string. -/
def ambientModule (start : Nat) (isDeclare : Bool) : Parser Node := do
  let name ← literal
  if ← atSymbol "\x7b" then
    let body ← moduleBlock
    node (.namespaceDeclaration .moduleWord isDeclare) start [name, moduleScope body]
  else
    semicolon
    node (.namespaceDeclaration .moduleWord isDeclare) start [name, .none]

/-- Reads a namespace or an ambient module from its keyword on. -/
def namespaceDeclaration (start : Nat) (found : List Modifier) : Parser Node := do
  let isDeclare := Modifier.has "declare" found
  let word ← namespaceWord
  onlyDeclare found
  match word, ← lexeme with
  | .moduleWord, .string .. => ambientModule start isDeclare
  | _, _ => namespaceFrom word isDeclare (stepsLeft (← get)) start

/-- Reads the declaration of global names from its keyword on. -/
def globalDeclaration (start : Nat) (found : List Modifier) : Parser Node := do
  expectWord "global"
  let body ← moduleBlock
  onlyDeclare found
  node (.globalDeclaration (Modifier.has "declare" found) (isStrictModule body)) start [body]

/-- Whether a module is asked for here. -/
def atRequire : Parser Bool := do
  if ← atWord "require" then nextToken fun t => t.lexeme.isSymbol "(" else return false

/-- Reads what asks for a module. -/
def externalModule : Parser Node := do
  let start ← startOffset
  advance
  expectSymbol "("
  let path ← stringLiteral
  expectSymbol ")"
  node .externalModule start [path]

/-- Reads an import of a name by another name, from its equals sign on. -/
def importEqualsRest (start : Nat) (isType : Bool) (name : Node) : Parser Node := do
  expectSymbol "="
  let source ← if ← atRequire then externalModule else typeName
  semicolon
  node (.importEquals isType) start [name, source]

/-- Reads a declaration of variables from its word on. -/
def declaredVariables (start : Nat) (found : List Modifier) (word : VariableWord) :
    Parser Node := do
  advance
  onlyDeclare found
  variablesRest start word (Modifier.has "declare" found) false

/-- Reads a declaration of a function from its keyword on. -/
def declaredFunction (start : Nat) (found : List Modifier) : Parser Node := do
  let result ← functionFrom start .declaration (Modifier.has "async" found)
    (Modifier.has "declare" found) true
  allowModifiers ["declare", "async"] .modifierHere found
  return result

/-- Reads the word of an import of a type, unless it is the name that is imported. -/
def typeWord : Parser Bool := do
  if ← atWord "type" then
    if ← nextToken fun t => isAnyWord t.lexeme then
      advance
      return true
    else return false
  else return false

/-- Reads an import of a name by another name from its keyword on. -/
def importEquals (start : Nat) : Parser Node := do
  advance
  let isType ← typeWord
  let name ← bindingName
  importEqualsRest start isType name

/-- Complains about decorators of anything but a class. -/
def checkDecorated (decorated : List Node) (l : Lexeme) : Parser Unit := do
  if !l.isWord "class" then
    decorated.forM fun d => complainAt .decoratorPlace d.span.start

/-- Reads a declaration from behind its modifiers. -/
def declarationRest (start : Nat) (decorated : List Node) (found : List Modifier) :
    Parser Node := do
  let l ← lexeme
  checkDecorated decorated l
  match l with
  | .word "var" => declaredVariables start found .var
  | .word "let" => declaredVariables start found .let
  | .word "const" => declaredVariables start found .const
  | .word "using" => declaredVariables start found .using
  | .word "class" => classFrom start decorated found true
  | .word "global" => globalDeclaration start found
  | .word "module" | .word "namespace" => namespaceDeclaration start found
  | .word "type" => typeAlias start found
  | .word "enum" => enumDeclaration start found
  | .word "interface" => interfaceDeclaration start found
  | .word "function" => declaredFunction start found
  | .word "import" => importEquals start
  | _ => unexpected

/-- Reads a declaration with its modifiers. -/
def modifiedDeclaration (start : Nat) (decorated : List Node) : Parser Node := do
  let found ← modifiers false false
  within (fun s =>
      { s with
        inAmbient := s.inAmbient || Modifier.has "declare" found
        inAsync := if Modifier.has "async" found then true else s.inAsync })
    (declarationRest start decorated found)

end JsxTidy.Parser
