import JsxTidy.Parser.Markup
import JsxTidy.Parser.Target

/-!
# Reading programs: expressions

Operators are read by their precedence. A parenthesis may open the parameters of an arrow
function; where the first tokens do not tell, the arrow function is tried first.
-/

namespace JsxTidy.Parser

open Syntax

/-- Fails at a comma behind the last expression in parentheses. -/
def refuseComma (comma : Option Nat) : Parser Unit :=
  match comma with
  | some offset => failAt (.expected ")" ",") offset
  | none => pure ()

/-- Closes parentheses behind the expressions in them, of which there has to be one. -/
def closeParentheses (start innerStart : Nat) (expressions : List Node) : Parser Node := do
  match expressions with
  | [] =>
    expectSymbol ")"
    failAt .emptyParentheses start
  | [single] =>
    expectSymbol ")"
    node .paren start [single]
  | several =>
    let inner ← node .sequence innerStart several
    expectSymbol ")"
    node .paren start [inner]

/-- Reads an expression in parentheses. -/
def parenthesized : Parser Node := do
  let start ← startOffset
  advance
  let innerStart ← startOffset
  let (expressions, comma) ←
    within (fun s => { s with allowIn := true, inDecorator := false }) (commaList ")" assignment)
  refuseComma comma
  closeParentheses start innerStart expressions

/-- Reads a template. -/
def templateLiteral (tagged : Bool) : Parser Node := do
  let start ← startOffset
  let (quasis, holes) ← templateParts tagged (allowingIn (goal .expression))
  node .template start [.list quasis, .list holes]

/-- Whether an expression can begin with a token, as far as one token tells. -/
def beginsExpression (lexeme : Lexeme) : Bool :=
  match lexeme with
  | .symbol text =>
    ["(", "[", "\x7b", "/", "/=", "+", "-", "!", "~", "++", "--", "<", "@"].contains text
  | .word name =>
    !Words.isReserved name || ["this", "super", "function", "class", "new", "true", "false", "null",
      "typeof", "void", "delete", "import", "in", "instanceof"].contains name
  | .privateName _ => true
  | .quasi true _ _ _ => true
  | _ => isLiteral lexeme

/-- The precedence of an operator between two operands. -/
def operatorPrecedence? : Lexeme → Option Precedence
  | .word "in" | .word "instanceof" | .word "as" | .word "satisfies" => some .comparison
  | .symbol text =>
    match BinaryOp.ofText? text with
    | some op => some op.precedence
    | none => (LogicalOp.ofText? text).map LogicalOp.precedence
  | _ => none

/-- Whether what stands here can stand behind type arguments in an expression. -/
def canFollowTypeArguments : Parser Bool := do
  let t ← token
  match t.lexeme with
  | .symbol "(" | .quasi true _ _ _ => return true
  | .symbol "<" | .symbol ">" | .symbol "+" | .symbol "-" => return false
  | l =>
    let isOperator := (operatorPrecedence? l).isSome && (!l.isWord "in" || (← around).allowIn)
    return t.onNewLine || isOperator || !beginsExpression l

/-- Reads an argument of a call. -/
def argument : Parser Node := do
  if ← atSymbol "..." then spread else assignment

/-- Reads the arguments of a call. -/
def callArguments : Parser Node := do
  expectSymbol "("
  let (arguments, _) ← within (fun s => { s with allowIn := true, inDecorator := false })
    (commaList ")" argument)
  expectSymbol ")"
  return .list arguments

/-- Reads the options of an imported module, if there are some. -/
def importCallOptions : Parser Node := do
  if ← eatSymbol "," then
    if ← atSymbol ")" then return .none else assignment
  else return .none

/-- Reads the path and the options of an imported module. -/
def importCallParts : Parser (Node × Node) := do
  let source ← assignment
  let options ← importCallOptions
  return (source, options)

/-- Reads the import of a module from its parenthesis on. -/
def importCall (start : Nat) (phase : ImportPhase) : Parser Node := do
  expectSymbol "("
  if ← eatSymbol ")" then failAt .importArguments start
  let (source, options) ← allowingIn importCallParts
  let _ ← eatSymbol ","
  if !(← eatSymbol ")") then failAt .importTooMany start
  node (.importCall phase) start [source, options]

/-- Reads what stands behind `import` and a dot. -/
def importProperty (start : Nat) : Parser Node := do
  match ← lexeme with
  | .word "meta" =>
    advance
    node (.metaProperty "import" "meta") start []
  | .word "source" =>
    advance
    importCall start .source
  | .word "defer" =>
    advance
    importCall start .deferred
  | _ => failAt .importMeta start

/-- Reads what `import` begins in an expression. -/
def importExpression : Parser Node := do
  let start ← startOffset
  advance
  match ← lexeme with
  | .symbol "(" => importCall start .evaluation
  | .symbol "." =>
    advance
    importProperty start
  | _ => unexpected

/-- What is called, and the type arguments that it ends in. -/
def asCallee : Node → Node × Node
  | .mk .instantiation _ [e, arguments] => (e, arguments)
  | e => (e, .none)

/-- Reads a tagged template from behind its tag. -/
def taggedTemplate (start : Nat) (tag : Node) (inChain : Bool) : Parser Node := do
  let templateStart ← startOffset
  let quasi ← templateLiteral true
  if inChain then complainAt .optionalTemplate templateStart
  let tag := asCallee tag
  node .taggedTemplate start [tag.1, tag.2, quasi]

/-- Reads a member's name behind its dot. -/
def memberName : Parser Node := do
  match ← lexeme with
  | .privateName _ => privateName
  | _ => wordName

/-- Whether an optional access of a member stands here, and not an optional call. -/
def atOptionalMember : Parser Bool := do
  if !(← atSymbol "?.") then return false
  nextToken fun t => match t.lexeme with
    | .word _ | .privateName _ | .symbol "[" => true
    | _ => false

/-- Reads the access of a member by its name. -/
def accessByName (start : Nat) (isOptional : Bool) (object : Node) : Parser Node := do
  let name ← memberName
  node (.member isOptional) start [object, name]

/-- Reads the access of a member in brackets. -/
def accessByIndex (start : Nat) (isOptional : Bool) (object : Node) : Parser Node := do
  advance
  let property ← allowingIn (goal .expression)
  expectSymbol "]"
  node (.index isOptional) start [object, property]

/-- Reads the access of a member from behind its question mark. -/
def optionalAccess (start : Nat) (object : Node) : Parser Node := do
  advance
  if ← atSymbol "[" then accessByIndex start true object else accessByName start true object

/-- Reads one access of a member, or what else stands behind an expression and is no call, if
anything does. Says whether an access has been optional. -/
def memberStep (start : Nat) (allowOptional : Bool) (object : Node) (inChain : Bool) :
    Parser (Option (Node × Bool)) := do
  let t ← token
  match t.lexeme with
  | .symbol "." =>
    advance
    let e ← accessByName start false object
    return some (e, inChain)
  | .symbol "?." =>
    if !allowOptional then return none
    if !(← atOptionalMember) then return none
    let e ← optionalAccess start object
    return some (e, true)
  | .symbol "[" =>
    if (← around).inDecorator then return none
    let e ← accessByIndex start false object
    return some (e, inChain)
  | .symbol "!" =>
    if t.onNewLine then return none
    advance
    let e ← node .nonNull start [object]
    return some (e, inChain)
  | .quasi true _ _ _ =>
    let e ← taggedTemplate start object inChain
    return some (e, inChain)
  | .symbol "<" | .symbol "<<" =>
    match ← typeArgumentsInExpression canFollowTypeArguments with
    | some arguments =>
      let e ← node .instantiation start [object, arguments]
      return some (e, inChain)
    | none => return none
  | _ => return none

/-- Reads accesses of members behind an expression. Says whether one of them was optional. -/
def memberRest (start : Nat) (allowOptional : Bool) :
    Nat → Node → Bool → Parser (Node × Bool)
  | 0, object, inChain => return (object, inChain)
  | fuel + 1, object, inChain => do
    match ← memberStep start allowOptional object inChain with
    | some (e, inChain) => memberRest start allowOptional fuel e inChain
    | none => return (object, inChain)

/-- Reads what stands behind `new` and a dot. -/
def newTarget (start : Nat) : Parser Node := do
  if ← atWord "target" then
    advance
    node (.metaProperty "new" "target") start []
  else failAt .newTarget start

/-- Reads what is constructed. An optional access fails. -/
def newCallee : Parser Node := do
  let start ← startOffset
  let first ← goal .primary
  let (callee, _) ← memberRest start false (stepsLeft (← get)) first false
  if ← atSymbol "?." then failAt .optionalNew (← startOffset)
  return callee

/-- Reads the arguments of a constructor, which may be left out. -/
def newArguments : Parser Node := do
  if ← atSymbol "(" then callArguments else return .list []

/-- Complains about the import of a module that is constructed. -/
def checkNewCallee (callee : Node) (offset : Nat) : Parser Unit :=
  match callee.kind with
  | .importCall _ => complainAt .newImport offset
  | _ => pure ()

/-- Reads a call of a constructor. -/
def newExpression : Parser Node := do
  let start ← startOffset
  advance
  if ← eatSymbol "." then return ← newTarget start
  let calleeStart ← startOffset
  let whole ← newCallee
  let callee := asCallee whole
  let arguments ← newArguments
  checkNewCallee callee.1 calleeStart
  node (.new false) start [callee.1, callee.2, arguments]

/-- The rule for an expression with nothing around it. -/
def primaryRule : Parser Node := do
  let start ← startOffset
  match ← lexeme with
  | .symbol "/" | .symbol "/=" =>
    rereadRegExp
    literal
  | .string .. | .number .. | .bigInt .. => literal
  | .symbol "[" => arrayLiteral
  | .symbol "\x7b" => goal .objectLiteral
  | .symbol "(" => parenthesized
  | .symbol "<" => goal .markup
  | .symbol "@" => goal .classExpression
  | .quasi true _ _ _ => templateLiteral false
  | .word "true" | .word "false" | .word "null" => literal
  | .word "function" => goal .functionExpression
  | .word "async" => if ← atAsyncFunction then goal .functionExpression else reference
  | .word "class" => goal .classExpression
  | .word "this" =>
    advance
    node .this start []
  | .word "new" => newExpression
  | .word "super" =>
    advance
    let l ← lexeme
    if !(l.isSymbol "." || l.isSymbol "(" || l.isSymbol "[") then complainAt .unexpectedSuper start
    node .super start []
  | .word "import" => importExpression
  | _ => reference

/-- What is called with type arguments that may have been read before it is known to be called. -/
def calledWith (callee : Node) (types : Option Node) : Node × Node :=
  match types with
  | some types => (callee, types)
  | none => asCallee callee

/-- Reads the arguments of a call, and the call with them. -/
def call (start : Nat) (isOptional : Bool) (callee : Node) (types : Option Node) :
    Parser Node := do
  let called := calledWith callee types
  let arguments ← callArguments
  node (.call isOptional false) start [called.1, called.2, arguments]

/-- Reads one call behind an expression, if there is one. -/
def callStep (start : Nat) (callee : Node) (inChain : Bool) : Parser (Option (Node × Bool)) := do
  let t ← token
  let isOptional ← eatSymbol "?."
  let types ← if isOptional then typeArgumentsInExpression canFollowTypeArguments else pure none
  if isOptional && opensTemplate (← lexeme) then
    let e ← taggedTemplate start callee true
    return some (e, true)
  else if types.isSome || (← atSymbol "(") then
    let e ← call start isOptional callee types
    return some (e, inChain || isOptional)
  else
    if isOptional then failAt .optionalName t.span.start
    return none

/-- Reads calls and accesses of members behind an expression. -/
def callRest (start : Nat) : Nat → Node → Bool → Parser (Node × Bool)
  | 0, callee, inChain => return (callee, inChain)
  | fuel + 1, callee, inChain => do
    let (callee, inChain) ← memberRest start true (stepsLeft (← get)) callee inChain
    match ← callStep start callee inChain with
    | some (e, inChain) => callRest start fuel e inChain
    | none => return (callee, inChain)

/-- Puts a chain around an expression with an optional access. Type arguments stay outside. -/
def asChain (start : Nat) (e : Node) : Parser Node := do
  match e with
  | .mk .instantiation span [inner, arguments] =>
    return .mk .instantiation span [.mk .chain inner.span [inner], arguments]
  | _ => node .chain start [e]

/-- The rule for an expression that may stand on the left of an assignment. -/
def leftHandSideRule : Parser Node := do
  let start ← startOffset
  let first ← primaryRule
  let (e, inChain) ← callRest start (stepsLeft (← get)) first false
  if inChain then asChain start e else return e

/-- The operator that steps its operand, if the token is one. -/
def updateOp? : Lexeme → Option UpdateOp
  | .symbol "++" => some .increment
  | .symbol "--" => some .decrement
  | _ => none

/-- The operator before an operand, if the token is one. -/
def unaryOp? : Lexeme → Option UnaryOp
  | .symbol "-" => some .negate
  | .symbol "+" => some .plus
  | .symbol "!" => some .not
  | .symbol "~" => some .complement
  | .word "typeof" => some .typeOf
  | .word "void" => some .void
  | .word "delete" => some .delete
  | _ => none

/-- Whether the token behind the current one goes on an expression on the same line. -/
def nextGoesOnLine : Parser Bool :=
  nextToken fun t => !t.onNewLine && match t.lexeme with
    | .word _ | .string .. | .number .. | .bigInt .. => true
    | _ => false

/-- Whether `await` waits here, and is no name. -/
def atAwait : Parser Bool := do
  if !(← atWord "await") then return false
  if (← around).inAsync then return true
  nextGoesOnLine

/-- Whether markup stands here. -/
def atMarkup : Parser Bool := do
  if !(← atSymbol "<") then return false
  nextToken fun t => t.lexeme.isSymbol ">" || isAnyWord t.lexeme

/-- Reads what an operator before it steps. -/
def prefixUpdate (start : Nat) (op : UpdateOp) : Parser Node := do
  advance
  let inner ← goal .unary
  let place ← simpleTarget inner
  node (.update op true) start [place]

/-- Reads an operator behind what it steps, if one stands on the same line. -/
def suffixUpdate (start : Nat) (inner : Node) : Parser Node := do
  let t ← token
  match updateOp? t.lexeme with
  | some op =>
    if t.onNewLine then return inner
    advance
    let place ← simpleTarget inner
    node (.update op false) start [place]
  | none => return inner

/-- Reads an expression with an operator that steps it. -/
def updateExpression : Parser Node := do
  let start ← startOffset
  match updateOp? (← lexeme) with
  | some op => prefixUpdate start op
  | none =>
    if ← atMarkup then return ← goal .markup
    let inner ← leftHandSideRule
    suffixUpdate start inner

/-- Reads what an operator before it is applied to. -/
def unary (start : Nat) (op : UnaryOp) : Parser Node := do
  advance
  let inner ← goal .unary
  node (.unary op) start [inner]

/-- Reads what is awaited. -/
def awaited (start : Nat) : Parser Node := do
  if !(← around).inAsync then complainAt .awaitOutside start
  advance
  let inner ← within (fun s => { s with inAsync := true }) (goal .unary)
  node .await start [inner]

/-- The rule for an operand with the operators before it. -/
def unaryRule : Parser Node := do
  let start ← startOffset
  let t ← token
  match unaryOp? t.lexeme with
  | some op => unary start op
  | none => if ← atAwait then awaited start else updateExpression

/-- Marks the call that an expression begins with as free of side effects. -/
def markPure : Node → Node
  | .mk (.call isOptional _) span parts => .mk (.call isOptional true) span parts
  | .mk (.new _) span parts => .mk (.new true) span parts
  | .mk .paren span [e] => .mk .paren span [markPure e]
  | .mk .chain span [e] => .mk .chain span [markPure e]
  | e => e

/-- Marks a function as free of side effects. -/
def markQuiet : Node → Node
  | .mk (.arrow shape) span parts => .mk (.arrow { shape with quiet := true }) span parts
  | .mk (.function shape) span parts => .mk (.function { shape with quiet := true }) span parts
  | e => e

/-- Marks a function as free of side effects where it is said to be. -/
def markQuietIf (quiet : Bool) (e : Node) : Node :=
  if quiet then markQuiet e else e

/-- Marks the function that a statement declares. A constant counts as its value. -/
def markQuietStatement : Node → Node
  | .mk (.variables .const isDeclare) span (.mk kind place [pattern, type, value] :: rest) =>
    .mk (.variables .const isDeclare) span (.mk kind place [pattern, type, markQuiet value] :: rest)
  | .mk .exportDefault span [exported] => .mk .exportDefault span [markQuiet exported]
  | .mk (.exportNamed isType) span (declaration :: rest) =>
    .mk (.exportNamed isType) span (markQuietStatement declaration :: rest)
  | statement => markQuiet statement

/-- Whether two operators may not be mixed without parentheses. -/
def mixesCoalesce (op : LogicalOp) (left right : Node) : Bool :=
  let isOther : Node → Bool
    | .mk (.logical .or) _ _ | .mk (.logical .and) _ _ => true
    | _ => false
  match op, left, right with
  | .coalesce, left, right => isOther left || isOther right
  | _, .mk (.logical .coalesce) _ _, _ => true
  | _, _, .mk (.logical .coalesce) _ _ => true
  | _, _, _ => false

/-- Whether an expression may not be the base of a power without parentheses. -/
def isUnaryBase : Node → Bool
  | .mk (.unary _) _ _ | .mk .await _ _ => true
  | _ => false

/-- Whether an operator of a precedence stops the operation that it would belong to. -/
def stopsBelow (above p : Precedence) : Bool :=
  if p == .power then !p.atLeast above else !p.above above

/-- Reads the type behind a word that gives an operand a type. -/
def typedOperand (start : Nat) (operator : Lexeme) (left : Node) : Parser Node := do
  advance
  let typed ← type
  let kind : Kind := if operator.isWord "as" then .asType else .satisfiesType
  node kind start [left, typed]

/-- Puts an operator between two operands. -/
def combine (start : Nat) (operator : Lexeme) (left right : Node) : Parser (Option Node) := do
  match operator with
  | .word name =>
    let e ← node (.binary (if name == "in" then .isIn else .instanceOf)) start [left, right]
    return some e
  | .symbol text =>
    match BinaryOp.ofText? text, LogicalOp.ofText? text with
    | some op, _ =>
      if op == .power && isUnaryBase left then complainAt .unexpectedPower left.span.start
      let e ← node (.binary op) start [left, right]
      return some e
    | none, some op =>
      if mixesCoalesce op left right then complainAt .mixedCoalesce start
      let e ← node (.logical op) start [left, right]
      return some e
    | none, none => return none
  | _ => return none

/-- Reads one operator behind an operand, and the other operand, if the operator binds more tightly
than `above`. -/
def operationStep (start : Nat) (above : Precedence) (left : Node) : Parser (Option Node) := do
  rereadClosingAngle
  let t ← token
  match operatorPrecedence? t.lexeme with
  | none => return none
  | some p =>
    if stopsBelow above p then return none
    if t.lexeme.isWord "in" && !(← around).allowIn then return none
    if t.lexeme.isWord "as" || t.lexeme.isWord "satisfies" then
      if t.onNewLine then return none
      let e ← typedOperand start t.lexeme left
      return some e
    else
      advance
      let right ← goal (.operation p)
      combine start t.lexeme left right

/-- Reads the operators behind an operand that bind more tightly than `above`. -/
def operationRest (start : Nat) (above : Precedence) : Nat → Node → Parser Node
  | 0, left => return left
  | fuel + 1, left => do
    match ← operationStep start above left with
    | some e => operationRest start above fuel e
    | none => return left

/-- Complains about an object that is searched for a private name and is such a search itself. -/
def checkSearched (object : Node) : Parser Unit :=
  match object.kind with
  | .privateIn => complainAt .unexpectedToken object.span.start
  | _ => pure ()

/-- Reads a search for a private name. -/
def privateSearch (start : Nat) : Parser Node := do
  let name ← privateName
  expectWord "in"
  let object ← goal (.operation .comparison)
  checkSearched object
  node .privateIn start [name, object]

/-- Marks an operand as what the comments before its first token say of it. -/
def markOperand (t : Token) (e : Node) : Node :=
  markQuietIf t.afterQuiet (if t.afterPure then markPure e else e)

/-- Reads the first operand of an operation. -/
def firstOperand (start : Nat) : Parser Node := do
  let t ← token
  match t.lexeme with
  | .privateName _ => if (← around).allowIn then privateSearch start else unaryRule
  | _ =>
    let e ← unaryRule
    return markOperand t e

/-- The rule for operands with operators between them that bind more tightly than `above`. -/
def operationRule (above : Precedence) : Parser Node := do
  let start ← startOffset
  let left ← firstOperand start
  operationRest start above (stepsLeft (← get)) left

/-- Whether the parameters of an arrow function stand at a parenthesis or angle bracket. -/
inductive Likelihood where
  | no | maybe | yes
deriving DecidableEq

/-- Whether an arrow function with parentheses stands here, as far as a few tokens tell. -/
def arrowLikelihood : Parser Likelihood := fun env s =>
  let look : Parser Likelihood := do
    if ← atWord "async" then
      skipToken false
      let t ← token
      if t.onNewLine || !(t.lexeme.isSymbol "(" || t.lexeme.isSymbol "<") then return .no
    let first ← lexeme
    if first.isSymbol "(" then
      skipToken false
      let second ← lexeme
      match second with
      | .symbol ")" =>
        skipToken false
        match ← lexeme with
        | .symbol ":" | .symbol "=>" | .symbol "\x7b" => return .yes
        | _ => return .no
      | .symbol "[" | .symbol "\x7b" => return .maybe
      | .symbol "..." =>
        skipToken false
        let third ← lexeme
        if isLiteral third then return .no
        if mayBind third then return .yes
        return .maybe
      | .symbol "@" => return .maybe
      | _ =>
        if isModifierWord second && !second.isWord "async" then
          if ← nextToken fun t => mayBind t.lexeme then
            skipToken false
            return if ← atWord "as" then .no else .yes
        if !mayBind second && !second.isWord "this" then return .no
        skipToken false
        match ← lexeme with
        | .symbol ":" => return .yes
        | .symbol "?" =>
          skipToken false
          match ← lexeme with
          | .symbol ":" | .symbol "," | .symbol "=" | .symbol ")" => return .yes
          | _ => return .no
        | .symbol "," | .symbol "=" | .symbol ")" => return .maybe
        | _ => return .no
    else if first.isSymbol "<" then
      skipToken false
      let second ← lexeme
      if !mayBind second && !second.isWord "const" then return .no
      if second.isWord "const" then skipToken false
      skipToken false
      match ← lexeme with
      | .word "extends" =>
        skipToken false
        match ← lexeme with
        | .symbol "=" | .symbol ">" | .symbol "/" => return .no
        | _ => return .yes
      | .symbol "," | .symbol "=" => return .yes
      | _ => return .no
    else return .no
  match look env s with
  | .ok answer s' => .ok answer { s with log := s'.log }
  | .error _ s' => .ok .no { s with log := s'.log }

/-- What stands before the body of an arrow function. -/
structure ArrowHead where
  start : Nat
  isAsync : Bool
  generics : Node
  parameters : Node
  result : Node

/-- Passes the arrow, which stands on the line where the head ends. -/
def passArrow : Parser Unit := do
  let t ← token
  if t.onNewLine && t.lexeme.isSymbol "=>" then complainAt .arrowNewline t.span.start
  expectSymbol "=>"

/-- Reads what stands before the arrow of an arrow function with parentheses. -/
def arrowParts (start : Nat) (isAsync : Bool) : Parser ArrowHead := do
  let generics ← typeParameters
  let (this, parameters) ← parametersOf false
  if this.isPresent then complainAt .thisInArrow this.span.start
  let result ← declaredResult ":"
  return { start, isAsync, generics, parameters, result }

/-- Reads the head of an arrow function with parentheses. -/
def arrowHead : Parser ArrowHead := do
  let start ← startOffset
  let isAsync ← eatWord "async"
  let head ← within (fun s => { s with inAsync := s.inAsync || isAsync }) (arrowParts start isAsync)
  passArrow
  return head

/-- Reads an expression as the body of an arrow function. -/
def expressionBody (allowReturnType : Bool) : Parser Node := do
  let e ← goal (.assignment allowReturnType)
  return .mk .functionBody e.span [.list [], .list [.mk .expressionStatement e.span [e]]]

/-- Reads an arrow function from behind its arrow. -/
def arrowBody (head : ArrowHead) (allowReturnType : Bool) : Parser Node := do
  let isExpression := !(← atSymbol "\x7b")
  let body ← within (fun s => { s with inAsync := head.isAsync, inGenerator := false })
    (if isExpression then expressionBody allowReturnType else goal .functionBody)
  node (.arrow
      { isAsync := head.isAsync, bodyIsExpression := isExpression,
        strict := !isExpression && isStrictBody body, quiet := false })
    head.start [head.generics, head.parameters, head.result, body]

/-- Reads an arrow function with parentheses. Where a return type may belong to a conditional
around the function, a colon has to follow its body. -/
def arrowBeforeColon? (allowReturnType : Bool) : Parser (Option Node) := do
  let head ← arrowHead
  let e ← arrowBody head allowReturnType
  if !allowReturnType && head.result.isPresent && !(← atSymbol ":") then return none
  return some e

/-- Reads an arrow function with parentheses if one stands here. -/
def arrowFunction? (allowReturnType : Bool) : Parser (Option Node) := do
  let l ← lexeme
  if !(l.isSymbol "(" || l.isSymbol "<" || l.isWord "async") then return none
  match ← arrowLikelihood with
  | .no => return none
  | .yes =>
    let head ← arrowHead
    let e ← arrowBody head allowReturnType
    return some e
  | .maybe => attempt? (arrowBeforeColon? allowReturnType)

/-- The name that an expression uses as the name that it declares. -/
def declaredByUse : Node → Node
  | .mk (.reference text) span _ => .mk (.binding text) span []
  | e => e

/-- A name without parentheses as the parameters of an arrow function. -/
def soleParameter (name : Node) : Node :=
  .mk .parameters name.span
    [.mk (.parameter (memberShape [])) name.span [.list [], declaredByUse name, .none, .none]]

/-- Reads an arrow function from behind its only parameter, a name without parentheses. -/
def simpleArrow (start : Nat) (isAsync : Bool) (name : Node) (allowReturnType : Bool) :
    Parser Node := do
  passArrow
  arrowBody
    { start, isAsync, generics := .none, parameters := soleParameter name, result := .none }
    allowReturnType

/-- Whether an asynchronous arrow function without parentheses stands here. -/
def atAsyncSimpleArrow : Parser Bool := do
  if !(← atWord "async") then return false
  lookahead do
    skipToken false
    let t ← token
    if t.onNewLine || !mayBind t.lexeme then return false
    skipToken false
    let t ← token
    return !t.onNewLine && t.lexeme.isSymbol "=>"

/-- Whether a `yield` ends before a token. -/
def endsYield : Lexeme → Bool
  | .endOfText => true
  | .word name => name == "in"
  | .symbol text => [";", ")", "]", "\x7d", ":", ","].contains text
  | .quasi false _ _ _ => true
  | _ => false

/-- Reads a `yield`. -/
def yieldExpression : Parser Node := do
  let start ← startOffset
  if !(← around).inGenerator then complainAt .yieldOutside start
  advance
  let t ← token
  if t.onNewLine then return ← node (.yield false) start [.none]
  let delegates ← eatSymbol "*"
  let l ← lexeme
  let inner ← if !endsYield l || delegates then assignment else pure .none
  node (.yield delegates) start [inner]

/-- Whether `yield` yields here, and is no name. -/
def atYield : Parser Bool := do
  if !(← atWord "yield") then return false
  if (← around).inGenerator then return true
  nextGoesOnLine

/-- Reads an asynchronous arrow function without parentheses. -/
def asyncSimpleArrow (start : Nat) (allowReturnType : Bool) : Parser Node := do
  advance
  let name ← reference
  simpleArrow start true name allowReturnType

/-- The operator that assigns, if the token is one. -/
def assignOp? : Lexeme → Option AssignOp
  | .symbol text => AssignOp.ofText? text
  | _ => none

/-- Reads what is assigned. Only a plain assignment may have a pattern before it. -/
def assignRest (start : Nat) (allowReturnType : Bool) (op : AssignOp) (left : Node) :
    Parser Node := do
  let place ← if op == .plain then target left else simpleTarget left
  advance
  let right ← goal (.assignment allowReturnType)
  node (.assign op) start [place, right]

/-- Reads the branches of a conditional, if there are some. -/
def conditionalRest (start : Nat) (allowReturnType : Bool) (left : Node) : Parser Node := do
  if !(← eatSymbol "?") then return left
  let first ← allowingIn (goal (.assignment false))
  expectSymbol ":"
  let second ← goal (.assignment allowReturnType)
  node .conditional start [left, first, second]

/-- Reads what stands behind an operation: an arrow, an assignment or the branches of a
conditional. -/
def behindOperation (start : Nat) (quiet allowReturnType : Bool) (left : Node) : Parser Node := do
  let l ← lexeme
  if (left.kind matches .reference _) && l.isSymbol "=>" then
    let arrow ← simpleArrow start false left allowReturnType
    return markQuietIf quiet arrow
  match assignOp? l with
  | some op => assignRest start allowReturnType op left
  | none => conditionalRest start allowReturnType left

/-- The rule for an expression that is no sequence. Behind the question mark of a conditional, an
arrow function may have a return type only if a colon follows its body. -/
def assignmentRule (allowReturnType : Bool) : Parser Node := do
  if ← atYield then return ← yieldExpression
  let start ← startOffset
  let quiet := (← token).afterQuiet
  if let some arrow ← arrowFunction? allowReturnType then return markQuietIf quiet arrow
  if ← atAsyncSimpleArrow then
    let arrow ← asyncSimpleArrow start allowReturnType
    return markQuietIf quiet arrow
  let left ← operationRule .comma
  behindOperation start quiet allowReturnType left

/-- Reads an expression of a sequence. -/
def sequenceElement : Parser Node :=
  within (fun s => { s with inDecorator := false }) assignment

/-- The rule for an expression. -/
def expressionRule : Parser Node := do
  let start ← startOffset
  let first ← sequenceElement
  if !(← atSymbol ",") then return first
  let others ← many (eatSymbol ",") sequenceElement
  node .sequence start (first :: others)

end JsxTidy.Parser
