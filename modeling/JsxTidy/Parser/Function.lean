import JsxTidy.Parser.Pattern

/-!
# Reading programs: functions

Parameters, bodies, and the functions that they belong to.
-/

namespace JsxTidy.Parser

open Syntax

/-- Reads a decorator. -/
def decorator : Parser Node := do
  let start ← startOffset
  advance
  let e ← within (fun s => { s with inDecorator := true }) (goal .leftHandSide)
  node .decorator start [e]

/-- Reads decorators by the rule for one. -/
def decorators : Parser (List Node) :=
  many (atSymbol "@") decorator

/-- The modifiers of a parameter or class member. -/
def memberShape (found : List Modifier) : MemberShape :=
  { access :=
      if Modifier.has "public" found then some .publicAccess
      else if Modifier.has "protected" found then some .protectedAccess
      else if Modifier.has "private" found then some .privateAccess
      else none
    isStatic := Modifier.has "static" found
    isAbstract := Modifier.has "abstract" found
    isOverride := Modifier.has "override" found
    isReadonly := Modifier.has "readonly" found
    isDeclare := Modifier.has "declare" found
    isOptional := false
    isDefinite := false
    isComputed := false }

/-- Reads a parameter. Only a method's parameters may have decorators and all modifiers. -/
def parameter (ofMethod : Bool) : Parser Node := do
  let start ← startOffset
  let decorated ← decorators
  let found ← modifiers false false
  let allowed := if ofMethod then ["readonly", "public", "private", "protected", "override"]
    else ["readonly"]
  allowModifiers allowed (.modifierOn · "a parameter.") found
  let pattern ← bindingPattern
  let isOptional ← eatSymbol "?"
  let typed ← declaredType
  let value ← initializer
  if isOptional && value.isPresent then complainAt .parameterOptionalValue start
  if !ofMethod then decorated.forM fun d => complainAt .decoratorPlace d.span.start
  node (.parameter { memberShape found with isOptional }) start
    [.list decorated, pattern, typed, value]

/-- Passes a question mark behind a rest, with a complaint. -/
def passOptionalRest : Parser Unit := do
  if ← atSymbol "?" then
    complainAt .restOptional (← startOffset)
    advance

/-- Fails at a default. -/
def refuseDefault (complaint : Complaint) : Parser Unit := do
  if ← atSymbol "=" then failAt complaint (← startOffset)

/-- Reads the rest of some parameters. -/
def restParameter : Parser Node := do
  let start ← startOffset
  advance
  let pattern ← bindingPattern
  let element ← node .restElement start [pattern]
  passOptionalRest
  let typed ← declaredType
  refuseDefault .restInitializer
  node .restParameter start [.list [], element, typed]

/-- Reads the parameter that gives `this` its type. -/
def thisParameter : Parser Node := do
  let start ← startOffset
  advance
  let typed ← declaredType
  node .thisParameter start [typed]

/-- Reads the parameter for `this` and the comma behind it, if it stands here. -/
def leadingThis : Parser Node := do
  if !(← atWord "this") then return .none
  let this ← thisParameter
  if !(← atSymbol ")") then expectSymbol ","
  return this

/-- The rule for parameters. -/
def parametersRule (ofMethod : Bool) : Parser Node := do
  let start ← startOffset
  expectSymbol "("
  let this ← leadingThis
  let (parameters, rest) ← listWithRest ")" (parameter ofMethod) restParameter .restLast
  expectSymbol ")"
  let all := if rest.isPresent then parameters ++ [rest] else parameters
  let others ← node .parameters start all
  node .list start [this, others]

/-- Reads the other directives and statements behind those that have been read, the last ones of
which come first. -/
def statementsFrom (atTop : Bool) :
    Nat → Bool → List Node → List Node → Parser (List Node × List Node)
  | 0, _, directives, found => return (directives.reverse, found.reverse)
  | fuel + 1, inPrologue, directives, found => do
    let t ← token
    if t.lexeme == .endOfText || (!atTop && t.lexeme.isSymbol "\x7d") then
      return (directives.reverse, found.reverse)
    let statement ← goal (.statement .list)
    match inPrologue, t.lexeme, statement with
    | true, .string _ raw _, .mk .expressionStatement span [.mk (.string ..) _ _] =>
      statementsFrom atTop fuel true (.mk (.directive raw) span [] :: directives) found
    | _, _, _ => statementsFrom atTop fuel false directives (statement :: found)

/-- Reads statements up to a closing brace or the end. Those in front that are strings stand as
directives. -/
def statements (atTop : Bool) : Parser (List Node × List Node) := do
  statementsFrom atTop (stepsLeft (← get)) true [] []

/-- Whether a directive asks for strict mode. -/
def asksForStrict : Node → Bool
  | .mk (.directive raw) _ _ => raw == "use strict"
  | _ => false

/-- Whether a body asks for strict mode. -/
def isStrictBody : Node → Bool
  | .mk _ _ [.mk .list _ directives, _] => directives.any asksForStrict
  | _ => false

/-- The rule for a function body. -/
def functionBodyRule : Parser Node := do
  let start ← startOffset
  expectSymbol "\x7b"
  let (directives, found) ← within (fun s => { s with inFunction := true, topLevel := false })
    (statements false)
  expectSymbol "\x7d"
  node .functionBody start [.list directives, .list found]

/-- What a function has behind its name. -/
structure FunctionParts where
  generics : Node
  this : Node
  parameters : Node
  result : Node
  body : Node

/-- The parts of a function with a name. -/
def FunctionParts.named (name : Node) (parts : FunctionParts) : List Node :=
  [name, parts.generics, parts.this, parts.parameters, parts.result, parts.body]

/-- Reads what a function has behind its name. -/
def functionParts (ofMethod : Bool) : Parser FunctionParts := do
  let generics ← typeParameters
  let (this, parameters) ← parametersOf ofMethod
  let result ← declaredResult ":"
  let body ← if ← atSymbol "\x7b" then goal .functionBody else pure .none
  return { generics, this, parameters, result, body }

/-- The form of a function without a body says so. -/
def formOf (form : FunctionForm) (hasBody : Bool) : FunctionForm :=
  match form, hasBody with
  | .declaration, false => .signature
  | .expression, false => .bodiless
  | form, _ => form

/-- Reads a function from behind its name. -/
def functionRest (start : Nat) (name : Node) (shape : FunctionShape) (ofMethod : Bool) :
    Parser Node := do
  let parts ← within (fun s =>
      { s with allowIn := true, inAsync := shape.isAsync, inGenerator := shape.isGenerator })
    (functionParts ofMethod)
  let form := formOf shape.form parts.body.isPresent
  if form == .signature || form == .bodiless then semicolon
  node (.function { shape with form, strict := isStrictBody parts.body }) start (parts.named name)

/-- A function of which nothing is known. -/
def plainShape (form : FunctionForm) (isAsync isGenerator : Bool) : FunctionShape :=
  { form, role := .method, isAsync, isGenerator, isDeclare := false, strict := false,
    quiet := false }

/-- Complains where the name of a function is required and missing. -/
def complainOfName (t : Token) : Parser Unit :=
  match t.lexeme with
  | .symbol "(" => complainAt .functionName t.span.start
  | .word name =>
    if Words.isReserved name then failAt (.expected "Identifier" name) t.span.start else pure ()
  | _ => pure ()

/-- Reads the name of a function, which may be missing where it is not required. -/
def functionName (isRequired : Bool) : Parser Node := do
  let t ← token
  if mayBind t.lexeme then return ← bindingName
  if isRequired then complainOfName t
  return .none

/-- Reads a function from its keyword on. -/
def functionFrom (start : Nat) (form : FunctionForm) (isAsync isDeclare nameRequired : Bool) :
    Parser Node := do
  let quiet := (← token).afterQuiet
  expectWord "function"
  let isGenerator ← eatSymbol "*"
  let name ←
    if form == .expression then
      within (fun s => { s with inAsync := isAsync, inGenerator := isGenerator })
        (functionName nameRequired)
    else functionName nameRequired
  functionRest start name
    { plainShape form isAsync isGenerator with isDeclare, quiet } false

/-- Whether an asynchronous function stands here. -/
def atAsyncFunction : Parser Bool := do
  if ← atWord "async" then nextIsWordOnLine "function" else return false

/-- The rule for a function that is a value. -/
def functionExpressionRule : Parser Node := do
  let start ← startOffset
  let quiet := (← token).afterQuiet
  let isAsync ← eatWord "async"
  match ← functionFrom start .expression isAsync false false with
  | .mk (.function shape) span parts =>
    return .mk (.function { shape with quiet := shape.quiet || quiet }) span parts
  | other => return other

/-- Reads a method from behind its key. -/
def methodValue (role : MethodRole) (isAsync isGenerator ofMethod : Bool) : Parser Node := do
  let start ← startOffset
  functionRest start .none { plainShape .expression isAsync isGenerator with role } ofMethod

/-- The parameters of a function. -/
def parametersIn : Node → List Node
  | .mk (.function _) _ [_, _, _, .mk .parameters _ parameters, _, _] => parameters
  | _ => []

/-- The place of a function's parameters. -/
def parametersStart : Node → Nat
  | .mk (.function _) _ [_, _, _, parameters, _, _] => parameters.span.start
  | function => function.span.start

/-- Complains about the parameters of an accessor. -/
def checkAccessor (role : MethodRole) (function : Node) : Parser Unit := do
  let parameters := parametersIn function
  match role with
  | .getter => if !parameters.isEmpty then complainAt .getterParameters (parametersStart function)
  | .setter =>
    match parameters with
    | [.mk .restParameter span _] => complainAt .setterRest span.start
    | [_] => pure ()
    | _ => complainAt .setterParameters (parametersStart function)
  | _ => pure ()

end JsxTidy.Parser
