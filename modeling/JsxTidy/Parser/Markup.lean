import JsxTidy.Parser.Class

/-!
# Reading programs: markup

Elements and fragments. Between tags stands text, in which only braces and tags are special.
-/

namespace JsxTidy.Parser

open Syntax

/-- Goes on to a child of an element, behind a symbol that has to stand here. -/
def expectBeforeChild (symbol : String) : Parser Unit := do
  if !(← atSymbol symbol) then failExpected symbol
  let s ← get
  accept (Lexer.adjacent s.stop (Lexer.markupChild s.stop) s.log) s.token.span.stop

/-- Passes a symbol behind which a child stands, or else a token of the program. -/
def expectMarkup (inChild : Bool) (symbol : String) : Parser Unit :=
  if inChild then expectBeforeChild symbol else expectSymbol symbol

/-- Reads a name in a tag, in which hyphens may stand. -/
def markupWord : Parser Node := do
  if !isAnyWord (← lexeme) then unexpected
  let s ← get
  let result := Lexer.markupName s.start
  modify fun s =>
    { s with
      token := { s.token with
        lexeme := result.lexeme, span := ⟨s.start.offset, result.stop.offset⟩ }
      stop := result.stop }
  wordName

/-- Whether a tag's name uses a name of the program. -/
def isComponentName (name : String) : Bool :=
  match name.toList with
  | c :: _ => decide (128 ≤ c.toNat) || c.isUpper || c == '_' || c == '$'
  | [] => false

/-- A tag's first name as a use of a name. -/
def asUse : Node → Node
  | .mk (.word "this") span _ => .mk .this span []
  | .mk (.word name) span _ => .mk (.reference name) span []
  | other => other

/-- Reads the name behind a namespace. -/
def namespacedName (start : Nat) (first : Node) : Parser Node := do
  let second ← markupWord
  node .namespacedName start [first, second]

/-- Reads the other members of a dotted name behind those that have been read. -/
def memberNames (start : Nat) : Nat → Node → Parser Node
  | 0, object => return object
  | fuel + 1, object => do
    if ← eatSymbol "." then
      let property ← markupWord
      memberNames start fuel (← node .memberName start [object, property])
    else return object

/-- Fails at a name with a hyphen. -/
def refuseHyphen (start : Nat) (name : Node) : Parser Unit :=
  match name.kind with
  | .word name => if name.toList.contains '-' then failAt .markupHyphen start else pure ()
  | _ => pure ()

/-- Reads a dotted name behind its first part, which is used. -/
def dottedElement (start : Nat) (first : Node) : Parser Node := do
  refuseHyphen start first
  memberNames start (stepsLeft (← get)) (asUse first)

/-- A name without dots, which is used if it is the name of a component. -/
def plainElement (name : Node) : Node :=
  match name.kind with
  | .word text => if text == "this" || isComponentName text then asUse name else name
  | _ => name

/-- Reads the name of an element. -/
def elementName : Parser Node := do
  let start ← startOffset
  let first ← markupWord
  if ← eatSymbol ":" then return ← namespacedName start first
  if ← atSymbol "." then return ← dottedElement start first
  return plainElement first

/-- The text of an element's name. -/
def nameText : Node → String
  | .mk (.word name) _ _ => name
  | .mk (.reference name) _ _ => name
  | .mk .this _ _ => "this"
  | .mk .namespacedName _ [a, b] => nameText a ++ ":" ++ nameText b
  | .mk .memberName _ [a, b] => nameText a ++ "." ++ nameText b
  | _ => ""

/-- Reads an expression in braces, from behind the opening brace. -/
def containerRest (inChild : Bool) (start : Nat) : Parser Node := do
  if ← atSymbol "\x7d" then
    let inner : Node := .mk .emptyExpression ⟨start + 1, ← startOffset⟩ []
    expectMarkup inChild "\x7d"
    node .container start [inner]
  else
    let inner ← allowingIn (goal .expression)
    expectMarkup inChild "\x7d"
    node .container start [inner]

/-- Complains about braces without an expression as the value of an attribute. -/
def checkContainer (value : Node) (start : Nat) : Parser Unit :=
  match value with
  | .mk .container _ [.mk .emptyExpression _ _] => complainAt .attributeExpression start
  | _ => pure ()

/-- Reads the value of an attribute. -/
def attributeValue : Parser Node := do
  let start ← startOffset
  match ← lexeme with
  | .string .. => literal
  | .symbol "\x7b" =>
    advance
    let value ← containerRest false start
    checkContainer value start
    return value
  | .symbol "<" => goal .markup
  | _ => unexpected

/-- Reads an attribute that spreads an object, from behind its brace. -/
def spreadAttribute (start : Nat) : Parser Node := do
  expectSymbol "..."
  let inner ← allowingIn (goal .expression)
  expectSymbol "\x7d"
  node .spreadAttribute start [inner]

/-- Reads the name of an attribute. -/
def attributeName (start : Nat) : Parser Node := do
  let first ← markupWord
  if ← eatSymbol ":" then namespacedName start first else return first

/-- Reads the value of an attribute with its equals sign, if there is one. -/
def attributeRest : Parser Node := do
  if ← atSymbol "=" then
    skipToken true
    attributeValue
  else return .none

/-- Reads an attribute with a name. -/
def namedAttribute (start : Nat) : Parser Node := do
  let name ← attributeName start
  let value ← attributeRest
  node .markupAttribute start [name, value]

/-- Reads an attribute. -/
def markupAttribute : Parser Node := do
  let start ← startOffset
  if ← eatSymbol "\x7b" then spreadAttribute start else namedAttribute start

/-- Whether an attribute stands here, and no symbol that ends the tag. -/
def atAttribute : Parser Bool := do
  match ← lexeme with
  | .symbol "<" | .symbol "/" | .symbol ">" => return false
  | _ => return true

/-- Reads the rest of an opening tag from its name on, and says whether it closes itself. -/
def openingTag (inChild : Bool) (start : Nat) : Parser (Node × Bool) := do
  let name ← elementName
  let arguments ← typeArguments?
  let attributes ← many atAttribute markupAttribute
  let closes ← eatSymbol "/"
  expectMarkup (!closes || inChild) ">"
  let tag ← node .openingTag start [name, arguments, .list attributes]
  return (tag, closes)

/-- Reads the closing tag of an element or fragment. The name is missing in a fragment's. -/
def closingTag (inChild : Bool) : Parser Node := do
  let start ← startOffset
  expectSymbol "<"
  expectSymbol "/"
  let name ← if ← atSymbol ">" then pure .none else elementName
  expectMarkup inChild ">"
  node .closingTag start [name]

/-- Reads a child in braces: an expression, or a spread. -/
def braceChild (start : Nat) : Parser Node := do
  advance
  if ← eatSymbol "..." then
    let inner ← allowingIn (goal .expression)
    expectBeforeChild "\x7d"
    node .spreadChild start [inner]
  else containerRest true start

/-- Passes a text, behind which another child is read. -/
def textChild (start : Nat) (raw : String) : Parser Node := do
  let s ← get
  accept (Lexer.adjacent s.stop (Lexer.markupChild s.stop) s.log) s.token.span.stop
  node (.markupText raw) start []

/-- Reads one child by the rule for a nested tag, unless a closing tag stands here. -/
def child? (nested : Nat → Parser Node) : Parser (Option Node) := do
  let start ← startOffset
  match ← lexeme with
  | .symbol "<" =>
    if ← nextToken fun t => t.lexeme.isSymbol "/" then return none
    advance
    let child ← nested start
    return some child
  | .symbol "\x7b" =>
    let child ← braceChild start
    return some child
  | .markupText raw =>
    let child ← textChild start raw
    return some child
  | _ => unexpected

/-- Reads the other children behind those that have been read, the last one of which comes
first. -/
def childrenFrom (nested : Nat → Parser Node) : Nat → List Node → Parser (List Node)
  | 0, found => return found.reverse
  | fuel + 1, found => do
    match ← child? nested with
    | some child => childrenFrom nested fuel (child :: found)
    | none => return found.reverse

/-- Reads what stands between an opening and a closing tag, by the rule for a nested tag. -/
def children (nested : Nat → Parser Node) : Parser (List Node) := do
  childrenFrom nested (stepsLeft (← get)) []

/-- Complains about the name in the closing tag of a fragment. -/
def checkFragmentEnd (closing : Node) : Parser Unit := do
  match closing with
  | .mk .closingTag _ [name] => if name.isPresent then complainAt .closingFragment name.span.start
  | _ => pure ()

/-- Complains about a closing tag with another name than the opening one. -/
def checkElementEnd (tag closing : Node) : Parser Unit := do
  match tag, closing with
  | .mk .openingTag _ (opened :: _), .mk .closingTag _ [closed] =>
    if nameText opened != nameText closed then
      complainAt (.closingTag (nameText opened))
        (if closed.isPresent then closed.span.start else closing.span.start)
  | _, _ => pure ()

/-- Reads a fragment by the rule for its children. -/
def fragmentFrom (inner : Parser (List Node)) (inChild : Bool) (start : Nat) : Parser Node := do
  expectBeforeChild ">"
  let found ← inner
  let closing ← closingTag inChild
  checkFragmentEnd closing
  node .fragment start found

/-- Reads an element by the rule for its children. -/
def elementFrom (inner : Parser (List Node)) (inChild : Bool) (start : Nat) : Parser Node := do
  let (tag, closes) ← openingTag inChild start
  if closes then return ← node .element start [tag, .list [], .none]
  let found ← inner
  let closing ← closingTag inChild
  checkElementEnd tag closing
  node .element start [tag, .list found, closing]

/-- Reads an element or fragment from behind its opening bracket, nested at most `fuel` deep. -/
def markupFrom : Nat → Bool → Nat → Parser Node
  | 0, _, _ => unexpected
  | fuel + 1, inChild, start => do
    let inner := children (markupFrom fuel true)
    if ← atSymbol ">" then fragmentFrom inner inChild start
    else if isAnyWord (← lexeme) then elementFrom inner inChild start
    else unexpected

/-- The rule for markup that is a value. -/
def markupRule : Parser Node := do
  let start ← startOffset
  advance
  markupFrom (stepsLeft (← get)) false start

end JsxTidy.Parser
