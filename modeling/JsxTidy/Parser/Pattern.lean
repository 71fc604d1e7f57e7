import JsxTidy.Parser.Type

/-!
# Reading programs: binding patterns

What stands where names are declared: a name, or a pattern of names with defaults.
-/

namespace JsxTidy.Parser

open Syntax

/-- Reads an expression that is no sequence. -/
def assignment : Parser Node :=
  goal (.assignment true)

/-- Reads a binding pattern. -/
def bindingPattern : Parser Node :=
  goal .bindingPattern

/-- Reads the value behind an equals sign, if there is one. -/
def initializer : Parser Node := do
  if ← eatSymbol "=" then allowingIn assignment else return .none

/-- Puts a default behind a pattern, if there is one. -/
def withDefault (start : Nat) (pattern : Node) : Parser Node := do
  if ← atSymbol "=" then
    let value ← initializer
    node .patternDefault start [pattern, value]
  else return pattern

/-- Reads a pattern that may have a default. -/
def patternWithDefault : Parser Node := do
  let start ← startOffset
  let pattern ← bindingPattern
  withDefault start pattern

/-- Reads the rest of a pattern. -/
def restElement : Parser Node := do
  let start ← startOffset
  advance
  let pattern ← bindingPattern
  if ← atSymbol "=" then failAt .restElementInitializer (← startOffset)
  node .restElement start [pattern]

/-- Whether a list with a rest ends here. -/
def atListEnd (close : String) : Parser Bool := do
  return (← atSymbol close) || match ← lexeme with
    | .endOfText | .unknown => true
    | _ => false

/-- Passes the comma behind a piece and says where it stands. -/
def passComma (close : String) : Parser Nat := do
  let t ← token
  if !t.lexeme.isSymbol "," then
    failAt (.expectedEither "," close t.lexeme.title) t.span.start
  advance
  return t.span.start

/-- Passes the comma behind a piece and says whether the list ends there: at its closing symbol, or
because a rest has been read. There is none before the first piece. -/
def endsAtComma (close : String) (notLast : Complaint) (isFirst : Bool) (last : Node) :
    Parser Bool := do
  if isFirst then return false
  let offset ← passComma close
  if ← atSymbol close then
    if last.isPresent && !(← around).inAmbient then complainAt .restTrailingComma offset
    return true
  if last.isPresent then complainAt notLast last.span.start
  return last.isPresent

/-- Reads the other pieces of a list behind those that have been read, the last one of which comes
first. -/
def piecesWithRest (close : String) (piece rest : Parser Node) (notLast : Complaint) :
    Nat → List Node → Node → Parser (List Node × Node)
  | 0, pieces, last => return (pieces.reverse, last)
  | fuel + 1, pieces, last => do
    if ← atListEnd close then return (pieces.reverse, last)
    let isFirst := pieces.isEmpty && !last.isPresent
    if ← endsAtComma close notLast isFirst last then return (pieces.reverse, last)
    if ← atSymbol "..." then
      let last ← rest
      piecesWithRest close piece rest notLast fuel pieces last
    else
      let next ← piece
      piecesWithRest close piece rest notLast fuel (next :: pieces) last

/-- Reads pieces with commas between them up to a closing symbol. The last one may be a rest. -/
def listWithRest (close : String) (piece rest : Parser Node) (notLast : Complaint) :
    Parser (List Node × Node) := do
  piecesWithRest close piece rest notLast (stepsLeft (← get)) [] .none

/-- Reads the pattern behind the key of a property. -/
def keyedPattern (start : Nat) (key : Node) (isComputed : Bool) : Parser Node := do
  expectSymbol ":"
  let value ← patternWithDefault
  node (.patternProperty false isComputed) start [key, value]

/-- Reads what is behind a key that is the name as well. -/
def shorthandPattern (start : Nat) (key : Node) (name : String) : Parser Node := do
  let value ← withDefault start (.mk (.binding name) key.span [])
  node (.patternProperty true false) start [key, value]

/-- Reads a property of an object pattern. -/
def patternProperty : Parser Node := do
  let start ← startOffset
  let first ← lexeme
  let (key, isComputed) ← propertyKey
  match key.kind with
  | .word name =>
    if mayBind first && !(← atSymbol ":") then shorthandPattern start key name
    else keyedPattern start key isComputed
  | _ => keyedPattern start key isComputed

/-- Reads an element of an array pattern. -/
def patternElement : Parser Node := do
  if ← atSymbol "," then node .hole (← startOffset) [] else patternWithDefault

/-- Fails at the rest of an object pattern that is more than a name. -/
def checkObjectRest (rest : Node) : Parser Unit :=
  match rest with
  | .mk .restElement _ [.mk (.binding _) _ _] => pure ()
  | .mk .restElement _ [inner] => failAt .invalidRest inner.span.start
  | _ => pure ()

/-- Reads an object pattern. -/
def objectPattern : Parser Node := do
  let start ← startOffset
  advance
  let (properties, rest) ← listWithRest "\x7d" patternProperty restElement .restPatternLast
  checkObjectRest rest
  expectSymbol "\x7d"
  node .objectPattern start [.list properties, rest]

/-- Reads an array pattern. -/
def arrayPattern : Parser Node := do
  let start ← startOffset
  advance
  let (elements, rest) ← listWithRest "]" patternElement restElement .restPatternLast
  expectSymbol "]"
  node .arrayPattern start [.list elements, rest]

/-- The rule for a binding pattern. -/
def bindingPatternRule : Parser Node := do
  match ← lexeme with
  | .symbol "\x7b" => objectPattern
  | .symbol "[" => arrayPattern
  | _ => bindingName

end JsxTidy.Parser
