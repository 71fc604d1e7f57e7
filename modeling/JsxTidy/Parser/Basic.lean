import JsxTidy.Token.Lexer

/-!
# Reading programs: the machine

A parser reads tokens from the front of a text. It stops at the first complaint that leaves it
without a way on; other complaints are collected while it reads on. Grammar rules call each other
through `Goal`, and every such call spends one unit of a depth that the text's length bounds, so
reading always ends.
-/

namespace JsxTidy

open Syntax

/-- What the rules around a place allow there. -/
structure Surroundings where
  allowIn : Bool
  inGenerator : Bool
  inAsync : Bool
  inFunction : Bool
  inDecorator : Bool
  inAmbient : Bool
  noConditionalType : Bool
  topLevel : Bool
deriving DecidableEq, Repr

/-- Around a whole program: names may be awaited, and nothing may be returned. -/
def Surroundings.program : Surroundings :=
  ⟨true, false, true, false, false, false, false, true⟩

/-- Where a statement stands. -/
inductive StatementPlace where
  | list
  | body
  | ifBranch
  | labelBody
deriving DecidableEq, Repr

/-- What is to be read. Rules that are defined before the rules they call ask for them by goal. -/
inductive Goal where
  | expression
  | assignment (allowReturnType : Bool)
  | unary
  | operation (above : Precedence)
  | leftHandSide
  | primary
  | objectLiteral
  | functionExpression
  | classExpression
  | markup
  | statement (place : StatementPlace)
  | functionBody
  | bindingPattern
  | parameters (ofMethod : Bool)
  | typeExpression
  | typeParameters
deriving DecidableEq, Repr

/-- Where reading stands. -/
structure ParserState where
  token : Token
  /-- The text from the current token on. -/
  start : Cursor
  /-- The text behind the current token. -/
  stop : Cursor
  /-- Where the token before the current one ends. -/
  prevEnd : Nat
  /-- The length of the whole text. -/
  size : Nat
  /-- What is wrong with tokens, last complaint first. -/
  tokenProblems : List Diagnostic
  /-- What else is wrong, last complaint first. -/
  problems : List Diagnostic
  log : CommentLog
  /-- Object literals that are valid only as assignment targets, by their place. -/
  covers : List (Nat × Diagnostic)
  /-- The commas behind the last elements of array and object literals, by their place. -/
  trailingCommas : List (Nat × Nat)

/-- What a rule can see besides the state: its surroundings, and the way to other rules. -/
structure ParserEnv where
  around : Surroundings
  descend : Goal → Surroundings → EStateM Diagnostic ParserState Node

/-- A grammar rule. -/
abbrev Parser := ReaderT ParserEnv (EStateM Diagnostic ParserState)

namespace Parser

/-- Reads by another rule. -/
def goal (g : Goal) : Parser Node := do
  let env ← read
  env.descend g env.around

/-- Reads in changed surroundings. -/
def within {α : Type} (change : Surroundings → Surroundings) (p : Parser α) : Parser α :=
  ReaderT.adapt (fun env : ParserEnv => { env with around := change env.around }) p

/-- The surroundings. -/
def around : Parser Surroundings := do
  return (← read).around

/-- Reads where `in` is an operator. -/
def allowingIn {α : Type} (p : Parser α) : Parser α :=
  within (fun s => { s with allowIn := true }) p

/-- Reads where `in` is no operator. -/
def forbiddingIn {α : Type} (p : Parser α) : Parser α :=
  within (fun s => { s with allowIn := false }) p

/-- The current token. -/
def token : Parser Token := do
  return (← get).token

/-- The lexeme of the current token. -/
def lexeme : Parser Lexeme := do
  return (← get).token.lexeme

/-- Where the current token starts. -/
def startOffset : Parser Nat := do
  return (← get).token.span.start

/-- The stretch from `start` to the end of the last token. -/
def spanFrom (start : Nat) : Parser Span := do
  return ⟨start, (← get).prevEnd⟩

/-- Makes a piece of syntax that ends with the last token. -/
def node (kind : Kind) (start : Nat) (parts : List Node) : Parser Node := do
  return .mk kind (← spanFrom start) parts

/-- A bound on the number of steps that the rest of the text allows. -/
def stepsLeft (s : ParserState) : Nat :=
  s.size - s.stop.offset + 2

/-- Collects a complaint and reads on. -/
def complainAt (complaint : Complaint) (offset : Nat) : Parser Unit :=
  modify fun s => { s with problems := ⟨complaint, offset⟩ :: s.problems }

/-- Stops with a complaint. -/
def failAt {α : Type} (complaint : Complaint) (offset : Nat) : Parser α :=
  throw ⟨complaint, offset⟩

/-- Takes over what reading a token brought to light. -/
def accept (reading : Lexer.Reading) (prevEnd : Nat) : Parser Unit :=
  modify fun s =>
    { s with
      token := reading.token
      start := reading.start
      stop := reading.stop
      prevEnd
      log := reading.log
      tokenProblems := reading.problems.reverse ++ s.tokenProblems }

/-- Goes on to the next token without a look at the current one. -/
def skipToken (inAttribute : Bool) : Parser Unit := do
  let s ← get
  accept (Lexer.next (stepsLeft s) inAttribute s.stop s.log) s.token.span.stop

/-- Goes on to the next token. A keyword must not be written with an escape. -/
def advance : Parser Unit := do
  let t ← token
  match t.lexeme with
  | .word name =>
    if t.escaped && Words.isKeyword name then complainAt .escapedKeyword t.span.start
  | _ => pure ()
  skipToken false

/-- Whether the current token is a symbol. -/
def atSymbol (text : String) : Parser Bool := do
  return (← lexeme).isSymbol text

/-- Whether the current token is a word. -/
def atWord (name : String) : Parser Bool := do
  return (← lexeme).isWord name

/-- Passes a symbol if it is the current token. -/
def eatSymbol (text : String) : Parser Bool := do
  if ← atSymbol text then
    advance
    return true
  else return false

/-- Passes a word if it is the current token. -/
def eatWord (name : String) : Parser Bool := do
  if ← atWord name then
    advance
    return true
  else return false

/-- Whether the token opens a conflict marker: seven equal symbols at the start of a line. -/
def atConflictMarker : Parser Bool := do
  let s ← get
  let markers := ["<<<<<<<", "=======", ">>>>>>>", "|||||||"]
  return (s.token.onNewLine || s.token.span.start == 0)
    && markers.any fun m => Text.beginsWith m.toList s.start.rest

/-- Stops because the current token cannot stand here. A complaint about the token itself, if
there is one, is put in place of it. -/
def unexpected {α : Type} : Parser α := do
  let s ← get
  match s.token.lexeme, s.tokenProblems with
  | .endOfText, problem :: older | .unknown, problem :: older =>
    set { s with tokenProblems := older }
    throw problem
  | _, _ =>
    if ← atConflictMarker then failAt .conflictMarker s.token.span.start
    failAt .unexpectedToken s.token.span.start

/-- Stops because something else than the current token has to stand here. -/
def failExpected {α : Type} (wanted : String) : Parser α := do
  let t ← token
  if ← atConflictMarker then failAt .conflictMarker t.span.start
  failAt (.expected wanted t.lexeme.title) t.span.start

/-- Passes a symbol that has to stand here. -/
def expectSymbol (text : String) : Parser Unit := do
  if ← atSymbol text then advance else failExpected text

/-- Passes a word that has to stand here. -/
def expectWord (name : String) : Parser Unit := do
  if ← atWord name then advance else failExpected name

/-- Whether a statement may end here without a semicolon. -/
def canInsertSemicolon : Parser Bool := do
  let t ← token
  return t.onNewLine || match t.lexeme with
    | .symbol "\x7d" | .endOfText => true
    | _ => false

/-- Passes a semicolon, written or not. -/
def semicolon : Parser Unit := do
  if ← eatSymbol ";" then return
  if ← canInsertSemicolon then return
  failAt .expectedSemicolon (← get).prevEnd

/-- Reads ahead and comes back, whatever came of it. Only the log of comments stays. -/
def lookahead (p : Parser Bool) : Parser Bool := fun env s =>
  match p env s with
  | .ok answer s' => .ok answer { s with log := s'.log }
  | .error _ s' => .ok false { s with log := s'.log }

/-- Reads by a rule, and comes back if it stops with a complaint or has no result. -/
def attempt? {α : Type} (p : Parser (Option α)) : Parser (Option α) := fun env s =>
  match p env s with
  | .ok (some a) s' => .ok (some a) s'
  | .ok none s' => .ok none { s with log := s'.log }
  | .error _ s' => .ok none { s with log := s'.log }

/-- Whether the token after the current one, and whether it is on the same line, passes a test. -/
def nextToken (test : Token → Bool) : Parser Bool :=
  lookahead do
    skipToken false
    return test (← token)

/-- Reads pieces as long as `more` holds, at most as many as the rest of the text allows. -/
def many (more : Parser Bool) (piece : Parser Node) : Parser (List Node) := do
  let rec go : Nat → List Node → Parser (List Node)
    | 0, pieces => return pieces.reverse
    | fuel + 1, pieces => do
      if ← more then go fuel ((← piece) :: pieces) else return pieces.reverse
  go (stepsLeft (← get)) []

/-- Reads pieces up to a closing symbol, which is left where it is. -/
def upTo (close : String) (piece : Parser Node) : Parser (List Node) :=
  many (do return !(← atSymbol close) && (← lexeme) != .endOfText) piece

/-- Reads pieces with commas between them up to a closing symbol, which is left where it is. The
offset of a comma behind the last piece comes with them. -/
def commaList (close : String) (piece : Parser Node) : Parser (List Node × Option Nat) := do
  let atEnd : Parser Bool := do
    return (← atSymbol close) || match ← lexeme with
      | .endOfText | .unknown => true
      | _ => false
  let rec go : Nat → List Node → Parser (List Node × Option Nat)
    | 0, pieces => return (pieces.reverse, none)
    | fuel + 1, pieces => do
      let pieces := (← piece) :: pieces
      if ← atEnd then return (pieces.reverse, none)
      let t ← token
      if !t.lexeme.isSymbol "," then
        failAt (.expectedEither "," close t.lexeme.title) t.span.start
      advance
      if ← atSymbol close then return (pieces.reverse, some ((← get).prevEnd - 1))
      go fuel pieces
  if ← atEnd then return ([], none)
  go (stepsLeft (← get)) []

end Parser

end JsxTidy
