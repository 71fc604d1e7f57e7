import JsxTidy.Parser.Basic

/-!
# Reading programs: names and literals

Which words may stand as names depends on the place. Behind a dot and before a colon every word
may; where a value is used or declared, the reserved words may not.
-/

namespace JsxTidy.Parser

open Syntax

/-- Whether a word may name a value, as far as the place does not matter. -/
def isPlainName (name : String) : Bool :=
  !Words.isReserved name && name != "await" && name != "yield"

/-- Whether a token may declare a name. -/
def mayBind : Lexeme → Bool
  | .word name => !Words.isReserved name
  | _ => false

/-- Whether a token may name a value in some surroundings. -/
def mayName (s : Surroundings) : Lexeme → Bool
  | .word name =>
    !Words.isReserved name && (name != "await" || !s.inAsync) && (name != "yield" || !s.inGenerator)
  | _ => false

/-- Whether a token is a word, reserved or not. -/
def isAnyWord : Lexeme → Bool
  | .word _ => true
  | _ => false

/-- Whether a token is a literal. -/
def isLiteral : Lexeme → Bool
  | .word name => name == "true" || name == "false" || name == "null"
  | .number .. | .bigInt .. | .string .. | .regExp .. => true
  | _ => false

/-- Whether a token may be the name of a property without brackets. -/
def isLiteralPropertyName : Lexeme → Bool
  | .word _ | .string .. | .number .. | .bigInt .. => true
  | _ => false

/-- Whether a token opens a template. -/
def opensTemplate : Lexeme → Bool
  | .quasi true _ _ _ => true
  | _ => false

/-- Complains about a word that the surroundings give a meaning. -/
def checkName (name : String) : Parser Unit := do
  let s ← around
  let at' ← startOffset
  if s.inAsync && name == "await" then complainAt (.awaitName name) at'
  if s.inGenerator && name == "yield" then complainAt (.yieldName name) at'

/-- Reads any word, as a piece of syntax that a function makes of it. -/
def anyWord (kind : String → Kind) : Parser Node := do
  match ← lexeme with
  | .word name =>
    let start ← startOffset
    skipToken false
    node (kind name) start []
  | _ => unexpected

/-- Reads a name that neither declares nor uses anything. -/
def wordName : Parser Node :=
  anyWord .word

/-- Reads a use of a name. -/
def reference : Parser Node := do
  match ← lexeme with
  | .word name =>
    if Words.isReserved name then unexpected
    checkName name
    anyWord .reference
  | _ => unexpected

/-- Reads the declaration of a name. -/
def bindingName : Parser Node := do
  match ← lexeme with
  | .word name =>
    if Words.isReserved name then failAt (.reservedWord name) (← startOffset)
    checkName name
    anyWord .binding
  | _ => unexpected

/-- Reads a private name. -/
def privateName : Parser Node := do
  match ← lexeme with
  | .privateName name =>
    let start ← startOffset
    skipToken false
    node (.privateName name) start []
  | _ => unexpected

/-- The literal that the current token is, if it is one. -/
def literalKind? : Lexeme → Option Kind
  | .word "null" => some .null
  | .word "true" => some (.boolean true)
  | .word "false" => some (.boolean false)
  | .number _ raw => some (.number raw)
  | .bigInt _ raw => some (.bigInt raw)
  | .string value _ lone => some (.string value lone)
  | .regExp pattern flags => some (.regExp pattern flags)
  | _ => none

/-- Reads a literal. -/
def literal : Parser Node := do
  match literalKind? (← lexeme) with
  | some kind =>
    let start ← startOffset
    advance
    node kind start []
  | none => unexpected

/-- Reads a string. -/
def stringLiteral : Parser Node := do
  match ← lexeme with
  | .string .. => literal
  | _ => unexpected

/-- Reads a stretch of template text. A wrong escape is allowed behind a tag only. -/
def quasi (tagged : Bool) : Parser Node := do
  let t ← token
  match t.lexeme with
  | .quasi _ closes raw cooked =>
    let span : Span := ⟨t.span.start + 1, t.span.stop - (if closes then 1 else 2)⟩
    if !tagged && cooked.isNone then complainAt .templateEscape span.start
    advance
    return .mk (.quasi raw (cooked.getD "")) span []
  | _ => unexpected

/-- Reads the current token again as the next stretch of a template. -/
def rereadTemplate : Parser Unit := do
  let s ← get
  if s.token.lexeme.isSymbol "\x7d" then
    let result := Lexer.readQuasi false s.start s.start.next (s.size - s.start.offset + 2)
      s.start.next (some [])
    accept (Lexer.adjacent s.start result s.log) s.prevEnd

/-- Reads the current token again as the longest operator that a closing angle bracket begins. -/
def rereadClosingAngle : Parser Unit := do
  let s ← get
  if s.token.lexeme.isSymbol ">" then
    let result := Lexer.closingAngle s.start
    modify fun s =>
      { s with
        token := { s.token with
          lexeme := result.lexeme, span := ⟨s.start.offset, result.stop.offset⟩ }
        stop := result.stop }

/-- Reads the current token again as a single opening angle bracket. -/
def rereadOpeningAngle : Parser Unit := do
  let t ← token
  if t.lexeme.isSymbol "<<" || t.lexeme.isSymbol "<=" || t.lexeme.isSymbol "<<=" then
    modify fun s =>
      { s with
        token := { s.token with
          lexeme := .symbol "<", span := ⟨s.start.offset, s.start.offset + 1⟩ }
        stop := s.start.next }

/-- Reads the current token again as a regular expression. -/
def rereadRegExp : Parser Unit := do
  let s ← get
  let result := Lexer.regExp s.start
  modify fun s =>
    { s with
      token := { s.token with
        lexeme := result.lexeme, span := ⟨s.start.offset, result.stop.offset⟩ }
      stop := result.stop
      tokenProblems := result.problems.reverse ++ s.tokenProblems }

/-- Reads a template by the rule for its holes. -/
def templateParts (tagged : Bool) (hole : Parser Node) : Parser (List Node × List Node) := do
  let rec go : Nat → List Node → List Node → Parser (List Node × List Node)
    | 0, quasis, holes => return (quasis.reverse, holes.reverse)
    | fuel + 1, quasis, holes => do
      let holes := (← hole) :: holes
      rereadTemplate
      match ← lexeme with
      | .quasi _ closes _ _ =>
        let quasis := (← quasi tagged) :: quasis
        if closes then return (quasis.reverse, holes.reverse) else go fuel quasis holes
      | _ => failExpected "\x7d"
  match ← lexeme with
  | .quasi _ closes _ _ =>
    let first ← quasi tagged
    if closes then return ([first], []) else go (stepsLeft (← get)) [first] []
  | _ => unexpected

end JsxTidy.Parser
