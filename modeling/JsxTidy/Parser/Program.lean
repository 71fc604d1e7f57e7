import JsxTidy.Parser.ModuleItem

/-!
# Reading programs

The rules are put together, and a whole text is read. A text is a program only if there is no
complaint at all about it; of several complaints, those about tokens come first.
-/

namespace JsxTidy

open Syntax

namespace Parser

/-- The rule for a statement. -/
def statementRule (place : StatementPlace) : Parser Node := do
  let t ← token
  let start := t.span.start
  let statement ←
    match t.lexeme with
    | .symbol "\x7b" => block
    | .symbol ";" =>
      advance
      node .emptyStatement start []
    | .symbol "@" => decoratedStatement place
    | .word "if" => ifStatement
    | .word "do" => doWhileStatement
    | .word "while" => whileStatement
    | .word "for" => forStatement
    | .word "continue" => jumpStatement .continueStatement
    | .word "break" => jumpStatement .breakStatement
    | .word "with" => withStatement
    | .word "switch" => switchStatement
    | .word "throw" => throwStatement
    | .word "try" => tryStatement
    | .word "debugger" =>
      advance
      semicolon
      node .debuggerStatement start []
    | .word "class" => classStatement start place [] []
    | .word "export" => exportStatement start []
    | .word "return" => returnStatement
    | .word "var" =>
      advance
      variableStatement start .var place
    | .word "let" => if t.escaped then expressionOrLabeled else letStatement place
    | .word "const" =>
      if ← nextToken fun next => next.lexeme.isWord "enum" then
        modifiedDeclaration start []
      else
        advance
        variableStatement start .const place
    | .word "function" => functionStatement place
    | .word "async" =>
      if ← atAsyncFunction then functionStatement place else expressionOrLabeled
    | .word "import" => importStatement
    | .word "using" | .word "await" =>
      if ← atUsing then
        match ← variableWord? with
        | some word => variableStatement start word place
        | none => unexpected
      else expressionOrLabeled
    | .word name =>
      if ["interface", "type", "module", "namespace", "declare", "enum", "private", "protected",
          "public", "abstract", "accessor", "static", "readonly", "global"].contains name then
        if ← atTypedDeclaration then modifiedDeclaration start [] else expressionOrLabeled
      else expressionOrLabeled
    | _ => expressionOrLabeled
  return if t.afterQuiet then markQuietStatement statement else statement

/-- The rule for each goal. -/
def rule : Goal → Parser Node
  | .expression => expressionRule
  | .assignment allowReturnType => assignmentRule allowReturnType
  | .unary => unaryRule
  | .operation above => operationRule above
  | .leftHandSide => leftHandSideRule
  | .primary => primaryRule
  | .objectLiteral => objectLiteralRule
  | .functionExpression => functionExpressionRule
  | .classExpression => classExpressionRule
  | .markup => markupRule
  | .statement place => statementRule place
  | .functionBody => functionBodyRule
  | .bindingPattern => bindingPatternRule
  | .parameters ofMethod => parametersRule ofMethod
  | .typeExpression => typeRule
  | .typeParameters => typeParameterList

/-- Reads by the rule for a goal, descending at most `depth` rules. -/
def run : Nat → Goal → Surroundings → EStateM Diagnostic ParserState Node
  | 0, _, _ => fun s => .error ⟨.unexpectedToken, s.token.span.start⟩ s
  | depth + 1, goal, around => rule goal ⟨around, run depth⟩

/-- The state before the first token. -/
def start (source : List Char) : ParserState :=
  let size := Text.byteLength source
  let cursor : Cursor := ⟨0, source⟩
  let body := match source with
    | '#' :: '!' :: _ => cursor.dropWhile fun c => !Lexer.isLineEnd c
    | _ => cursor
  let reading := Lexer.next (size + 2) false body .empty
  { token := reading.token
    start := reading.start
    stop := reading.stop
    prevEnd := body.offset
    size
    tokenProblems := reading.problems.reverse
    problems := []
    log := reading.log
    covers := []
    trailingCommas := [] }

/-- The line for the shell that a text may begin with, without its mark. -/
def hashbang (source : List Char) : Option String :=
  match source with
  | '#' :: '!' :: rest => some (String.ofList (rest.takeWhile fun c => !Lexer.isLineEnd c))
  | _ => none

/-- What is wrong with a text, in the order in which complaints are reported. -/
def complaints (s : ParserState) (last : List Diagnostic) : List Diagnostic :=
  s.tokenProblems.reverse ++ s.problems.reverse ++ last ++ s.covers.reverse.map Prod.snd

end Parser

/-- A program that was read, and the comments in its text. -/
structure Parsed where
  program : Program
  comments : List Comment

/-- Reads a whole text. -/
def parse (source : String) : Except Diagnostic Parsed :=
  let text := source.toList
  let initial := Parser.start text
  let depth := 16 * initial.size + 256
  match Parser.statements true ⟨.program, Parser.run depth⟩ initial with
  | .ok (directives, body) s =>
    match Parser.complaints s [] with
    | [] =>
      .ok
        { program := { hashbang := Parser.hashbang text, directives, body, size := s.size }
          comments := s.log.comments.toList }
    | first :: _ => .error first
  | .error problem s =>
    match Parser.complaints s [problem] with
    | [] => .error problem
    | first :: _ => .error first

end JsxTidy
