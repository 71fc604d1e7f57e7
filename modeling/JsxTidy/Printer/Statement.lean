import JsxTidy.Printer.Type

/-!
# Writing programs: statements

Each statement ends its line. A body that is no block stays on the line of its head.
-/

namespace JsxTidy.Printer

open Syntax

/-- Writes the statements of a block in braces. -/
def block (statements : List Node) : Printer Unit :=
  braces statements.isEmpty (statements.forM part)

/-- Writes the body of a statement behind its head. -/
def body (statement : Node) : Printer Unit := do
  match statement with
  | .mk .block _ statements =>
    putChar ' '
    block statements
    newline
  | .mk .emptyStatement _ _ => endStatement
  | _ =>
    modify fun s => { s with indentAsSpace := true }
    part statement

/-- Whether an `else` behind a statement would belong to an `if` inside it. -/
def capturesElse : Node → Bool
  | .mk .ifStatement _ [_, _, second] => !second.isPresent || capturesElse second
  | .mk .forStatement _ [_, _, _, inner] => capturesElse inner
  | .mk .forInStatement _ [_, _, inner] => capturesElse inner
  | .mk (.forOfStatement _) _ [_, _, inner] => capturesElse inner
  | .mk .whileStatement _ [_, inner] => capturesElse inner
  | .mk .withStatement _ [_, .mk .withBody _ [inner]] => capturesElse inner
  | .mk .labeledStatement _ [_, inner] => capturesElse inner
  | _ => false

/-- Writes the branch of an `if` for a true test, and the place of an `else` if there is one. -/
def firstBranch (statement : Node) (hasElse : Bool) : Printer Unit := do
  match statement with
  | .mk .block _ statements =>
    putChar ' '
    block statements
    if hasElse then putChar ' ' else newline
  | _ =>
    if capturesElse statement then
      putChar ' '
      block [statement]
      if hasElse then putChar ' ' else newline
    else
      body statement
      if hasElse then indentation

/-- Writes an `if`. An `if` in its other branch continues it on the same line. -/
def ifFrom : Node → Printer Unit
  | .mk .ifStatement _ [test, first, second] => do
    word "if ("
    part test
    putChar ')'
    firstBranch first second.isPresent
    if second.isPresent then
      word "else"
      match second with
      | .mk .ifStatement _ _ =>
        putChar ' '
        ifFrom second
      | _ => body second
  | _ => pure ()

/-- Writes the head of a loop, and its body. -/
def loop (head : String) (inside : Printer Unit) (inner : Node) : Printer Unit := do
  word head
  inside
  putChar ')'
  body inner

/-- The words that open a variable declaration. -/
def variableText : VariableWord → String
  | .var => "var "
  | .let => "let "
  | .const => "const "
  | .using => "using "
  | .awaitUsing => "await using "

/-- Writes variables without the end of their statement. -/
def variableDeclaration (place : Place) (word : VariableWord) (isDeclare : Bool)
    (declarators : List Node) : Printer Unit := do
  spaceBeforeWord
  putIf isDeclare "declare "
  put (variableText word)
  commaSeparated (child place) declarators

/-- Writes what a loop begins with: variables, a target or an expression. -/
def loopStart (place : Place) (node : Node) : Printer Unit :=
  match node with
  | .mk (.variables word isDeclare) _ declarators =>
    variableDeclaration place word isDeclare declarators
  | _ => child place node

/-- Writes the left side of a loop over keys or values. -/
def loopTarget (left : Node) : Printer Unit :=
  wrapped (isReferenceTo "async" left) (loopStart .loose left)

/-- Writes a piece of a counting loop's head, with a space before it, if it is there. -/
def loopPiece (node : Node) : Printer Unit :=
  optionally node do
    putChar ' '
    part node

/-- Writes a case of a `switch`. -/
def switchCase (test : Node) (statements : List Node) : Printer Unit := do
  indentation
  if test.isPresent then
    put "case "
    part test
  else put "default"
  putChar ':'
  match statements with
  | [single] => body single
  | several =>
    newline
    deeper (several.forM part)

/-- Writes the handler of a `try`. The type of what it catches is lost. -/
def catchClause (span : Span) (caught handler : Node) : Printer Unit := do
  commentsAt span.start
  put "catch"
  match caught with
  | .mk .catchParameter _ [pattern, _] =>
    put " ("
    part pattern
    putChar ')'
  | _ => pure ()
  putChar ' '
  block handler.parts

/-- Writes a `try`. -/
def tryStatement (first handler last : Node) : Printer Unit := do
  put "try "
  block first.parts
  optionally handler do
    putChar ' '
    part handler
  optionally last do
    put " finally "
    block last.parts
  newline

/-- Writes a loop that tests behind its body. -/
def doWhileStatement (inner test : Node) : Printer Unit := do
  put "do"
  match inner with
  | .mk .block _ statements =>
    putChar ' '
    block statements
    putChar ' '
  | _ =>
    newline
    deeper (part inner)
    indentation
  put "while ("
  part test
  putChar ')'
  endStatement

/-- Writes a declared variable. -/
def declarator (place : Place) (isDefinite : Bool) (pattern type value : Node) : Printer Unit := do
  part pattern
  putIf isDefinite "!"
  declaredType type
  optionally value do
    put " = "
    child (place.keepIn .comma) value

/-- Writes a `break` or `continue`. -/
def jump (text : String) (label : Node) : Printer Unit := do
  put text
  optionally label do
    putChar ' '
    part label
  endStatement

/-- Writes a statement from behind its indentation. -/
def statementRest (kind : Kind) (parts : List Node) : Printer Unit :=
  match kind, parts with
  | .block, statements => do
    block statements
    newline
  | .breakStatement, [label] => jump "break" label
  | .continueStatement, [label] => jump "continue" label
  | .debuggerStatement, _ => put "debugger;\n"
  | .doWhileStatement, [inner, test] => doWhileStatement inner test
  | .emptyStatement, _ => endStatement
  | .expressionStatement, [e] => do
    modify fun s => { s with statementMark := some s.length }
    part e
    endStatement
  | .forInStatement, [left, right, inner] =>
    loop "for (" (do loopTarget left; put " in "; part right) inner
  | .forOfStatement awaits, [left, right, inner] =>
    loop (if awaits then "for await (" else "for (")
      (do loopTarget left; put " of "; child .piece right) inner
  | .forStatement, [start, test, step, inner] =>
    loop "for ("
      (do
        loopStart ⟨.lowest, true, false⟩ start
        putChar ';'
        loopPiece test
        putChar ';'
        loopPiece step)
      inner
  | .ifStatement, parts => ifFrom (.mk .ifStatement ⟨0, 0⟩ parts)
  | .labeledStatement, [label, inner] => do
    spaceBeforeWord
    part label
    putChar ':'
    body inner
  | .returnStatement, [e] => do
    put "return"
    optionally e do
      putChar ' '
      part e
    endStatement
  | .switchStatement, [subject, .mk .switchCases _ cases] => do
    put "switch ("
    part subject
    put ") "
    braces cases.isEmpty (cases.forM part)
    newline
  | .throwStatement, [e] => do
    put "throw "
    part e
    endStatement
  | .tryStatement, [first, handler, last] => tryStatement first handler last
  | .whileStatement, [test, inner] => loop "while (" (part test) inner
  | .withStatement, [object, .mk .withBody _ [inner]] => loop "with(" (part object) inner
  | _, _ => pure ()

/-- Writes a directive in quotes that do not occur in it, as far as they are not escaped. -/
def directiveQuote : List Char → Char
  | [] => '"'
  | '\\' :: _ :: rest => directiveQuote rest
  | '"' :: _ => '\''
  | '\'' :: _ => '"'
  | _ :: rest => directiveQuote rest

/-- Writes a directive as it was read. -/
def directive (raw : String) : Printer Unit := do
  let quote := directiveQuote raw.toList
  indentation
  putChar quote
  put raw
  putChar quote
  endStatement

end JsxTidy.Printer
