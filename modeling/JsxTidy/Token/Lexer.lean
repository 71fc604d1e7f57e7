import JsxTidy.Token.CommentLog
import JsxTidy.Token.Escape
import JsxTidy.Token.Number

/-!
# Reading tokens

A token is read at a cursor. What a slash, an angle bracket or a closing brace begins depends on
the place, so the reader of a program asks for the special forms where it expects them: a regular
expression, the next stretch of a template, a longer operator, the text of an element.
-/

namespace JsxTidy.Lexer

open Syntax

/-- Whether a character ends a line. -/
def isLineEnd (c : Char) : Bool :=
  c == '\n' || c == '\r' || c == '\u2028' || c == '\u2029'

/-- Whether a character may stand between tokens without ending a line. -/
def isSpace (c : Char) : Bool :=
  c == ' ' || c == '\t' || c == '\x0b' || c == '\x0c' || c == '\u0085' || c == '\u00a0'
    || c == '\u1680' || c == '\u180e' || c == '\ufeff' || ('\u2000' ≤ c && c ≤ '\u200b')
    || c == '\u202f' || c == '\u205f' || c == '\u3000'

/-- What stands between two tokens. -/
structure Gap where
  log : CommentLog
  newline : Bool
  pure : Bool
  quiet : Bool
  problems : List Diagnostic

/-- The place of the first `*/` at or behind a cursor, and the place behind it. -/
def commentEndFrom (offset : Nat) : List Char → Option Cursor
  | '*' :: '/' :: rest => some ⟨offset + 2, rest⟩
  | c :: rest => commentEndFrom (offset + c.utf8Size) rest
  | [] => none

/-- Logs a comment that was read between two cursors. -/
def Gap.addComment (gap : Gap) (start stop : Cursor) (isLine : Bool) : Gap :=
  let text := start.textTo stop
  let inside := text.drop 2
  let content := if isLine then inside else inside.take (inside.length - 2)
  let spansLines := text.any isLineEnd
  let role := Comment.roleOf isLine content
  { gap with
    log := gap.log.add
      { span := ⟨start.offset, stop.offset⟩, text := String.ofList text, isLine, spansLines, role,
        newlineBefore := false, newlineAfter := false, leads? := none }
    newline := gap.newline || isLine || spansLines
    pure := gap.pure || role == .pure
    quiet := gap.quiet || role == .quiet }

/-- Skips what stands before the next token. It takes at most `fuel` steps, each of which passes
a character. The answer is `none` in place of the cursor when a comment does not end. -/
def skipGap : Nat → Cursor → Gap → Option Cursor × Gap
  | 0, cursor, gap => (some cursor, gap)
  | fuel + 1, cursor, gap =>
    match cursor.rest with
    | [] => (some cursor, gap)
    | '/' :: '/' :: _ =>
      let stop := cursor.dropWhile fun c => !isLineEnd c
      let gap := gap.addComment cursor stop true
      skipGap fuel stop.next gap
    | '/' :: '*' :: inside =>
      match commentEndFrom (cursor.offset + 2) inside with
      | some stop => skipGap fuel stop (gap.addComment cursor stop false)
      | none =>
        (none, { gap with problems := gap.problems ++ [⟨.unterminatedComment, cursor.offset⟩] })
    | c :: _ =>
      if c == '\n' || c == '\r' then
        skipGap fuel cursor.next { gap with log := gap.log.newline, newline := true }
      else if c == '\u2028' || c == '\u2029' then
        skipGap fuel cursor.next { gap with newline := true }
      else if isSpace c then skipGap fuel cursor.next gap
      else (some cursor, gap)

/-- A lexeme that was read, where it ends, and what is wrong with it. -/
structure Result where
  lexeme : Lexeme
  stop : Cursor
  problems : List Diagnostic
  escaped : Bool

/-- A lexeme with which nothing is wrong. -/
def Result.plain (lexeme : Lexeme) (stop : Cursor) : Result :=
  ⟨lexeme, stop, [], false⟩

/-- The escape of a character of a name, from behind its backslash. -/
def nameEscape (isStart : Bool) (cursor : Cursor) : Option Char × Cursor × List Diagnostic :=
  let wrong (stop : Cursor) : Option Char × Cursor × List Diagnostic :=
    (none, stop, [⟨.invalidUnicodeEscape, cursor.offset⟩])
  if cursor.char? != some 'u' then wrong cursor.next
  else
    let after := cursor.next
    let (code?, stop) :=
      if after.char? == some '\x7b' then Escape.braced after.next
      else Escape.hexDigits 4 0 after
    match code? with
    | none => wrong stop
    | some code =>
      let c := Char.ofNat code
      if Escape.isSurrogate code then wrong stop
      else if isStart && Text.isIdentifierStart c || !isStart && Text.isIdentifierPart c then
        (some c, stop, [])
      else wrong stop

/-- The characters of a name, last one first. -/
structure NameState where
  characters : List Char
  escaped : Bool
  problems : List Diagnostic

/-- Reads the rest of a name, in at most `fuel` steps. -/
def readName : Nat → Cursor → NameState → Cursor × NameState
  | 0, cursor, state => (cursor, state)
  | fuel + 1, cursor, state =>
    match cursor.char? with
    | none => (cursor, state)
    | some '\\' =>
      let (c?, stop, problems) := nameEscape state.characters.isEmpty cursor.next
      readName fuel stop
        { characters := c?.toList ++ state.characters, escaped := true,
          problems := state.problems ++ problems }
    | some c =>
      if Text.isIdentifierPart c then
        readName fuel cursor.next { state with characters := c :: state.characters }
      else (cursor, state)

/-- Reads a name, given how the name becomes a lexeme. -/
def name (fuel : Nat) (start : Cursor) (lexeme : String → Lexeme) : Result :=
  let (stop, state) := readName fuel start ⟨[], false, []⟩
  ⟨lexeme (String.ofList state.characters.reverse), stop, state.problems, state.escaped⟩

/-- Reads a private name, from behind its mark. -/
def privateName (fuel : Nat) (cursor : Cursor) : Result :=
  match cursor.char? with
  | none => ⟨.unknown, cursor, [⟨.unexpectedEnd, cursor.offset⟩], false⟩
  | some c =>
    if Text.isIdentifierStart c || c == '\\' then name fuel cursor .privateName
    else ⟨.unknown, cursor.next, [⟨.invalidCharacter c, cursor.offset⟩], false⟩

/-- Reads a string up to its closing quote. The code points read so far come last one first. -/
def readString (quote : Char) (start : Cursor) :
    Nat → Cursor → List Nat → List Diagnostic → Result
  | 0, cursor, _, problems =>
    ⟨.unknown, cursor, problems ++ [⟨.unterminatedString, start.offset⟩], false⟩
  | fuel + 1, cursor, codes, problems =>
    match cursor.char? with
    | none => ⟨.unknown, cursor, problems ++ [⟨.unterminatedString, start.offset⟩], false⟩
    | some '\\' =>
      match Escape.read false cursor.next with
      | (.points more, stop) =>
        readString quote start fuel stop (more.reverse ++ codes) problems
      | (.wrong, stop) =>
        readString quote start fuel stop codes (problems ++ [⟨.invalidEscape, cursor.offset⟩])
      | (.missing, stop) =>
        ⟨.unknown, stop, problems ++ [⟨.unterminatedString, start.offset⟩], false⟩
    | some c =>
      if c == quote then
        let (value, lone) := Escape.encode codes.reverse
        let raw := start.next.stringTo cursor
        ⟨.string value raw lone, cursor.next, problems, false⟩
      else if c == '\n' || c == '\r' then
        ⟨.unknown, cursor, problems ++ [⟨.unterminatedString, start.offset⟩], false⟩
      else readString quote start fuel cursor.next (c.toNat :: codes) problems

/-- Every line end as one line feed. -/
def unifyLineEnds : List Char → List Char
  | [] => []
  | '\r' :: '\n' :: rest => '\n' :: unifyLineEnds rest
  | '\r' :: rest => '\n' :: unifyLineEnds rest
  | c :: rest => c :: unifyLineEnds rest

/-- Reads template text from behind `inside` up to the next hole or the end. `codes` is `none`
once an escape was wrong. -/
def readQuasi (opens : Bool) (start inside : Cursor) :
    Nat → Cursor → Option (List Nat) → Result
  | 0, cursor, _ => ⟨.unknown, cursor, [⟨.unterminatedString, start.offset⟩], false⟩
  | fuel + 1, cursor, codes? =>
    let finish (closes : Bool) (stop : Cursor) : Result :=
      let raw := inside.textTo cursor
      let cooked := codes?.map fun codes => (Escape.encode codes.reverse).1
      let raw := if cooked.isSome then unifyLineEnds raw else raw
      .plain (.quasi opens closes (String.ofList raw) cooked) stop
    match cursor.rest with
    | [] => ⟨.unknown, cursor, [⟨.unterminatedString, start.offset⟩], false⟩
    | '\x60' :: _ => finish true cursor.next
    | '$' :: '\x7b' :: _ => finish false (cursor.skip 2)
    | '\r' :: '\n' :: _ => readQuasi opens start inside fuel (cursor.skip 2) (codes?.map (10 :: ·))
    | '\r' :: _ => readQuasi opens start inside fuel cursor.next (codes?.map (10 :: ·))
    | '\\' :: _ =>
      match Escape.read true cursor.next with
      | (.points more, stop) =>
        readQuasi opens start inside fuel stop (codes?.map (more.reverse ++ ·))
      | (.wrong, stop) => readQuasi opens start inside fuel stop none
      | (.missing, stop) => ⟨.unknown, stop, [⟨.unterminatedString, start.offset⟩], false⟩
    | c :: _ => readQuasi opens start inside fuel cursor.next (codes?.map (c.toNat :: ·))

/-- The symbols that begin with a character, longest first. A closing angle bracket stands alone:
longer operators are asked for where an operator is expected. -/
def symbolsFrom : Char → List String
  | '\x7b' => ["\x7b"] | '\x7d' => ["\x7d"] | '(' => ["("] | ')' => [")"] | '[' => ["["]
  | ']' => ["]"] | ';' => [";"] | ',' => [","] | '~' => ["~"] | ':' => [":"] | '@' => ["@"]
  | '.' => ["...", "."]
  | '<' => ["<<=", "<<", "<=", "<"]
  | '>' => [">"]
  | '=' => ["===", "=>", "==", "="]
  | '!' => ["!==", "!=", "!"]
  | '+' => ["++", "+=", "+"]
  | '-' => ["--", "-=", "-"]
  | '*' => ["**=", "**", "*=", "*"]
  | '/' => ["/=", "/"]
  | '%' => ["%=", "%"]
  | '&' => ["&&=", "&&", "&=", "&"]
  | '|' => ["||=", "||", "|=", "|"]
  | '^' => ["^=", "^"]
  | '?' => ["??=", "??", "?"]
  | _ => []

/-- The first of some symbols that stands at a cursor. -/
def symbolAmong? (symbols : List String) (cursor : Cursor) : Option Result :=
  (symbols.find? fun s => Text.beginsWith s.toList cursor.rest).map fun s =>
    .plain (.symbol s) (cursor.skip s.length)

/-- The text of an attribute up to its closing quote. It has no escapes. -/
def attributeText (quote : Char) (start : Cursor) : Result :=
  let stop := start.next.dropWhile (· != quote)
  if stop.rest.isEmpty then
    ⟨.unknown, stop, [⟨.unterminatedString, start.offset⟩], false⟩
  else
    let raw := start.next.stringTo stop
    .plain (.string raw raw false) stop.next

/-- The lexeme at a cursor that stands on no blank and no comment. -/
def lexemeAt (fuel : Nat) (inAttribute : Bool) (cursor : Cursor) : Result :=
  match cursor.rest with
  | [] => .plain .endOfText cursor
  | '#' :: _ => privateName fuel cursor.next
  | '\x60' :: _ => readQuasi true cursor cursor.next fuel cursor.next (some [])
  | '?' :: '.' :: after =>
    match after with
    | c :: _ => if c.isDigit then .plain (.symbol "?") cursor.next
      else .plain (.symbol "?.") (cursor.skip 2)
    | [] => .plain (.symbol "?.") (cursor.skip 2)
  | c :: after =>
    let digitNext := match after with
      | d :: _ => d.isDigit
      | [] => false
    if c == '"' || c == '\'' then
      if inAttribute then attributeText c cursor
      else readString c cursor fuel cursor.next [] []
    else if c.isDigit then
      let result := NumberToken.read cursor
      ⟨result.lexeme, result.stop, result.problems, false⟩
    else if c == '.' && digitNext then
      let result := NumberToken.fraction cursor
      ⟨result.lexeme, result.stop, result.problems, false⟩
    else if Text.isIdentifierStart c || c == '\\' then name fuel cursor .word
    else match symbolAmong? (symbolsFrom c) cursor with
      | some result => result
      | none => ⟨.unknown, cursor.next, [⟨.invalidCharacter c, cursor.offset⟩], false⟩

/-- A token that was read, with the text from it on and what reading it brought to light. -/
structure Reading where
  token : Token
  start : Cursor
  stop : Cursor
  log : CommentLog
  problems : List Diagnostic

/-- Whether a token opens a value. -/
def opensValue : Lexeme → Bool
  | .symbol "=" | .symbol "(" => true
  | _ => false

/-- Makes a token of a lexeme. -/
def finish (start : Cursor) (result : Result) (gap : Gap) : Reading :=
  { token :=
      { lexeme := result.lexeme, span := ⟨start.offset, result.stop.offset⟩,
        onNewLine := gap.newline, escaped := result.escaped, afterPure := gap.pure,
        afterQuiet := gap.quiet }
    start
    stop := result.stop
    log := gap.log.token start.offset (opensValue result.lexeme)
    problems := gap.problems ++ result.problems }

/-- Reads the next token behind blanks and comments. -/
def next (fuel : Nat) (inAttribute : Bool) (cursor : Cursor) (log : CommentLog) : Reading :=
  match skipGap fuel cursor ⟨log, false, false, false, []⟩ with
  | (some start, gap) => finish start (lexemeAt fuel inAttribute start) gap
  | (none, gap) =>
    let stop : Cursor := cursor.dropWhile fun _ => true
    finish stop (.plain .endOfText stop) gap

/-- Reads a regular expression that begins at a cursor. -/
def regExpEnd (start : Cursor) : Bool → Bool → Nat → List Char → Option Cursor
  | _, _, _, [] => none
  | inEscape, inClass, offset, c :: rest =>
    if isLineEnd c then none
    else if inEscape then regExpEnd start false inClass (offset + c.utf8Size) rest
    else if c == '/' && !inClass then some ⟨offset, c :: rest⟩
    else if c == '[' then regExpEnd start false true (offset + 1) rest
    else if c == '\\' then regExpEnd start true inClass (offset + 1) rest
    else if c == ']' then regExpEnd start false false (offset + 1) rest
    else regExpEnd start false inClass (offset + c.utf8Size) rest

/-- The flags of regular expressions in the order in which they are written. -/
def regExpFlags : List Char :=
  ['d', 'g', 'i', 'm', 's', 'u', 'v', 'y']

/-- What is wrong with the flags of a regular expression, given those already met. -/
def flagProblems (offset : Nat) : List Char → List Char → List Diagnostic
  | _, [] => []
  | met, c :: rest =>
    if !regExpFlags.contains c then ⟨.regExpFlag c, offset⟩ :: flagProblems (offset + 1) met rest
    else if met.contains c then ⟨.regExpFlagTwice c, offset⟩ :: flagProblems (offset + 1) met rest
    else flagProblems (offset + 1) (c :: met) rest

/-- Reads the regular expression that begins at a cursor. -/
def regExp (start : Cursor) : Result :=
  match regExpEnd start false false start.next.offset start.next.rest with
  | none =>
    let stop := start.dropWhile fun c => !isLineEnd c
    ⟨.unknown, stop, [⟨.unterminatedRegExp, start.offset⟩], false⟩
  | some patternEnd =>
    let flagStart := patternEnd.next
    let stop := flagStart.dropWhile fun c => c.isAlphanum || c == '_' || c == '$'
    let flags := flagStart.textTo stop
    ⟨.regExp (start.next.stringTo patternEnd)
        (String.ofList (regExpFlags.filter flags.contains)),
      stop, flagProblems flagStart.offset [] flags, false⟩

/-- Reads the operator that begins with a closing angle bracket. -/
def closingAngle (start : Cursor) : Result :=
  (symbolAmong? [">>>=", ">>>", ">>=", ">>", ">=", ">"] start).getD
    (.plain (.symbol ">") start.next)

/-- Reads the name of an element or attribute, in which hyphens may stand. -/
def markupName (start : Cursor) : Result :=
  let stop := start.dropWhile fun c => c == '-' || Text.isIdentifierPart c
  .plain (.word (start.stringTo stop)) stop

/-- Reads a child of an element: a brace, an angle bracket or the text before the next one. -/
def markupChild (start : Cursor) : Result :=
  match start.rest with
  | [] => .plain .endOfText start
  | '<' :: _ => .plain (.symbol "<") start.next
  | '\x7b' :: _ => .plain (.symbol "\x7b") start.next
  | _ =>
    let stop := start.dropWhile fun c => c != '<' && c != '\x7b' && c != '>' && c != '\x7d'
    match stop.char? with
    | some '>' => ⟨.unknown, stop.next, [⟨.markupTextSymbol ">" "gt", stop.offset⟩], false⟩
    | some '\x7d' => ⟨.unknown, stop.next, [⟨.markupTextSymbol "\x7d" "rbrace", stop.offset⟩], false⟩
    | _ => .plain (.markupText (start.stringTo stop)) stop

/-- Makes a token of a lexeme that follows the last token without a gap. -/
def adjacent (start : Cursor) (result : Result) (log : CommentLog) : Reading :=
  finish start result ⟨log, false, false, false, []⟩

end JsxTidy.Lexer
