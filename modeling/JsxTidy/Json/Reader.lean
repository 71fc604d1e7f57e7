import JsxTidy.Json.Problem
import JsxTidy.Text.Cursor

/-!
# Reading JSON: the basics

A reader goes through a text with a cursor and stops at the first problem. A problem shows either
where the cursor stands or one byte behind it, when the next character is to blame.
-/

namespace JsxTidy.Json

/-- Reads something from a text. -/
abbrev Reader := StateT Cursor (Except Problem)

namespace Reader

/-- Stops where the cursor stands. -/
def failHere {α : Type} (fault : Fault) : Reader α := fun cursor =>
  .error ⟨fault, cursor.offset⟩

/-- Stops because of the next character. -/
def failNext {α : Type} (fault : Fault) : Reader α := fun cursor =>
  .error ⟨fault, if cursor.rest.isEmpty then cursor.offset else cursor.offset + 1⟩

/-- The next character. -/
def peek? : Reader (Option Char) := fun cursor =>
  .ok (cursor.char?, cursor)

/-- Steps over the next character. -/
def advance : Reader Unit := fun cursor =>
  .ok ((), cursor.next)

/-- Whether a character may stand between the parts of a value. -/
def isBlank (c : Char) : Bool :=
  c == ' ' || c == '\n' || c == '\t' || c == '\r'

/-- Steps over blanks. -/
def skipBlanks : Reader Unit := fun cursor =>
  .ok ((), cursor.dropWhile isBlank)

/-- The next character that is no blank. -/
def peekItem? : Reader (Option Char) := do
  skipBlanks
  peek?

/-- The number of steps that are enough to read what is left. -/
def stepsLeft : Reader Nat := fun cursor =>
  .ok (cursor.rest.length + 1, cursor)

/-- Reads the rest of a word. -/
def wordRest : List Char → Reader Unit
  | [] => pure ()
  | expected :: rest => do
    match ← peek? with
    | none => failNext .endOfValue
    | some c =>
      if c = expected then
        advance
        wordRest rest
      else failNext .expectedWord

/-- Reads the colon behind the name of a field. -/
def colon : Reader Unit := do
  match ← peekItem? with
  | some ':' => advance
  | some _ => failNext .expectedColon
  | none => failNext .endOfObject

/-- Whether a list goes on. A comma before the next item is stepped over. -/
def listGoesOn (isFirst : Bool) : Reader Bool := do
  match ← peekItem? with
  | none => failNext .endOfList
  | some ']' => return false
  | some c =>
    if isFirst then return true
    else if c = ',' then
      advance
      match ← peekItem? with
      | some ']' => failNext .trailingComma
      | some _ => return true
      | none => failNext .endOfValue
    else failNext .expectedListEnd

/-- Whether an object goes on. The quote of the next name is stepped over. -/
def objectGoesOn (isFirst : Bool) : Reader Bool := do
  match ← peekItem? with
  | none => failNext .endOfObject
  | some '\x7d' => return false
  | some c =>
    if isFirst then
      if c = '"' then
        advance
        return true
      else failNext .keyNoString
    else if c = ',' then
      advance
      match ← peekItem? with
      | some '"' =>
        advance
        return true
      | some '\x7d' => failNext .trailingComma
      | some _ => failNext .keyNoString
      | none => failNext .endOfValue
    else failNext .expectedObjectEnd

/-- Where a list ends, and what is wrong there. -/
def listEnd (cursor : Cursor) : Cursor × Option Fault :=
  let cursor := cursor.dropWhile isBlank
  match cursor.char? with
  | none => (cursor, some .endOfList)
  | some ']' => (cursor.next, none)
  | some ',' =>
    let cursor := cursor.next.dropWhile isBlank
    (cursor, some (if cursor.char? == some ']' then .trailingComma else .trailingText))
  | some _ => (cursor, some .trailingText)

/-- Where an object ends, and what is wrong there. -/
def objectEnd (cursor : Cursor) : Cursor × Option Fault :=
  let cursor := cursor.dropWhile isBlank
  match cursor.char? with
  | none => (cursor, some .endOfObject)
  | some '\x7d' => (cursor.next, none)
  | some ',' => (cursor, some .trailingComma)
  | some _ => (cursor, some .trailingText)

/-- Reads the end of a list or an object. A fault of the whole shows behind that end. -/
def closing {α : Type} (ending : Cursor → Cursor × Option Fault) (whole : Except Fault α) :
    Reader α := fun cursor =>
  let (cursor, fault?) := ending cursor
  match whole, fault? with
  | .error fault, _ => failHere fault cursor
  | .ok _, some fault => failNext fault cursor
  | .ok a, none => .ok (a, cursor)

/-- Reads items up to the end of a list. -/
def itemsFrom {α : Type} (item : Reader α) : Nat → List α → Reader (List α)
  | 0, found => return found.reverse
  | fuel + 1, found => do
    if ← listGoesOn found.isEmpty then itemsFrom item fuel ((← item) :: found)
    else return found.reverse

/-- Reads the items of a list behind its bracket. -/
def items {α : Type} (item : Reader α) : Reader (List α) := do
  let found ← itemsFrom item (← stepsLeft) []
  closing listEnd (.ok found)

/-- Reads the end of a text. -/
def textEnd : Reader Unit := do
  if (← peekItem?).isSome then failNext .trailingText

/-- Runs a reader on a whole text. -/
def run {α : Type} (reader : Reader α) (text : List Char) : Except Problem α := do
  let (a, cursor) ← reader ⟨0, text⟩
  let _ ← textEnd cursor
  return a

end Reader

end JsxTidy.Json
