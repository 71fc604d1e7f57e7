import JsxTidy.Text.Offset

/-!
# Cursors

A cursor is a place in a text that is read from front to back: a byte offset and what follows it.
-/

namespace JsxTidy

/-- A place in a text. -/
structure Cursor where
  offset : Nat
  rest : List Char

namespace Cursor

/-- The place behind the next character. At the end it stays. -/
def next (cursor : Cursor) : Cursor :=
  match cursor.rest with
  | [] => cursor
  | c :: rest => ⟨cursor.offset + c.utf8Size, rest⟩

/-- The character at a place. -/
def char? (cursor : Cursor) : Option Char :=
  cursor.rest.head?

/-- The place `count` characters on. -/
def skip : Nat → Cursor → Cursor
  | 0, cursor => cursor
  | count + 1, cursor => skip count cursor.next

/-- The first place where a character fails a test, given what follows the offset. -/
def dropWhileFrom (keep : Char → Bool) (offset : Nat) : List Char → Cursor
  | [] => ⟨offset, []⟩
  | c :: rest =>
    if keep c then dropWhileFrom keep (offset + c.utf8Size) rest else ⟨offset, c :: rest⟩

/-- The first place from here on where a character fails a test. -/
def dropWhile (keep : Char → Bool) (cursor : Cursor) : Cursor :=
  dropWhileFrom keep cursor.offset cursor.rest

/-- The text between two places. -/
def textTo (start stop : Cursor) : List Char :=
  Text.takeBytes (stop.offset - start.offset) start.rest

/-- The text between two places as a string. -/
def stringTo (start stop : Cursor) : String :=
  String.ofList (start.textTo stop)

end Cursor

end JsxTidy
