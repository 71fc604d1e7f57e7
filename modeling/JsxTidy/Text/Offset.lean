import JsxTidy.Word

/-!
# Byte offsets

Places in a source text are counted in the bytes of its UTF-8 form. A byte offset that falls
inside a character stands for the start of that character. Lines and columns count from one, and
columns count characters. Both are words, which `2 ^ 32 - 1` line ends or characters exhaust.
-/

namespace JsxTidy.Text

/-- The number of bytes of a text. -/
def byteLength : List Char → Nat
  | [] => 0
  | c :: cs => c.utf8Size + byteLength cs

/-- The characters that end at or before a byte offset. -/
def takeBytes : Nat → List Char → List Char
  | _, [] => []
  | bytes, c :: cs =>
    if c.utf8Size ≤ bytes then c :: takeBytes (bytes - c.utf8Size) cs else []

/-- The characters that end after a byte offset. -/
def dropBytes : Nat → List Char → List Char
  | _, [] => []
  | bytes, c :: cs =>
    if c.utf8Size ≤ bytes then dropBytes (bytes - c.utf8Size) cs else c :: cs

/-- The text between two byte offsets. -/
def sliceBytes (start stop : Nat) (cs : List Char) : List Char :=
  takeBytes (stop - start) (dropBytes start cs)

/-- What has been passed of a text. -/
@[ext]
structure Passed where
  /-- The line ends. -/
  lines : Nat
  /-- The characters behind the last line end. -/
  chars : Nat
deriving DecidableEq, Repr

namespace Passed

/-- Nothing has been passed before the first character. -/
def start : Passed := ⟨0, 0⟩

/-- One more character is passed. -/
def step (passed : Passed) (c : Char) : Passed :=
  if c = '\n' then ⟨passed.lines + 1, 0⟩ else ⟨passed.lines, passed.chars + 1⟩

/-- What has been passed behind a text. -/
def through (cs : List Char) : Passed :=
  cs.foldl step start

end Passed

/-- A place in a text as people name it. -/
structure LineColumn where
  line : UInt32
  column : UInt32
deriving DecidableEq, Repr

namespace LineColumn

/-- The place behind what has been passed, unless its line or column is too large for a word. -/
def behind? (passed : Passed) : Option LineColumn := do
  let line ← Word.ordinal? passed.lines
  let column ← Word.ordinal? passed.chars
  return ⟨line, column⟩

/-- The place that a byte offset names. An offset beyond the end names the end. -/
def ofOffset? (source : List Char) (offset : Nat) : Option LineColumn :=
  behind? (.through (takeBytes offset source))

end LineColumn

end JsxTidy.Text
