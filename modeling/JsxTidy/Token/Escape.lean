import JsxTidy.Text.Cursor

/-!
# Escape sequences

The text behind a backslash stands for code points, among them those of lone surrogates, which no
character has.
-/

namespace JsxTidy.Escape

/-- The value of a hexadecimal digit. -/
def hexValue? (c : Char) : Option Nat :=
  if c.isDigit then some (c.toNat - 48)
  else if 'a' ≤ c ∧ c ≤ 'f' then some (c.toNat - 87)
  else if 'A' ≤ c ∧ c ≤ 'F' then some (c.toNat - 55)
  else none

/-- The value of exactly `count` hexadecimal digits, and the place where reading them ended. -/
def hexDigits : Nat → Nat → Cursor → Option Nat × Cursor
  | 0, value, cursor => (some value, cursor)
  | count + 1, value, cursor =>
    match cursor.char?.bind hexValue? with
    | some digit => hexDigits count (value * 16 + digit) cursor.next
    | none => (none, cursor)

/-- The value of any number of further hexadecimal digits, as long as it is a code point. -/
def codePointFrom (value offset : Nat) : List Char → Option Nat × Cursor
  | [] => (some value, ⟨offset, []⟩)
  | c :: rest =>
    match hexValue? c with
    | some digit =>
      if value * 16 + digit ≤ 0x10FFFF then codePointFrom (value * 16 + digit) (offset + 1) rest
      else (none, ⟨offset + 1, rest⟩)
    | none => (some value, ⟨offset, c :: rest⟩)

/-- A code point in braces, from behind the opening brace. -/
def braced (cursor : Cursor) : Option Nat × Cursor :=
  match cursor.char?.bind hexValue? with
  | none => (none, cursor)
  | some first =>
    match codePointFrom first cursor.next.offset cursor.next.rest with
    | (some value, stop) =>
      if stop.char? == some '\x7d' then (some value, stop.next) else (none, stop)
    | (none, stop) => (none, stop)

/-- Whether a code point is the first half of a pair. -/
def isHighSurrogate (n : Nat) : Bool :=
  decide (0xD800 ≤ n) && decide (n ≤ 0xDBFF)

/-- Whether a code point is the second half of a pair. -/
def isLowSurrogate (n : Nat) : Bool :=
  decide (0xDC00 ≤ n) && decide (n ≤ 0xDFFF)

/-- Whether a code point is half of a pair. -/
def isSurrogate (n : Nat) : Bool :=
  decide (0xD800 ≤ n) && decide (n ≤ 0xDFFF)

/-- Four digits, or two times four that form a pair. -/
def quad (cursor : Cursor) : Option Nat × Cursor :=
  match hexDigits 4 0 cursor with
  | (none, stop) => (none, stop)
  | (some high, stop) =>
    if isHighSurrogate high && stop.char? == some '\\' && stop.next.char? == some 'u' then
      match hexDigits 4 0 (stop.skip 2) with
      | (some low, last) =>
        if isLowSurrogate low then
          (some (0x10000 + (high - 0xD800) * 0x400 + (low - 0xDC00)), last)
        else (some high, stop)
      | (none, last) => (none, last)
    else (some high, stop)

/-- The code point of a Unicode escape, from behind its letter. -/
def unicode (cursor : Cursor) : Option Nat × Cursor :=
  if cursor.char? == some '\x7b' then braced cursor.next else quad cursor

/-- What an escape stands for. -/
inductive Value where
  | points (codes : List Nat)
  | wrong
  | missing

/-- A digit below eight. -/
def octalValue? (c : Char) : Option Nat :=
  if '0' ≤ c ∧ c ≤ '7' then some (c.toNat - 48) else none

/-- The value of at most `count` further octal digits. -/
def octalDigits : Nat → Nat → Cursor → Nat × Cursor
  | 0, value, cursor => (value, cursor)
  | count + 1, value, cursor =>
    match cursor.char?.bind octalValue? with
    | some digit => octalDigits count (value * 8 + digit) cursor.next
    | none => (value, cursor)

/-- The code point of an optional value, or a wrong escape. -/
def ofCode : Option Nat × Cursor → Value × Cursor
  | (some code, stop) => (.points [code], stop)
  | (none, stop) => (.wrong, stop)

/-- What stands behind a backslash in a string, or in a template, where octal digits are wrong. -/
def read (inTemplate : Bool) (cursor : Cursor) : Value × Cursor :=
  match cursor.char? with
  | none => (.missing, cursor)
  | some c =>
    let after := cursor.next
    let isDigitNext := match after.char? with
      | some d => d.isDigit
      | none => false
    match c with
    | '\n' | '\u2028' | '\u2029' => (.points [], after)
    | '\r' => (.points [], if after.char? == some '\n' then after.next else after)
    | 'b' => (.points [8], after)
    | 'f' => (.points [12], after)
    | 'n' => (.points [10], after)
    | 'r' => (.points [13], after)
    | 't' => (.points [9], after)
    | 'v' => (.points [11], after)
    | 'x' => ofCode (hexDigits 2 0 after)
    | 'u' => ofCode (unicode after)
    | _ =>
      if c == '0' && !isDigitNext then (.points [0], after)
      else if c.isDigit && inTemplate then (.wrong, after)
      else match octalValue? c with
        | some first =>
          let (value, stop) := octalDigits (if first ≤ 3 then 2 else 1) first after
          (.points [value], stop)
        | none => (.points [c.toNat], after)

/-- Four lowercase hexadecimal digits. -/
def hex4 (n : Nat) : List Char :=
  [n / 4096 % 16, n / 256 % 16, n / 16 % 16, n % 16].map fun d =>
    Char.ofNat (if d < 10 then d + 48 else d + 87)

/-- A text for code points that may hold lone surrogates. When some do, each is written as the
replacement character and four digits, and so is the replacement character itself. -/
def encode (codes : List Nat) : String × Bool :=
  if codes.any isSurrogate then
    (String.ofList (codes.flatMap fun n =>
      if isSurrogate n || n == 0xFFFD then '\uFFFD' :: hex4 n else [Char.ofNat n]), true)
  else (String.ofList (codes.map Char.ofNat), false)

end JsxTidy.Escape
