import JsxTidy.Settings.Value
import JsxTidy.Text.Blank
import JsxTidy.Text.Find

/-!
# Values written as text

What a variable of the environment means is read off its text: truth values, numbers, quoted
strings, lists in brackets and tables in braces. A text that is none of these is a string.
-/

namespace JsxTidy

open Decimal

namespace SettingLiteral

/-- The digits of a number, with a sign in front of them that may be left out. -/
def signedDigits (text : List Char) : Bool × List Char :=
  match text with
  | '+' :: digits => (false, digits)
  | '-' :: digits => (true, digits)
  | digits => (false, digits)

/-- The value of digits, of which there has to be one. -/
def nat? (digits : List Char) : Option Nat :=
  if digits.isEmpty || !digits.all Char.isDigit then none
  else some (digits.foldl (fun n c => 10 * n + (c.toNat - '0'.toNat)) 0)

/-- A whole number without a minus that fits 64 bits. -/
def unsigned? (text : List Char) : Option Nat := do
  let (isNegative, digits) := signedDigits text
  let n ← nat? digits
  if text.head? == some '-' || isNegative || Nat.pow 2 64 ≤ n then none else some n

/-- A whole number that fits 64 bits with a sign. -/
def signed? (text : List Char) : Option Int := do
  let (isNegative, digits) := signedDigits text
  let n ← nat? digits
  let value : Int := if isNegative then -n else n
  if value < -Int.pow 2 63 ∨ Int.pow 2 63 ≤ value then none else some value

/-- The value of digits with an exponent. Beyond all exponents of the format it is zero or
infinite. -/
def scaled (isNegative : Bool) (digits : Nat) (exponent : Int) : FloatValue :=
  let top := exponent + (digitCount digits : Int)
  if digits = 0 ∨ top < -400 then .finite isNegative ⟨0, 0⟩
  else if 400 < top then .infinite isNegative
  else .ofRatio binary64 isNegative (.scaled digits 10 exponent)

/-- The exponent behind the digits of a number. -/
def exponent? (text : List Char) : Option Int :=
  match text with
  | [] => some 0
  | c :: rest =>
    if c = 'e' ∨ c = 'E' then
      let (isNegative, digits) := signedDigits rest
      (nat? digits).map fun n => if isNegative then -(n : Int) else (n : Int)
    else none

/-- A number with a point. There has to be a digit on one side of it. -/
def float? (text : List Char) : Option FloatValue := do
  let (isNegative, unsigned) := signedDigits text
  let whole := unsigned.takeWhile Char.isDigit
  match unsigned.dropWhile Char.isDigit with
  | '.' :: rest =>
    let fraction := rest.takeWhile Char.isDigit
    let exponent ← exponent? (rest.dropWhile Char.isDigit)
    let digits ← nat? (whole ++ fraction)
    return scaled isNegative digits (exponent - (fraction.length : Int))
  | _ => none

/-- What a text without quotes and brackets means. -/
def plain (text : List Char) : SettingScalar :=
  match float? text, unsigned? text, signed? text with
  | some x, _, _ => .float x
  | none, some n, _ => .unsigned n
  | none, none, some n => .signed n
  | none, none, none => .string (String.ofList text)

/-- Reads a part of a text, if it is there. -/
abbrev Reader := StateT (List Char) Option

/-- The next character. -/
def peek? : Reader (Option Char) := fun text => some (text.head?, text)

/-- Steps over a character, which has to stand here. -/
def eat (c : Char) : Reader Unit := fun text =>
  match text with
  | first :: rest => if first = c then some ((), rest) else none
  | [] => none

/-- Steps over a character if it stands here. -/
def eats (c : Char) : Reader Bool := fun text =>
  match text with
  | first :: rest => if first = c then some (true, rest) else some (false, text)
  | [] => some (false, [])

/-- Steps over any character. -/
def any : Reader Char := fun text =>
  match text with
  | first :: rest => some (first, rest)
  | [] => none

/-- Reads characters of a kind. -/
def takeWhile (keep : Char → Bool) : Reader (List Char) := fun text =>
  some (text.takeWhile keep, text.dropWhile keep)

/-- Whether a character may stand around values. -/
def isSpace (c : Char) : Bool :=
  c == ' ' || c == '\t' || c == '\n' || c == '\x0c' || c == '\r'

/-- Steps over spaces. -/
def skipSpaces : Reader Unit := do
  let _ ← takeWhile isSpace

/-- Whether a character may stand in a text without quotes. -/
def isPlain (c : Char) : Bool :=
  !(c == ',' || c == '\x7b' || c == '\x7d' || c == '[' || c == ']')

/-- Whether a character may stand in a key without quotes. -/
def isKeyChar (c : Char) : Bool :=
  c.isAlphanum || c == '_' || c == '-'

/-- The value of a digit of base sixteen. -/
def hexDigit? (c : Char) : Option Nat :=
  if c.isDigit then some (c.toNat - '0'.toNat)
  else if 'a' ≤ c.toLower && c.toLower ≤ 'f' then some (c.toLower.toNat - 'a'.toNat + 10)
  else none

/-- Reads the character that some digits of base sixteen stand for. -/
def codePoint (count : Nat) : Reader Char := fun text => do
  let digits := text.take count
  if digits.length < count then none
  else
    let values ← digits.mapM hexDigit?
    let code := values.foldl (fun n d => 16 * n + d) 0
    if code.isValidChar then some (Char.ofNat code, text.drop count) else none

/-- Reads an escape behind its backslash. -/
def escape : Reader Char := do
  let c ← any
  match c with
  | '"' => return '"'
  | '\\' => return '\\'
  | 'b' => return '\x08'
  | 'f' => return '\x0c'
  | 'n' => return '\n'
  | 'r' => return '\r'
  | 't' => return '\t'
  | 'u' => codePoint 4
  | 'U' => codePoint 8
  | _ => fun _ => none

/-- Reads the characters of a string up to its closing quote. -/
def charsFrom : Nat → List Char → Reader (List Char)
  | 0, _ => fun _ => none
  | fuel + 1, found => do
    let c ← any
    if c = '"' then return found.reverse
    else if c = '\\' then charsFrom fuel ((← escape) :: found)
    else charsFrom fuel (c :: found)

/-- Reads a string in quotes. -/
def string : Reader String := do
  eat '"'
  let fuel := (← get).length + 1
  return String.ofList (← charsFrom fuel [])

/-- Reads the key of a field. -/
def key : Reader String := do
  match ← peek? with
  | some '"' => string
  | _ =>
    let name ← takeWhile isKeyChar
    if name.isEmpty then fun _ => none else return String.ofList name

/-- Reads items up to a closing bracket. -/
def itemsFrom {α : Type} (item : Reader α) (ending : Char) : Nat → List α → Reader (List α)
  | 0, _ => fun _ => none
  | fuel + 1, found => do
    if ← eats ending then return found.reverse
    else
      let one ← item
      if ← eats ',' then itemsFrom item ending fuel (one :: found)
      else
        eat ending
        return (one :: found).reverse

/-- Reads items in brackets. -/
def items {α : Type} (item : Reader α) (opening ending : Char) : Reader (List α) := do
  eat opening
  let fuel := (← get).length + 1
  itemsFrom item ending fuel []

/-- Reads a value inside spaces. -/
def spaced {α : Type} (reader : Reader α) : Reader α := do
  skipSpaces
  let a ← reader
  skipSpaces
  return a

/-- Steps over a word if it stands here. -/
def eatsWord (word : List Char) : Reader Bool := fun text =>
  match Text.after? word text with
  | some rest => some (true, rest)
  | none => some (false, text)

/-- Reads a value, given a reader for the values in it. -/
def valueAround (origin : SettingOrigin) (inner : Reader Setting) : Reader Setting := do
  if ← eatsWord "true".toList then return .scalar origin (.bool true)
  else if ← eatsWord "false".toList then return .scalar origin (.bool false)
  else
    match ← peek? with
    | some '\x7b' =>
      let field : Reader (String × Setting) := do
        let name ← spaced key
        eat '='
        return (name, ← spaced inner)
      return .ofFields origin (← items field '\x7b' '\x7d')
    | some '[' => return .list origin (← items inner '[' ']')
    | some '"' => return .scalar origin (.string (← string))
    | some '\'' =>
      eat '\''
      let c ← any
      eat '\''
      return .scalar origin (.char c)
    | _ => return .scalar origin (plain (Text.trim (← takeWhile isPlain)))

/-- Reads a value in which at most `depth` lists and tables are nested. -/
def value (origin : SettingOrigin) : Nat → Reader Setting
  | 0 => fun _ => none
  | depth + 1 => spaced (valueAround origin (value origin depth))

end SettingLiteral

/-- The value that a text means. A text that cannot be read as a whole is a string. -/
def Setting.ofText (origin : SettingOrigin) (text : List Char) : Setting :=
  match SettingLiteral.value origin (text.length + 1) text with
  | some (setting, []) => setting
  | _ => .scalar origin (.string (String.ofList text))

end JsxTidy
