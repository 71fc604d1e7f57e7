import JsxTidy.Syntax.Comment
import JsxTidy.Token.Words

/-!
# Tokens

The words of a program's text. Keywords are words like any other: whether a word is reserved
depends on where it stands.
-/

namespace JsxTidy

/-- How a number is written. -/
inductive NumberForm where
  | decimal | fraction | binary | octal | hexadecimal | positiveExponent | negativeExponent
deriving DecidableEq, Repr

/-- What a token is. -/
inductive Lexeme where
  | endOfText
  /-- A text that is no token; what is wrong with it has been reported. -/
  | unknown
  | word (name : String)
  | symbol (text : String)
  | privateName (name : String)
  | number (form : NumberForm) (raw : String)
  | bigInt (form : NumberForm) (raw : String)
  | string (value raw : String) (loneSurrogates : Bool)
  | regExp (pattern flags : String)
  /-- A stretch of template text. `opens` and `closes` say which ends of the template it has.
  It has no cooked form when an escape in it is wrong. -/
  | quasi (opens closes : Bool) (raw : String) (cooked : Option String)
  | markupText (raw : String)
deriving DecidableEq, Repr

/-- A token with its place. -/
structure Token where
  lexeme : Lexeme
  span : Syntax.Span
  /-- Whether a line ends between the token before and this one. -/
  onNewLine : Bool
  /-- Whether the token is a word written with an escape. -/
  escaped : Bool
  /-- Whether a comment before the token says that a call has no side effect. -/
  afterPure : Bool
  /-- Whether a comment before the token says that a function has no side effect. -/
  afterQuiet : Bool
deriving Repr

namespace Lexeme

/-- The name under which a complaint mentions a token. -/
def title : Lexeme → String
  | endOfText => "EOF"
  | unknown => "Unknown"
  | word name => if Words.isKeyword name then name else "Identifier"
  | symbol text => text
  | privateName _ => "#identifier"
  | number .decimal _ | bigInt .decimal _ => "decimal"
  | number .fraction _ | bigInt .fraction _ => "float"
  | number .binary _ | bigInt .binary _ => "binary"
  | number .octal _ | bigInt .octal _ => "octal"
  | number .hexadecimal _ | bigInt .hexadecimal _ => "hex"
  | number .positiveExponent _ | bigInt .positiveExponent _ => "positive exponential"
  | number .negativeExponent _ | bigInt .negativeExponent _ => "negative exponential"
  | string .. => "string"
  | regExp .. => "/regexp/"
  | quasi true true _ _ => "$\x7b\x7d"
  | quasi true false _ _ => "$\x7b"
  | quasi false false _ _ => "$\x7bexpr\x7d"
  | quasi false true _ _ => "\x7d"
  | markupText _ => "jsx"

/-- Whether a token is a given symbol. -/
def isSymbol (text : String) : Lexeme → Bool
  | symbol t => t == text
  | _ => false

/-- Whether a token is a given word. -/
def isWord (name : String) : Lexeme → Bool
  | word n => n == name
  | _ => false

end Lexeme

end JsxTidy
