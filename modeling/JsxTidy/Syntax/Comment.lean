import JsxTidy.Syntax.Node
import JsxTidy.Text.Find

/-!
# Comments

A comment is kept with what its surroundings say about it. One that leads a token is attached to
that token and may be printed in front of it; all others are dropped.
-/

namespace JsxTidy.Syntax

/-- What the text of a comment asks for. -/
inductive CommentRole where
  /-- Nothing in particular. -/
  | ordinary
  /-- To be kept: a licence, for instance. -/
  | legal
  /-- The call behind it has no side effect. -/
  | pure
  /-- The function behind it has no side effect. -/
  | quiet
deriving DecidableEq, Repr

/-- A comment and its surroundings. -/
structure Comment where
  span : Span
  /-- The whole comment with its marks. -/
  text : String
  isLine : Bool
  spansLines : Bool
  role : CommentRole
  newlineBefore : Bool
  newlineAfter : Bool
  /-- The start of the token that the comment leads. -/
  leads? : Option Nat
deriving Repr

namespace Comment

/-- Whether a text names a licence or asks to be preserved. -/
def mentionsLicense (content : List Char) : Bool :=
  Text.contains "@license".toList content || Text.contains "@preserve".toList content

/-- What the inside of a comment asks for. -/
def roleOf (isLine : Bool) (content : List Char) : CommentRole :=
  match content with
  | [] => .ordinary
  | '!' :: _ => .legal
  | first :: _ =>
    if first == '*' && !isLine then
      if content.all (· == '*') then .ordinary
      else if mentionsLicense content then .legal else .ordinary
    else
      let trimmed := content.dropWhile fun c => c == ' ' || c == '\t' || c == '\n' || c == '\r'
        || c == '\x0c'
      match trimmed with
      | [] => .ordinary
      | mark :: rest =>
        if (mark == '@' || mark == '#') && Text.beginsWith "__PURE__".toList rest then .pure
        else if (mark == '@' || mark == '#') && Text.beginsWith "__NO_SIDE_EFFECTS__".toList rest
          then .quiet
        else if mentionsLicense content then .legal else .ordinary

end Comment

end JsxTidy.Syntax
