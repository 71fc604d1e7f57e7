import JsxTidy.Syntax.Kind

/-!
# Syntax trees

A piece of syntax has a kind, the place it was read from, and its parts in the order in which
they are visited. Every pass over a program is one recursion over this type.
-/

namespace JsxTidy.Syntax

/-- A stretch of a source text, in byte offsets. -/
structure Span where
  start : Nat
  stop : Nat
deriving DecidableEq, Repr

/-- A piece of syntax. -/
inductive Node where
  | mk (kind : Kind) (span : Span) (parts : List Node)

namespace Node

/-- What a piece of syntax is. -/
def kind : Node → Kind
  | mk kind _ _ => kind

/-- Where a piece of syntax stands. -/
def span : Node → Span
  | mk _ span _ => span

/-- The parts of a piece of syntax. -/
def parts : Node → List Node
  | mk _ _ parts => parts

/-- The piece that stands for a missing part. -/
def none : Node :=
  mk .absent ⟨0, 0⟩ []

/-- Several pieces as one part. -/
def list (nodes : List Node) : Node :=
  mk .list ⟨0, 0⟩ nodes

/-- Whether a part is there. -/
def isPresent : Node → Bool
  | mk .absent _ _ => false
  | _ => true

instance : Inhabited Node := ⟨none⟩

/-- A piece of syntax inside any number of parentheses. -/
def withoutParens : Node → Node
  | mk .paren _ [inner] => inner.withoutParens
  | node => node

end Node

/-- A program: its opening line for the shell, its directives and its statements. -/
structure Program where
  hashbang : Option String
  directives : List Node
  body : List Node
  /-- The length of the source text in bytes. -/
  size : Nat

namespace Program

/-- The text of a directive, without its quotes. -/
def directiveText : Node → String
  | .mk (.directive raw) _ _ => raw
  | _ => ""

/-- The texts of a program's directives. -/
def directiveTexts (p : Program) : List String :=
  p.directives.map directiveText

end Program

end JsxTidy.Syntax
