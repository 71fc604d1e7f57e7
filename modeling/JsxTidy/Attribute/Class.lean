import JsxTidy.Syntax.Node
import JsxTidy.Text.Blank

/-!
# Class attributes

The value of a class attribute is rewritten when it is known without running the program: a
string, or a template without expressions.
-/

namespace JsxTidy

open Syntax

/-- A way to rewrite the value of a class attribute. -/
abbrev ClassNormalizer := String → String

namespace ClassNormalizer

/-- Leaves every value as it is. -/
def keep : ClassNormalizer :=
  fun value => value

/-- Trims a value and makes each run of blanks in it one space. -/
def collapse : ClassNormalizer :=
  fun value => String.ofList (Text.collapse value.toList)

end ClassNormalizer

/-- Whether the name of an attribute is that of a class attribute. -/
def isClassName : Node → Bool
  | .mk (.word name) _ _ => name == "className" || name == "class"
  | _ => false

/-- The text of a piece of a template. -/
def quasiText : Node → String
  | .mk (.quasi _ cooked) _ _ => cooked
  | _ => ""

/-- The value of an attribute, if it is known without running the program. -/
def staticValue? : Node → Option String
  | .mk (.string value _) _ _ => some value
  | .mk .container _ [.mk (.string value _) _ _] => some value
  | .mk .container _ [.mk .template _ [.mk .list _ quasis, .mk .list _ []]] =>
    some (String.join (quasis.map quasiText))
  | _ => none

/-- What is known about the value of an attribute. -/
structure ClassReport where
  name : String
  isClass : Bool
  value : Option String
deriving DecidableEq, Repr

namespace ClassReport

/-- The name of an attribute as it is written. -/
def nameOf : Node → String
  | .mk (.word name) _ _ => name
  | .mk .namespacedName _ [.mk (.word space) _ _, .mk (.word name) _ _] => space ++ ":" ++ name
  | _ => ""

/-- What is known about a piece of syntax, if it is an attribute. -/
def ofNode? : Node → Option ClassReport
  | .mk .markupAttribute _ [name, value] =>
    some ⟨nameOf name, isClassName name, staticValue? value⟩
  | _ => none

end ClassReport

/-- The attribute with its value rewritten, if it is a class attribute whose value is known and
changes. -/
def normalizeClass? (normalize : ClassNormalizer) : Node → Option Node
  | .mk .markupAttribute span [name, value] =>
    if isClassName name then
      match staticValue? value with
      | some original =>
        let normalized := normalize original
        if normalized = original then none
        else some (.mk .markupAttribute span [name, .mk (.string normalized false) value.span []])
      | none => none
    else none
  | _ => none

end JsxTidy
