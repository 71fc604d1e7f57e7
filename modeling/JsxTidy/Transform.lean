import JsxTidy.Attribute.Class
import JsxTidy.Attribute.Tag
import JsxTidy.Diagnostics
import JsxTidy.Import.Prune

/-!
# Tidying a program

Unused imports are removed, the attributes of tags sorted, and class values rewritten. A rewriting
of single pieces of syntax is carried through a whole tree from the innermost pieces outwards.
-/

namespace JsxTidy

open Syntax

/-- How to tidy. -/
structure TidyOptions where
  spreadPolicy : SpreadPolicy
  normalizer : ClassNormalizer

/-- Spreads are barriers, and class values stay as they are. -/
def TidyOptions.default : TidyOptions :=
  ⟨.barrier, .keep⟩

/-- What becomes of a piece of syntax, and what has changed. -/
abbrev Rewriting := Node → Node × Changes

namespace Rewriting

/-- Sorts the attributes of a tag. -/
def sorting (policy : SpreadPolicy) : Rewriting := fun node =>
  match sortAttributes? policy node with
  | some sorted => (sorted, ⟨0, 1, 0⟩)
  | none => (node, .none)

/-- Rewrites the value of a class attribute. -/
def normalizing (normalize : ClassNormalizer) : Rewriting := fun node =>
  match normalizeClass? normalize node with
  | some normalized => (normalized, ⟨0, 0, 1⟩)
  | none => (node, .none)

/-- One rewriting and then another one. -/
def andThen (first second : Rewriting) : Rewriting := fun node =>
  let (node, changes) := first node
  let (node, more) := second node
  (node, changes + more)

mutual

/-- Rewrites a piece of syntax after all pieces inside it. -/
def everywhere (rewriting : Rewriting) : Rewriting
  | .mk kind span parts =>
    let (parts, changes) := rewriting.everywhereIn parts
    let (node, more) := rewriting (.mk kind span parts)
    (node, changes + more)

/-- Rewrites some pieces of syntax, each after all pieces inside it. -/
def everywhereIn (rewriting : Rewriting) : List Node → List Node × Changes
  | [] => ([], .none)
  | node :: rest =>
    let (node, changes) := rewriting.everywhere node
    let (rest, more) := rewriting.everywhereIn rest
    (node :: rest, changes + more)

end

end Rewriting

/-- What tidying does to single pieces of syntax. -/
def TidyOptions.rewriting (o : TidyOptions) : Rewriting :=
  (Rewriting.sorting o.spreadPolicy).andThen (Rewriting.normalizing o.normalizer)

/-- A program tidied by what is known of its names, and what has changed. -/
def Syntax.Program.tidy (p : Program) (t : ScopeTree) (o : TidyOptions) : Program × Changes :=
  let removed : Changes := ⟨removedImports t p.body, 0, 0⟩
  let (body, changes) := o.rewriting.everywhereIn (pruneImports t p.body)
  ({ p with body }, removed + changes)

end JsxTidy
