import JsxTidy.Scope.Basic

/-!
# Unused imports

A specifier of an import is live when the module's binding of its local name is used somewhere.
Specifiers that are not live are removed, and imports that lose all their specifiers with them.
-/

namespace JsxTidy

open Syntax

/-- The local name of a specifier of an import. -/
def localName : Node → String
  | .mk (.importSpecifier _) _ [_, .mk (.binding name) _ _] => name
  | .mk .importDefault _ [.mk (.binding name) _ _] => name
  | .mk .importNamespace _ [.mk (.binding name) _ _] => name
  | _ => ""

/-- Whether the module's binding of a name is used. -/
def ScopeTree.isLive (t : ScopeTree) (name : String) : Bool :=
  match t.moduleBinding? name with
  | some binding => binding.isReferenced
  | none => false

/-- Whether a specifier of an import is used. -/
def isLiveSpecifier (t : ScopeTree) (specifier : Node) : Bool :=
  t.isLive (localName specifier)

/-- The specifiers of a statement, if it is an import that has some. -/
def specifiersOf : Node → List Node
  | .mk (.importDeclaration ..) _ [.mk .list _ specifiers, _, _] => specifiers
  | _ => []

/-- A statement with only its live specifiers, or nothing if it has lost all. -/
def pruneStatement (t : ScopeTree) : Node → Option Node
  | .mk (.importDeclaration isType phase) span [.mk .list listSpan specifiers, source, attributes] =>
    let live := specifiers.filter (isLiveSpecifier t)
    if live.isEmpty && !specifiers.isEmpty then none
    else
      some (.mk (.importDeclaration isType phase) span
        [.mk .list listSpan live, source, attributes])
  | statement => some statement

/-- The statements of a module without the unused specifiers of their imports. -/
def pruneImports (t : ScopeTree) (body : List Node) : List Node :=
  body.filterMap (pruneStatement t)

/-- The number of unused specifiers in a statement. -/
def unusedIn (t : ScopeTree) (statement : Node) : Nat :=
  (specifiersOf statement).countP fun specifier => !isLiveSpecifier t specifier

/-- The number of specifiers that pruning removes. -/
def removedImports (t : ScopeTree) (body : List Node) : Nat :=
  body.foldr (fun statement count => unusedIn t statement + count) 0

/-- What a remaining import brings in. -/
structure ImportSummary where
  source : String
  /-- The local names, if the import has a list of specifiers. -/
  locals : Option (List String)
deriving DecidableEq, Repr

/-- What a statement brings in, if it is an import. -/
def ImportSummary.ofStatement? : Node → Option ImportSummary
  | .mk (.importDeclaration ..) _ [clause, .mk (.string source _) _ _, _] =>
    some ⟨source, match clause with
      | .mk .list _ specifiers => some (specifiers.map localName)
      | _ => none⟩
  | _ => none

end JsxTidy
