import JsxTidy.Syntax.Node

/-!
# Scopes and bindings

A scope tree holds every scope of a program and every name declared in one, with the places that
use it. A name is looked up in a scope and then in each scope around it; the innermost declaration
counts, and of several in one scope the first.
-/

namespace JsxTidy

open Syntax

/-- What is special about a scope. -/
inductive ScopeFlag where
  | strictMode | top | function | arrow | classStaticBlock | moduleBlock
  | constructor | getAccessor | setAccessor | catchClause | conditionalType | with
deriving DecidableEq, Repr

namespace ScopeFlag

/-- Whether variables declared with `var` are kept in a scope with this flag. -/
def holdsVariables : ScopeFlag → Bool
  | top | function | arrow | classStaticBlock | moduleBlock => true
  | _ => false

end ScopeFlag

/-- How a name is declared. -/
inductive BindingKind where
  | imported
  | var
  /-- By `let` or `const`, as a parameter, by a `catch`, or as a type. -/
  | lexical
  | function
  | classLike
deriving DecidableEq, Repr

/-- The number of a scope in the order in which scopes are entered. The module's is zero. -/
abbrev ScopeId := Nat

/-- The number of a binding in the order in which bindings are declared. -/
abbrev BindingId := Nat

/-- A declared name and the places that use it, in the order of the program. -/
structure Binding where
  name : String
  kind : BindingKind
  scope : ScopeId
  declaredAt : Span
  references : List Span
deriving Repr

namespace Binding

/-- Whether any place uses the name. -/
def isReferenced (b : Binding) : Bool :=
  !b.references.isEmpty

end Binding

/-- A scope: the one around it, its flags, and the names declared in it. -/
structure Scope where
  parent : Option ScopeId
  flags : List ScopeFlag
  names : List (String × BindingId)
deriving Repr

namespace Scope

/-- The binding of a name declared in exactly this scope. -/
def get? (s : Scope) (name : String) : Option BindingId :=
  s.names.lookup name

/-- Whether variables declared with `var` are kept here. -/
def holdsVariables (s : Scope) : Bool :=
  s.flags.any ScopeFlag.holdsVariables

end Scope

/-- A place that uses a name. -/
structure Use where
  name : String
  span : Span
deriving DecidableEq, Repr

/-- All scopes and bindings of a program, and the uses of names that it does not declare. -/
structure ScopeTree where
  scopes : Array Scope
  bindings : Array Binding
  unresolved : List Use
deriving Repr

namespace ScopeTree

/-- The scope of the module. -/
def module : ScopeId :=
  0

/-- A module in which nothing is declared. -/
def empty : ScopeTree :=
  ⟨#[⟨none, [.top], []⟩], #[], []⟩

/-- The binding of a name declared in exactly one scope. -/
def get? (t : ScopeTree) (id : ScopeId) (name : String) : Option BindingId :=
  t.scopes[id]? >>= fun s => s.get? name

/-- The binding of a name seen from a scope. A scope's parent has a smaller number. -/
def lookup (t : ScopeTree) (name : String) (id : ScopeId) : Option BindingId :=
  match t.scopes[id]? with
  | none => none
  | some s =>
    match s.get? name with
    | some binding => some binding
    | none =>
      match s.parent with
      | none => none
      | some parent => if parent < id then t.lookup name parent else none
termination_by id

/-- The binding that the module itself declares under a name. -/
def moduleBinding? (t : ScopeTree) (name : String) : Option Binding :=
  t.get? module name >>= fun id => t.bindings[id]?

/-- Adds a scope inside another one. -/
def pushScope (t : ScopeTree) (parent : ScopeId) (flags : List ScopeFlag) : ScopeTree :=
  { t with scopes := t.scopes.push ⟨some parent, flags, []⟩ }

/-- Declares a name in a scope, unless it is declared there already. -/
def declare (t : ScopeTree) (id : ScopeId) (name : String) (kind : BindingKind) (span : Span) :
    ScopeTree :=
  if (t.get? id name).isSome then t
  else
    { t with
      scopes := t.scopes.modify id fun s => { s with names := (name, t.bindings.size) :: s.names }
      bindings := t.bindings.push ⟨name, kind, id, span, []⟩ }

/-- Attaches a use of a name in a scope to its binding, or to none. -/
def resolve (t : ScopeTree) (id : ScopeId) (use : Use) : ScopeTree :=
  match t.lookup use.name id with
  | some binding =>
    { t with
      bindings := t.bindings.modify binding fun b =>
        { b with references := b.references ++ [use.span] } }
  | none => { t with unresolved := t.unresolved ++ [use] }

end ScopeTree

end JsxTidy
