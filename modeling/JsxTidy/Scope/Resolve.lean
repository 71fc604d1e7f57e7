import JsxTidy.Scope.Event

/-!
# Resolving names

The events of a program build its scopes and declarations. Uses are resolved afterwards, when all
declarations are known, so that a use may come before its declaration.
-/

namespace JsxTidy

open Syntax

/-- A use of a name and the scope in which it stands. -/
structure PendingUse where
  scope : ScopeId
  use : Use
deriving Repr

/-- What is known in the middle of a program. -/
structure Resolver where
  tree : ScopeTree
  /-- The scopes that have been entered inside the module, the innermost first. -/
  entered : List ScopeId
  /-- The uses met so far, the last first. -/
  pending : List PendingUse

namespace Resolver

/-- Before the first event. -/
def initial : Resolver :=
  ⟨.empty, [], []⟩

/-- The innermost scope. -/
def current (r : Resolver) : ScopeId :=
  r.entered.headD ScopeTree.module

/-- Whether a scope keeps variables declared with `var`. -/
def holdsVariables (t : ScopeTree) (id : ScopeId) : Bool :=
  match t.scopes[id]? with
  | some s => s.holdsVariables
  | none => false

/-- The innermost scope that keeps variables declared with `var`. -/
def variableScope (r : Resolver) : ScopeId :=
  (r.entered.find? (holdsVariables r.tree)).getD ScopeTree.module

/-- Where a name is declared that is declared in some way. -/
def scopeFor (r : Resolver) : BindingKind → ScopeId
  | .var => r.variableScope
  | _ => r.current

/-- What is known after an event. -/
def step (r : Resolver) : NameEvent → Resolver
  | .enter flags =>
    { r with tree := r.tree.pushScope r.current flags, entered := r.tree.scopes.size :: r.entered }
  | .leave => { r with entered := r.entered.drop 1 }
  | .declare kind name span => { r with tree := r.tree.declare (r.scopeFor kind) name kind span }
  | .use name span => { r with pending := ⟨r.current, name, span⟩ :: r.pending }

/-- What is known after some events. -/
def run (events : List NameEvent) : Resolver :=
  events.foldl step initial

/-- The scope tree with all uses resolved. -/
def finish (r : Resolver) : ScopeTree :=
  r.pending.reverse.foldl (fun t p => t.resolve p.scope p.use) r.tree

end Resolver

/-- The scopes and bindings of a program with all uses of names. -/
def ScopeTree.build (p : Program) : ScopeTree :=
  (Resolver.run p.events).finish

end JsxTidy
