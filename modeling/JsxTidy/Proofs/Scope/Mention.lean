import JsxTidy.Scope.Resolve

/-!
# Where names are mentioned

A mention is a use or a declaration of a name together with its trail: the steps that lead from the
program down to it. The trail alone says which scopes lie around the mention, in which of them a
declaration puts its name, and in which part of a function, type or statement the mention stands.
`Program.declaringScope?` reads off the trails which scope a use refers to. Nothing here walks
through a program with a stack of scopes, and nothing depends on the order of declarations.
-/

namespace JsxTidy

open Syntax

/-- A step from a piece of syntax to one of its parts. -/
structure Frame where
  kind : Kind
  part : Nat
  /-- The number of the scope that the piece opens around this part, if it opens one. -/
  scope? : Option ScopeId

namespace Frame

/-- The scope that the piece opens, if variables declared with `var` are kept in it. -/
def variableScope? (f : Frame) : Option ScopeId :=
  if ((NameEvent.scopeOf? f.kind).getD []).any ScopeFlag.holdsVariables then f.scope? else none

end Frame

/-- The steps that lead to a place in a program, the innermost first. -/
abbrev Trail := List Frame

namespace Trail

/-- The scopes around a place inside the module, the innermost first. -/
def scopes (trail : Trail) : List ScopeId :=
  trail.filterMap Frame.scope?

/-- All scopes around a place, the innermost first and the module last. -/
def around (trail : Trail) : List ScopeId :=
  trail.scopes ++ [ScopeTree.module]

/-- The innermost scope around a place. -/
def innermost (trail : Trail) : ScopeId :=
  trail.scopes.headD ScopeTree.module

/-- The innermost scope around a place that keeps variables declared with `var`. -/
def variableScope (trail : Trail) : ScopeId :=
  (trail.findSome? Frame.variableScope?).getD ScopeTree.module

/-- What declares the names at a place. -/
def context : Trail → DeclarationContext
  | [] => .lexical
  | frame :: trail => NameEvent.contextIn (context trail) frame.kind

/-- The number that a piece of syntax gives to its scope, if it opens one. -/
def numberOf? (kind : Kind) (next : ScopeId) : Option ScopeId :=
  if (NameEvent.scopeOf? kind).isSome then some next else none

end Trail

/-- What a mention does with its name. -/
inductive MentionRole where
  | use
  | declaration (kind : BindingKind)
deriving DecidableEq

/-- A use or a declaration of a name, and the way to it. -/
structure Mention where
  role : MentionRole
  name : String
  span : Span
  trail : Trail

namespace Mention

/-- Whether a mention uses its name. -/
def isUse (m : Mention) : Bool :=
  m.role == .use

/-- The scope in which a declaration puts its name. -/
def target? (m : Mention) : Option ScopeId :=
  match m.role with
  | .use => none
  | .declaration .var => some m.trail.variableScope
  | .declaration _ => some m.trail.innermost

/-- Whether a mention declares a name in a scope. -/
def declares (m : Mention) (id : ScopeId) (name : String) : Bool :=
  m.target? == some id && m.name == name

/-- The place that a mention is about. -/
def toUse (m : Mention) : Use :=
  ⟨m.name, m.span⟩

/-- The mention of the own name of a function or class, if it is declared. -/
def ofOwnName (isDeclared : Bool) (kind : BindingKind) (trail : Trail) : Node → List Mention
  | .mk (.binding name) span _ =>
    if isDeclared then [⟨.declaration kind, name, span, trail⟩] else []
  | _ => []

end Mention

namespace Syntax.Node

mutual

/-- The number of scopes that a piece of syntax opens. -/
def scopeCount : Node → Nat
  | .mk (.binding _) _ _ => 0
  | .mk (.reference _) _ _ => 0
  | .mk (.function _) _ (_ :: rest) => scopeCountOf rest + 1
  | .mk (.classLike _) _ [decorators, _, parts] => scopeCount decorators + scopeCount parts
  | .mk kind _ parts =>
    if (NameEvent.scopeOf? kind).isSome then scopeCountOf parts + 1 else scopeCountOf parts

/-- The number of scopes that some pieces of syntax open. -/
def scopeCountOf : List Node → Nat
  | [] => 0
  | node :: rest => scopeCount node + scopeCountOf rest

end

mutual

/-- The mentions in a piece of syntax at the end of a trail, which opens its first scope under the
number `next`. The name of a function or class stands outside its scope. A class whose decorators
hold a function or class with a name mentions its own name a second time. -/
def mentions (trail : Trail) (next : ScopeId) : Node → List Mention
  | .mk (.binding name) span _ =>
    [⟨.declaration trail.context.bindingKind, name, span, trail⟩]
  | .mk (.reference name) span _ => [⟨.use, name, span, trail⟩]
  | .mk (.function shape) _ (name :: rest) =>
    Mention.ofOwnName (NameEvent.isDeclaredForm shape.form) .function
        (⟨.function shape, 0, .none⟩ :: trail) name ++
      mentionsOf (.function shape) (some next) 1 trail (next + 1) rest
  | .mk (.classLike shape) _ [decorators, name, parts] =>
    Mention.ofOwnName shape.isDeclaration .classLike (⟨.classLike shape, 1, .none⟩ :: trail) name ++
      (mentions (⟨.classLike shape, 0, .none⟩ :: trail) next decorators ++
        (Mention.ofOwnName (namesFunction decorators) trail.context.bindingKind
            (⟨.classLike shape, 1, .none⟩ :: trail) name ++
          mentions (⟨.classLike shape, 2, .none⟩ :: trail) (next + scopeCount decorators) parts))
  | .mk kind _ parts =>
    mentionsOf kind (Trail.numberOf? kind next) 0 trail
      (if (NameEvent.scopeOf? kind).isSome then next + 1 else next) parts

/-- The mentions in the parts of a piece of syntax from the part with the number `part` on. -/
def mentionsOf (kind : Kind) (scope? : Option ScopeId) (part : Nat) (trail : Trail)
    (next : ScopeId) : List Node → List Mention
  | [] => []
  | node :: rest =>
    mentions (⟨kind, part, scope?⟩ :: trail) next node ++
      mentionsOf kind scope? (part + 1) trail (next + scopeCount node) rest

end

section Other

variable {kind : Kind} {span : Span} {parts : List Node}
  (hbinding : ∀ name, kind = .binding name → False)
  (hreference : ∀ name, kind = .reference name → False)
  (hfunction : ∀ shape own rest, kind = .function shape → parts = own :: rest → False)
  (hclass : ∀ shape decorators own inner, kind = .classLike shape →
    parts = [decorators, own, inner] → False)

include hbinding hreference hfunction hclass

/-- What is no name, function or class has the events of its parts, in its scope if it opens one. -/
theorem events_other (context : DeclarationContext) : (mk kind span parts).events context =
    NameEvent.inScope kind (eventsOf (NameEvent.contextIn context kind) parts) :=
  events.eq_5 _ _ _ _ hbinding hreference hfunction hclass

/-- Besides the scopes of its parts it opens at most one. -/
theorem scopeCount_other : (mk kind span parts).scopeCount =
    if (NameEvent.scopeOf? kind).isSome then scopeCountOf parts + 1 else scopeCountOf parts :=
  scopeCount.eq_5 _ _ _ hbinding hreference hfunction hclass

/-- It mentions what its parts mention, which stand in its scope if it opens one. -/
theorem mentions_other (trail : Trail) (next : ScopeId) : (mk kind span parts).mentions trail next =
    mentionsOf kind (Trail.numberOf? kind next) 0 trail
      (if (NameEvent.scopeOf? kind).isSome then next + 1 else next) parts :=
  mentions.eq_5 _ _ _ _ _ hbinding hreference hfunction hclass

end Other

end Syntax.Node

namespace Syntax.Program

/-- The mentions in a program. Its directives and its statements are two lists of parts, and the
first scope inside the module has the number one. -/
def mentions (p : Program) : List Mention :=
  Node.mentionsOf .list none 0 [] 1 p.directives ++
    Node.mentionsOf .list none 0 [] (1 + Node.scopeCountOf p.directives) p.body

/-- The uses of names in a program, in their order. -/
def uses (p : Program) : List Mention :=
  p.mentions.filter Mention.isUse

/-- Whether a scope of a program declares a name, anywhere in it. -/
def declares (p : Program) (id : ScopeId) (name : String) : Bool :=
  p.mentions.any fun m => m.declares id name

/-- The innermost of the scopes around a mention that declares its name. -/
def declaringScope? (p : Program) (m : Mention) : Option ScopeId :=
  m.trail.around.find? fun id => p.declares id m.name

end Syntax.Program

end JsxTidy
