import JsxTidy.Proofs.Scope.WellFormed
import JsxTidy.Proofs.Scope.Walk

/-!
# Walking with a stack

What declares the names at a place can be handed down to the parts of a piece of syntax, as the
events of a program do, or it can be kept in one place while the program is walked through: set when
a scope or a declaration is entered, and set back when it is left. A walker does the latter, with
the old setting on a stack beside each scope. `walks_program` says that it learns the same, and that
it ends as it began. So the scope tree that it builds is the well-formed one of the events.
-/

namespace JsxTidy

open Syntax

/-- What is known in the middle of a walk through a program. -/
structure Walker where
  tree : ScopeTree
  /-- The scopes that have been entered, the innermost first, each with what declared the names
  around it. -/
  stack : List (ScopeId × DeclarationContext)
  /-- What declares the names here. -/
  context : DeclarationContext
  /-- The uses met so far, the last first. -/
  pending : List PendingUse

/-- What a declaration that opens no scope declares the names in it as. -/
def DeclarationContext.ofKind? : Kind → Option DeclarationContext
  | .importDeclaration .. => some .imported
  | .variables word _ => some (if word == .var then .var else .lexical)
  | _ => none

namespace Walker

/-- Before the walk. -/
def initial : Walker :=
  ⟨.empty, [], .lexical, []⟩

/-- The innermost scope. -/
def current (w : Walker) : ScopeId :=
  (w.stack.map Prod.fst).headD ScopeTree.module

/-- The innermost scope that keeps variables declared with `var`. -/
def variableScope (w : Walker) : ScopeId :=
  ((w.stack.map Prod.fst).find? (Resolver.holdsVariables w.tree)).getD ScopeTree.module

/-- Enters a scope of the tree. -/
def push (w : Walker) (id : ScopeId) : Walker :=
  { w with stack := (id, w.context) :: w.stack, context := .lexical }

/-- Enters a new scope. -/
def enter (w : Walker) (flags : List ScopeFlag) : Walker :=
  { w with tree := w.tree.pushScope w.current flags }.push w.tree.scopes.size

/-- Leaves the innermost scope. -/
def leave (w : Walker) : Walker :=
  match w.stack with
  | [] => w
  | (_, context) :: stack => { w with stack, context }

/-- Declares a name. -/
def declare (w : Walker) (kind : BindingKind) (name : String) (span : Span) : Walker :=
  let id := match kind with
    | .var => w.variableScope
    | _ => w.current
  { w with tree := w.tree.declare id name kind span }

/-- Declares the own name of a function or class. -/
def declareOwn (w : Walker) (isDeclared : Bool) (kind : BindingKind) : Node → Walker
  | .mk (.binding name) span _ => if isDeclared then w.declare kind name span else w
  | _ => w

/-- Keeps a use of a name until all declarations are known. -/
def use (w : Walker) (name : String) (span : Span) : Walker :=
  { w with pending := ⟨w.current, name, span⟩ :: w.pending }

/-- Enters a piece of syntax. -/
def begin (w : Walker) (kind : Kind) : Walker :=
  match NameEvent.scopeOf? kind, DeclarationContext.ofKind? kind with
  | some flags, _ => w.enter flags
  | none, some context => { w with context }
  | none, none => w

/-- Leaves a piece of syntax, before which names were declared by `context`. -/
def finish (w : Walker) (kind : Kind) (context : DeclarationContext) : Walker :=
  match NameEvent.scopeOf? kind, DeclarationContext.ofKind? kind with
  | some _, _ => w.leave
  | none, some _ => { w with context }
  | none, none => w

mutual

/-- Walks through a piece of syntax. -/
def visit (w : Walker) : Node → Walker
  | .mk (.binding name) span _ => w.declare w.context.bindingKind name span
  | .mk (.reference name) span _ => w.use name span
  | .mk (.function shape) _ (name :: rest) =>
    let declared := w.declareOwn (NameEvent.isDeclaredForm shape.form) .function name
    (visitAll (declared.begin (.function shape)) rest).finish (.function shape) w.context
  | .mk (.classLike shape) _ [decorators, name, parts] =>
    let decorated := visit (w.declareOwn shape.isDeclaration .classLike name) decorators
    let declared :=
      decorated.declareOwn (Node.namesFunction decorators) decorated.context.bindingKind name
    visit declared parts
  | .mk kind _ parts => (visitAll (w.begin kind) parts).finish kind w.context

/-- Walks through some pieces of syntax. -/
def visitAll (w : Walker) : List Node → Walker
  | [] => w
  | node :: rest => visitAll (visit w node) rest

end

/-- Walks through a program. -/
def walk (p : Program) : Walker :=
  (((initial.push ScopeTree.module).visitAll p.directives).visitAll p.body).leave

/-- The scope tree with all uses resolved. -/
def resolved (w : Walker) : ScopeTree :=
  w.pending.reverse.foldl (fun t p => t.resolve p.scope p.use) w.tree

/-- Whether a walker inside the module knows what a resolver knows. -/
structure Follows (w : Walker) (r : Resolver) : Prop where
  tree : w.tree = r.tree
  stack : w.stack.map Prod.fst = r.entered ++ [ScopeTree.module]
  pending : w.pending = r.pending

/-- Whether a walker comes from another one by some events, and stands where that one stood. -/
structure Walks (w : Walker) (events : List NameEvent) (w' : Walker) : Prop where
  stack : w'.stack = w.stack
  context : w'.context = w.context
  follows : ∀ {r : Resolver}, w.Follows r → w'.Follows (events.foldl Resolver.step r)

variable {w w' w'' : Walker} {r : Resolver} {events events' : List NameEvent} {kind : Kind}

/-! ## Single steps -/

theorem Follows.current (h : w.Follows r) : w.current = r.current := by
  rw [Walker.current, Resolver.current, h.stack]
  cases r.entered <;> rfl

theorem Follows.variableScope (h : w.Follows r) : w.variableScope = r.variableScope := by
  rw [Walker.variableScope, Resolver.variableScope, h.stack, h.tree, List.find?_append]
  cases r.entered.find? (Resolver.holdsVariables r.tree) with
  | some id => rfl
  | none =>
      cases hmodule : [ScopeTree.module].find? (Resolver.holdsVariables r.tree) with
      | none => rfl
      | some id => exact List.mem_singleton.1 (List.mem_of_find?_eq_some hmodule)

theorem Walks.refl (w : Walker) : Walks w [] w :=
  ⟨rfl, rfl, id⟩

theorem Walks.append (h : Walks w events w') (h' : Walks w' events' w'') :
    Walks w (events ++ events') w'' where
  stack := h'.stack.trans h.stack
  context := h'.context.trans h.context
  follows hfollows := by
    rw [List.foldl_append]
    exact h'.follows (h.follows hfollows)

theorem walks_declare (w : Walker) (kind : BindingKind) (name : String) (span : Span) :
    Walks w [.declare kind name span] (w.declare kind name span) where
  stack := rfl
  context := rfl
  follows := by
    intro r h
    refine ⟨?_, h.stack, h.pending⟩
    cases kind with
    | var => simp [Walker.declare, Resolver.step, Resolver.scopeFor, h.tree, h.variableScope]
    | imported | lexical | function | classLike =>
        simp [Walker.declare, Resolver.step, Resolver.scopeFor, h.tree, h.current]

theorem walks_use (w : Walker) (name : String) (span : Span) :
    Walks w [.use name span] (w.use name span) where
  stack := rfl
  context := rfl
  follows h := ⟨h.tree, h.stack, by simp [Walker.use, Resolver.step, h.current, h.pending]⟩

theorem walks_own_name (w : Walker) (isDeclared : Bool) (kind : BindingKind) (name : Node) :
    Walks w (NameEvent.ownName isDeclared kind name) (w.declareOwn isDeclared kind name) := by
  obtain ⟨nameKind, span, parts⟩ := name
  cases nameKind with
  | binding name =>
      cases isDeclared with
      | true => exact walks_declare w kind name span
      | false => exact .refl w
  | _ => exact .refl w

/-- Entering a scope sets what declares the names, and leaving the scope sets it back. -/
theorem walks_scope {flags : List ScopeFlag} (h : Walks (w.enter flags) events w') :
    Walks w (.enter flags :: events ++ [.leave]) w'.leave := by
  have hleave : w'.leave = { w' with stack := w.stack, context := w.context } := by
    rw [leave, h.stack]
    rfl
  rw [hleave]
  refine ⟨rfl, rfl, fun {r} hfollows => ?_⟩
  have hinside : (w.enter flags).Follows (r.step (.enter flags)) := by
    constructor
    · simp [enter, push, Resolver.step, hfollows.tree, hfollows.current]
    · simp [enter, push, Resolver.step, hfollows.tree, hfollows.stack]
    · exact hfollows.pending
  have hend := h.follows hinside
  -- Inside, the scope has been entered in front of what the resolver had entered before.
  have hentered : (events.foldl Resolver.step (r.step (.enter flags))).entered =
      w.tree.scopes.size :: r.entered := by
    refine List.append_left_injective [ScopeTree.module] ?_
    simp only [← hend.stack, h.stack, enter, push, List.map_cons, hfollows.stack,
      List.cons_append]
  rw [List.cons_append, List.foldl_cons, List.foldl_append]
  refine ⟨hend.tree, ?_, hend.pending⟩
  show w.stack.map Prod.fst = List.drop 1 _ ++ _
  rw [hentered, hfollows.stack]
  rfl

/-- Entering a piece of syntax sets what declares the names in it as the piece asks for. -/
theorem context_begin (w : Walker) (kind : Kind) :
    (w.begin kind).context = NameEvent.contextIn w.context kind := by
  unfold begin NameEvent.contextIn
  cases kind <;> rfl

/-- What is set when a piece of syntax is entered is set back when it is left. -/
theorem walks_piece (h : Walks (w.begin kind) events w') :
    Walks w (NameEvent.inScope kind events) (w'.finish kind w.context) := by
  cases hscope : NameEvent.scopeOf? kind with
  | some flags =>
      simp only [begin, hscope] at h
      simp only [NameEvent.inScope, finish, hscope]
      exact walks_scope h
  | none =>
      cases hkind : DeclarationContext.ofKind? kind with
      | some context =>
          simp only [begin, hscope, hkind] at h
          simp only [NameEvent.inScope, finish, hscope, hkind]
          refine ⟨h.stack, rfl, fun hfollows => ?_⟩
          have hend := h.follows ⟨hfollows.tree, hfollows.stack, hfollows.pending⟩
          exact ⟨hend.tree, hend.stack, hend.pending⟩
      | none =>
          simp only [begin, hscope, hkind] at h
          simp only [NameEvent.inScope, finish, hscope, hkind]
          exact h

/-! ## Pieces of syntax -/

/-- Walking through a piece of syntax is going by its events. -/
theorem walks_piece_and_parts :
    (∀ (context : DeclarationContext) (node : Node), ∀ {w : Walker}, w.context = context →
      Walks w (node.events context) (w.visit node)) ∧
    (∀ (context : DeclarationContext) (nodes : List Node), ∀ {w : Walker}, w.context = context →
      Walks w (Node.eventsOf context nodes) (w.visitAll nodes)) := by
  apply Node.events.mutual_induct
  case case1 =>
    intro context name span parts w hcontext
    subst hcontext
    rw [Node.events, visit]
    exact walks_declare w _ name span
  case case2 =>
    intro context name span parts w hcontext
    rw [Node.events, visit]
    exact walks_use w name span
  case case3 =>
    intro context shape span name rest ih w hcontext
    rw [Node.events, visit]
    have hname := walks_own_name w (NameEvent.isDeclaredForm shape.form) .function name
    have hrest := walks_piece (ih (context_begin
      (w.declareOwn (NameEvent.isDeclaredForm shape.form) .function name) (.function shape)))
    rw [hname.context] at hrest
    exact hname.append hrest
  case case4 =>
    intro context shape span decorators name parts ihDecorators ihParts w hcontext
    subst hcontext
    rw [Node.events, visit]
    have hname := walks_own_name w shape.isDeclaration .classLike name
    have hdecorators := ihDecorators hname.context
    have hcontext := hdecorators.context.trans hname.context
    have hagain := walks_own_name ((w.declareOwn shape.isDeclaration .classLike name).visit
      decorators) (Node.namesFunction decorators) w.context.bindingKind name
    have hparts := ihParts (hagain.context.trans hcontext)
    -- The walker is back in its first context when it declares the name once more.
    rw [hcontext]
    exact hname.append (hdecorators.append (hagain.append hparts))
  case case5 =>
    intro context kind span parts hbinding hreference hfunction hclass ih w hcontext
    subst hcontext
    rw [Node.events_other hbinding hreference hfunction hclass,
      visit.eq_5 _ _ _ _ hbinding hreference hfunction hclass]
    exact walks_piece (ih (context_begin w kind))
  case case6 =>
    intro context w hcontext
    exact .refl w
  case case7 =>
    intro context node rest ihNode ihRest w hcontext
    have hnode := ihNode hcontext
    exact hnode.append (ihRest (hnode.context.trans hcontext))

/-- A walk through a program learns what the events of the program say, and it ends as it began. -/
theorem walks_program (p : Program) : (walk p).resolved = ScopeTree.build p ∧
    (walk p).stack = initial.stack ∧ (walk p).context = initial.context := by
  have hdirectives := walks_piece_and_parts.2 .lexical p.directives
    (w := initial.push ScopeTree.module) rfl
  have hbody := walks_piece_and_parts.2 .lexical p.body hdirectives.context
  have hall := hdirectives.append hbody
  have hfollows : Follows _ (Resolver.run p.events) :=
    hall.follows (r := Resolver.initial) ⟨rfl, rfl, rfl⟩
  have hleave : walk p = { ((initial.push ScopeTree.module).visitAll p.directives).visitAll p.body
      with stack := [], context := .lexical } := by
    rw [walk, leave, hall.stack]
    rfl
  rw [hleave]
  refine ⟨?_, rfl, rfl⟩
  rw [resolved, ScopeTree.build, Resolver.finish, ← hfollows.pending, ← hfollows.tree]

end Walker

namespace Syntax.Program

/-- The scope tree of every program is well formed: only the module lies in no scope, every other
scope lies in one with a smaller number, the names of the scopes and the bindings point to each
other one to one, and variables belong to scopes that keep them. So going outwards from any scope
ends, as a look-up does, and no scope has two bindings of one name. A walk that keeps what declares
the names on a stack of scopes builds this tree, leaves every scope that it enters, and ends with
the setting that it began with. -/
theorem build_well_formed (p : Program) :
    (ScopeTree.build p).WellFormed ∧
    (∀ id < (ScopeTree.build p).scopes.size, ∀ name result,
      (ScopeTree.build p).Climbs name id result ↔
        (ScopeTree.build p).lookup name id = result) ∧
    (∀ (b b' : BindingId) (binding binding' : Binding),
      (ScopeTree.build p).bindings[b]? = some binding →
        (ScopeTree.build p).bindings[b']? = some binding' →
          binding.scope = binding'.scope → binding.name = binding'.name → b = b') ∧
    (Resolver.run p.events).entered = [] ∧
    (Walker.walk p).resolved = ScopeTree.build p ∧
    (Walker.walk p).stack = [] ∧ (Walker.walk p).context = Walker.initial.context := by
  have h := ScopeTree.wellFormed_build p
  exact ⟨h, fun id hid name result => h.climbs_iff hid,
    fun b b' binding binding' hb hb' => h.binding_unique hb hb',
    (Resolver.reads_program p).entered, Walker.walks_program p⟩

end Syntax.Program

end JsxTidy
