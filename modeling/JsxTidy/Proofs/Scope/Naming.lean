import JsxTidy.Proofs.Scope.Mention

/-!
# Names of expressions in other places

A function or class that is an expression may have a name of its own. `Program.naming` puts these
names elsewhere: into the scopes of their own expressions or nowhere, and nothing else changes. Two
results compare the programs. `build_naming_repeated` says which of the names the tree never sees,
and `declares_iff_repeated` what the others add to it: a class with a decorator that holds a named
function or class repeats its name in what surrounds it.
-/

namespace JsxTidy

open Syntax

/-- Where the names of function and class expressions are put in a program. -/
inductive NamePlace where
  /-- Nowhere, except for the names that are repeated around their classes. -/
  | repeated
  /-- Nowhere. -/
  | nowhere
  /-- In the scope of the function or class itself. -/
  | inside

namespace NamePlace

/-- What stands first in the scope of an expression with some name. -/
def first (place : NamePlace) (own : Node) : List Node :=
  match place, own with
  | .inside, .mk (.binding name) span _ => [.mk (.binding name) span []]
  | _, _ => []

@[simp] theorem first_nowhere (own : Node) : nowhere.first own = [] := rfl

@[simp] theorem first_repeated (own : Node) : repeated.first own = [] := rfl

/-- Whether a class expression with some decorators keeps its name. -/
def keeps (place : NamePlace) (decorators : Node) : Bool :=
  match place with
  | .repeated => decorators.namesFunction
  | .nowhere | .inside => false

end NamePlace

namespace Syntax

namespace Node

/-- A part in place of a name that declares nothing. -/
def undeclared : Node → Node
  | .mk (.binding _) span _ => .mk .list span []
  | node => node

/-- The parts of a class behind some others. -/
def opening (first : List Node) : Node → Node
  | .mk .classParts span parts => .mk .classParts span (first ++ parts)
  | node => node

mutual

/-- A piece of syntax in which the names of expressions are put elsewhere. -/
def naming (place : NamePlace) : Node → Node
  | .mk (.function shape) span (own :: rest) =>
    if NameEvent.isDeclaredForm shape.form then
      .mk (.function shape) span (own :: namingOf place rest)
    else
      .mk (.function shape) span (own.undeclared :: (place.first own ++ namingOf place rest))
  | .mk (.classLike shape) span [decorators, own, parts] =>
    if shape.isDeclaration || place.keeps decorators then
      .mk (.classLike shape) span [naming place decorators, own, naming place parts]
    else
      .mk (.classLike shape) span
        [naming place decorators, own.undeclared, (naming place parts).opening (place.first own)]
  | .mk kind span parts => .mk kind span (namingOf place parts)

/-- Some pieces of syntax in which the names of expressions are put elsewhere. -/
def namingOf (place : NamePlace) : List Node → List Node
  | [] => []
  | node :: rest => naming place node :: namingOf place rest

end

/-- What is no function or class keeps everything but the names in its parts. -/
theorem naming_other {kind : Kind} {parts : List Node}
    (hfunction : ∀ shape own rest, kind = .function shape → parts = own :: rest → False)
    (hclass : ∀ shape decorators own inner, kind = .classLike shape →
      parts = [decorators, own, inner] → False) (place : NamePlace) (span : Span) :
    (mk kind span parts).naming place = mk kind span (namingOf place parts) :=
  naming.eq_3 _ _ _ _ hfunction hclass

mutual

/-- The names of class expressions in a piece of syntax that are declared around their classes:
those of classes with a decorator that holds a function or class with a name. -/
def repeatedNames (trail : Trail) (next : ScopeId) : Node → List Mention
  | .mk (.function shape) _ (_ :: rest) =>
    repeatedNamesOf (.function shape) (some next) 1 trail (next + 1) rest
  | .mk (.classLike shape) _ [decorators, own, parts] =>
    repeatedNames (⟨.classLike shape, 0, .none⟩ :: trail) next decorators ++
      (Mention.ofOwnName (!shape.isDeclaration && decorators.namesFunction)
          trail.context.bindingKind (⟨.classLike shape, 1, .none⟩ :: trail) own ++
        repeatedNames (⟨.classLike shape, 2, .none⟩ :: trail) (next + scopeCount decorators) parts)
  | .mk (.binding _) _ _ => []
  | .mk (.reference _) _ _ => []
  | .mk kind _ parts =>
    repeatedNamesOf kind (Trail.numberOf? kind next) 0 trail
      (if (NameEvent.scopeOf? kind).isSome then next + 1 else next) parts

/-- The names of class expressions in the parts of a piece of syntax, from the part with the number
`part` on, that are declared around their classes. -/
def repeatedNamesOf (kind : Kind) (scope? : Option ScopeId) (part : Nat) (trail : Trail)
    (next : ScopeId) : List Node → List Mention
  | [] => []
  | node :: rest =>
    repeatedNames (⟨kind, part, scope?⟩ :: trail) next node ++
      repeatedNamesOf kind scope? (part + 1) trail (next + scopeCount node) rest

end

/-- What is no name, function or class repeats the names that its parts repeat. -/
theorem repeatedNames_other {kind : Kind} {span : Span} {parts : List Node}
    (hbinding : ∀ name, kind = .binding name → False)
    (hreference : ∀ name, kind = .reference name → False)
    (hfunction : ∀ shape own rest, kind = .function shape → parts = own :: rest → False)
    (hclass : ∀ shape decorators own inner, kind = .classLike shape →
      parts = [decorators, own, inner] → False) (trail : Trail) (next : ScopeId) :
    (mk kind span parts).repeatedNames trail next =
      repeatedNamesOf kind (Trail.numberOf? kind next) 0 trail
        (if (NameEvent.scopeOf? kind).isSome then next + 1 else next) parts :=
  repeatedNames.eq_5 _ _ _ _ _ hfunction hclass hbinding hreference

end Node

namespace Program

variable {p : Program} {id : ScopeId} {name : String}

/-- A program in which the names of expressions are put elsewhere. -/
def naming (place : NamePlace) (p : Program) : Program :=
  { p with directives := Node.namingOf place p.directives, body := Node.namingOf place p.body }

/-- The names of class expressions in a program that are declared around their classes. -/
def repeatedNames (p : Program) : List Mention :=
  Node.repeatedNamesOf .list none 0 [] 1 p.directives ++
    Node.repeatedNamesOf .list none 0 [] (1 + Node.scopeCountOf p.directives) p.body

/-- The uses of a name that go out to the module when no expression declares its name. -/
def outwardUses (p : Program) (name : String) : List Mention :=
  p.uses.filter fun u => u.name == name &&
    u.trail.scopes.all fun id => !(p.naming .nowhere).declares id name

end Program

namespace Node

/-! ## What stays the same -/

section Same

variable {place : NamePlace} {own node : Node} {nodes nodes' : List Node}

@[simp] theorem isPresent_undeclared (own : Node) : own.undeclared.isPresent = own.isPresent := by
  obtain ⟨kind, span, parts⟩ := own
  cases kind <;> rfl

@[simp] theorem opening_nil (node : Node) : node.opening [] = node := by
  unfold opening
  split <;> rfl

theorem anyNamesFunction_append :
    anyNamesFunction (nodes ++ nodes') = (anyNamesFunction nodes || anyNamesFunction nodes') := by
  induction nodes with
  | nil => rfl
  | cons node nodes ih => simp [anyNamesFunction, ih, Bool.or_assoc]

/-- A name that is put first in a scope names no function by itself. -/
@[simp] theorem anyNamesFunction_first : anyNamesFunction (place.first own) = false := by
  unfold NamePlace.first
  split <;> rfl

@[simp] theorem namesFunction_opening :
    (node.opening (place.first own)).namesFunction = node.namesFunction := by
  unfold opening
  split
  · simp [namesFunction, anyNamesFunction_append]
  · rfl

theorem namingOf_eq (place : NamePlace) (nodes : List Node) :
    namingOf place nodes = nodes.map (naming place) := by
  induction nodes with
  | nil => rfl
  | cons node nodes ih => exact congrArg (naming place node :: ·) ih

section Other

variable {kind : Kind} {span : Span} {parts : List Node}
  (hfunction : ∀ shape own rest, kind = .function shape → parts = own :: rest → False)
  (hclass : ∀ shape decorators own inner, kind = .classLike shape →
    parts = [decorators, own, inner] → False)

include hfunction in
/-- A piece that is no function stays none. -/
theorem not_function_namingOf (place : NamePlace) : ∀ shape own rest, kind = .function shape →
    namingOf place parts = own :: rest → False := by
  rw [namingOf_eq]
  rintro shape own rest rfl hparts
  obtain ⟨own, rest, rfl, -, -⟩ := List.map_eq_cons_iff.1 hparts
  exact hfunction shape own rest rfl rfl

include hclass in
/-- A piece that is no class stays none. -/
theorem not_class_namingOf (place : NamePlace) : ∀ shape decorators own inner,
    kind = .classLike shape → namingOf place parts = [decorators, own, inner] → False := by
  rw [namingOf_eq]
  rintro shape decorators own inner rfl hparts
  rcases parts with _ | ⟨a, _ | ⟨b, _ | ⟨c, _ | ⟨d, rest⟩⟩⟩⟩ <;> simp at hparts
  exact hclass shape a b c rfl rfl

end Other

/-- Putting names elsewhere does not change whether a named function or class stands in a piece. -/
theorem namesFunction_naming_both (place : NamePlace) :
    (∀ node : Node, (node.naming place).namesFunction = node.namesFunction) ∧
    (∀ nodes, anyNamesFunction (namingOf place nodes) = anyNamesFunction nodes) := by
  apply namesFunction.mutual_induct
  case case1 =>
    intro shape span own rest ih
    rw [naming]
    split <;> simp [namesFunction, anyNamesFunction_append, ih]
  case case2 =>
    intro shape span decorators own parts ihDecorators ihParts
    rw [naming]
    split <;> simp [namesFunction, ihDecorators, ihParts]
  case case3 =>
    intro kind span parts hfunction hclass ih
    rw [naming_other hfunction hclass, namesFunction.eq_3 _ _ _ hfunction hclass,
      namesFunction.eq_3 _ _ _ (not_function_namingOf hfunction place)
        (not_class_namingOf hclass place), ih]
  case case4 => rfl
  case case5 =>
    intro node rest ihNode ihRest
    simp [namingOf, anyNamesFunction, ihNode, ihRest]

@[simp] theorem namesFunction_naming : (node.naming place).namesFunction = node.namesFunction :=
  (namesFunction_naming_both place).1 node

/-- A name that is declared nowhere opens no scope less. -/
theorem scopeCount_naming_both :
    (∀ node : Node, (node.naming .nowhere).scopeCount = node.scopeCount) ∧
    (∀ nodes, scopeCountOf (namingOf .nowhere nodes) = scopeCountOf nodes) := by
  apply scopeCount.mutual_induct
  case case1 =>
    intro name span parts
    simp [naming, scopeCount]
  case case2 =>
    intro name span parts
    simp [naming, scopeCount]
  case case3 =>
    intro shape span own rest ih
    rw [naming]
    split <;> simp [scopeCount, ih]
  case case4 =>
    intro shape span decorators own parts ihDecorators ihParts
    rw [naming]
    split <;> simp [scopeCount, ihDecorators, ihParts]
  case case5 =>
    intro kind span parts hbinding hreference hfunction hclass hscope ih
    rw [naming_other hfunction hclass,
      scopeCount_other hbinding hreference hfunction hclass,
      scopeCount_other hbinding hreference (not_function_namingOf hfunction _)
        (not_class_namingOf hclass _), ih]
  case case6 =>
    intro kind span parts hbinding hreference hfunction hclass hscope ih
    rw [naming_other hfunction hclass,
      scopeCount_other hbinding hreference hfunction hclass,
      scopeCount_other hbinding hreference (not_function_namingOf hfunction _)
        (not_class_namingOf hclass _), ih]
  case case7 => rfl
  case case8 =>
    intro node rest ihNode ihRest
    simp [namingOf, scopeCountOf, ihNode, ihRest]

end Same

/-! ## Names that are not repeated -/

/-- A program says nothing about the names of expressions that are not repeated. -/
theorem events_naming_both :
    (∀ (context : DeclarationContext) (node : Node),
      (node.naming .repeated).events context = node.events context) ∧
    (∀ (context : DeclarationContext) (nodes : List Node),
      eventsOf context (namingOf .repeated nodes) = eventsOf context nodes) := by
  have hsilent : ∀ kind (own : Node), NameEvent.ownName false kind own = [] := by
    rintro kind ⟨ownKind, span, parts⟩
    cases ownKind <;> rfl
  apply events.mutual_induct
  case case1 =>
    intro context name span parts
    simp [naming, events]
  case case2 =>
    intro context name span parts
    simp [naming, events]
  case case3 =>
    intro context shape span own rest ih
    rw [naming]
    split
    · rw [events, events, ih]
    · rename_i hform
      rw [Bool.not_eq_true] at hform
      simp [events, hform, hsilent, ih]
  case case4 =>
    intro context shape span decorators own parts ihDecorators ihParts
    rw [naming]
    split
    · simp [events, ihDecorators, ihParts]
    · rename_i hkeeps
      simp only [NamePlace.keeps, Bool.or_eq_true, not_or, Bool.not_eq_true] at hkeeps
      simp [events, hkeeps, hsilent, ihDecorators, ihParts]
  case case5 =>
    intro context kind span parts hbinding hreference hfunction hclass ih
    rw [naming_other hfunction hclass,
      events_other hbinding hreference hfunction hclass,
      events_other hbinding hreference (not_function_namingOf hfunction _)
        (not_class_namingOf hclass _), ih]
  case case6 => intro; rfl
  case case7 =>
    intro context node rest ihNode ihRest
    simp [namingOf, eventsOf, ihNode, ihRest]

/-! ## Names that are repeated -/

section Repeated

variable {m : Mention} {own : Node}

theorem ofOwnName_false (kind : BindingKind) (trail : Trail) (own : Node) :
    Mention.ofOwnName false kind trail own = [] := by
  unfold Mention.ofOwnName
  split <;> rfl

theorem ofOwnName_undeclared (isDeclared : Bool) (kind : BindingKind) (trail : Trail)
    (own : Node) : Mention.ofOwnName isDeclared kind trail own.undeclared = [] := by
  obtain ⟨ownKind, span, parts⟩ := own
  cases ownKind <;> rfl

/-- A piece of syntax mentions what it mentions without the names of its expressions, and those of
the names that are repeated. -/
theorem mem_mentions_iff_both :
    (∀ (trail : Trail) (next : ScopeId) (node : Node), ∀ m, m ∈ node.mentions trail next ↔
      m ∈ (node.naming .nowhere).mentions trail next ∨ m ∈ node.repeatedNames trail next) ∧
    (∀ (kind : Kind) (scope? : Option ScopeId) (part : Nat) (trail : Trail) (next : ScopeId)
      (nodes : List Node), ∀ m, m ∈ mentionsOf kind scope? part trail next nodes ↔
        m ∈ mentionsOf kind scope? part trail next (namingOf .nowhere nodes) ∨
          m ∈ repeatedNamesOf kind scope? part trail next nodes) := by
  apply mentions.mutual_induct
  case case1 =>
    intro trail next name span parts m
    simp [naming, mentions, repeatedNames]
  case case2 =>
    intro trail next name span parts m
    simp [naming, mentions, repeatedNames]
  case case3 =>
    intro trail next shape span own rest ih m
    rw [naming]
    split
    · simp [mentions, repeatedNames, ih, or_assoc]
    · -- The own name of a function expression is not mentioned.
      rename_i hform
      rw [Bool.not_eq_true] at hform
      simp [mentions, repeatedNames, hform, ofOwnName_false, ofOwnName_undeclared, ih]
  case case4 =>
    intro trail next shape span decorators own parts ihDecorators ihParts m
    rw [naming]
    -- Only the name of a class expression is repeated, behind decorators that name something.
    cases hdeclaration : shape.isDeclaration with
    | true =>
        simp only [mentions, repeatedNames, hdeclaration, Bool.true_or, if_true, Bool.not_true,
          Bool.false_and, ofOwnName_false, scopeCount_naming_both.1, namesFunction_naming,
          List.mem_append, List.not_mem_nil, false_or, ihDecorators, ihParts]
        grind
    | false =>
        simp only [mentions, repeatedNames, hdeclaration, NamePlace.keeps, Bool.or_self,
          Bool.false_eq_true, if_false, Bool.not_false, Bool.true_and, ofOwnName_false,
          ofOwnName_undeclared, NamePlace.first_nowhere, opening_nil, scopeCount_naming_both.1,
          List.mem_append, List.not_mem_nil, false_or, ihDecorators, ihParts]
        grind
  case case5 =>
    intro trail next kind span parts hbinding hreference hfunction hclass ih m
    rw [naming_other hfunction hclass,
      mentions_other hbinding hreference hfunction hclass,
      mentions_other hbinding hreference (not_function_namingOf hfunction _)
        (not_class_namingOf hclass _),
      repeatedNames_other hbinding hreference hfunction hclass, ih]
  case case6 =>
    intro kind scope? part trail next m
    simp [namingOf, mentionsOf, repeatedNamesOf]
  case case7 =>
    intro kind scope? part trail next node rest ihNode ihRest m
    simp only [namingOf, mentionsOf, repeatedNamesOf, List.mem_append, ihNode, ihRest,
      scopeCount_naming_both.1]
    exact or_or_or_comm

/-- The names that are repeated are declared where they are mentioned. -/
theorem isUse_of_mem_repeatedNames_both :
    (∀ (trail : Trail) (next : ScopeId) (node : Node), ∀ m ∈ node.repeatedNames trail next,
      m.isUse = false) ∧
    (∀ (kind : Kind) (scope? : Option ScopeId) (part : Nat) (trail : Trail) (next : ScopeId)
      (nodes : List Node), ∀ m ∈ repeatedNamesOf kind scope? part trail next nodes,
        m.isUse = false) := by
  have hown : ∀ isDeclared kind trail (own : Node),
      ∀ m ∈ Mention.ofOwnName isDeclared kind trail own, m.isUse = false := by
    intro isDeclared kind trail own m hm
    unfold Mention.ofOwnName at hm
    split at hm
    · split at hm
      · rw [List.mem_singleton.1 hm]
        rfl
      · cases hm
    · cases hm
  apply repeatedNames.mutual_induct
  case case1 =>
    intro trail next shape span own rest ih
    rw [repeatedNames]
    exact ih
  case case2 =>
    intro trail next shape span decorators own parts ihDecorators ihParts m hm
    rw [repeatedNames] at hm
    rcases List.mem_append.1 hm with hm | hm
    · exact ihDecorators m hm
    · rcases List.mem_append.1 hm with hm | hm
      · exact hown _ _ _ _ m hm
      · exact ihParts m hm
  case case3 =>
    intro trail next name span parts
    simp [repeatedNames]
  case case4 =>
    intro trail next name span parts
    simp [repeatedNames]
  case case5 =>
    intro trail next kind span parts hfunction hclass hbinding hreference ih
    rw [repeatedNames_other hbinding hreference hfunction hclass]
    exact ih
  case case6 => simp [repeatedNamesOf]
  case case7 =>
    intro kind scope? part trail next node rest ihNode ihRest m hm
    rw [repeatedNamesOf] at hm
    rcases List.mem_append.1 hm with hm | hm
    · exact ihNode m hm
    · exact ihRest m hm

end Repeated

end Node

/-! ## Programs -/

namespace Program

variable {p : Program} {id : ScopeId} {name : String}

/-- The mentions in a program are those without the names of its expressions, and those of the names
that are repeated. -/
theorem mem_mentions_iff {m : Mention} :
    m ∈ p.mentions ↔ m ∈ (p.naming .nowhere).mentions ∨ m ∈ p.repeatedNames := by
  have hdirectives := Node.mem_mentions_iff_both.2 .list none 0 [] 1 p.directives m
  have hbody := Node.mem_mentions_iff_both.2 .list none 0 []
    (1 + Node.scopeCountOf p.directives) p.body m
  simp only [mentions, repeatedNames, naming, List.mem_append, hdirectives, hbody,
    Node.scopeCount_naming_both.2]
  exact or_or_or_comm

/-- A scope declares a name with the names of expressions if it does so without them, or if the name
of an expression is repeated there. -/
theorem declares_iff_repeated : p.declares id name ↔
    (p.naming .nowhere).declares id name ∨ ∃ m ∈ p.repeatedNames, m.declares id name := by
  simp only [declares, List.any_eq_true, ← exists_or, ← or_and_right, ← mem_mentions_iff]

/-- A program without the names of its expressions uses the same names at the same places. -/
theorem mem_uses_naming_iff {m : Mention} : m ∈ (p.naming .nowhere).uses ↔ m ∈ p.uses := by
  have hrepeated : m ∈ p.repeatedNames → m.isUse = false := by
    intro hm
    rcases List.mem_append.1 hm with hm | hm
    · exact Node.isUse_of_mem_repeatedNames_both.2 .list none 0 [] _ p.directives m hm
    · exact Node.isUse_of_mem_repeatedNames_both.2 .list none 0 [] _ p.body m hm
  rw [uses, uses, List.mem_filter, List.mem_filter, mem_mentions_iff (p := p)]
  refine ⟨fun ⟨hm, huse⟩ => ⟨.inl hm, huse⟩,
    fun ⟨hm, huse⟩ => ⟨hm.resolve_right fun hm => ?_, huse⟩⟩
  rw [hrepeated hm] at huse
  cases huse

/-- The tree does not depend on the names of expressions that are not repeated. -/
theorem build_naming_repeated : ScopeTree.build (p.naming .repeated) = ScopeTree.build p := by
  have hevents : (p.naming .repeated).events = p.events := by
    simp only [events, naming, Node.events_naming_both.2]
  unfold ScopeTree.build
  rw [hevents]

end Program

end Syntax

end JsxTidy
