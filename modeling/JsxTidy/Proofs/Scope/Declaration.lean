import JsxTidy.Proofs.Import.Liveness

/-!
# Where names are declared

The form of a declaration is read off the way to it: the frames between a name and the declaration,
parameter or import that binds it. Each form asks for one of the scopes around the name, and nothing
here carries along the flag by which the resolver tells `var` declarations and imports from others.
Read `declarations_land` first: every name is declared in the scope that its form asks for, except
for type parameters that stand in a `var` declaration and for imports inside a block, and of several
declarations of one name in one scope the first one is the binding.
-/

namespace JsxTidy

open Syntax

/-! ## Forms of declarations -/

/-- In what form a name is declared. -/
inductive DeclarationForm where
  /-- By a declarator of a variable declaration, also inside a pattern. -/
  | declarator (word : VariableWord)
  /-- As a parameter of a function, or of the type of one. -/
  | parameter
  /-- By a `catch`. -/
  | caught
  /-- By an import statement. -/
  | imported
  /-- As the name of a function that is a statement. -/
  | function
  /-- As the name of a class that is a statement. -/
  | classLike
  /-- As the name of a class, once more, because a decorator of it names a function or class. -/
  | repeated
  /-- As a type parameter or the key of a mapped type, or as the name of a type, an interface, an
  enumeration, a namespace or an `import =`. -/
  | typeLevel
deriving DecidableEq, Repr

/-- What the resolver takes a name to be declared by in some form, if the form decides that. -/
def DeclarationForm.context? : DeclarationForm → Option DeclarationContext
  | .declarator word => some (if word == .var then .var else .lexical)
  | .parameter | .caught => some .lexical
  | .imported => some .imported
  | .function | .classLike | .repeated | .typeLevel => none

namespace Syntax.Kind

/-- Whether a piece of syntax only groups the names that a declaration binds. -/
def isPattern : Kind → Bool
  | .list | .objectPattern | .patternProperty .. | .arrayPattern => true
  | .patternDefault | .restElement => true
  | _ => false

/-- Whether variables declared with `var` belong to a piece of syntax. -/
def ownsVariables : Kind → Bool
  | .function _ | .arrow _ | .staticBlock => true
  | .moduleScope _ | .globalDeclaration .. => true
  | _ => false

/-- Whether import statements belong to a piece of syntax. -/
def ownsImports : Kind → Bool
  | .moduleScope _ | .globalDeclaration .. => true
  | _ => false

/-- Whether a piece of syntax opens a scope. -/
def opensScope (kind : Kind) : Bool :=
  (NameEvent.scopeOf? kind).isSome

/-- Whether a piece of syntax is a variable declaration or an import statement. -/
def isDeclaration : Kind → Bool
  | .variables .. | .importDeclaration .. => true
  | _ => false

/-- Whether a piece of syntax is a `var` declaration. -/
def isVarDeclaration : Kind → Bool
  | .variables .var _ => true
  | _ => false

end Syntax.Kind

namespace Trail

/-- The form of a declaration, from the first frame that is not part of a pattern on. -/
def formBehindPattern : Trail → DeclarationForm
  | ⟨.declarator _, _, _⟩ :: ⟨.variables word _, _, _⟩ :: _ => .declarator word
  | ⟨.parameter _, _, _⟩ :: ⟨.parameters, _, _⟩ :: owner :: _
  | ⟨.restParameter, _, _⟩ :: ⟨.parameters, _, _⟩ :: owner :: _ =>
    if owner.kind.opensScope then .parameter else .typeLevel
  | ⟨.catchParameter, _, _⟩ :: ⟨.catchClause, _, _⟩ :: _ => .caught
  | ⟨.importSpecifier _, _, _⟩ :: ⟨.list, _, _⟩ :: ⟨.importDeclaration .., _, _⟩ :: _
  | ⟨.importDefault, _, _⟩ :: ⟨.list, _, _⟩ :: ⟨.importDeclaration .., _, _⟩ :: _
  | ⟨.importNamespace, _, _⟩ :: ⟨.list, _, _⟩ :: ⟨.importDeclaration .., _, _⟩ :: _ => .imported
  | ⟨.classLike _, _, _⟩ :: _ => .repeated
  | _ => .typeLevel

/-- The form in which a name at the end of a trail is declared. -/
def form (trail : Trail) : DeclarationForm :=
  formBehindPattern (trail.dropWhile fun frame => frame.kind.isPattern)

/-- The innermost scope around a place to whose piece of syntax some names belong, or the module. -/
def owner (owns : Kind → Bool) (trail : Trail) : ScopeId :=
  (trail.findSome? fun frame => if owns frame.kind then frame.scope? else none).getD
    ScopeTree.module

/-- Whether a place stands in a `var` declaration with no scope and no other declaration in
between. -/
def isUnderVar (trail : Trail) : Bool :=
  (trail.find? fun frame => frame.kind.opensScope || frame.kind.isDeclaration).any
    fun frame => frame.kind.isVarDeclaration

end Trail

namespace Mention

/-- The form in which a mention declares its name. The own names of functions and classes are told
by their role. -/
def form (m : Mention) : DeclarationForm :=
  match m.role with
  | .declaration .function => .function
  | .declaration .classLike => .classLike
  | _ => m.trail.form

/-- The scope that a declaration asks for by its form. The name of a function or class goes to the
scope around the function or class. -/
def properScope (m : Mention) : ScopeId :=
  match m.form with
  | .declarator .var => m.trail.owner Kind.ownsVariables
  | .imported => m.trail.owner Kind.ownsImports
  | .function | .classLike => Trail.innermost (m.trail.drop 1)
  | _ => m.trail.innermost

/-- The scope that a declaration goes to if it goes astray. -/
def strayScope (m : Mention) : ScopeId :=
  match m.form with
  | .imported => m.trail.innermost
  | _ => m.trail.owner Kind.ownsVariables

/-- Whether a declaration goes astray: an import that does not stand directly in its module, or a
name of a type or class in a `var` declaration that does not stand directly in the function or
module that its variables belong to. -/
def isAstray (m : Mention) : Bool :=
  match m.form with
  | .imported => m.strayScope != m.properScope
  | .typeLevel | .repeated => m.trail.isUnderVar && m.strayScope != m.properScope
  | _ => false

end Mention

/-! ## What the trail says about the flag -/

namespace NameEvent

variable {context : DeclarationContext} {kind : Kind}

/-- Only scopes and declarations change what declares the names inside a piece of syntax. -/
theorem contextIn_of_neither (h : (kind.opensScope || kind.isDeclaration) = false) :
    contextIn context kind = context := by
  obtain ⟨hscope, hdeclaration⟩ := Bool.or_eq_false_iff.1 h
  unfold contextIn
  split
  · cases hdeclaration
  · cases hdeclaration
  · exact if_neg (by simpa [Kind.opensScope] using hscope)

/-- A scope begins without a declaration around its names. -/
theorem contextIn_of_opensScope (h : kind.opensScope) : contextIn context kind = .lexical := by
  unfold contextIn
  split
  · cases h
  · cases h
  · exact if_pos h

/-- What declares the names inside a scope or a declaration does not depend on what is around. -/
theorem contextIn_eq_var_iff (h : kind.opensScope || kind.isDeclaration) :
    contextIn context kind = .var ↔ kind.isVarDeclaration := by
  rcases Bool.or_eq_true_iff.1 h with hscope | hdeclaration
  · rw [contextIn_of_opensScope hscope]
    cases kind <;> first | contradiction | simp [Kind.isVarDeclaration]
  · revert hdeclaration
    fun_cases Kind.isDeclaration kind with
    | case1 word => cases word <;> simp [contextIn, Kind.isVarDeclaration]
    | case2 => simp [contextIn, Kind.isVarDeclaration]
    | case3 => exact fun h => absurd h Bool.false_ne_true

end NameEvent

namespace Trail

/-- Patterns do not change what declares the names in them. -/
theorem context_dropWhile_pattern (trail : Trail) :
    context (trail.dropWhile fun frame => frame.kind.isPattern) = context trail := by
  induction trail with
  | nil => rfl
  | cons frame trail ih =>
      obtain ⟨kind, part, scope?⟩ := frame
      rw [List.dropWhile_cons]
      split
      · rw [ih]
        cases kind <;> first | contradiction | rfl
      · rfl

/-- The flag says `var` exactly under a `var` declaration. -/
theorem context_eq_var_iff (trail : Trail) : trail.context = .var ↔ trail.isUnderVar := by
  induction trail with
  | nil => simp [context, isUnderVar]
  | cons frame trail ih =>
      rw [context, isUnderVar, List.find?_cons]
      cases hkind : frame.kind.opensScope || frame.kind.isDeclaration with
      | false =>
          rw [NameEvent.contextIn_of_neither hkind]
          exact ih
      | true => exact NameEvent.contextIn_eq_var_iff hkind

/-- The scopes that keep variables are those of functions, static blocks and modules. -/
theorem variableScope_eq_owner (trail : Trail) :
    trail.variableScope = trail.owner Kind.ownsVariables := by
  have hframe : ∀ frame : Frame, frame.variableScope? =
      if frame.kind.ownsVariables then frame.scope? else none := by
    intro frame
    have hholds : ((NameEvent.scopeOf? frame.kind).getD []).any ScopeFlag.holdsVariables =
        frame.kind.ownsVariables := by
      obtain ⟨kind, part, scope?⟩ := frame
      cases kind <;> simp [NameEvent.scopeOf?, Kind.ownsVariables, ScopeFlag.holdsVariables]
    rw [Frame.variableScope?, hholds]
  rw [variableScope, owner, funext hframe]

/-- The flag is right for the forms that decide what it is. -/
theorem context_of_form {trail : Trail} {context : DeclarationContext}
    (h : trail.form.context? = some context) : trail.context = context := by
  rw [← context_dropWhile_pattern]
  unfold form at h
  generalize trail.dropWhile (fun frame => frame.kind.isPattern) = trail at h ⊢
  revert h
  -- A parameter has the flag of the scope around its list, the others that of their declaration.
  fun_cases formBehindPattern trail with
  | case1 => exact fun h => Option.some.inj h
  | case2 _ _ _ _ _ owner _ hscope | case4 _ _ _ _ owner _ hscope =>
      rintro ⟨⟩
      show NameEvent.contextIn _ owner.kind = .lexical
      exact NameEvent.contextIn_of_opensScope hscope
  | case6 | case7 | case8 | case9 =>
      rintro ⟨⟩
      rfl
  | case3 | case5 | case10 | case11 => nofun

/-- Whether a flag that is known is the one for `var`. -/
theorem isUnderVar_of_form {trail : Trail} {context : DeclarationContext}
    (h : trail.form.context? = some context) : trail.isUnderVar ↔ context = .var := by
  rw [← context_eq_var_iff, context_of_form h]

/-- Own names of functions and classes have no form by their trail. -/
theorem form_ne_own (trail : Trail) : trail.form ≠ .function ∧ trail.form ≠ .classLike := by
  unfold form
  generalize trail.dropWhile (fun frame => frame.kind.isPattern) = trail
  fun_cases formBehindPattern trail <;> simp

end Trail

/-! ## Where a declaration goes -/

/-- What the role of a mention says about its trail: a name that is bound where it stands is
declared as its surroundings ask for, and an own name stands at the function or class. -/
inductive Mention.Placed : Mention → Prop where
  | use (name : String) (span : Span) (trail : Trail) : Placed ⟨.use, name, span, trail⟩
  | bound (name : String) (span : Span) (trail : Trail) :
      Placed ⟨.declaration trail.context.bindingKind, name, span, trail⟩
  | function (shape : FunctionShape) (name : String) (span : Span) (trail : Trail) :
      Placed ⟨.declaration .function, name, span, ⟨.function shape, 0, none⟩ :: trail⟩
  | classLike (shape : ClassShape) (name : String) (span : Span) (trail : Trail) :
      Placed ⟨.declaration .classLike, name, span, ⟨.classLike shape, 1, none⟩ :: trail⟩

namespace Mention

/-- A mention of an own name is declared in some way at some place. -/
theorem eq_of_mem_ofOwnName {m : Mention} {isDeclared : Bool} {kind : BindingKind} {trail : Trail}
    {node : Node} (h : m ∈ ofOwnName isDeclared kind trail node) :
    ∃ name span, m = ⟨.declaration kind, name, span, trail⟩ := by
  unfold ofOwnName at h
  split at h
  · split at h
    · exact ⟨_, _, List.mem_singleton.1 h⟩
    · cases h
  · cases h

/-- A name that is bound where it stands goes to the scope of variables under a `var` declaration,
and to the innermost scope elsewhere. -/
theorem target?_bound (name : String) (span : Span) (trail : Trail) :
    target? ⟨.declaration trail.context.bindingKind, name, span, trail⟩ =
      some (if trail.isUnderVar then trail.owner Kind.ownsVariables else trail.innermost) := by
  rw [← trail.variableScope_eq_owner]
  cases hunder : trail.isUnderVar with
  | true => rw [trail.context_eq_var_iff.2 hunder]; rfl
  | false =>
      have hne : trail.context ≠ .var := fun h => by simp [trail.context_eq_var_iff.1 h] at hunder
      cases hcontext : trail.context with
      | var => exact absurd hcontext hne
      | lexical | imported => rfl

theorem form_bound (name : String) (span : Span) (trail : Trail) :
    form ⟨.declaration trail.context.bindingKind, name, span, trail⟩ = trail.form := by
  unfold form
  cases trail.context <;> rfl

/-- A declaration goes to its proper scope unless it goes astray. -/
theorem Placed.lands {m : Mention} (h : m.Placed) (hrole : m.role ≠ .use) :
    (m.target? = some m.properScope ↔ ¬ m.isAstray) ∧
      (m.isAstray → m.target? = some m.strayScope) := by
  cases h with
  | use => exact absurd rfl hrole
  | function | classLike => exact ⟨iff_of_true rfl nofun, nofun⟩
  | bound name span trail =>
      -- The flag decides where the name goes, and the form decides the flag or leaves it open.
      rw [target?_bound]
      simp only [isAstray, properScope, strayScope, form_bound]
      cases hform : trail.form with
      | function => exact absurd hform trail.form_ne_own.1
      | classLike => exact absurd hform trail.form_ne_own.2
      | repeated | typeLevel => by_cases hunder : trail.isUnderVar <;> simp [hunder]
      | parameter | caught | imported =>
          have hunder := Trail.isUnderVar_of_form (congrArg DeclarationForm.context? hform)
          simp [hunder]
      | declarator word =>
          have hunder := Trail.isUnderVar_of_form (congrArg DeclarationForm.context? hform)
          cases word <;> simp [hunder]

end Mention

namespace Syntax.Node

/-- Every mention in a piece of syntax is placed as its role asks for. -/
theorem placed_mentions_both :
    (∀ (trail : Trail) (next : ScopeId) (node : Node), ∀ m ∈ node.mentions trail next, m.Placed) ∧
    (∀ (kind : Kind) (scope? : Option ScopeId) (part : Nat) (trail : Trail) (next : ScopeId)
      (nodes : List Node), ∀ m ∈ mentionsOf kind scope? part trail next nodes, m.Placed) := by
  apply mentions.mutual_induct
  case case1 =>
    intro trail next name span parts m hm
    simp only [mentions, List.mem_singleton] at hm
    exact hm ▸ .bound name span trail
  case case2 =>
    intro trail next name span parts m hm
    simp only [mentions, List.mem_singleton] at hm
    exact hm ▸ .use name span trail
  case case3 =>
    intro trail next shape span name rest ih m hm
    simp only [mentions, List.mem_append] at hm
    rcases hm with hm | hm
    · obtain ⟨name, span, rfl⟩ := Mention.eq_of_mem_ofOwnName hm
      exact .function shape name span trail
    · exact ih m hm
  case case4 =>
    intro trail next shape span decorators name parts ihDecorators ihParts m hm
    simp only [mentions, List.mem_append] at hm
    rcases hm with hm | hm | hm | hm
    · obtain ⟨name, span, rfl⟩ := Mention.eq_of_mem_ofOwnName hm
      exact .classLike shape name span trail
    · exact ihDecorators m hm
    · -- The class is no scope, so that its name is declared as what is around the class asks for.
      obtain ⟨name, span, rfl⟩ := Mention.eq_of_mem_ofOwnName hm
      exact .bound name span (⟨.classLike shape, 1, .none⟩ :: trail)
    · exact ihParts m hm
  case case5 =>
    intro trail next kind span parts hbinding hreference hfunction hclass ih m hm
    rw [mentions_other hbinding hreference hfunction hclass] at hm
    exact ih m hm
  case case6 =>
    intro kind scope? part trail next m hm
    cases hm
  case case7 =>
    intro kind scope? part trail next node rest ihNode ihRest m hm
    simp only [mentionsOf, List.mem_append] at hm
    exact hm.elim (ihNode m) (ihRest m)

end Syntax.Node

/-! ## Which declaration is recorded -/

namespace Mention

variable {m : Mention} {id : ScopeId} {name : String}

/-- What a mention records of a name in a scope, given that it declares the name there. -/
theorem record?_eq_some_iff {record : BindingKind × Span} :
    m.record? id name = some record ↔
      m.declares id name ∧ m.role = .declaration record.1 ∧ m.span = record.2 := by
  obtain ⟨kind, span⟩ := record
  obtain ⟨role, other, place, trail⟩ := m
  cases role with
  | use => simp [record?]
  | declaration => simp [record?, and_assoc, and_comm]

theorem record?_eq_none_iff : m.record? id name = none ↔ m.declares id name = false := by
  obtain ⟨role, other, place, trail⟩ := m
  cases role with
  | use => simp [record?, declares, target?]
  | declaration => simp [record?]

end Mention

namespace Syntax.Program

variable {p : Program} {m : Mention} {id : ScopeId} {name : String} {b : BindingId}
  {binding : Binding}

/-- The declarations of names in a program, in their order. -/
def declarations (p : Program) : List Mention :=
  p.mentions.filter fun m => !m.isUse

/-- The first declaration of a name in a scope. -/
def firstDeclaration? (p : Program) (id : ScopeId) (name : String) : Option Mention :=
  p.mentions.find? fun m => m.declares id name

/-- The tree records of each name in a scope what the first declaration says. -/
theorem record?_build (p : Program) (id : ScopeId) (name : String) :
    (ScopeTree.build p).record? id name =
      p.mentions.findSome? fun m => m.record? id name := by
  have hrun : (ScopeTree.build p).record? id name =
      (Resolver.run p.events).tree.record? id name := by
    simp only [ScopeTree.record?, get?_build, bindings_build]
    cases (Resolver.run p.events).tree.get? id name with
    | none => rfl
    | some b => cases hb : (Resolver.run p.events).tree.bindings[b]? <;> simp [hb]
  have hempty : Resolver.initial.tree.record? id name = none := by
    simp [ScopeTree.record?, Resolver.initial, ScopeTree.empty]
  obtain ⟨_, hrecords⟩ := (Resolver.reads_program p).records ScopeTree.Sound.empty
  rw [hrun, hrecords, hempty, Option.none_or]

/-- A binding is what the first declaration of its name in its scope says. -/
theorem firstDeclaration?_of_binding (hb : (ScopeTree.build p).bindings[b]? = some binding) :
    ∃ m, p.firstDeclaration? binding.scope binding.name = some m ∧
      m.role = .declaration binding.kind ∧ m.span = binding.declaredAt := by
  have hget := (sound_build p).declared b binding hb
  have hrecord : (ScopeTree.build p).record? binding.scope binding.name =
      some (binding.kind, binding.declaredAt) := by
    simp [ScopeTree.record?, hget, hb]
  -- Nothing before the mention that is recorded declares the name there.
  rw [record?_build, List.findSome?_eq_some_iff] at hrecord
  obtain ⟨before, m, behind, hmentions, hm, hbefore⟩ := hrecord
  obtain ⟨hdeclares, hrole, hspan⟩ := Mention.record?_eq_some_iff.1 hm
  refine ⟨m, List.find?_eq_some_iff_append.2 ⟨hdeclares, before, behind, hmentions, ?_⟩, hrole,
    hspan⟩
  intro earlier hearlier
  rw [Mention.record?_eq_none_iff.1 (hbefore earlier hearlier), Bool.not_false]

/-- The scopes around a mention are opened by the pieces of syntax on the way to it. -/
theorem opens_build (hm : m ∈ p.mentions) : (ScopeTree.build p).Opens m.trail :=
  ((Resolver.reads_program p).opens m hm).grows fun _ s hs =>
    ⟨s, by rw [scopes_build]; exact hs, rfl, rfl⟩

/-- Every mention in a program is placed as its role asks for. -/
theorem placed (hm : m ∈ p.mentions) : m.Placed := by
  rcases List.mem_append.1 hm with hm | hm
  · exact Node.placed_mentions_both.2 .list none 0 [] 1 p.directives m hm
  · exact Node.placed_mentions_both.2 .list none 0 [] _ p.body m hm

/-- A scope of the tree has the names that are declared in it. -/
theorem has_build_iff_exists : (ScopeTree.build p).Has id name ↔
    ∃ m ∈ p.declarations, m.target? = some id ∧ m.name = name := by
  rw [has_build_iff, declares, List.any_eq_true]
  constructor
  · rintro ⟨m, hm, hdeclares⟩
    obtain ⟨htarget, hname⟩ : m.target? = some id ∧ m.name = name := by
      simpa [Mention.declares] using hdeclares
    refine ⟨m, List.mem_filter.2 ⟨hm, ?_⟩, htarget, hname⟩
    cases hrole : m.role with
    | use => simp [Mention.target?, hrole] at htarget
    | declaration => simp [Mention.isUse, hrole]
  · rintro ⟨m, hm, htarget, hname⟩
    exact ⟨m, (List.mem_filter.1 hm).1, by simp [Mention.declares, htarget, hname]⟩

/-- Every name is declared in the scope that its form asks for unless it goes astray, and one that
goes astray is declared in its stray scope. The scopes around a declaration are the ones that the
tree chains together, opened by the pieces of syntax on the way. A scope has exactly the names that
are declared in it. Every binding is the only one of its name and scope, and it says what the first
declaration of that name in that scope says. -/
theorem declarations_land (p : Program) :
    (∀ m ∈ p.declarations, (ScopeTree.build p).Chain m.trail.around ∧
      (ScopeTree.build p).Opens m.trail ∧ (m.target? = some m.properScope ↔ ¬ m.isAstray) ∧
      (m.isAstray → m.target? = some m.strayScope)) ∧
    (∀ id name, (ScopeTree.build p).Has id name ↔
      ∃ m ∈ p.declarations, m.target? = some id ∧ m.name = name) ∧
    ∀ b binding, (ScopeTree.build p).bindings[b]? = some binding →
      (ScopeTree.build p).get? binding.scope binding.name = some b ∧
      ∃ m, p.firstDeclaration? binding.scope binding.name = some m ∧
        m.role = .declaration binding.kind ∧ m.span = binding.declaredAt := by
  refine ⟨fun m hm => ?_, fun _ _ => has_build_iff_exists, fun b binding hb =>
    ⟨(sound_build p).declared b binding hb, firstDeclaration?_of_binding hb⟩⟩
  obtain ⟨hmem, hrole⟩ := List.mem_filter.1 hm
  have hlands := (placed hmem).lands (by simpa [Mention.isUse] using hrole)
  exact ⟨chain_build hmem, opens_build hmem, hlands⟩

end Syntax.Program

example : ((parse
    "import i from \"m\"; \x7b var [v] = 1; let l; function f(p) \x7b\x7d \x7d").toOption.map
    fun parsed => parsed.program.declarations.map fun m => (m.name, m.form, m.target?)) =
      some [("i", .imported, some 0), ("v", .declarator .var, some 0),
        ("l", .declarator .let, some 1), ("f", .function, some 1), ("p", .parameter, some 2)] := by
  decide +kernel

/-- A variable in a block whose type infers another name. -/
def inferredNameSource : String := "\x7b var a: infer B; \x7d"

/-- The inferred name goes to the module instead of the block that it stands in. -/
theorem inferred_name_astray : ∃ parsed, (parse inferredNameSource).toOption = some parsed ∧
    ∃ m ∈ parsed.program.declarations, m.name = "B" ∧ m.form = .typeLevel ∧
      m.isAstray ∧ m.properScope = 1 ∧ m.target? = some ScopeTree.module ∧
      ∃ binding ∈ (ScopeTree.build parsed.program).bindings.toList, binding.name = "B" ∧
        binding.kind = .var ∧ binding.scope = ScopeTree.module :=
  exists_parsed_of_any (by decide +kernel)

end JsxTidy
