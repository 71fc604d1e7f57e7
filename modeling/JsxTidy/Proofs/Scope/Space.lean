import JsxTidy.Proofs.Import.Liveness

/-!
# Names of types and names of values

A scope of the tree holds the names of types and those of values together, although a type and a
value of one name do not hide each other. `space_confused_iff` says exactly which uses go astray
by this: those whose innermost declaring scope declares the name in the other space only. An import
is lost to it when every use of its name has some declaration around it inside the module.
-/

namespace JsxTidy

open Syntax

/-! ## The spaces of uses and declarations -/

/-- In which of the two spaces a declaration puts its name. -/
inductive Space where
  | value
  | type
  /-- Classes, enumerations, namespaces and imports are types and values at once. -/
  | both
deriving DecidableEq

namespace Frame

/-- Whether a piece of syntax is the type of a function, without anything that runs. -/
def isSignature (f : Frame) : Bool :=
  match f.kind with
  | .functionType | .constructorType _ => true
  | .callSignature | .constructSignature | .methodSignature .. => true
  | _ => false

end Frame

namespace Trail

/-- Whether a name at a place names a type: in a reference to a type, as what a class implements or
an interface extends, or in front of a dot in one of these. The names behind `typeof`, the names of
tags and exported names are values. -/
def isTypePosition : Trail → Bool
  | ⟨.typeReference, 0, _⟩ :: _ => true
  | ⟨.implemented, 0, _⟩ :: _ => true
  | ⟨.parent, 0, _⟩ :: _ => true
  | ⟨.qualifiedName, 0, _⟩ :: trail => isTypePosition trail
  | ⟨.member _, 0, _⟩ :: trail => isTypePosition trail
  | _ => false

/-- Whether the innermost scope around a place is the one of a function's type. -/
def inSignature (trail : Trail) : Bool :=
  match trail.find? fun f => f.scope?.isSome with
  | some f => f.isSignature
  | none => false

/-- In which space a name is declared that no keyword declares by itself. -/
def spaceOf (trail : Trail) : Space :=
  match trail with
  | ⟨.typeParameter .., 0, _⟩ :: _ => .type
  | ⟨.interfaceDeclaration _, 0, _⟩ :: _ => .type
  | ⟨.typeAlias _, 0, _⟩ :: _ => .type
  | ⟨.mappedType .., 0, _⟩ :: _ => .type
  | ⟨.classLike _, 1, _⟩ :: _ => .both
  | ⟨.enumDeclaration .., 0, _⟩ :: _ => .both
  | ⟨.namespaceDeclaration .., 0, _⟩ :: _ => .both
  | ⟨.importEquals _, 0, _⟩ :: _ => .both
  | _ => if trail.inSignature then .type else .value

end Trail

namespace Mention

/-- In which space a declaration puts its name. The names of parameters in the type of a function
count as types, as nothing that runs can see them. -/
def space (m : Mention) : Space :=
  match m.role with
  | .declaration .imported => .both
  | .declaration .classLike => .both
  | .declaration .function => .value
  | _ => m.trail.spaceOf

/-- The space whose declarations a use cannot refer to. -/
def otherSpace (u : Mention) : Space :=
  if u.trail.isTypePosition then .value else .type

end Mention

namespace Syntax.Program

/-- Whether a scope declares a name in one space only. -/
def declaresOnlyIn (p : Program) (space : Space) (id : ScopeId) (name : String) : Bool :=
  p.declares id name && p.mentions.all fun m => !m.declares id name || m.space == space

/-- The innermost of the scopes around a use that declares its name in the space of the use. -/
def spaceScope? (p : Program) (u : Mention) : Option ScopeId :=
  u.trail.around.find? fun id =>
    p.declares id u.name && !p.declaresOnlyIn u.otherSpace id u.name

/-- Whether every scope between a use and the module that declares the name of the use declares it
in the other space only. -/
def seesModule (p : Program) (u : Mention) : Bool :=
  u.trail.scopes.all fun id => !p.declares id u.name || p.declaresOnlyIn u.otherSpace id u.name

variable {p : Program} {u : Mention} {name : String} {specifier : Node}

/-! ## Uses that go astray -/

/-- A use refers to a scope of its own space unless the innermost scope that declares its name does
so in the other space only. -/
theorem declaringScope?_eq_spaceScope?_iff :
    p.declaringScope? u = p.spaceScope? u ↔
      ¬ ∃ id, p.declaringScope? u = some id ∧ p.declaresOnlyIn u.otherSpace id u.name := by
  rw [declaringScope?, spaceScope?, find?_eq_find?_iff fun id h => (Bool.and_eq_true_iff.1 h).1]
  constructor
  · rintro hspace ⟨id, hscope, honly⟩
    have hkept := hspace id hscope
    simp [honly] at hkept
  · intro hnone id hscope
    have hdeclares := List.find?_some (p := fun id => p.declares id u.name) hscope
    have honly : p.declaresOnlyIn u.otherSpace id u.name = false := by
      rw [← Bool.not_eq_true]
      exact fun honly => hnone ⟨id, hscope, honly⟩
    simp [hdeclares, honly]

/-- Imports are in both spaces, so that the module never declares their names in one space only. -/
theorem not_declaresOnlyIn_module (hspecifier : specifier ∈ importSpecifiers p.body)
    (himports : ImportsAs specifier name) :
    ¬ p.declaresOnlyIn u.otherSpace ScopeTree.module name := by
  obtain ⟨m, hm, himported, hdeclares⟩ := himports.exists_mention_of_mem hspecifier
  intro honly
  have hspace := List.all_eq_true.1 (Bool.and_eq_true_iff.1 honly).2 m hm
  have hboth : m.space = .both := by simp [Mention.space, himported]
  have hother : ¬ Space.both = u.otherSpace := by
    rw [Mention.otherSpace]
    split <;> simp
  simp [hdeclares, hboth, hother] at hspace

/-- A use sees the import of its name when the module is the innermost scope of its space. -/
theorem seesModule_iff (hspecifier : specifier ∈ importSpecifiers p.body)
    (himports : ImportsAs specifier u.name) (hm : u ∈ p.mentions) :
    p.seesModule u ↔ p.spaceScope? u = some ScopeTree.module := by
  have hmodule : p.declares ScopeTree.module u.name := himports.declares_of_mem hspecifier
  have hboth : p.declaresOnlyIn u.otherSpace ScopeTree.module u.name = false :=
    Bool.not_eq_true _ ▸ not_declaresOnlyIn_module hspecifier himports
  rw [spaceScope?, Trail.around,
    find?_concat_eq_some_iff (by simp [hmodule, hboth]) (module_notMem_scopes hm)]
  simp only [seesModule, List.all_eq_true]
  refine forall₂_congr fun id _ => ?_
  cases p.declares id u.name <;> simp

/-- A use is attached to a scope of its own space unless the innermost scope that declares its name
does so in the other space only. A use sees an import of its name when all declarations in between
are of the other space. Removing an import loses no use that sees it exactly when some use has no
declaration in between, which keeps the import, or when every use has one of its own space. -/
theorem space_confused_iff (p : Program) :
    (∀ u ∈ p.uses, p.attachedScope? u = p.spaceScope? u ↔
      ¬ ∃ id, p.attachedScope? u = some id ∧ p.declaresOnlyIn u.otherSpace id u.name) ∧
    ∀ specifier ∈ importSpecifiers p.body, ∀ name, ImportsAs specifier name →
      (∀ u ∈ p.uses, u.name = name →
        (p.seesModule u ↔ p.spaceScope? u = some ScopeTree.module)) ∧
      ((specifier ∉ importSpecifiers (pruneImports (ScopeTree.build p) p.body) →
          ∀ u ∈ p.uses, u.name = name → ¬ p.seesModule u) ↔
        (∃ u ∈ p.uses, u.name = name ∧ ∀ id ∈ u.trail.scopes, ¬ p.declares id name) ∨
          ∀ u ∈ p.uses, u.name = name → ∃ id ∈ u.trail.scopes,
            p.declares id name ∧ ¬ p.declaresOnlyIn u.otherSpace id name) := by
  have hmem : ∀ u ∈ p.uses, u ∈ p.mentions := fun u hu => (List.mem_filter.1 hu).1
  refine ⟨fun u hu => ?_, fun specifier hspecifier name himports => ⟨?_, ?_⟩⟩
  · rw [attachedScope?_eq (hmem u hu)]
    exact declaringScope?_eq_spaceScope?_iff
  · rintro u hu rfl
    exact seesModule_iff hspecifier himports (hmem u hu)
  · rw [mem_pruned_iff hspecifier himports, ← or_iff_not_imp_left]
    refine or_congr_right (forall₂_congr fun u _ => forall_congr' fun hname => ?_)
    subst hname
    simp [seesModule]

end Syntax.Program

/-- A function with a parameter whose type has its own name. The type is imported. -/
def typedParameterSource : String :=
  "import \x7b a \x7d from \"m\";\nexport function f(a: a) \x7b\n\treturn a;\n\x7d\n"

/-- The type of the parameter is attached to the parameter instead of the import, which it sees and
which is removed. -/
theorem typed_parameter_confused : ∃ parsed, (parse typedParameterSource).toOption = some parsed ∧
    ∃ u ∈ parsed.program.uses, u.name = "a" ∧ u.trail.isTypePosition ∧
      parsed.program.attachedScope? u ≠ parsed.program.spaceScope? u ∧
      parsed.program.spaceScope? u = some ScopeTree.module ∧
      ∃ specifier ∈ importSpecifiers parsed.program.body, ImportsAs specifier "a" ∧
        specifier ∉ importSpecifiers
          (pruneImports (ScopeTree.build parsed.program) parsed.program.body) := by
  have hread : ∃ parsed, (parse typedParameterSource).toOption = some parsed ∧
      (∃ u ∈ parsed.program.uses, u.name = "a" ∧ u.trail.isTypePosition ∧
        parsed.program.attachedScope? u = some 1 ∧
        parsed.program.declaresOnlyIn u.otherSpace 1 u.name ∧ parsed.program.seesModule u) ∧
      (∀ u ∈ parsed.program.uses, u.name = "a" →
        ∃ id ∈ u.trail.scopes, parsed.program.declares id "a") ∧
      ∃ specifier ∈ importSpecifiers parsed.program.body, ImportsAs specifier "a" :=
    exists_parsed_of_any (by decide +kernel)
  obtain ⟨parsed, hparsed, ⟨u, hu, hname, hposition, hattached, honly, hsees⟩, hhidden, specifier,
    hspecifier, himports⟩ := hread
  obtain ⟨hconfused, himport⟩ := Program.space_confused_iff parsed.program
  obtain ⟨hmodule, hlost⟩ := himport specifier hspecifier "a" himports
  refine ⟨parsed, hparsed, u, hu, hname, hposition, fun heq => ?_, (hmodule u hu hname).1 hsees,
    specifier, hspecifier, himports, fun hkept => ?_⟩
  · exact (hconfused u hu).1 heq ⟨1, hattached, honly⟩
  · rcases hlost.1 fun hremoved => absurd hkept hremoved with ⟨v, hv, hvname, hnone⟩ | hown
    · obtain ⟨id, hid, hdeclares⟩ := hhidden v hv hvname
      exact hnone id hid hdeclares
    · obtain ⟨id, hid, hdeclares, hother⟩ := hown u hu hname
      have hscope := List.all_eq_true.1 hsees id hid
      simp_all

/-- A function that returns an imported value and has a type parameter of the same name. -/
def typeParameterSource : String :=
  "import \x7b T \x7d from \"m\";\nexport function f<T>() \x7b\n\treturn T;\n\x7d\n"

/-- The returned value goes to the type parameter, and the import that it reads is removed. -/
theorem type_parameter_import_lost :
    (∃ parsed, (parse typeParameterSource).toOption = some parsed ∧
      ∃ u ∈ parsed.program.uses, u.name = "T" ∧ ¬ u.trail.isTypePosition ∧
        parsed.program.attachedScope? u = some 1 ∧
        parsed.program.declaresOnlyIn .type 1 "T" ∧ parsed.program.seesModule u ∧
        ∃ specifier ∈ importSpecifiers parsed.program.body, localName specifier = "T" ∧
          ¬ isLiveSpecifier (ScopeTree.build parsed.program) specifier) ∧
      (tidy .default typeParameterSource).toOption =
        some ⟨"export function f<T,>() \x7b\n\treturn T;\n\x7d\n", ⟨1, 0, 0⟩⟩ := by
  exact ⟨exists_parsed_of_any (by decide +kernel), by decide +kernel⟩

end JsxTidy
