import JsxTidy.Proofs.Import.Liveness

/-!
# Parameter lists and function bodies

The parameters and the body of a function share one scope of the tree, although a parameter list
does not see what the body declares. `parameter_taken_iff` says exactly when this matters: a use in
a parameter list goes astray when only the body declares its name and nothing between the use and
the function does. Such a use no longer keeps an import of its name.
-/

namespace JsxTidy

open Syntax

/-! ## Parts of functions -/

namespace Frame

/-- Whether a step leads into the parameter list of a function. -/
def isParameterList (f : Frame) : Bool :=
  match f.kind with
  | .function _ => f.part == 2 || f.part == 3
  | .arrow _ => f.part == 1
  | _ => false

/-- Whether a step leads into the body of a function. -/
def isFunctionBody (f : Frame) : Bool :=
  match f.kind with
  | .function _ => f.part == 5
  | .arrow _ => f.part == 3
  | _ => false

end Frame

namespace Mention

/-- Whether a mention stands in the parameter list of the function that opens a scope. -/
def inParametersOf (m : Mention) (id : ScopeId) : Bool :=
  m.trail.any fun f => f.isParameterList && f.scope? == some id

/-- Whether a mention stands in the body of the function that opens a scope. -/
def inBodyOf (m : Mention) (id : ScopeId) : Bool :=
  m.trail.any fun f => f.isFunctionBody && f.scope? == some id

/-- Whether a mention stands in the parameter list of any function. -/
def inParameters (m : Mention) : Bool :=
  m.trail.scopes.any m.inParametersOf

end Mention

namespace Syntax.Program

/-- Whether a scope declares a name, and only in the body of the function that opens it. -/
def declaresInBodyOnly (p : Program) (id : ScopeId) (name : String) : Bool :=
  p.declares id name && p.mentions.all fun m => !m.declares id name || m.inBodyOf id

/-- Whether a scope declares the name of a use where the use can see it: the parameter list of a
function sees nothing of the body. -/
def showsTo (p : Program) (id : ScopeId) (u : Mention) : Bool :=
  p.mentions.any fun m => m.declares id u.name && !(u.inParametersOf id && m.inBodyOf id)

/-- The scope that a use refers to when parameter lists do not see bodies. -/
def properScope? (p : Program) (u : Mention) : Option ScopeId :=
  u.trail.around.find? fun id => p.showsTo id u

/-- Whether a use in the parameter list of a function has a name that only the body of the function
and no scope between the use and the function declares. -/
def takenByBody (p : Program) (u : Mention) (id : ScopeId) : Bool :=
  u.inParametersOf id && p.declaresInBodyOnly id u.name &&
    (u.trail.around.takeWhile (· != id)).all fun inner => !p.declares inner u.name

/-- The uses in parameter lists that refer to the module's binding of a name when parameter lists
do not see bodies. -/
def parameterReads (p : Program) (name : String) : List Mention :=
  p.uses.filter fun u =>
    u.name == name && u.inParameters && p.properScope? u == some ScopeTree.module

end Syntax.Program

/-! ## Searching a list -/

section Find

variable {α : Type} {l : List α} {f : α → Bool}

/-- What a search finds is the first element that passes. -/
theorem find?_eq_some_iff_takeWhile [BEq α] [LawfulBEq α] {a : α} (h : a ∈ l) :
    l.find? f = some a ↔ f a ∧ ∀ b ∈ l.takeWhile (· != a), ¬ f b := by
  induction l with
  | nil => cases h
  | cons b l ih =>
      rw [List.find?_cons, List.takeWhile_cons]
      by_cases hba : b = a
      · subst hba
        cases hfb : f b with
        | true => simp
        | false =>
            have hnone : l.find? f ≠ some b := by
              intro hfind
              have htrue := List.find?_some hfind
              simp [hfb] at htrue
            simpa using hnone
      · have hmem : a ∈ l := (List.mem_cons.1 h).resolve_left fun hab => hba hab.symm
        have hne : (b != a) = true := by simpa using hba
        cases hfb : f b with
        | true => simp [hne, hfb, hba]
        | false => simp [hne, hfb, ih hmem]

end Find

/-! ## Uses in parameter lists -/

variable {p : Program} {u : Mention} {id : ScopeId} {name : String}

theorem Mention.mem_scopes_of_inParametersOf (h : u.inParametersOf id) : id ∈ u.trail.scopes := by
  obtain ⟨f, hf, hframe⟩ := List.any_eq_true.1 h
  rw [Bool.and_eq_true, beq_iff_eq] at hframe
  exact List.mem_filterMap.2 ⟨f, hf, hframe.2⟩

theorem Mention.mem_around_of_inParametersOf (h : u.inParametersOf id) : id ∈ u.trail.around :=
  List.mem_append_left _ (mem_scopes_of_inParametersOf h)

namespace Syntax.Program

/-- A scope shows a use its name unless the use stands in the parameters and the body alone
declares the name. -/
theorem showsTo_iff : p.showsTo id u ↔
    p.declares id u.name ∧ ¬ (u.inParametersOf id ∧ p.declaresInBodyOnly id u.name) := by
  cases hparameters : u.inParametersOf id with
  | false => simp [showsTo, declares, hparameters]
  | true =>
      simp only [showsTo, declaresInBodyOnly, declares, hparameters, Bool.true_and, true_and,
        Bool.and_eq_true, List.any_eq_true, List.all_eq_true, Bool.not_eq_true', Bool.or_eq_true,
        not_and, not_forall]
      constructor
      · rintro ⟨m, hm, hdeclares, hbody⟩
        exact ⟨⟨m, hm, hdeclares⟩, fun _ => ⟨m, hm, by simp [hdeclares, hbody]⟩⟩
      · rintro ⟨hdeclares, hnot⟩
        obtain ⟨m, hm, hout⟩ := hnot hdeclares
        rw [not_or, Bool.not_eq_false, Bool.not_eq_true] at hout
        exact ⟨m, hm, hout⟩

/-- A use refers to the scope of a function whose body takes it, and to no other one of which only
the body declares its name. -/
theorem declaringScope?_eq_some_iff_takenByBody (hparameters : u.inParametersOf id) :
    p.declaringScope? u = some id ∧ p.declaresInBodyOnly id u.name ↔ p.takenByBody u id := by
  rw [declaringScope?,
    find?_eq_some_iff_takeWhile (Mention.mem_around_of_inParametersOf hparameters)]
  simp only [takenByBody, hparameters, Bool.true_and, Bool.and_eq_true, List.all_eq_true,
    Bool.not_eq_true', Bool.not_eq_true]
  constructor
  · rintro ⟨⟨_, hinner⟩, hbody⟩
    exact ⟨hbody, hinner⟩
  · rintro ⟨hbody, hinner⟩
    have hdeclares : p.declares id u.name := (Bool.and_eq_true_iff.1 hbody).1
    exact ⟨⟨hdeclares, hinner⟩, hbody⟩

/-- A use refers to its proper scope unless the body of a function takes it. -/
theorem declaringScope?_eq_properScope?_iff :
    p.declaringScope? u = p.properScope? u ↔ ¬ ∃ id, p.takenByBody u id := by
  rw [declaringScope?, properScope?, find?_eq_find?_iff fun id h => (showsTo_iff.1 h).1]
  constructor
  · rintro hshows ⟨id, htaken⟩
    have hparameters : u.inParametersOf id := by
      simp only [takenByBody, Bool.and_eq_true] at htaken
      exact htaken.1.1
    obtain ⟨hscope, hbody⟩ :=
      (declaringScope?_eq_some_iff_takenByBody hparameters).2 htaken
    exact (showsTo_iff.1 (hshows id hscope)).2 ⟨hparameters, hbody⟩
  · intro hnone id hscope
    refine showsTo_iff.2 ⟨List.find?_some (p := fun id => p.declares id u.name) hscope, ?_⟩
    rintro ⟨hparameters, hbody⟩
    exact hnone ⟨id, (declaringScope?_eq_some_iff_takenByBody hparameters).1 ⟨hscope, hbody⟩⟩

/-- The import that some parameters read is lost when a body takes one of them and no other use of
the name keeps it. -/
theorem parameterReads_pruned_iff {specifier : Node}
    (hspecifier : specifier ∈ importSpecifiers p.body) (himports : ImportsAs specifier name) :
    specifier ∉ importSpecifiers (pruneImports (ScopeTree.build p) p.body) ∧
        p.parameterReads name ≠ [] ↔
      (∃ u ∈ p.parameterReads name, ∃ id, p.takenByBody u id) ∧
        ∀ u ∈ p.uses, u.name = name → ∃ id ∈ u.trail.scopes, p.declares id name := by
  have hpruned : specifier ∉ importSpecifiers (pruneImports (ScopeTree.build p) p.body) ↔
      ∀ u ∈ p.uses, u.name = name → ∃ id ∈ u.trail.scopes, p.declares id name := by
    rw [mem_pruned_iff hspecifier himports]
    push Not
    rfl
  rw [hpruned, and_comm]
  refine and_congr_left fun hhidden => ⟨fun hreads => ?_, ?_⟩
  · obtain ⟨u, hu⟩ := List.exists_mem_of_ne_nil _ hreads
    refine ⟨u, hu, ?_⟩
    simp only [parameterReads, List.mem_filter, Bool.and_eq_true, beq_iff_eq] at hu
    obtain ⟨huses, ⟨rfl, _⟩, hproper⟩ := hu
    have hm : u ∈ p.mentions := (List.mem_filter.1 huses).1
    obtain ⟨id, hmem, hdeclares⟩ := hhidden u huses rfl
    rw [← not_not (a := ∃ id, p.takenByBody u id), ← declaringScope?_eq_properScope?_iff, hproper,
      declaringScope?_eq_module_iff hm (himports.declares_of_mem hspecifier)]
    exact fun hnone => hnone id hmem hdeclares
  · rintro ⟨u, hu, _⟩ hnil
    simp [hnil] at hu

/-- A use in the parameter list of a function is attached to a binding that only the body of the
function declares exactly when the body takes it, and a use that no body takes goes to its proper
scope. Pruning removes an import that parameters read exactly when a body takes one of them and
every use of the name has a scope inside the module that declares it. -/
theorem parameter_taken_iff (p : Program) :
    (∀ u ∈ p.uses, ∀ id, u.inParametersOf id →
      (p.attachedScope? u = some id ∧ p.declaresInBodyOnly id u.name ↔ p.takenByBody u id)) ∧
    (∀ u ∈ p.uses, p.attachedScope? u = p.properScope? u ↔ ¬ ∃ id, p.takenByBody u id) ∧
    (∀ specifier ∈ importSpecifiers p.body, ∀ name, ImportsAs specifier name →
      (specifier ∉ importSpecifiers (pruneImports (ScopeTree.build p) p.body) ∧
          p.parameterReads name ≠ [] ↔
        (∃ u ∈ p.parameterReads name, ∃ id, p.takenByBody u id) ∧
          ∀ u ∈ p.uses, u.name = name → ∃ id ∈ u.trail.scopes, p.declares id name)) := by
  have hmem : ∀ u ∈ p.uses, u ∈ p.mentions := fun u hu => (List.mem_filter.1 hu).1
  refine ⟨fun u hu id hparameters => ?_, fun u hu => ?_,
    fun specifier hspecifier name himports => ?_⟩
  · rw [attachedScope?_eq (hmem u hu)]
    exact declaringScope?_eq_some_iff_takenByBody hparameters
  · rw [attachedScope?_eq (hmem u hu)]
    exact declaringScope?_eq_properScope?_iff
  · exact parameterReads_pruned_iff hspecifier himports

end Syntax.Program

/-- A function whose body declares the name that a default value reads from an import. -/
def defaultValueSource : String :=
  "import \x7b a \x7d from \"m\";\nexport function f(b = a) \x7b\n\tvar a;\n\treturn b;\n\x7d\n"

/-- The body takes the default value, and the import that it reads is removed. -/
theorem default_value_taken : ∃ parsed, (parse defaultValueSource).toOption = some parsed ∧
    (∃ u ∈ parsed.program.uses, u.inParametersOf 1 ∧
      parsed.program.attachedScope? u = some 1 ∧ parsed.program.declaresInBodyOnly 1 u.name ∧
      parsed.program.attachedScope? u ≠ parsed.program.properScope? u) ∧
    ∃ specifier ∈ importSpecifiers parsed.program.body, ImportsAs specifier "a" ∧
      specifier ∉ importSpecifiers
        (pruneImports (ScopeTree.build parsed.program) parsed.program.body) := by
  have hread : ∃ parsed, (parse defaultValueSource).toOption = some parsed ∧
      (∃ u ∈ parsed.program.parameterReads "a", u.inParametersOf 1 ∧
        parsed.program.takenByBody u 1) ∧
      (∀ u ∈ parsed.program.uses, u.name = "a" →
        ∃ id ∈ u.trail.scopes, parsed.program.declares id "a") ∧
      ∃ specifier ∈ importSpecifiers parsed.program.body, ImportsAs specifier "a" :=
    exists_parsed_of_any (by decide +kernel)
  obtain ⟨parsed, hparsed, ⟨u, hreads, hparameters, htaken⟩, hhidden, specifier, hspecifier,
    himports⟩ := hread
  have hu : u ∈ parsed.program.uses := List.mem_of_mem_filter hreads
  obtain ⟨hattached, hproper, hpruned⟩ := Program.parameter_taken_iff parsed.program
  obtain ⟨hscope, hbody⟩ := (hattached u hu 1 hparameters).2 htaken
  refine ⟨parsed, hparsed, ⟨u, hu, hparameters, hscope, hbody, fun heq => ?_⟩, specifier,
    hspecifier, himports, ?_⟩
  · exact (hproper u hu).1 heq ⟨1, htaken⟩
  · exact ((hpruned specifier hspecifier "a" himports).2 ⟨⟨u, hreads, 1, htaken⟩, hhidden⟩).1

/-- The default value goes to the variable of the body instead of the module, and the import that
it reads is removed. -/
theorem default_value_import_lost :
    (∃ parsed, (parse defaultValueSource).toOption = some parsed ∧
      ∃ u ∈ parsed.program.uses, u.name = "a" ∧ u.inParametersOf 1 ∧
        parsed.program.attachedScope? u = some 1 ∧ parsed.program.declaresInBodyOnly 1 "a" ∧
        parsed.program.properScope? u = some ScopeTree.module) ∧
      (tidy .default defaultValueSource).toOption =
        some ⟨"export function f(b = a) \x7b\n\tvar a;\n\treturn b;\n\x7d\n", ⟨1, 0, 0⟩⟩ := by
  exact ⟨exists_parsed_of_any (by decide +kernel), by decide +kernel⟩

end JsxTidy
