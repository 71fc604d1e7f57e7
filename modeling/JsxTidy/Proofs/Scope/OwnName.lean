import JsxTidy.Proofs.Scope.Naming
import JsxTidy.Proofs.Scope.Profile

/-!
# The names of expressions

The name of a function or class that is an expression is to be known inside it only. The tree
declares such a name nowhere, and so it hides no import, with one exception: a class with a
decorator that holds a named function or class repeats its name around itself. The main result,
`expression_names`, says which imports stay live because of that, and which are lost to the
exception.
-/

namespace JsxTidy

open Syntax

/-! ## Names inside their expressions -/

/-- Whether a reach uses a name only where another one does, and declares it like the other one. -/
structure Reach.Narrows (a b : Reach) : Prop where
  uses : a.uses → b.uses
  declares : a.declares = b.declares
  hoists : a.hoists = b.hoists

namespace Reach.Narrows

variable {a b c a' b' : Reach}

theorem refl (a : Reach) : a.Narrows a :=
  ⟨id, rfl, rfl⟩

theorem trans (h : a.Narrows b) (h' : b.Narrows c) : a.Narrows c :=
  ⟨h'.uses ∘ h.uses, h.declares.trans h'.declares, h.hoists.trans h'.hoists⟩

theorem union (h : a.Narrows b) (h' : a'.Narrows b') : (a ∪ a').Narrows (b ∪ b') where
  uses huses := by
    rw [uses_union, Bool.or_eq_true] at huses ⊢
    exact huses.imp h.uses h'.uses
  declares := by simp [h.declares, h'.declares]
  hoists := by simp [h.hoists, h'.hoists]

theorem outside (h : a.Narrows b) (flags : List ScopeFlag) :
    (a.outside flags).Narrows (b.outside flags) where
  uses := by
    simp only [Reach.outside, h.declares, h.hoists, Bool.and_eq_true]
    exact And.imp_left h.uses
  declares := rfl
  hoists := by simp [Reach.outside, h.hoists]

theorem inScope (h : a.Narrows b) (kind : Kind) : (a.inScope kind).Narrows (b.inScope kind) := by
  unfold Reach.inScope
  split
  · exact h.outside _
  · exact h

/-- A name that is declared first in a scope is used outside less than before. -/
theorem outside_lexical (a : Reach) (flags : List ScopeFlag) :
    ((ofDeclaration .lexical ∪ a).outside flags).Narrows (a.outside flags) where
  uses := by simp [Reach.outside, ofDeclaration]
  declares := rfl
  hoists := by simp [Reach.outside, ofDeclaration]

/-- A name that is live stays live when it is used more. -/
theorem isLive (h : a.Narrows b) (hlive : a.isLive) : b.isLive := by
  rw [Reach.isLive, Bool.and_eq_true] at hlive ⊢
  exact ⟨by rw [← h.declares, ← h.hoists]; exact hlive.1, h.uses hlive.2⟩

end Reach.Narrows

namespace Syntax

namespace Node

section Narrows

variable {name : String} {own : Node} {nodes nodes' : List Node}

theorem reachOf_append (context : DeclarationContext) : reachOf name context (nodes ++ nodes') =
    reachOf name context nodes ∪ reachOf name context nodes' := by
  induction nodes with
  | nil => ext <;> simp [reachOf, NameProfile.reachOf]
  | cons node nodes ih =>
      simp only [reachOf, NameProfile.reachOf, List.map_cons, List.cons_append,
        List.foldr_cons] at ih ⊢
      rw [ih]
      ext <;> simp [Bool.or_assoc]

/-- What stands first in a scope hides a name from the outside, if it does anything with it. -/
theorem narrows_first (place : NamePlace) (own : Node) (nodes : List Node)
    (flags : List ScopeFlag) :
    ((reachOf name .lexical (place.first own ++ nodes)).outside flags).Narrows
      ((reachOf name .lexical nodes).outside flags) := by
  unfold NamePlace.first
  split
  · rename_i declared span parts
    have hfirst : reachOf name .lexical [.mk (.binding declared) span []] =
        if declared = name then Reach.ofDeclaration .lexical else ∅ := by
      simp [reachOf, NameProfile.reachOf, profile_mk, NameProfile.root, NameProfile.rootReach,
        DeclarationContext.bindingKind]
    rw [reachOf_append, hfirst]
    split
    · exact .outside_lexical _ flags
    · have hempty : ∅ ∪ reachOf name .lexical nodes = reachOf name .lexical nodes := by
        ext <;> simp
      rw [hempty]
      exact .refl _
  · exact .refl _

theorem narrows_opening (place : NamePlace) (own node : Node) (context : DeclarationContext) :
    (((node.opening (place.first own)).profile name).reach context).Narrows
      ((node.profile name).reach context) := by
  unfold opening
  split
  · rw [reach_profile_mk, reach_profile_mk]
    exact narrows_first place own _ _
  · exact .refl _

theorem ownReach_undeclared (isDeclared : Bool) (kind : BindingKind) (own : Node) :
    NameProfile.ownReach name isDeclared kind (own.undeclared.profile name) = ∅ := by
  obtain ⟨ownKind, span, parts⟩ := own
  cases ownKind <;>
    simp [undeclared, NameProfile.ownReach, profile_mk, NameProfile.root, NameProfile.declaredBy?]

/-- A name goes out of a piece of syntax less when expressions declare it inside than when they do
not. -/
theorem narrows_naming_both (name : String) :
    (∀ (context : DeclarationContext) (node : Node),
      (((node.naming .inside).profile name).reach context).Narrows
        (((node.naming .nowhere).profile name).reach context)) ∧
    (∀ (context : DeclarationContext) (nodes : List Node),
      (reachOf name context (namingOf .inside nodes)).Narrows
        (reachOf name context (namingOf .nowhere nodes))) := by
  apply events.mutual_induct
  case case1 =>
    intro context declared span parts
    simp only [naming, reach_profile_mk]
    exact .refl _
  case case2 =>
    intro context used span parts
    simp only [naming, reach_profile_mk]
    exact .refl _
  -- The name of a declared function stays. That of an expression opens the rest, from which it
  -- takes the uses of the name.
  case case3 =>
    intro context shape span own rest ih
    rw [naming, naming]
    split
    · rw [reach_profile_mk, reach_profile_mk]
      exact .union (.refl _) (ih.outside _)
    · rw [reach_profile_mk, reach_profile_mk, NamePlace.first_nowhere]
      exact .union (.refl _) ((narrows_first .inside own _ _).trans (ih.outside _))
  case case4 =>
    intro context shape span decorators own parts ihDecorators ihParts
    rw [naming, naming]
    cases hdeclaration : shape.isDeclaration with
    | true =>
        simp only [reach_profile_mk, List.map_cons, List.map_nil, NameProfile.rootReach,
          Bool.true_or, if_true, namesFunction_profile_both.1, namesFunction_naming]
        exact .union (.refl _) (.union ihDecorators (.union (.refl _) ihParts))
    | false =>
        simp only [reach_profile_mk, List.map_cons, List.map_nil, NameProfile.rootReach,
          NamePlace.keeps, Bool.or_false, Bool.false_eq_true, if_false, ownReach_undeclared,
          NamePlace.first_nowhere, opening_nil]
        have hparts := (narrows_opening .inside own (parts.naming .inside) context).trans ihParts
        exact .union (.refl _) (.union ihDecorators (.union (.refl _) hparts))
  case case5 =>
    intro context kind span parts hbinding hreference hfunction hclass ih
    have hother : ∀ place : NamePlace, (((Node.mk kind span parts).naming place).profile name).reach
        context = (reachOf name (NameEvent.contextIn context kind)
          (namingOf place parts)).inScope kind := by
      intro place
      rw [naming_other hfunction hclass]
      exact reach_profile_of_other hbinding hreference (not_function_namingOf hfunction place)
        (not_class_namingOf hclass place) context
    rw [hother, hother]
    exact ih.inScope kind
  case case6 =>
    intro context
    exact .refl _
  case case7 =>
    intro context node rest ihNode ihRest
    exact .union ihNode ihRest

end Narrows

end Node

namespace Program

variable {p : Program} {id : ScopeId} {name : String}

/-- A name that is live when expressions declare their names inside is live when they do not. -/
theorem isLive_naming_nowhere (hlive : (ScopeTree.build (p.naming .inside)).isLive name) :
    (ScopeTree.build (p.naming .nowhere)).isLive name := by
  rw [isLive_build_eq] at hlive ⊢
  refine Reach.Narrows.isLive ?_ hlive
  exact ((Node.narrows_naming_both name).2 .lexical p.directives).union
    ((Node.narrows_naming_both name).2 .lexical p.body)

/-- A name that is live when expressions declare their names inside has a use that goes out to the
module when they do not. -/
theorem outwardUses_ne_nil (hlive : (ScopeTree.build (p.naming .inside)).isLive name) :
    p.outwardUses name ≠ [] := by
  obtain ⟨u, hu, rfl, hscope⟩ := isLive_build_iff.1 (isLive_naming_nowhere hlive)
  have hmodule := List.find?_some (p := fun id => (p.naming .nowhere).declares id u.name) hscope
  have hfree := (declaringScope?_eq_module_iff (List.mem_filter.1 hu).1 hmodule).1 hscope
  refine List.ne_nil_of_mem (List.mem_filter.2 ⟨mem_uses_naming_iff.1 hu, ?_⟩)
  simpa using hfree

/-- An import is removed when each use that goes out to it meets the repeated name of an expression
on its way. -/
theorem notMem_pruned_iff_repeated {specifier : Node}
    (hspecifier : specifier ∈ importSpecifiers p.body) (himports : ImportsAs specifier name) :
    specifier ∉ importSpecifiers (pruneImports (ScopeTree.build p) p.body) ↔
      ∀ u ∈ p.outwardUses name,
        ∃ id ∈ u.trail.scopes, ∃ m ∈ p.repeatedNames, m.declares id name := by
  rw [mem_pruned_iff hspecifier himports]
  constructor
  · intro hremoved u hu
    simp only [outwardUses, List.mem_filter, Bool.and_eq_true, beq_iff_eq, List.all_eq_true,
      Bool.not_eq_true'] at hu
    obtain ⟨huse, hname, hfree⟩ := hu
    by_contra hnone
    refine hremoved ⟨u, huse, hname, fun id hid hdeclares => ?_⟩
    rcases declares_iff_repeated.1 hdeclares with hdeclares | hrepeated
    · rw [hfree id hid] at hdeclares
      cases hdeclares
    · exact hnone ⟨id, hid, hrepeated⟩
  · rintro hhidden ⟨u, huse, hname, hfree⟩
    have hout : u ∈ p.outwardUses name := by
      simp only [outwardUses, List.mem_filter, Bool.and_eq_true, beq_iff_eq, List.all_eq_true,
        Bool.not_eq_true']
      refine ⟨huse, hname, fun id hid => ?_⟩
      rw [← Bool.not_eq_true]
      exact fun hdeclares => hfree id hid (declares_iff_repeated.2 (.inl hdeclares))
    obtain ⟨id, hid, hrepeated⟩ := hhidden u hout
    exact hfree id hid (declares_iff_repeated.2 (.inr hrepeated))

/-- The tree of a program is the same without the names of its expressions, except for the names of
class expressions that are repeated around their classes: those are declared there. An import that
is live when each expression declares its name inside itself has uses that go out to it, and it is
removed only when each of them stands in a scope in which the repeated name of an expression is
declared. -/
theorem expression_names (p : Program) :
    ScopeTree.build (p.naming .repeated) = ScopeTree.build p ∧
    (∀ id name, (ScopeTree.build p).Has id name ↔
      (ScopeTree.build (p.naming .nowhere)).Has id name ∨
        ∃ m ∈ p.repeatedNames, m.declares id name) ∧
    ∀ specifier ∈ importSpecifiers p.body, ∀ name, ImportsAs specifier name →
      (ScopeTree.build (p.naming .inside)).isLive name →
        p.outwardUses name ≠ [] ∧
        (specifier ∉ importSpecifiers (pruneImports (ScopeTree.build p) p.body) ↔
          ∀ u ∈ p.outwardUses name,
            ∃ id ∈ u.trail.scopes, ∃ m ∈ p.repeatedNames, m.declares id name) := by
  refine ⟨build_naming_repeated, fun id name => ?_, fun specifier hspecifier name himports hlive =>
    ⟨outwardUses_ne_nil hlive, notMem_pruned_iff_repeated hspecifier himports⟩⟩
  rw [has_build_iff, has_build_iff]
  exact declares_iff_repeated

end Program

end Syntax

/-- A function in which a class with a named decorator has the name of an import. -/
def decoratedClassSource : String :=
  "import \x7b X \x7d from \"m\";\nexport function f() \x7b\n" ++
    "\tconst y = @(class Q \x7b\x7d) class X \x7b\x7d;\n\treturn X;\n\x7d\n"

/-- The name of the class is repeated in the function, and the import is removed. -/
theorem decorated_class_hides : ∃ parsed, (parse decoratedClassSource).toOption = some parsed ∧
    ∃ specifier ∈ importSpecifiers parsed.program.body, ImportsAs specifier "X" ∧
      (ScopeTree.build (parsed.program.naming .inside)).isLive "X" ∧
      parsed.program.outwardUses "X" ≠ [] ∧
      specifier ∉ importSpecifiers
        (pruneImports (ScopeTree.build parsed.program) parsed.program.body) := by
  have hread : ∃ parsed, (parse decoratedClassSource).toOption = some parsed ∧
      (ScopeTree.build (parsed.program.naming .inside)).isLive "X" ∧
      (∀ u ∈ parsed.program.outwardUses "X", ∃ id ∈ u.trail.scopes,
        ∃ m ∈ parsed.program.repeatedNames, m.declares id "X") ∧
      ∃ specifier ∈ importSpecifiers parsed.program.body, ImportsAs specifier "X" :=
    exists_parsed_of_any (by decide +kernel)
  obtain ⟨parsed, hparsed, hlive, hhidden, specifier, hspecifier, himports⟩ := hread
  obtain ⟨-, -, himport⟩ := Program.expression_names parsed.program
  obtain ⟨hout, hremoved⟩ := himport specifier hspecifier "X" himports hlive
  exact ⟨parsed, hparsed, specifier, hspecifier, himports, hlive, hout, hremoved.2 hhidden⟩

/-- The name of a class expression is declared in the function around it, and an import is removed
that is live when the class declares its name inside. -/
theorem decorated_class_import_lost :
    (∃ parsed, (parse decoratedClassSource).toOption = some parsed ∧
      (ScopeTree.build parsed.program).Has 1 "X" ∧
      ¬ (ScopeTree.build (parsed.program.naming .nowhere)).Has 1 "X" ∧
      (ScopeTree.build (parsed.program.naming .inside)).isLive "X" ∧
      ¬ (ScopeTree.build parsed.program).isLive "X") ∧
      (tidy .default decoratedClassSource).toOption =
        some ⟨"export function f() \x7b\n" ++
          "\tconst y = @(class Q \x7b\x7d) class X \x7b\x7d;\n\treturn X;\n\x7d\n", ⟨1, 0, 0⟩⟩ :=
  ⟨exists_parsed_of_any (by decide +kernel), by decide +kernel⟩

end JsxTidy
