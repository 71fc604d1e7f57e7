import JsxTidy.Proofs.Import.Liveness
import JsxTidy.Proofs.Parser.Programs

/-!
# References in the order of the source

The tree of a program records the uses of names in the order in which they are met, and they are met
in the order of the program's parts. The parts of a program that was read from a text stand there in
the same order. So each binding has its references in the order of the text, none of them twice, and
the same is true of the uses that are not resolved: `references_increasing`.
-/

namespace JsxTidy

open Syntax

/-- The starts of the names that landmarks use. -/
def Landmark.useStarts : List Landmark → List Nat :=
  List.filterMap fun
    | .use start => some start
    | .importing _ => none

/-- Names that are used one behind the other start further and further on. -/
theorem InOrder.useStarts_increasing {source : List Char} {first last : Nat}
    {marks : List Landmark} (h : InOrder source first last marks) :
    (Landmark.useStarts marks).Pairwise (· < ·) ∧
      ∀ start ∈ Landmark.useStarts marks, first ≤ start := by
  induction marks generalizing first with
  | nil => exact ⟨List.Pairwise.nil, by simp [Landmark.useStarts]⟩
  | cons mark rest ih =>
      cases mark with
      | use start =>
          obtain ⟨hfirst, hrest⟩ := h
          obtain ⟨hincreasing, hbehind⟩ := ih hrest
          refine ⟨List.pairwise_cons.2 ⟨hbehind, hincreasing⟩, ?_⟩
          refine List.forall_mem_cons.2 ⟨hfirst, fun later hlater => ?_⟩
          exact hfirst.trans (Nat.le_of_succ_le (hbehind later hlater))
      | importing start => exact ih h.2

/-- The starts of the names that mentions use. -/
def Mention.useStarts (mentions : List Mention) : List Nat :=
  (mentions.filter Mention.isUse).map (·.span.start)

theorem Landmark.useStarts_append (front back : List Landmark) :
    useStarts (front ++ back) = useStarts front ++ useStarts back :=
  List.filterMap_append

namespace Mention

theorem useStarts_append (front back : List Mention) :
    useStarts (front ++ back) = useStarts front ++ useStarts back := by
  rw [useStarts, List.filter_append, List.map_append]
  rfl

theorem useStarts_ofOwnName (isDeclared : Bool) (kind : BindingKind) (trail : Trail)
    (node : Node) : useStarts (ofOwnName isDeclared kind trail node) = [] := by
  unfold ofOwnName
  split
  · split <;> rfl
  · rfl

end Mention

namespace Syntax.Node

open Landmark (useStarts_append)
open Mention (useStarts_ofOwnName)

/-- The uses in a piece of syntax are mentioned in the order of its landmarks, and so are those in
some parts. -/
theorem useStarts_sublist_both :
    (∀ (trail : Trail) (next : ScopeId) (node : Node),
      (Mention.useStarts (node.mentions trail next)).Sublist
        (Landmark.useStarts node.landmarks)) ∧
    (∀ (kind : Kind) (scope? : Option ScopeId) (part : Nat) (trail : Trail) (next : ScopeId)
      (nodes : List Node),
      (Mention.useStarts (mentionsOf kind scope? part trail next nodes)).Sublist
        (Landmark.useStarts (nodes.flatMap landmarks))) := by
  apply mentions.mutual_induct
  case case1 =>
    intro trail next name span parts
    exact List.nil_sublist _
  case case2 =>
    intro trail next name span parts
    rw [landmarks_mk, useStarts_append]
    exact List.sublist_append_left _ _
  -- The own names of functions and classes are declared and never used.
  case case3 =>
    intro trail next shape span name rest ih
    rw [mentions, Mention.useStarts_append, useStarts_ofOwnName, landmarks_mk, List.flatMap_cons,
      useStarts_append, useStarts_append]
    exact ih.trans ((List.sublist_append_right _ _).trans (List.sublist_append_right _ _))
  case case4 =>
    intro trail next shape span decorators name parts ihDecorators ihParts
    simp only [mentions, Mention.useStarts_append, useStarts_ofOwnName, List.nil_append,
      landmarks_mk, List.flatMap_cons, List.flatMap_nil, List.append_nil, useStarts_append]
    refine List.Sublist.trans ?_ (List.sublist_append_right _ _)
    exact ihDecorators.append (ihParts.trans (List.sublist_append_right _ _))
  case case5 =>
    intro trail next kind span parts hbinding hreference hfunction hclass ih
    rw [mentions_other hbinding hreference hfunction hclass, landmarks_mk,
      useStarts_append]
    exact ih.trans (List.sublist_append_right _ _)
  case case6 =>
    intro kind scope? part trail next
    exact List.nil_sublist _
  case case7 =>
    intro kind scope? part trail next node rest ihNode ihRest
    rw [mentionsOf, Mention.useStarts_append, List.flatMap_cons, useStarts_append]
    exact ihNode.append ihRest

end Syntax.Node

namespace Syntax.Program

/-- The uses in a program are met in the order of its landmarks. -/
theorem useStarts_sublist (p : Program) :
    (Mention.useStarts p.mentions).Sublist (Landmark.useStarts p.landmarks) := by
  rw [mentions, landmarks, Mention.useStarts_append, List.flatMap_append,
    Landmark.useStarts_append]
  exact (Node.useStarts_sublist_both.2 ..).append (Node.useStarts_sublist_both.2 ..)

variable {source : String} {parsed : Parsed}

/-- The uses in a program that was read from a text start further and further on in it. -/
theorem uses_increasing (h : parse source = .ok parsed) :
    parsed.program.uses.Pairwise fun first second => first.span.start < second.span.start := by
  obtain ⟨last, hlandmarks⟩ := inOrder_of_parse h
  exact List.pairwise_map.1 (hlandmarks.useStarts_increasing.1.sublist (useStarts_sublist _))

/-- In the tree of a program that was read from a text, the references of each binding start
further and further on in the text, and so do the uses that are not resolved. -/
theorem references_increasing (h : parse source = .ok parsed) :
    (∀ (b : BindingId) (binding : Binding),
      (ScopeTree.build parsed.program).bindings[b]? = some binding →
        binding.references.Pairwise fun first second => first.start < second.start) ∧
    (ScopeTree.build parsed.program).unresolved.Pairwise fun first second =>
      first.span.start < second.span.start := by
  have huses := uses_increasing h
  refine ⟨fun b binding hbinding => ?_, ?_⟩
  · rw [references_build hbinding]
    exact List.pairwise_map.2 (huses.filter _)
  · rw [unresolved_build]
    exact List.pairwise_map.2 (huses.filter _)

end Syntax.Program

/-- A class that uses an imported value in each of its parts, and other names in between. -/
def orderedUsesSource : String :=
  "import \x7b a \x7d from \"m\";\n" ++
    "class C<T extends b> extends a<T> \x7b\n" ++
    "\t@c(a) m(x = a, y: b = d) \x7b\n" ++
    "\t\treturn <a.x k=\x7bd\x7d>\x7b`$\x7ba\x7d`\x7d</a.x>;\n\t\x7d\n\x7d\n"

/-- Its tag is a use where it opens and another one where it closes, behind what stands in it. -/
theorem ordered_uses_increasing : ∃ parsed, (parse orderedUsesSource).toOption = some parsed ∧
    (∃ binding, (ScopeTree.build parsed.program).bindings[0]? = some binding ∧
      binding.name = "a" ∧ binding.references.length = 6 ∧
      binding.references.Pairwise fun first second => first.start < second.start) ∧
    (ScopeTree.build parsed.program).unresolved.map (·.name) = ["b", "c", "b", "d", "d"] ∧
    (ScopeTree.build parsed.program).unresolved.Pairwise fun first second =>
      first.span.start < second.span.start := by
  obtain ⟨parsed, hparsed, hbinding, hunresolved⟩ :
      ∃ parsed, (parse orderedUsesSource).toOption = some parsed ∧
        (ScopeTree.build parsed.program).bindings[0]?.map
          (fun binding => (binding.name, binding.references.length)) = some ("a", 6) ∧
        (ScopeTree.build parsed.program).unresolved.map (·.name) = ["b", "c", "b", "d", "d"] :=
    exists_parsed_of_any (by decide +kernel)
  obtain ⟨binding, hfound, hpair⟩ := Option.map_eq_some_iff.1 hbinding
  obtain ⟨hname, hcount⟩ := Prod.mk.inj hpair
  obtain ⟨hreferences, hincreasing⟩ :=
    Program.references_increasing (eq_ok_of_toOption hparsed)
  exact ⟨parsed, hparsed, ⟨binding, hfound, hname, hcount, hreferences 0 binding hfound⟩,
    hunresolved, hincreasing⟩

end JsxTidy
