import JsxTidy.Proofs.Syntax.WellFormed

/-!
# Legible syntax

The value of an attribute is written in quotes that do not occur in it, since it has no escapes. A
text with quotes of both kinds cannot be written so. Syntax is legible when it is well formed and
no string that is the value of an attribute is such a text.
-/

namespace JsxTidy

/-- Whether a text lacks quotes of one kind. -/
def Text.isQuotable (text : List Char) : Bool :=
  !(text.contains '"' && text.contains '\'')

namespace Syntax

/-- Whether a piece of syntax is no attribute whose value is a text that cannot be written. -/
def Kind.isQuotable : Kind → List Node → Bool
  | .markupAttribute, [_, .mk (.string text _) _ _] => Text.isQuotable text.toList
  | _, _ => true

/-- Whether a piece of syntax of some kind has the parts of that kind and can be written. -/
def Kind.fits (kind : Kind) (parts : List Node) : Bool :=
  kind.admits parts && kind.isQuotable parts

/-- The value of a piece of syntax that is an attribute with a string. -/
def Kind.ownText : Kind → List Node → List String
  | .markupAttribute, [_, .mk (.string text _) _ _] => [text]
  | _, _ => []

/-- A node is quotable if its own text can be written as an attribute. -/
theorem Kind.isQuotable_iff {kind : Kind} {parts : List Node} : kind.isQuotable parts ↔
    ∀ text ∈ kind.ownText parts, Text.isQuotable text.toList := by
  unfold isQuotable ownText
  split <;> simp

/-- Whether an attribute can be written depends on the kinds of its parts. -/
theorem Kind.isQuotable_map {f : Node → Node} (hkind : ∀ node, (f node).kind = node.kind)
    (kind : Kind) (parts : List Node) : kind.isQuotable (parts.map f) = kind.isQuotable parts := by
  cases kind with
  | markupAttribute =>
      rcases parts with _ | ⟨name, _ | ⟨value, _ | ⟨_, _⟩⟩⟩
      case cons.cons.nil =>
        obtain ⟨kind, span, parts⟩ := value
        have hsame := hkind (.mk kind span parts)
        rw [List.map_cons, List.map_cons, List.map_nil]
        generalize f (.mk kind span parts) = value at hsame ⊢
        obtain ⟨_, _, _⟩ := value
        cases hsame
        cases kind <;> rfl
      all_goals simp [isQuotable]
  | _ => rfl

/-- What a function says besides its parts does not matter. -/
theorem Kind.fits_function {shape : FunctionShape} {parts : List Node}
    (h : (Kind.function shape).fits parts) (shape' : FunctionShape) :
    (Kind.function shape').fits parts := by
  cases parts with
  | nil => cases h
  | cons name rest => exact h

namespace Node

variable {kind : Kind} {span : Span} {parts : List Node} {node : Node} {nodes : List Node}

/-- Whether all pieces in a piece of syntax have the parts of their kinds and can be written. -/
def legible (node : Node) : Bool :=
  node.every Kind.fits

/-- A node is legible if its kind fits its parts and all of them are. -/
theorem legible_mk :
    (mk kind span parts).legible ↔ kind.fits parts ∧ ∀ part ∈ parts, part.legible :=
  every_mk

/-- Its parts are legible, too. -/
theorem legible_parts (h : node.legible) : ∀ part ∈ node.parts, part.legible :=
  every_parts h

/-- What is legible is well-formed. -/
theorem wellFormed_of_legible (h : node.legible) : node.wellFormed := by
  refine every_mono (fun kind parts hfits => ?_) node h
  exact (Bool.and_eq_true_iff.1 hfits).1

@[simp] theorem legible_none : none.legible := rfl

@[simp] theorem legible_list : (list nodes).legible ↔ ∀ node ∈ nodes, node.legible := by
  rw [list, legible_mk]
  exact and_iff_right rfl

/-! ## The texts of attributes -/

mutual

/-- The values of the attributes in a piece of syntax that are strings. -/
def attributeTexts : Node → List String
  | .mk kind _ parts => kind.ownText parts ++ attributeTextsOf parts

/-- The values of the attributes in some pieces of syntax that are strings. -/
def attributeTextsOf : List Node → List String
  | [] => []
  | node :: rest => attributeTexts node ++ attributeTextsOf rest

end

mutual

/-- No text has quotes of both kinds exactly when no attribute is unquotable. -/
theorem every_isQuotable_iff : ∀ node : Node, node.every Kind.isQuotable ↔
    ∀ text ∈ node.attributeTexts, Text.isQuotable text.toList
  | .mk kind span parts => by
      rw [every, attributeTexts, Bool.and_eq_true, everyOf_isQuotable_iff parts,
        Kind.isQuotable_iff, List.forall_mem_append]

theorem everyOf_isQuotable_iff : ∀ nodes, everyOf Kind.isQuotable nodes ↔
    ∀ text ∈ attributeTextsOf nodes, Text.isQuotable text.toList
  | [] => by simp [attributeTextsOf]
  | node :: rest => by
      rw [everyOf, attributeTextsOf, Bool.and_eq_true, every_isQuotable_iff node,
        everyOf_isQuotable_iff rest, List.forall_mem_append]

end

/-- Legible syntax is well-formed syntax without unquotable attributes. -/
theorem legible_iff : node.legible ↔ node.wellFormed ∧ node.every Kind.isQuotable :=
  every_and node

end Node

/-- Whether all pieces in a program have the parts of their kinds and can be written. -/
def Program.legible (p : Program) : Bool :=
  Node.everyOf Kind.fits (p.directives ++ p.body)

/-- The values of the attributes in a program that are strings. -/
def Program.attributeTexts (p : Program) : List String :=
  Node.attributeTextsOf (p.directives ++ p.body)

/-- A program is legible if it is well-formed and all its attributes can be quoted. -/
theorem Program.legible_iff {p : Program} : p.legible ↔
    p.wellFormed ∧ ∀ text ∈ p.attributeTexts, Text.isQuotable text.toList := by
  rw [attributeTexts, ← Node.everyOf_isQuotable_iff]
  exact Node.everyOf_and _

theorem Program.wellFormed_of_legible {p : Program} (h : p.legible) : p.wellFormed := by
  refine Node.everyOf_mono (fun kind parts hfits => ?_) _ h
  exact (Bool.and_eq_true_iff.1 hfits).1

end Syntax

end JsxTidy
