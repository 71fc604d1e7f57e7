import JsxTidy.Proofs.Attribute.InOrder
import JsxTidy.Proofs.Attribute.Normalizing

/-!
# Class values in normal form

The class values in a piece of syntax are in normal form exactly when normalizing leaves them alone.
Normalizing everywhere brings them into normal form if normalizing a text twice is normalizing it
once, and it does not bring attributes out of order.
-/

namespace JsxTidy

open Syntax

/-- Whether a piece of syntax is no class attribute whose known value changes. -/
def Syntax.Kind.isNormal (normalize : ClassNormalizer) : Kind → List Node → Bool
  | .markupAttribute, [name, value] =>
    !isClassName name || (staticValue? value).all fun original => normalize original == original
  | _, _ => true

variable {normalize : ClassNormalizer} {policy : SpreadPolicy} {kind : Kind} {span : Span}
  {parts : List Node}

theorem Syntax.Kind.isNormal_iff :
    kind.isNormal normalize parts ↔ ¬ Rewriting.RewritesClass normalize kind parts := by
  unfold isNormal
  split
  · rename_i name value
    constructor
    · rintro h ⟨_, _, original, -, hparts, hname, hvalue, hchange⟩
      cases hparts
      simp [hname, hvalue, hchange] at h
    · intro h
      cases hname : isClassName name with
      | false => rfl
      | true =>
          cases hvalue : staticValue? value with
          | none => rfl
          | some original =>
              by_contra hchange
              exact h ⟨name, value, original, rfl, rfl, hname, hvalue, by simpa using hchange⟩
  · rename_i hother
    simp only [true_iff]
    rintro ⟨name, value, _, rfl, rfl, -⟩
    exact hother name value rfl rfl

/-- All class values are in normal form if they are kept. -/
theorem Syntax.Node.every_isNormal_keep (node : Node) : node.every (Kind.isNormal .keep) := by
  induction node with
  | mk kind span parts ih =>
      refine every_mk.2 ⟨Kind.isNormal_iff.2 ?_, ih⟩
      rintro ⟨_, _, original, -, -, -, -, hchange⟩
      exact hchange rfl

namespace Rewriting

/-- A rewriting of markup keeps what is known of class values. -/
theorem OnMarkup.isNormal_map {r : Rewriting} (h : r.OnMarkup)
    (hwell : ∀ part ∈ parts, part.wellFormed) :
    kind.isNormal normalize (parts.map r.result) ↔ kind.isNormal normalize parts := by
  rw [Kind.isNormal_iff, Kind.isNormal_iff, h.rewritesClass_map hwell]

/-- Normalizing everywhere brings all class values into normal form. -/
theorem every_isNormal_normalizing
    (hnormalize : ∀ text, normalize (normalize text) = normalize text) (node : Node) :
    ((normalizing normalize).result node).every (Kind.isNormal normalize) := by
  induction node with
  | mk kind span parts ih =>
      have hparts : ∀ part ∈ parts.map (normalizing normalize).result,
          part.every (Kind.isNormal normalize) := by
        intro part hpart
        obtain ⟨before, hbefore, rfl⟩ := List.mem_map.1 hpart
        exact ih before hbefore
      rw [result_mk]
      by_cases h : RewritesClass normalize kind (parts.map (normalizing normalize).result)
      · obtain ⟨name, value, original, rfl, hshape, hname, hvalue, hchange⟩ := h
        rw [hshape] at hparts ⊢
        rw [normalizing_class hname hvalue hchange, Node.every_mk]
        refine ⟨?_, ?_⟩
        · simp [Kind.isNormal, staticValue?, hnormalize]
        · simp only [List.forall_mem_cons] at hparts ⊢
          exact ⟨hparts.1, rfl, by simp⟩
      · rw [normalizing_other h, Node.every_mk]
        exact ⟨Kind.isNormal_iff.2 h, hparts⟩

/-- Class values in normal form are not rewritten. -/
theorem normalizing_of_isNormal (node : Node) (h : node.every (Kind.isNormal normalize)) :
    (normalizing normalize).result node = node ∧ (normalizing normalize).changes node = 0 :=
  idle_of_every (fun _ _ _ hnormal => normalizing_other (Kind.isNormal_iff.1 hnormal)) node h

/-- Attributes stay in order when class values are rewritten. -/
theorem every_inOrder_normalizing (node : Node) (h : node.every (Kind.inOrder policy)) :
    ((normalizing normalize).result node).every (Kind.inOrder policy) := by
  induction node with
  | mk kind span parts ih =>
      have hmarkup := normalizing_onMarkup normalize
      obtain ⟨horder, hparts⟩ := Node.every_mk.1 h
      have hinside : ∀ part ∈ parts.map (normalizing normalize).result,
          part.every (Kind.inOrder policy) := by
        intro part hpart
        obtain ⟨before, hbefore, rfl⟩ := List.mem_map.1 hpart
        exact ih before hbefore (hparts before hbefore)
      rw [result_mk]
      by_cases hclass : RewritesClass normalize kind (parts.map (normalizing normalize).result)
      · obtain ⟨name, value, original, rfl, hshape, hname, hvalue, hchange⟩ := hclass
        rw [hshape] at hinside ⊢
        rw [normalizing_class hname hvalue hchange, Node.every_mk]
        simp only [List.forall_mem_cons] at hinside ⊢
        exact ⟨rfl, hinside.1, rfl, by simp⟩
      · rw [normalizing_other hclass, Node.every_mk]
        have hslots := hmarkup.ofNode_result (ofNode_normalizing normalize)
        exact ⟨(hmarkup.inOrder_map hslots).2 horder, hinside⟩

/-- What normalizing leaves alone has class values in normal form. -/
theorem isNormal_of_normalizing_eq (node : Node) (h : (normalizing normalize).result node = node) :
    node.every (Kind.isNormal normalize) := by
  induction node with
  | mk kind span parts ih =>
      have hmarkup := normalizing_onMarkup normalize
      rw [result_mk] at h
      by_cases hclass : RewritesClass normalize kind (parts.map (normalizing normalize).result)
      · -- The value would have been the string already, and would not have changed.
        obtain ⟨name, value, original, rfl, hshape, hname, hvalue, hchange⟩ := hclass
        rw [hshape, normalizing_class hname hvalue hchange] at h
        cases h
        have hleaf :=
          (hmarkup.untouched (.mk (.string (normalize original) false) value.span []) rfl).1
        rw [List.map_cons, List.map_singleton, hleaf] at hshape
        have hsame := (List.cons.inj (List.cons.inj hshape).2).1
        have hvalues : some (normalize original) = some original :=
          (congrArg staticValue? hsame).trans hvalue
        exact absurd (Option.some.inj hvalues) hchange
      · rw [normalizing_other hclass] at h
        have hparts : parts.map (normalizing normalize).result = parts := (Node.mk.inj h).2.2
        rw [hparts] at hclass
        refine Node.every_mk.2 ⟨Kind.isNormal_iff.2 hclass, fun part hpart => ?_⟩
        exact ih part hpart
          (List.map_inj_left.1 (hparts.trans (List.map_id parts).symm) part hpart)

end Rewriting

end JsxTidy
