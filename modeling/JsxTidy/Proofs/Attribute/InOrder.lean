import JsxTidy.Proofs.Attribute.Sorting
import JsxTidy.Proofs.Syntax.Stripped

/-!
# Attributes in order

The attributes of all tags in a piece of syntax are in order exactly when sorting leaves it alone.
Sorting everywhere brings them in order, and whether they are in order shows in stripped syntax.
-/

namespace JsxTidy

open Syntax

/-- Whether a piece of syntax is no tag whose attributes are out of order. -/
def Syntax.Kind.inOrder (policy : SpreadPolicy) : Kind → List Node → Bool
  | .openingTag, [_, _, .mk .list _ nodes] => isIdentity (attributeOrder policy nodes)
  | _, _ => true

variable {policy : SpreadPolicy} {kind : Kind} {span : Span} {parts : List Node}

/-- The slot of an attribute shows in stripped syntax. -/
theorem AttributeSlot.ofNode_stripped (node : Node) : ofNode node.stripped = ofNode node := by
  have hattribute : ¬ Kind.isEnclosable .markupAttribute := Bool.false_ne_true
  have hword : ∀ word, ¬ (Kind.word word).isEnclosable := fun _ => Bool.false_ne_true
  -- A slot is read from an attribute with a plain name, from another attribute or from anything
  -- else, and stripping changes nothing about which of them a node is.
  by_cases hnamed : ∃ word span wordSpan inner rest,
      node = .mk .markupAttribute span (.mk (.word word) wordSpan inner :: rest)
  · obtain ⟨word, span, wordSpan, inner, rest, rfl⟩ := hnamed
    rw [Node.stripped_of_not_isEnclosable hattribute, List.map_cons,
      Node.stripped_of_not_isEnclosable (hword word)]
    rfl
  · by_cases hfixed : ∃ span parts, node = .mk .markupAttribute span parts
    · obtain ⟨span, parts, rfl⟩ := hfixed
      have hother : ∀ span parts, (∀ word wordSpan inner rest,
          parts ≠ .mk (.word word) wordSpan inner :: rest) →
            ofNode (.mk .markupAttribute span parts) = fixed := by
        intro span parts hparts
        unfold ofNode
        split
        · rename_i heq
          cases heq
          exact absurd rfl (hparts _ _ _ _)
        · rfl
        · rename_i hattribute
          exact absurd rfl (hattribute span parts)
      rw [Node.stripped_of_not_isEnclosable hattribute, hother, hother]
      · rintro word wordSpan inner rest rfl
        exact hnamed ⟨word, span, wordSpan, inner, rest, rfl⟩
      · intro word wordSpan inner rest hparts
        obtain ⟨first, rest, rfl, hfirst, -⟩ := List.map_eq_cons_iff.1 hparts
        obtain ⟨wordSpan, inner, rfl, -⟩ := Node.exists_of_stripped_eq hfirst (hword word)
        exact hnamed ⟨word, span, wordSpan, inner, rest, rfl⟩
    · have hspread : ∀ node, (∀ span parts, node ≠ .mk .markupAttribute span parts) →
          ofNode node = spread := by
        intro node hnode
        unfold ofNode
        split
        · exact absurd rfl (hnode _ _)
        · exact absurd rfl (hnode _ _)
        · rfl
      rw [hspread, hspread]
      · rintro span parts rfl
        exact hfixed ⟨span, parts, rfl⟩
      · intro span parts hstripped
        obtain ⟨span, parts, rfl, -⟩ := Node.exists_of_stripped_eq hstripped hattribute
        exact hfixed ⟨span, parts, rfl⟩

theorem Syntax.Kind.inOrder_iff : kind.inOrder policy parts ↔ ∀ tag types listSpan nodes,
    kind = .openingTag → parts = [tag, types, .mk .list listSpan nodes] →
      isIdentity (attributeOrder policy nodes) := by
  unfold inOrder
  split
  · rename_i tag types listSpan nodes
    constructor
    · rintro h _ _ _ _ - hparts
      cases hparts
      exact h
    · exact fun h => h tag types listSpan nodes rfl rfl
  · rename_i hother
    simp only [true_iff]
    rintro tag types listSpan nodes rfl rfl
    exact absurd rfl (hother tag types listSpan nodes rfl)

/-- Sorting leaves alone exactly what is in order. -/
theorem Rewriting.sorting_eq_iff :
    sorting policy (.mk kind span parts) = (.mk kind span parts, 0) ↔
      kind.inOrder policy parts := by
  rw [Kind.inOrder_iff]
  constructor
  · rintro h tag types listSpan nodes rfl rfl
    rw [sorting_tag] at h
    have hchanges := (Prod.mk.inj h).2
    rw [sortingChanges] at hchanges
    split at hchanges
    · assumption
    · cases hchanges
  · intro h
    rcases tag_or_sorting_eq policy (.mk kind span parts) with ⟨_, _, _, _, nodes, heq⟩ | heq
    · cases heq
      have hidentity := h _ _ _ nodes rfl rfl
      rw [sorting_tag, sortedAttributes_of_isIdentity hidentity, sortingChanges, if_pos hidentity]
    · exact heq

theorem Syntax.Kind.inOrder_stripped :
    kind.stripped.inOrder policy (parts.map Node.stripped) ↔ kind.inOrder policy parts := by
  have horder : ∀ nodes : List Node,
      attributeOrder policy (nodes.map Node.stripped) = attributeOrder policy nodes :=
    fun nodes => (sortedAttributes_map policy fun node _ => AttributeSlot.ofNode_stripped node).1
  rw [inOrder_iff, inOrder_iff]
  constructor
  · rintro h tag types listSpan nodes rfl rfl
    rw [← horder]
    exact h tag.stripped types.stripped ⟨0, 0⟩ _ rfl (by simp)
  · rintro h tag types listSpan nodes hkind hparts
    have hkind : kind = .openingTag := by
      cases kind <;> first | rfl | cases hkind
    rcases parts with _ | ⟨tag', _ | ⟨types', _ | ⟨list, _ | ⟨_, _⟩⟩⟩⟩ <;>
      simp only [List.map_cons, List.map_nil, List.cons.injEq, reduceCtorEq, and_true,
        and_false] at hparts
    obtain ⟨listSpan', nodes', rfl, rfl⟩ := Node.exists_of_stripped_list hparts.2.2
    rw [horder]
    exact h tag' types' listSpan' nodes' hkind rfl

/-- The order of attributes shows in stripped syntax. -/
theorem Syntax.Node.every_inOrder_stripped (node : Node) :
    node.stripped.every (Kind.inOrder policy) ↔ node.every (Kind.inOrder policy) := by
  induction node with
  | mk kind span parts ih =>
      rcases stripped_mk kind span parts with heq | ⟨inner, rfl, hkind, hinner, heq⟩
      · rw [heq, every_mk, every_mk, List.forall_mem_map]
        exact and_congr Kind.inOrder_stripped (forall₂_congr ih)
      · have horder : kind.inOrder policy [inner] := by
          cases kind <;> rfl
        rw [heq, every_mk, ih inner (by simp)]
        simp [horder]

/-- A rewriting of markup that keeps the slots of attributes keeps their order. -/
theorem Rewriting.OnMarkup.inOrder_map {r : Rewriting} (h : r.OnMarkup)
    (hslot : ∀ node, AttributeSlot.ofNode (r.result node) = AttributeSlot.ofNode node) :
    kind.inOrder policy (parts.map r.result) ↔ kind.inOrder policy parts := by
  have hlist : ∀ listSpan nodes, r.result (.mk .list listSpan nodes) =
      .mk .list listSpan (nodes.map r.result) := fun _ _ => h.result_other Bool.false_ne_true
  have horder : ∀ nodes : List Node,
      attributeOrder policy (nodes.map r.result) = attributeOrder policy nodes :=
    fun nodes => (sortedAttributes_map policy fun node _ => hslot node).1
  rw [Kind.inOrder_iff, Kind.inOrder_iff]
  constructor
  · rintro hmap tag types listSpan nodes rfl rfl
    rw [← horder]
    exact hmap _ _ listSpan _ rfl (by rw [List.map_cons, List.map_cons, List.map_singleton, hlist])
  · rintro hparts tag types listSpan nodes rfl hshape
    obtain ⟨tag, types, listSpan, nodes, rfl⟩ := h.tag_of_map hshape
    rw [List.map_cons, List.map_cons, List.map_singleton, hlist] at hshape
    cases hshape
    rw [horder]
    exact hparts _ _ _ nodes rfl rfl

/-- Sorting everywhere brings all attributes in order. -/
theorem Rewriting.every_inOrder_sorting (node : Node) :
    ((sorting policy).result node).every (Kind.inOrder policy) := by
  induction node with
  | mk kind span parts ih =>
      have hparts : ∀ part ∈ parts.map (sorting policy).result,
          part.every (Kind.inOrder policy) := by
        intro part hpart
        obtain ⟨before, hbefore, rfl⟩ := List.mem_map.1 hpart
        exact ih before hbefore
      rw [result_mk]
      rcases tag_or_sorting_eq policy (.mk kind span (parts.map (sorting policy).result)) with
        ⟨_, tag, types, listSpan, nodes, heq⟩ | heq
      · obtain ⟨rfl, rfl, hshape⟩ := Node.mk.inj heq
        rw [hshape] at hparts ⊢
        simp only [List.forall_mem_cons] at hparts
        obtain ⟨htag, htypes, hlist, -⟩ := hparts
        have hsorted : (Node.mk .list listSpan (sortedAttributes policy nodes)).every
            (Kind.inOrder policy) :=
          Node.every_mk.2 ⟨rfl, fun part hpart =>
            (Node.every_mk.1 hlist).2 part ((sortedAttributes_perm policy nodes).mem_iff.1 hpart)⟩
        rw [sorting_tag, Node.every_mk]
        refine ⟨attributeOrder_sortedAttributes policy nodes, ?_⟩
        simp only [List.forall_mem_cons]
        exact ⟨htag, htypes, hsorted, by simp⟩
      · rw [heq]
        exact Node.every_mk.2 ⟨sorting_eq_iff.1 heq, hparts⟩

/-- Syntax whose attributes are in order is sorted already. -/
theorem Rewriting.sorting_of_inOrder (node : Node) (h : node.every (Kind.inOrder policy)) :
    (sorting policy).result node = node ∧ (sorting policy).changes node = 0 :=
  idle_of_every (fun _ _ _ horder => sorting_eq_iff.2 horder) node h

end JsxTidy
