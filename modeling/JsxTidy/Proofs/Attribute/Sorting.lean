import JsxTidy.Proofs.Attribute.Order
import JsxTidy.Proofs.Attribute.Permute
import JsxTidy.Proofs.Tidy.Everywhere

/-!
# Sorting the attributes of a tag

Sorting a tag brings its attributes in their canonical order (`sorting_tag`) and does nothing to any
other piece of syntax. Sorted attributes stay in their order: `attributeOrder_sortedAttributes`. The
order depends on the slots of the attributes alone, so sorting can be done before or after a
rewriting of the attributes that keeps their slots: `sorting_slides`.
-/

namespace JsxTidy

open Syntax

/-- The attributes of a tag. -/
def Syntax.Node.attributes : Node → List Node
  | .mk .openingTag _ [_, _, .mk .list _ nodes] => nodes
  | _ => []

variable {policy : SpreadPolicy} {attributes : List Node}

/-! ## Attributes in order -/

/-- The attributes of a tag in their canonical order. -/
def sortedAttributes (policy : SpreadPolicy) (attributes : List Node) : List Node :=
  (permute attributes.toArray (attributeOrder policy attributes).toArray).toList

/-- What sorting the attributes of a tag changes. -/
def sortingChanges (policy : SpreadPolicy) (attributes : List Node) : Changes :=
  if isIdentity (attributeOrder policy attributes) then 0 else ⟨0, 1, 0⟩

theorem attributeOrder_perm (policy : SpreadPolicy) (attributes : List Node) :
    (attributeOrder policy attributes).Perm (List.range attributes.length) := by
  rw [← List.length_map AttributeSlot.ofNode]
  exact AttributeSlot.canonicalOrder_perm

theorem sortedAttributes_perm (policy : SpreadPolicy) (attributes : List Node) :
    (sortedAttributes policy attributes).Perm attributes :=
  (permute_perm _ _).toList

theorem map_some_sortedAttributes (policy : SpreadPolicy) (attributes : List Node) :
    (sortedAttributes policy attributes).map some =
      (attributeOrder policy attributes).map (attributes[·]?) :=
  toList_permute attributes _ (attributeOrder_perm policy attributes)

theorem isIdentity_attributeOrder_iff : isIdentity (attributeOrder policy attributes) ↔
    attributeOrder policy attributes = List.range attributes.length := by
  have hlength : (attributeOrder policy attributes).length = attributes.length := by
    simpa using (attributeOrder_perm policy attributes).length_eq
  rw [isIdentity, beq_iff_eq, hlength]

/-- Every place has its own attribute. -/
theorem map_getElem?_range (attributes : List Node) :
    (List.range attributes.length).map (attributes[·]?) = attributes.map some := by
  refine List.ext_getElem? fun i => ?_
  rw [List.getElem?_map, List.getElem?_map]
  rcases Nat.lt_or_ge i attributes.length with hi | hi
  · rw [List.getElem?_range hi]
    simp [hi]
  · simp [hi]

/-- An order that leaves everything in its place changes nothing. -/
theorem sortedAttributes_of_isIdentity (h : isIdentity (attributeOrder policy attributes)) :
    sortedAttributes policy attributes = attributes := by
  have hsome := map_some_sortedAttributes policy attributes
  rw [isIdentity_attributeOrder_iff.1 h, map_getElem?_range] at hsome
  exact List.map_injective_iff.2 (Option.some_injective Node) hsome

/-- Attributes in their canonical order stay in it. -/
theorem attributeOrder_sortedAttributes (policy : SpreadPolicy) (attributes : List Node) :
    isIdentity (attributeOrder policy (sortedAttributes policy attributes)) := by
  obtain ⟨names, hslots, hnames⟩ :=
    AttributeSlot.exists_rename policy (attributes.map AttributeSlot.ofNode)
  have hordered : (sortedAttributes policy attributes).map AttributeSlot.ofNode =
      AttributeSlot.rename (attributes.map AttributeSlot.ofNode) names := by
    refine List.map_injective_iff.2 (Option.some_injective AttributeSlot) ?_
    have hsome := congrArg (List.map (Option.map AttributeSlot.ofNode))
      (map_some_sortedAttributes policy attributes)
    rw [List.map_map, List.map_map] at hsome
    rw [← hslots, List.map_map]
    refine hsome.trans (List.map_congr_left fun i _ => ?_)
    rw [Function.comp_apply, List.getElem?_map]
  rw [isIdentity_attributeOrder_iff, attributeOrder, hordered,
    AttributeSlot.canonicalOrder_rename hnames, List.length_map,
    (sortedAttributes_perm policy attributes).length_eq]

/-- A change of the attributes that keeps their slots keeps their order. -/
theorem sortedAttributes_map (policy : SpreadPolicy) {f : Node → Node}
    (hslot : ∀ node ∈ attributes, AttributeSlot.ofNode (f node) = AttributeSlot.ofNode node) :
    attributeOrder policy (attributes.map f) = attributeOrder policy attributes ∧
      sortedAttributes policy (attributes.map f) = (sortedAttributes policy attributes).map f := by
  have horder : attributeOrder policy (attributes.map f) = attributeOrder policy attributes := by
    rw [attributeOrder, attributeOrder, List.map_map]
    exact congrArg _ (List.map_congr_left hslot)
  refine ⟨horder, ?_⟩
  rw [sortedAttributes, horder, ← List.map_toArray, permute_map, Array.toList_map]
  rfl

/-! ## Sorting a tag -/

namespace Rewriting

variable {kind : Kind} {span listSpan : Span} {parts : List Node} {node name types : Node}
  {r : Rewriting}

/-- Sorting a tag brings its attributes in order. -/
theorem sorting_tag :
    sorting policy (.mk .openingTag span [name, types, .mk .list listSpan attributes]) =
      (.mk .openingTag span [name, types, .mk .list listSpan (sortedAttributes policy attributes)],
        sortingChanges policy attributes) := by
  rw [sorting, sortAttributes?, sortingChanges]
  by_cases h : isIdentity (attributeOrder policy attributes)
  · simp only [h, if_true, sortedAttributes_of_isIdentity h]
    rfl
  · simp only [h, if_false, Bool.false_eq_true]
    rfl

/-- Sorting leaves alone what is not a tag. -/
theorem tag_or_sorting_eq (policy : SpreadPolicy) (node : Node) :
    (∃ span name types listSpan attributes,
      node = .mk .openingTag span [name, types, .mk .list listSpan attributes]) ∨
    sorting policy node = (node, 0) := by
  by_cases h : ∃ span name types listSpan attributes,
      node = .mk .openingTag span [name, types, .mk .list listSpan attributes]
  · exact .inl h
  · refine .inr ?_
    have hnone : sortAttributes? policy node = none := by
      unfold sortAttributes?
      split
      · exact absurd ⟨_, _, _, _, _, rfl⟩ h
      · rfl
    rw [sorting, hnone]
    rfl

theorem sorting_of_kind (hkind : node.kind ≠ .openingTag) : sorting policy node = (node, 0) := by
  rcases tag_or_sorting_eq policy node with ⟨_, _, _, _, _, rfl⟩ | heq
  · exact absurd rfl hkind
  · exact heq

theorem sorting_onMarkup (policy : SpreadPolicy) : (sorting policy).OnMarkup where
  kind := by
    intro node
    rcases tag_or_sorting_eq policy node with ⟨_, _, _, _, _, rfl⟩ | heq
    · rw [sorting_tag]
      rfl
    · rw [heq]
  other := by
    intro kind span parts hkind
    refine sorting_of_kind ?_
    rintro rfl
    exact hkind rfl

/-- Sorting keeps the slots of attributes. -/
theorem ofNode_sorting (policy : SpreadPolicy) (node : Node) :
    AttributeSlot.ofNode (sorting policy node).1 = AttributeSlot.ofNode node := by
  rcases tag_or_sorting_eq policy node with ⟨_, _, _, _, _, rfl⟩ | heq
  · rw [sorting_tag]
    rfl
  · rw [heq]

/-- Sorting keeps the attributes of a tag, and so keeps it well formed. -/
theorem wellFormed_sorting (h : node.wellFormed) : (sorting policy node).1.wellFormed := by
  rcases tag_or_sorting_eq policy node with ⟨span, name, types, listSpan, attributes, rfl⟩ | heq
  · have hmem : ∀ item, item ∈ sortedAttributes policy attributes ↔ item ∈ attributes :=
      fun _ => (sortedAttributes_perm policy attributes).mem_iff
    obtain ⟨hadmits, hparts⟩ := Node.wellFormed_mk.1 h
    have hlist := (Node.wellFormed_mk.1 (hparts (.mk .list listSpan attributes) (by simp))).2
    rw [sorting_tag]
    simp only [Kind.admits, List.all_eq_true] at hadmits
    refine Node.wellFormed_mk.2 ⟨?_, ?_⟩
    · simp only [Kind.admits, List.all_eq_true]
      exact fun item hitem => hadmits item ((hmem item).1 hitem)
    · intro part hpart
      simp only [List.mem_cons, List.not_mem_nil, or_false] at hpart
      rcases hpart with rfl | rfl | rfl
      · exact hparts _ (by simp)
      · exact hparts _ (by simp)
      · exact Node.wellFormed_mk.2 ⟨rfl, fun item hitem => hlist item ((hmem item).1 hitem)⟩
  · rwa [heq]

/-- A rewriting of markup does not make parts those of a tag. -/
theorem OnMarkup.tag_of_map (h : r.OnMarkup)
    (hparts : parts.map r.result = [name, types, .mk .list listSpan attributes]) :
    ∃ name types listSpan attributes, parts = [name, types, .mk .list listSpan attributes] := by
  rcases parts with _ | ⟨first, _ | ⟨second, _ | ⟨third, _ | ⟨fourth, rest⟩⟩⟩⟩
  case cons.cons.cons.nil =>
    simp only [List.map_cons, List.map_nil, List.cons.injEq, and_true] at hparts
    obtain ⟨nodes, rfl, -⟩ := h.of_result_eq hparts.2.2 Bool.false_ne_true
    exact ⟨_, _, _, _, rfl⟩
  all_goals simp at hparts

/-- A rewriting of markup that keeps the slots of attributes slides through sorting. -/
theorem sorting_slides (h : r.OnMarkup)
    (hslot : ∀ node, AttributeSlot.ofNode (r.result node) = AttributeSlot.ofNode node)
    (kind : Kind) (span : Span) (parts : List Node) :
    Slides (sorting policy) r kind span parts := by
  have hlist : ∀ listSpan nodes, r.result (.mk .list listSpan nodes) =
      .mk .list listSpan (nodes.map r.result) := fun _ _ => h.result_other Bool.false_ne_true
  have hchanges : ∀ listSpan nodes, r.changes (.mk .list listSpan nodes) =
      (nodes.map r.changes).sum := fun _ _ => h.changes_other Bool.false_ne_true
  by_cases htag : ∃ name types listSpan attributes,
      kind = .openingTag ∧ parts = [name, types, .mk .list listSpan attributes]
  · obtain ⟨name, types, listSpan, attributes, rfl, rfl⟩ := htag
    obtain ⟨horder, hsorted⟩ := sortedAttributes_map policy fun node (_ : node ∈ attributes) =>
      hslot node
    refine ⟨?_, ?_⟩
    · simp only [List.map_cons, List.map_nil, hlist, sorting_tag, hsorted, sortingChanges, horder,
        Node.kind, Node.span, Node.parts]
    · -- Sorting permutes the attributes, so that they have the same changes in sum.
      have hsum := ((sortedAttributes_perm policy attributes).map r.changes).sum_eq
      simp only [sorting_tag, Node.parts, List.map_cons, List.map_nil, hchanges, hsum]
  · have hother : ∀ parts', (∀ name types listSpan attributes, kind = .openingTag →
        parts' ≠ [name, types, .mk .list listSpan attributes]) →
          sorting policy (.mk kind span parts') = (.mk kind span parts', 0) := by
      intro parts' hparts'
      rcases tag_or_sorting_eq policy (.mk kind span parts') with ⟨_, _, _, _, _, heq⟩ | heq
      · cases heq
        exact absurd rfl (hparts' _ _ _ _ rfl)
      · exact heq
    have hbefore := hother parts fun name types listSpan attributes hkind hparts =>
      htag ⟨name, types, listSpan, attributes, hkind, hparts⟩
    have hafter := hother (parts.map r.result) fun name types listSpan attributes hkind hparts => by
      obtain ⟨name, types, listSpan, attributes, hshape⟩ := h.tag_of_map hparts
      exact htag ⟨name, types, listSpan, attributes, hkind, hshape⟩
    refine ⟨?_, ?_⟩
    · rw [hbefore, hafter]
      rfl
    · rw [hbefore]
      rfl

end Rewriting

end JsxTidy
