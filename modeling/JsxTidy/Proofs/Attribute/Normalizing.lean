import JsxTidy.Proofs.Attribute.Sorting

/-!
# Rewriting class values

A class attribute whose value is known and changes gets a string as its value (`normalizing_class`),
and nothing else is rewritten. The slots of attributes stay what they are. A known value consists
of literals, which a rewriting of markup does not touch; so rewriting class values slides through
sorting and sorting slides through it.
-/

namespace JsxTidy

open Syntax

variable {normalize : ClassNormalizer} {policy : SpreadPolicy} {kind : Kind}
  {span : Span} {parts : List Node} {node name value : Node} {r : Rewriting} {original : String}

/-! ## Known values -/

theorem isClassName_congr {other : Node} (h : other.kind = name.kind) :
    isClassName other = isClassName name := by
  obtain ⟨kind, _, _⟩ := name
  obtain ⟨_, _, _⟩ := other
  cases h
  cases kind <;> rfl

theorem quasiText_congr {other : Node} (h : other.kind = node.kind) :
    quasiText other = quasiText node := by
  obtain ⟨kind, _, _⟩ := node
  obtain ⟨_, _, _⟩ := other
  cases h
  cases kind <;> rfl

theorem staticValue?_eq_some_iff : staticValue? value = some original ↔
    (∃ lone span parts, value = .mk (.string original lone) span parts) ∨
    (∃ lone span parts containerSpan,
      value = .mk .container containerSpan [.mk (.string original lone) span parts]) ∨
    (∃ quasis containerSpan templateSpan span span', String.join (quasis.map quasiText) = original ∧
      value = .mk .container containerSpan
        [.mk .template templateSpan [.mk .list span quasis, .mk .list span' []]]) := by
  constructor
  · intro h
    unfold staticValue? at h
    split at h
    · cases h
      exact .inl ⟨_, _, _, rfl⟩
    · cases h
      exact .inr (.inl ⟨_, _, _, _, rfl⟩)
    · cases h
      exact .inr (.inr ⟨_, _, _, _, _, rfl, rfl⟩)
    · cases h
  · rintro (⟨_, _, _, rfl⟩ | ⟨_, _, _, _, rfl⟩ | ⟨_, _, _, _, _, rfl, rfl⟩) <;> rfl

/-- Whether a kind can be in a known value. -/
def Syntax.Kind.isConstant : Kind → Bool
  | .string .. | .container | .template | .list | .quasi .. => true
  | _ => false

/-- A known value consists of literals. -/
theorem every_isConstant_of_staticValue? (hwell : value.wellFormed)
    (h : staticValue? value = some original) : value.every fun kind _ => kind.isConstant := by
  have hleaf : ∀ {kind : Kind} {span : Span} {parts : List Node}, kind.isConstant →
      parts.isEmpty → Node.every (fun kind _ => kind.isConstant) (.mk kind span parts) := by
    intro kind span parts hkind hparts
    rw [List.isEmpty_iff] at hparts
    subst hparts
    exact Node.every_mk.2 ⟨hkind, by simp⟩
  rcases staticValue?_eq_some_iff.1 h with
    ⟨lone, span, parts, rfl⟩ | ⟨lone, span, parts, _, rfl⟩ | ⟨quasis, _, _, span, span', -, rfl⟩
  · exact hleaf rfl (Node.wellFormed_mk.1 hwell).1
  · have hstring := (Node.wellFormed_mk.1 hwell).2 _ List.mem_cons_self
    refine Node.every_mk.2 ⟨rfl, ?_⟩
    rw [List.forall_mem_singleton]
    exact hleaf rfl (Node.wellFormed_mk.1 hstring).1
  · have htemplate := (Node.wellFormed_mk.1 hwell).2 _ List.mem_cons_self
    obtain ⟨hquasis, hlists⟩ := Node.wellFormed_mk.1 htemplate
    have hlist := (Node.wellFormed_mk.1 (hlists _ List.mem_cons_self)).2
    have hquasi : ∀ quasi ∈ quasis, Node.every (fun kind _ => kind.isConstant) quasi := by
      intro quasi hmem
      have hkind : quasi.kind.isQuasi := List.all_eq_true.1 hquasis quasi hmem
      have hwell := hlist quasi hmem
      obtain ⟨kind, span, parts⟩ := quasi
      cases kind with
      | quasi raw cooked => exact hleaf rfl (Node.wellFormed_mk.1 hwell).1
      | _ => cases hkind
    refine Node.every_mk.2 ⟨rfl, ?_⟩
    simp only [List.mem_singleton, forall_eq]
    refine Node.every_mk.2 ⟨rfl, ?_⟩
    simp only [List.mem_cons, List.not_mem_nil, or_false, forall_eq_or_imp, forall_eq]
    exact ⟨Node.every_mk.2 ⟨rfl, hquasi⟩, hleaf rfl rfl⟩

theorem every_of_staticValue? (hwell : value.wellFormed) (h : staticValue? value = some original) :
    value.every fun kind _ => !kind.isTidied := by
  refine Node.every_mono (fun kind _ hkind => ?_) value (every_isConstant_of_staticValue? hwell h)
  cases kind <;> first | rfl | cases hkind

namespace Rewriting

/-- What is known about a value does not change when markup is rewritten in it. -/
theorem OnMarkup.staticValue?_result (h : r.OnMarkup) (hwell : value.wellFormed) :
    staticValue? (r.result value) = staticValue? value := by
  cases hvalue : staticValue? value with
  | some original => rw [(h.untouched value (every_of_staticValue? hwell hvalue)).1, hvalue]
  | none =>
      rw [Option.eq_none_iff_forall_not_mem]
      intro original hresult
      refine Option.some_ne_none original ?_
      rw [← hvalue, eq_comm, staticValue?_eq_some_iff]
      rcases staticValue?_eq_some_iff.1 hresult with
        ⟨lone, span, parts, heq⟩ | ⟨lone, span, parts, _, heq⟩ |
          ⟨quasis, _, _, span, span', hjoin, heq⟩
      · obtain ⟨_, rfl, -⟩ := h.of_result_eq heq Bool.false_ne_true
        exact .inl ⟨_, _, _, rfl⟩
      · obtain ⟨before, rfl, hparts⟩ := h.of_result_eq heq Bool.false_ne_true
        obtain ⟨inner, rfl, hinner⟩ := List.map_eq_singleton_iff.1 hparts
        obtain ⟨_, rfl, -⟩ := h.of_result_eq hinner Bool.false_ne_true
        exact .inr (.inl ⟨_, _, _, _, rfl⟩)
      · obtain ⟨before, rfl, hparts⟩ := h.of_result_eq heq Bool.false_ne_true
        obtain ⟨inner, rfl, hinner⟩ := List.map_eq_singleton_iff.1 hparts
        obtain ⟨lists, rfl, hlists⟩ := h.of_result_eq hinner Bool.false_ne_true
        obtain ⟨first, second, rfl⟩ : ∃ first second, lists = [first, second] := by
          rw [← List.length_eq_two, ← List.length_map r.result, hlists]
          rfl
        simp only [List.map_cons, List.map_nil, List.cons.injEq, and_true] at hlists
        obtain ⟨quasis, rfl, rfl⟩ := h.of_result_eq hlists.1 Bool.false_ne_true
        obtain ⟨none, rfl, hnone⟩ := h.of_result_eq hlists.2 Bool.false_ne_true
        rw [List.map_eq_nil_iff] at hnone
        subst hnone
        refine .inr (.inr ⟨_, _, _, _, _, ?_, rfl⟩)
        rw [← hjoin, List.map_map]
        exact congrArg _ (List.map_congr_left fun quasi _ =>
          (quasiText_congr (h.result_kind quasi)).symm)

/-! ## Rewriting a class attribute -/

/-- Whether a piece of some kind with some parts is a class attribute whose known value changes. -/
def RewritesClass (normalize : ClassNormalizer) (kind : Kind) (parts : List Node) : Prop :=
  ∃ name value original, kind = .markupAttribute ∧ parts = [name, value] ∧ isClassName name ∧
    staticValue? value = some original ∧ normalize original ≠ original

/-- A class attribute whose known value changes gets a string as its value. -/
theorem normalizing_class (hname : isClassName name) (hvalue : staticValue? value = some original)
    (hchange : normalize original ≠ original) :
    normalizing normalize (.mk .markupAttribute span [name, value]) =
      (.mk .markupAttribute span
        [name, .mk (.string (normalize original) false) value.span []], ⟨0, 0, 1⟩) := by
  simp [normalizing, normalizeClass?, hname, hvalue, hchange]

/-- Nothing else is rewritten. -/
theorem normalizing_other (h : ¬ RewritesClass normalize kind parts) :
    normalizing normalize (.mk kind span parts) = (.mk kind span parts, 0) := by
  have hnone : normalizeClass? normalize (.mk kind span parts) = none := by
    unfold normalizeClass?
    split
    · rename_i name value heq
      cases heq
      split
      · split
        · rename_i original hvalue
          by_cases hchange : normalize original = original
          · exact if_pos hchange
          · exact absurd ⟨_, _, _, rfl, rfl, ‹_›, hvalue, hchange⟩ h
        · rfl
      · rfl
    · rfl
  rw [normalizing, hnone]
  rfl

theorem normalizing_of_kind (hkind : node.kind ≠ .markupAttribute) :
    normalizing normalize node = (node, 0) := by
  obtain ⟨kind, span, parts⟩ := node
  refine normalizing_other ?_
  rintro ⟨_, _, _, rfl, -⟩
  exact hkind rfl

theorem normalizing_onMarkup (normalize : ClassNormalizer) : (normalizing normalize).OnMarkup where
  kind := by
    intro node
    obtain ⟨kind, span, parts⟩ := node
    by_cases h : RewritesClass normalize kind parts
    · obtain ⟨name, value, original, rfl, rfl, hname, hvalue, hchange⟩ := h
      rw [normalizing_class hname hvalue hchange]
      rfl
    · rw [normalizing_other h]
  other := by
    intro kind span parts hkind
    refine normalizing_of_kind ?_
    rintro rfl
    exact hkind rfl

/-- An attribute stays well formed when its value becomes a string. -/
theorem wellFormed_normalizing (h : node.wellFormed) :
    (normalizing normalize node).1.wellFormed := by
  obtain ⟨kind, span, parts⟩ := node
  by_cases hclass : RewritesClass normalize kind parts
  · obtain ⟨name, value, original, rfl, rfl, hname, hvalue, hchange⟩ := hclass
    obtain ⟨hadmits, hparts⟩ := Node.wellFormed_mk.1 h
    rw [normalizing_class hname hvalue hchange]
    refine Node.wellFormed_mk.2 ⟨?_, ?_⟩
    · simp only [Kind.admits, Bool.and_eq_true] at hadmits ⊢
      exact ⟨hadmits.1, rfl⟩
    · intro part hpart
      simp only [List.mem_cons, List.not_mem_nil, or_false] at hpart
      rcases hpart with rfl | rfl
      · exact hparts _ List.mem_cons_self
      · exact Node.wellFormed_mk.2 ⟨rfl, by simp⟩
  · rwa [normalizing_other hclass]

/-- Rewriting class values keeps the slots of attributes. -/
theorem ofNode_normalizing (normalize : ClassNormalizer) (node : Node) :
    AttributeSlot.ofNode (normalizing normalize node).1 = AttributeSlot.ofNode node := by
  obtain ⟨kind, span, parts⟩ := node
  by_cases h : RewritesClass normalize kind parts
  · obtain ⟨name, value, original, rfl, rfl, hname, hvalue, hchange⟩ := h
    rw [normalizing_class hname hvalue hchange]
    obtain ⟨nameKind, nameSpan, nameParts⟩ := name
    cases nameKind <;> rfl
  · rw [normalizing_other h]

/-- The slot of an attribute is that of its kind and the kind of its first part. -/
theorem OnMarkup.ofNode_result (h : r.OnMarkup)
    (hslot : ∀ node, AttributeSlot.ofNode (r node).1 = AttributeSlot.ofNode node) (node : Node) :
    AttributeSlot.ofNode (r.result node) = AttributeSlot.ofNode node := by
  obtain ⟨kind, span, parts⟩ := node
  rw [result_mk, hslot]
  cases kind with
  | markupAttribute =>
      cases parts with
      | nil => rfl
      | cons first rest =>
          obtain ⟨firstKind, firstSpan, firstParts⟩ := first
          have hfirst := h.result_kind (.mk firstKind firstSpan firstParts)
          rw [List.map_cons]
          generalize r.result (.mk firstKind firstSpan firstParts) = result at hfirst
          obtain ⟨resultKind, resultSpan, resultParts⟩ := result
          cases hfirst
          cases firstKind <;> rfl
  | _ => rfl

/-- Whether a class value changes is not changed by a rewriting of markup. -/
theorem OnMarkup.rewritesClass_map (h : r.OnMarkup) (hwell : ∀ part ∈ parts, part.wellFormed) :
    RewritesClass normalize kind (parts.map r.result) ↔ RewritesClass normalize kind parts := by
  constructor
  · rintro ⟨name', value', original, rfl, hshape, hname, hvalue, hchange⟩
    obtain ⟨name, value, rfl⟩ : ∃ name value, parts = [name, value] := by
      rw [← List.length_eq_two, ← List.length_map r.result, hshape]
      rfl
    simp only [List.map_cons, List.map_nil, List.cons.injEq, and_true] at hshape
    obtain ⟨rfl, rfl⟩ := hshape
    rw [isClassName_congr (h.result_kind name)] at hname
    rw [h.staticValue?_result (hwell value (by simp))] at hvalue
    exact ⟨name, value, original, rfl, rfl, hname, hvalue, hchange⟩
  · rintro ⟨name, value, original, rfl, rfl, hname, hvalue, hchange⟩
    refine ⟨r.result name, r.result value, original, rfl, rfl, ?_, ?_, hchange⟩
    · rwa [isClassName_congr (h.result_kind name)]
    · rwa [h.staticValue?_result (hwell value (by simp))]

/-- A rewriting of markup slides through rewriting the class values of well-formed syntax. -/
theorem normalizing_slides (h : r.OnMarkup) (hwell : (Node.mk kind span parts).wellFormed) :
    Slides (normalizing normalize) r kind span parts := by
  have hparts := (Node.wellFormed_mk.1 hwell).2
  by_cases hclass : RewritesClass normalize kind parts
  · obtain ⟨name, value, original, rfl, rfl, hname, hvalue, hchange⟩ := hclass
    have hvalueWell : value.wellFormed := hparts value (by simp)
    obtain ⟨hsame, hnone⟩ := h.untouched value (every_of_staticValue? hvalueWell hvalue)
    have hname' : isClassName (r.result name) := by
      rwa [isClassName_congr (h.result_kind name)]
    have hleaf := h.untouched (.mk (.string (normalize original) false) value.span []) rfl
    refine ⟨?_, ?_⟩
    · rw [List.map_cons, List.map_cons, List.map_nil, hsame,
        normalizing_class hname' hvalue hchange, normalizing_class hname hvalue hchange]
      refine Prod.ext (congrArg (Node.mk .markupAttribute span) ?_) rfl
      exact congrArg (fun leaf => [r.result name, leaf]) hleaf.1.symm
    · rw [normalizing_class hname hvalue hchange]
      simp only [Node.parts, List.map_cons, List.map_nil, hleaf.2, hnone]
  · have hafter := mt (h.rewritesClass_map hparts).1 hclass
    refine ⟨?_, ?_⟩
    · rw [normalizing_other hclass, normalizing_other hafter]
      rfl
    · rw [normalizing_other hclass]
      rfl

end Rewriting

end JsxTidy
