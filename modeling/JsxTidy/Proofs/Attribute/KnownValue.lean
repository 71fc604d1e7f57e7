import JsxTidy.Proofs.Attribute.InOrder
import JsxTidy.Proofs.Tidy.Counts

/-!
# Known values in stripped syntax

A known value stays known when it is stripped, since no parentheses are in it:
`staticValue?_stripped`. A value that parentheses keep from being known becomes known, and rewriting
markup does not change what it becomes: `staticValue?_stripped_result`. The class attributes of a
stripped program are those of the program, stripped: `classAttributes_stripped`.
-/

namespace JsxTidy

open Syntax

variable {kind : Kind} {span : Span} {parts nodes : List Node} {node value : Node}
  {original : String} {r : Rewriting} {fits : Kind → List Node → Bool}

namespace Syntax

namespace Node

theorem stripped_of_not_isEnclosing (h : ¬ kind.isEnclosing) :
    (mk kind span parts).stripped = mk kind.stripped ⟨0, 0⟩ (parts.map stripped) := by
  rcases stripped_mk kind span parts with heq | ⟨_, _, hkind, _⟩
  · exact heq
  · exact absurd hkind h

@[simp] theorem stripped_string {text : String} {lone : Bool} :
    (mk (.string text lone) span parts).stripped =
      mk (.string text lone) ⟨0, 0⟩ (parts.map stripped) :=
  stripped_of_not_isEnclosing Bool.false_ne_true

@[simp] theorem stripped_quasi {raw cooked : String} :
    (mk (.quasi raw cooked) span parts).stripped =
      mk (.quasi raw cooked) ⟨0, 0⟩ (parts.map stripped) :=
  stripped_of_not_isEnclosing Bool.false_ne_true

@[simp] theorem stripped_template :
    (mk .template span parts).stripped = mk .template ⟨0, 0⟩ (parts.map stripped) :=
  stripped_of_not_isEnclosing Bool.false_ne_true

@[simp] theorem stripped_container :
    (mk .container span parts).stripped = mk .container ⟨0, 0⟩ (parts.map stripped) :=
  stripped_of_not_isEnclosing Bool.false_ne_true

/-- Inside its parentheses stands a piece of syntax that is stripped with its parts. -/
theorem exists_inside (node : Node) : ∃ kind span parts,
    node.stripped = mk kind.stripped ⟨0, 0⟩ (parts.map stripped) ∧
      ∀ fits : Kind → List Node → Bool, (∀ kind parts, kind.isEnclosing → fits kind parts) →
        (node.every fits ↔ (mk kind span parts).every fits) := by
  induction node with
  | mk kind span parts ih =>
      rcases stripped_mk kind span parts with heq | ⟨inner, rfl, hkind, -, heq⟩
      · exact ⟨kind, span, parts, heq, fun _ _ => Iff.rfl⟩
      · obtain ⟨kind', span', parts', hinner, hevery⟩ := ih inner (by simp)
        refine ⟨kind', span', parts', heq.trans hinner, fun fits hfits => ?_⟩
        rw [← hevery fits hfits, every_mk]
        simp [hfits kind [inner] hkind]

end Node

end Syntax

/-! ## Values -/

/-- Whether no markup is in a piece of syntax. -/
def Syntax.Node.isUntidied (node : Node) : Bool :=
  node.every fun kind _ => !kind.isTidied

theorem Syntax.Node.isUntidied_mk : (mk kind span parts).isUntidied ↔
    ¬ kind.isTidied ∧ ∀ part ∈ parts, part.isUntidied := by
  rw [isUntidied, every_mk, Bool.not_eq_true', ← Bool.not_eq_true]
  rfl

theorem quasiText_stripped (h : node.kind.isQuasi) : quasiText node.stripped = quasiText node := by
  obtain ⟨kind, span, parts⟩ := node
  cases kind with
  | quasi raw cooked =>
      rw [Node.stripped_quasi]
      rfl
  | _ => cases h

/-- A known value is known when it is stripped. -/
theorem staticValue?_stripped (hwell : value.wellFormed) (h : staticValue? value = some original) :
    staticValue? value.stripped = some original := by
  rcases staticValue?_eq_some_iff.1 h with
    ⟨lone, span, parts, rfl⟩ | ⟨lone, span, parts, _, rfl⟩ | ⟨quasis, _, _, _, _, hjoin, rfl⟩
  · rw [Node.stripped_string]
    rfl
  · rw [Node.stripped_container, List.map_singleton, Node.stripped_string]
    rfl
  · have htemplate := (Node.wellFormed_mk.1 hwell).2 _ List.mem_cons_self
    have hquasis : ∀ quasi ∈ quasis, quasi.kind.isQuasi :=
      List.all_eq_true.1 (Node.wellFormed_mk.1 htemplate).1
    have htexts : (quasis.map Node.stripped).map quasiText = quasis.map quasiText := by
      rw [List.map_map]
      exact List.map_congr_left fun quasi hquasi => quasiText_stripped (hquasis quasi hquasi)
    rw [Node.stripped_container, List.map_singleton, Node.stripped_template, List.map_cons,
      List.map_singleton, Node.stripped_list, Node.stripped_list, ← hjoin, ← htexts]
    rfl

/-- A piece of a known value is found again in stripped syntax, maybe in parentheses. -/
theorem exists_of_stripped_constant (hwell : node.wellFormed)
    (heq : node.stripped = .mk kind span parts) (hkind : kind.isConstant) :
    ∃ span' before, before.map Node.stripped = parts ∧ (Node.mk kind span' before).wellFormed ∧
      (node.isUntidied ↔ (Node.mk kind span' before).isUntidied) := by
  obtain ⟨kind', span', before, hsame, hevery⟩ := node.exists_inside
  obtain ⟨rfl, -, rfl⟩ := Node.mk.inj (hsame.symm.trans heq)
  have hplain : kind'.stripped = kind' := by
    cases kind' <;> first | rfl | cases hkind
  rw [hplain]
  refine ⟨span', before, rfl, (hevery Kind.admits ?_).1 hwell, hevery _ ?_⟩
  all_goals
    intro kind parts hkind
    cases kind <;> first | rfl | cases hkind

/-- A string or a stretch of a template has no parts. -/
theorem isUntidied_leaf (hwell : (Node.mk kind span parts).wellFormed)
    (hkind : kind.isString ∨ kind.isQuasi) : (Node.mk kind span parts).isUntidied := by
  have hadmits := (Node.wellFormed_mk.1 hwell).1
  cases kind with
  | string | quasi =>
      obtain rfl : parts = [] := List.isEmpty_iff.1 hadmits
      rfl
  | _ => simp [Kind.isString, Kind.isQuasi] at hkind

theorem isUntidied_of_stripped_string {text : String} {lone : Bool} (hwell : node.wellFormed)
    (heq : node.stripped = .mk (.string text lone) span parts) : node.isUntidied := by
  obtain ⟨_, before, -, hinside, hiff⟩ := exists_of_stripped_constant hwell heq rfl
  exact hiff.2 (isUntidied_leaf hinside (.inl rfl))

theorem isUntidied_of_stripped_template {listSpan noneSpan : Span} {quasis : List Node}
    (hwell : node.wellFormed)
    (heq : node.stripped = .mk .template span [.mk .list listSpan quasis, .mk .list noneSpan []]) :
    node.isUntidied := by
  obtain ⟨_, before, hparts, hinside, hiff⟩ := exists_of_stripped_constant hwell heq rfl
  obtain ⟨first, rest, rfl, hfirst, hrest⟩ := List.map_eq_cons_iff.1 hparts
  obtain ⟨second, rfl, hsecond⟩ := List.map_eq_singleton_iff.1 hrest
  obtain ⟨_, quasis, rfl, -⟩ := Node.exists_of_stripped_list hfirst
  obtain ⟨_, none, rfl, hnone⟩ := Node.exists_of_stripped_list hsecond
  obtain rfl := List.map_eq_nil_iff.1 hnone
  obtain ⟨hadmits, hlists⟩ := Node.wellFormed_mk.1 hinside
  have hquasis := (Node.wellFormed_mk.1 (hlists _ List.mem_cons_self)).2
  refine hiff.2 (Node.isUntidied_mk.2 ⟨Bool.false_ne_true, ?_⟩)
  simp only [List.forall_mem_cons]
  refine ⟨Node.isUntidied_mk.2 ⟨Bool.false_ne_true, fun quasi hquasi => ?_⟩, rfl, by simp⟩
  have hkind := List.all_eq_true.1 hadmits quasi hquasi
  obtain ⟨kind, _, _⟩ := quasi
  exact isUntidied_leaf (hquasis _ hquasi) (.inr hkind)

/-- What is known when it is stripped holds no markup. -/
theorem isUntidied_of_staticValue?_stripped (hwell : value.wellFormed)
    (h : staticValue? value.stripped = some original) : value.isUntidied := by
  rcases staticValue?_eq_some_iff.1 h with
    ⟨_, _, _, heq⟩ | ⟨_, _, _, _, heq⟩ | ⟨_, _, _, _, _, -, heq⟩
  · exact isUntidied_of_stripped_string hwell heq
  all_goals
    obtain ⟨_, before, hparts, hinside, hiff⟩ := exists_of_stripped_constant hwell heq rfl
    obtain ⟨inner, rfl, hinner⟩ := List.map_eq_singleton_iff.1 hparts
    have hwell := (Node.wellFormed_mk.1 hinside).2 inner List.mem_cons_self
    refine hiff.2 (Node.isUntidied_mk.2 ⟨Bool.false_ne_true, ?_⟩)
    rw [List.forall_mem_singleton]
  · exact isUntidied_of_stripped_string hwell hinner
  · exact isUntidied_of_stripped_template hwell hinner

namespace Rewriting.OnMarkup

/-- What becomes a piece without markup was one. -/
theorem isUntidied_of_result (h : r.OnMarkup) (node : Node) (hresult : (r.result node).isUntidied) :
    node.isUntidied := by
  induction node with
  | mk kind span parts ih =>
      have hkind : ¬ kind.isTidied := by
        have hroot := h.result_kind (.mk kind span parts)
        generalize r.result (.mk kind span parts) = result at hroot hresult
        obtain ⟨kind', span', parts'⟩ := result
        obtain rfl : kind' = kind := hroot
        exact (Node.isUntidied_mk.1 hresult).1
      rw [h.result_other hkind, Node.isUntidied_mk, List.forall_mem_map] at hresult
      exact Node.isUntidied_mk.2 ⟨hkind, fun part hpart => ih part hpart (hresult.2 part hpart)⟩

/-- What a value becomes when it is stripped is not changed by a rewriting of markup. -/
theorem staticValue?_stripped_result (h : r.OnMarkup) (hwell : value.wellFormed)
    (hresult : (r.result value).wellFormed) :
    staticValue? (r.result value).stripped = staticValue? value.stripped := by
  by_cases hvalue : value.isUntidied
  · rw [(h.untouched value hvalue).1]
  · have hnone : ∀ other : Node, other.wellFormed → ¬ other.isUntidied →
        staticValue? other.stripped = none := fun other hother huntidied =>
      Option.eq_none_iff_forall_ne_some.2 fun original hsome =>
        huntidied (isUntidied_of_staticValue?_stripped hother hsome)
    rw [hnone value hwell hvalue, hnone _ hresult (mt (h.isUntidied_of_result value) hvalue)]

end Rewriting.OnMarkup

/-! ## Class attributes -/

theorem Syntax.Node.isClassAttribute_stripped (node : Node) :
    node.stripped.isClassAttribute = node.isClassAttribute := by
  rw [Bool.eq_iff_iff, isClassAttribute_iff, isClassAttribute_iff, AttributeSlot.ofNode_stripped]

/-- The class attributes in stripped syntax are those in the syntax, stripped. -/
theorem Syntax.Node.classAttributes_stripped (node : Node) :
    node.stripped.all.filter isClassAttribute =
      (node.all.filter isClassAttribute).map stripped := by
  induction node with
  | mk kind span parts ih =>
      have hinside : (parts.map stripped).flatMap (fun part => part.all.filter isClassAttribute) =
          (parts.flatMap fun part => part.all.filter isClassAttribute).map stripped := by
        rw [List.flatMap_map, List.map_flatMap]
        exact List.flatMap_congr ih
      rcases stripped_mk kind span parts with heq | ⟨inner, rfl, hkind, -, heq⟩
      · have hsame := isClassAttribute_stripped (mk kind span parts)
        rw [all_mk, List.filter_cons, List.filter_flatMap, ← hsame, heq, all_mk, List.filter_cons,
          List.filter_flatMap, hinside]
        split
        · rw [List.map_cons, heq]
        · rfl
      · have hother : ¬ (mk kind span [inner]).isClassAttribute := by
          cases kind <;> first | exact Bool.false_ne_true | cases hkind
        rw [heq, all_mk, List.filter_cons_of_neg hother, List.flatMap_singleton, ih inner (by simp)]

/-- The class attributes of a stripped program are those of the program, stripped. -/
theorem Syntax.Program.classAttributes_stripped (p : Program) :
    p.stripped.classAttributes = p.classAttributes.map Node.stripped := by
  rw [classAttributes, classAttributes, Node.allOf_eq, Node.allOf_eq, List.filter_flatMap,
    List.filter_flatMap, stripped, List.flatMap_map, List.map_flatMap]
  exact List.flatMap_congr fun node _ => node.classAttributes_stripped

end JsxTidy
