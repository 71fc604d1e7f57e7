import JsxTidy.Proofs.Tidy.Passes

/-!
# Tags and attributes

Tidying takes every tag and every attribute in a tree to one of the tidied tree, and to each of
these it takes one: `markup_result` and `Program.markup_tidy`. Their order changes, since a tag may
stand in an attribute that is moved.
-/

namespace JsxTidy

open Syntax

variable {policy : SpreadPolicy} {normalize : ClassNormalizer} {o : TidyOptions} {t : ScopeTree}
  {kind : Kind} {span : Span} {parts nodes : List Node} {node statement : Node} {r : Rewriting}
  {p : Program}

/-! ## The markup in a tree -/

namespace Syntax.Node

/-- The tags and attributes in a piece of syntax, outer ones first. -/
def markup (node : Node) : List Node :=
  node.all.filter (·.kind.isTidied)

/-- The nodes of some pieces are those of each of them. -/
theorem allOf_eq (nodes : List Node) : allOf nodes = nodes.flatMap all := by
  induction nodes with
  | nil => rfl
  | cons node rest ih => rw [allOf, ih, List.flatMap_cons]

/-- A node comes before those in its parts. -/
theorem all_mk : (mk kind span parts).all = mk kind span parts :: parts.flatMap all := by
  rw [all, allOf_eq]

/-- It counts as markup if its kind is one that is tidied. -/
theorem markup_eq (node : Node) : node.markup =
    (if node.kind.isTidied then [node] else []) ++ node.parts.flatMap markup := by
  obtain ⟨kind, span, parts⟩ := node
  rw [markup, all_mk, List.filter_cons, List.filter_flatMap]
  show (if kind.isTidied then _ else _) = (if kind.isTidied then _ else _) ++ _
  split <;> rfl

/-- Without such a kind, there is no markup. -/
theorem markup_of_untidied (node : Node) (h : node.every (fun kind _ => !kind.isTidied)) :
    node.markup = [] := by
  induction node with
  | mk kind span parts ih =>
      obtain ⟨hkind, hparts⟩ := every_mk.1 h
      have hinside : parts.flatMap markup = [] :=
        List.flatMap_eq_nil_iff.2 fun part hpart => ih part hpart (hparts part hpart)
      rw [Bool.not_eq_true', ← Bool.not_eq_true] at hkind
      exact (markup_eq _).trans (congrArg₂ _ (if_neg hkind) hinside)

end Syntax.Node

/-! ## Rewriting -/

namespace Rewriting

/-- Whether a rewriting moves the markup in a piece of syntax around. -/
def KeepsMarkup (r : Rewriting) (node : Node) : Prop :=
  ((r node).1.parts.flatMap Node.markup).Perm (node.parts.flatMap Node.markup)

/-- Sorting changes only the order of the markup in a tag. -/
theorem keepsMarkup_sorting (policy : SpreadPolicy) (node : Node) :
    (sorting policy).KeepsMarkup node := by
  rcases tag_or_sorting_eq policy node with ⟨_, name, types, listSpan, nodes, rfl⟩ | heq
  · have hlist : ∀ nodes, (Node.mk .list listSpan nodes).markup = nodes.flatMap Node.markup :=
      fun _ => Node.markup_eq _
    rw [KeepsMarkup, sorting_tag]
    simp only [Node.parts, List.flatMap_cons, List.flatMap_nil, List.append_nil, hlist]
    exact (((sortedAttributes_perm policy nodes).flatMap_right _).append_left _).append_left _
  · rw [KeepsMarkup, heq]

/-- Normalizing changes only texts, in which there is no markup. -/
theorem keepsMarkup_normalizing (h : node.wellFormed) :
    (normalizing normalize).KeepsMarkup node := by
  obtain ⟨kind, span, parts⟩ := node
  by_cases hclass : RewritesClass normalize kind parts
  · obtain ⟨name, value, original, rfl, rfl, hname, hvalue, hchange⟩ := hclass
    have hwell : value.wellFormed := (Node.wellFormed_mk.1 h).2 value (by simp)
    have hnone := value.markup_of_untidied (every_of_staticValue? hwell hvalue)
    have hleaf : (Node.mk (.string (normalize original) false) value.span []).markup = [] := rfl
    rw [KeepsMarkup, normalizing_class hname hvalue hchange]
    simp only [Node.parts, List.flatMap_cons, List.flatMap_nil, hnone, hleaf]
    exact .refl _
  · rw [KeepsMarkup, normalizing_other hclass]

/-- So tidying keeps all markup. -/
theorem keepsMarkup_rewriting (o : TidyOptions) (h : node.wellFormed) :
    o.rewriting.KeepsMarkup node :=
  (keepsMarkup_normalizing (wellFormed_sorting h)).trans (keepsMarkup_sorting o.spreadPolicy node)

end Rewriting

/-- Tidying takes the markup in a piece of syntax to the markup in the tidied piece. -/
theorem Rewriting.markup_result (o : TidyOptions) (node : Node) (h : node.wellFormed) :
    (o.rewriting.result node).markup.Perm (node.markup.map o.rewriting.result) := by
  induction node with
  | mk kind span parts ih =>
      have hparts := (Node.wellFormed_mk.1 h).2
      have hwell := o.rewriting_onMarkup.wellFormed_map (fun _ => o.wellFormed_rewriting) h
      have hinside : ((parts.map o.rewriting.result).flatMap Node.markup).Perm
          ((parts.flatMap Node.markup).map o.rewriting.result) := by
        rw [List.flatMap_map, List.map_flatMap]
        exact List.Perm.flatMap_left _ fun part hpart => ih part hpart (hparts part hpart)
      have hroot := (keepsMarkup_rewriting o hwell).trans hinside
      have hkind := o.rewriting_onMarkup.result_kind (.mk kind span parts)
      rw [Node.markup_eq, Node.markup_eq (.mk kind span parts), hkind, List.map_append]
      refine List.Perm.append (.of_eq ?_) ?_
      · split <;> rfl
      · rwa [result_mk]

/-! ## Programs -/

/-- The tags and attributes in some pieces of syntax, outer ones first. -/
def Syntax.Node.markupOf (nodes : List Node) : List Node :=
  nodes.flatMap markup

/-- Pruning removes none, since imports have none. -/
theorem markup_pruneStatement (hwell : statement.wellFormed) :
    (pruneStatement t statement).toList.flatMap Node.markup = statement.markup := by
  by_cases himport : ∃ isType phase, statement.kind = .importDeclaration isType phase
  · obtain ⟨isType, phase, hkind⟩ := himport
    rw [statement.markup_of_untidied (untidied_of_import hwell hkind), List.flatMap_eq_nil_iff]
    intro kept hkept
    rw [Option.mem_toList] at hkept
    exact kept.markup_of_untidied (untidied_of_import (wellFormed_pruneStatement hwell kept hkept)
      ((kind_of_pruneStatement hkept).trans hkind))
  · have hkept := (pruneStatement_of_kind (t := t) fun isType phase hkind =>
      himport ⟨isType, phase, hkind⟩).1
    rw [hkept, Option.toList_some, List.flatMap_singleton]

/-- Imports hold no markup, so pruning removes none. -/
theorem markupOf_pruneImports (hbody : ∀ statement ∈ nodes, statement.wellFormed) :
    Node.markupOf (pruneImports t nodes) = Node.markupOf nodes := by
  induction nodes with
  | nil => rfl
  | cons statement nodes ih =>
      have hrest := ih fun other hother => hbody other (List.mem_cons_of_mem _ hother)
      rw [Node.markupOf] at hrest
      rw [Node.markupOf, pruneImports_cons, List.flatMap_append, hrest,
        markup_pruneStatement (hbody statement List.mem_cons_self)]
      rfl

theorem Syntax.Node.markupOf_eq (nodes : List Node) :
    markupOf nodes = (allOf nodes).filter (·.kind.isTidied) := by
  rw [allOf_eq, List.filter_flatMap]
  rfl

/-- The markup of a tidied program is that of the program, tidied, in some order. -/
theorem Syntax.Program.markup_tidy (p : Program) (t : ScopeTree) (o : TidyOptions)
    (h : p.wellFormed) :
    (Node.markupOf (p.tidy t o).1.body).Perm
      ((Node.markupOf p.body).map o.rewriting.result) := by
  have hpruned := Pass.pruned_wellFormed t h
  rw [tidy_eq, ← markupOf_pruneImports (Pass.body_wellFormed h), Node.markupOf, Node.markupOf,
    List.flatMap_map, List.map_flatMap]
  exact List.Perm.flatMap_left _ fun statement hstatement =>
    Rewriting.markup_result o statement (hpruned statement hstatement)

end JsxTidy
