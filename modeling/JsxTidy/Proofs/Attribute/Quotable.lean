import JsxTidy.Proofs.Syntax.Legible
import JsxTidy.Proofs.Tidy.Passes

/-!
# Class values that can be written

Tidying puts a string in the place of a class value that changes, and that string is all that can
make a legible program illegible: `legible_tidy_iff`. Sorting moves the attributes of a tag, and
pruning removes imports, which hold none.
-/

namespace JsxTidy

open Syntax

/-- Whether a piece of syntax is no class attribute that gets a text that cannot be written. -/
def Syntax.Kind.rewritesLegibly (normalize : ClassNormalizer) : Kind → List Node → Bool
  | .markupAttribute, [name, value] =>
    !isClassName name || (staticValue? value).all fun original =>
      normalize original == original || Text.isQuotable (normalize original).toList
  | _, _ => true

variable {normalize : ClassNormalizer} {policy : SpreadPolicy} {kind : Kind} {span : Span}
  {parts : List Node} {node : Node} {r : Rewriting} {fits before after : Kind → List Node → Bool}

theorem Syntax.Kind.rewritesLegibly_iff : kind.rewritesLegibly normalize parts ↔
    ∀ name value original, kind = .markupAttribute → parts = [name, value] → isClassName name →
      staticValue? value = some original → normalize original ≠ original →
        Text.isQuotable (normalize original).toList := by
  constructor
  · rintro h name value original rfl rfl hname hvalue hchange
    simpa [rewritesLegibly, hname, hvalue, hchange] using h
  · intro h
    unfold rewritesLegibly
    split
    · rename_i name value
      cases hname : isClassName name with
      | false => rfl
      | true =>
          cases hvalue : staticValue? value with
          | none => rfl
          | some original =>
              by_cases hchange : normalize original = original
              · simp [hchange]
              · simp [h name value original rfl rfl hname hvalue hchange]
    · rfl

/-! ## Sorting and rewriting -/

namespace Rewriting

/-- A test of what comes out is a test of what goes in, when it is so for a piece whose parts are
rewritten already. -/
theorem every_result_iff
    (hroot : ∀ kind span parts, (Node.mk kind span parts).legible →
      ((r (.mk kind span (parts.map r.result))).1.every after ↔
        before kind parts ∧ ∀ part ∈ parts, (r.result part).every after))
    (node : Node) (hnode : node.legible) : (r.result node).every after ↔ node.every before := by
  induction node with
  | mk kind span parts ih =>
      rw [result_mk, hroot kind span parts hnode, Node.every_mk]
      refine and_congr_right fun _ => forall₂_congr fun part hpart => ?_
      exact ih part hpart ((Node.legible_mk.1 hnode).2 part hpart)

/-- A test that does not look at the attributes of a tag is not changed by sorting them. -/
theorem every_sorting (htag : ∀ parts, fits .openingTag parts) (hlist : ∀ parts, fits .list parts)
    (node : Node) : (sorting policy node).1.every fits ↔ node.every fits := by
  rcases tag_or_sorting_eq policy node with ⟨_, _, _, _, attributes, rfl⟩ | heq
  · have hmem : ∀ item, item ∈ sortedAttributes policy attributes ↔ item ∈ attributes :=
      fun _ => (sortedAttributes_perm policy attributes).mem_iff
    rw [sorting_tag]
    simp [Node.every_mk, htag, hlist, hmem]
  · rw [heq]

theorem every_sorting_result_iff (htag : ∀ parts, fits .openingTag parts)
    (hlist : ∀ parts, fits .list parts)
    (hmap : ∀ kind span parts, (Node.mk kind span parts).legible →
      fits kind (parts.map (sorting policy).result) = fits kind parts)
    (h : node.legible) : ((sorting policy).result node).every fits ↔ node.every fits := by
  refine every_result_iff (fun kind span parts hnode => ?_) node h
  rw [every_sorting htag hlist, Node.every_mk, hmap kind span parts hnode]
  simp

/-- Sorting keeps syntax legible. -/
theorem legible_sorting_result (policy : SpreadPolicy) (h : node.legible) :
    ((sorting policy).result node).legible := by
  obtain ⟨hwell, hquotable⟩ := Node.legible_iff.1 h
  refine Node.legible_iff.2 ⟨?_, ?_⟩
  · exact (sorting_onMarkup policy).wellFormed_result (fun _ => wellFormed_sorting) node hwell
  · refine (every_sorting_result_iff (fun _ => rfl) (fun _ => rfl) ?_ h).2 hquotable
    exact fun kind _ parts _ => Kind.isQuotable_map (sorting_onMarkup policy).result_kind kind parts

/-- Whether class values become texts that can be written does not depend on the order of
attributes. -/
theorem rewritesLegibly_sorting_result (policy : SpreadPolicy) (h : node.legible) :
    ((sorting policy).result node).every (Kind.rewritesLegibly normalize) ↔
      node.every (Kind.rewritesLegibly normalize) := by
  refine every_sorting_result_iff (fun _ => rfl) (fun _ => rfl) (fun kind span parts hnode => ?_) h
  have hmarkup := sorting_onMarkup policy
  have hparts := (Node.wellFormed_mk.1 (Node.wellFormed_of_legible hnode)).2
  cases kind with
  | markupAttribute =>
      rcases parts with _ | ⟨name, _ | ⟨value, _ | ⟨_, _⟩⟩⟩
      case cons.cons.nil =>
        simp only [List.map_cons, List.map_nil, Kind.rewritesLegibly,
          isClassName_congr (hmarkup.result_kind name),
          hmarkup.staticValue?_result (hparts value (by simp))]
      all_goals rfl
  | _ => rfl

/-- Rewriting the class values of legible syntax gives legible syntax exactly when each value that
changes becomes a text that can be written. -/
theorem quotable_normalizing_result_iff (h : node.legible) :
    ((normalizing normalize).result node).every Kind.isQuotable ↔
      node.every (Kind.rewritesLegibly normalize) := by
  refine every_result_iff (fun kind span parts hnode => ?_) node h
  have hmarkup := normalizing_onMarkup normalize
  obtain ⟨hfits, hparts⟩ := Node.legible_mk.1 hnode
  have hwell : ∀ part ∈ parts, part.wellFormed :=
    fun part hpart => Node.wellFormed_of_legible (hparts part hpart)
  by_cases hclass : RewritesClass normalize kind parts
  · obtain ⟨name, value, original, rfl, rfl, hname, hvalue, hchange⟩ := hclass
    have hsame := (hmarkup.untouched value (every_of_staticValue? (hwell value (by simp)) hvalue)).1
    have hquotable := (Node.legible_iff.1 (hparts value (by simp))).2
    have hname' : isClassName ((normalizing normalize).result name) := by
      rwa [isClassName_congr (hmarkup.result_kind name)]
    rw [List.map_cons, List.map_cons, List.map_nil, hsame,
      normalizing_class hname' hvalue hchange]
    simp [Node.every_mk, Kind.isQuotable, Kind.rewritesLegibly, hname, hvalue, hchange, hsame,
      hquotable]
  · have hlegibly : kind.rewritesLegibly normalize parts :=
      Kind.rewritesLegibly_iff.2 fun name value original hkind hshape hname hvalue hchange =>
        absurd ⟨name, value, original, hkind, hshape, hname, hvalue, hchange⟩ hclass
    have hquotable : kind.isQuotable parts := (Bool.and_eq_true_iff.1 hfits).2
    rw [normalizing_other (mt (hmarkup.rewritesClass_map hwell).1 hclass), Node.every_mk,
      Kind.isQuotable_map hmarkup.result_kind]
    simp [hlegibly, hquotable]

/-- Tidying legible syntax gives legible syntax exactly when each class value that changes becomes a
text that can be written. -/
theorem legible_rewriting_result_iff (o : TidyOptions) (h : node.legible) :
    (o.rewriting.result node).legible ↔ node.every (Kind.rewritesLegibly o.normalizer) := by
  have hwell := o.wellFormed_result (Node.wellFormed_of_legible h)
  rw [Node.legible_iff, and_iff_right hwell, o.result_rewriting,
    quotable_normalizing_result_iff (legible_sorting_result o.spreadPolicy h),
    rewritesLegibly_sorting_result o.spreadPolicy h]

end Rewriting

/-! ## Tidying -/

/-- An import holds no attribute. -/
theorem every_import {statement : Node} {isType : Bool} {phase : ImportPhase}
    (hwell : statement.wellFormed) (hkind : statement.kind = .importDeclaration isType phase)
    (hfits : ∀ kind parts, kind ≠ .markupAttribute → fits kind parts) : statement.every fits := by
  obtain ⟨_, span, parts⟩ := statement
  cases hkind
  refine Node.every_mono (fun kind parts hpiece => hfits kind parts ?_) _
    (Node.isImportPiece_import hwell)
  rintro rfl
  cases hpiece

theorem rewritesLegibly_of_ne (hkind : kind ≠ .markupAttribute) :
    kind.rewritesLegibly normalize parts := by
  cases kind with
  | markupAttribute => exact absurd rfl hkind
  | _ => rfl

theorem isQuotable_of_ne (hkind : kind ≠ .markupAttribute) : kind.isQuotable parts := by
  cases kind with
  | markupAttribute => exact absurd rfl hkind
  | _ => rfl

/-- Pruning keeps legible statements, and all their attributes. -/
theorem pruneStatement_legible (normalize : ClassNormalizer) (t : ScopeTree) {statement : Node}
    (h : statement.legible) :
    (∀ kept ∈ pruneStatement t statement, kept.legible) ∧
    ((∀ kept ∈ pruneStatement t statement, kept.every (Kind.rewritesLegibly normalize)) ↔
      statement.every (Kind.rewritesLegibly normalize)) := by
  have hwell := Node.wellFormed_of_legible h
  by_cases himport : ∃ isType phase, statement.kind = .importDeclaration isType phase
  · obtain ⟨isType, phase, hkind⟩ := himport
    have hkept : ∀ kept ∈ pruneStatement t statement, kept.wellFormed ∧
        kept.kind = .importDeclaration isType phase := fun kept hkept =>
      ⟨wellFormed_pruneStatement hwell kept hkept, (kind_of_pruneStatement hkept).trans hkind⟩
    refine ⟨fun kept hmem => ?_, iff_of_true (fun kept hmem => ?_) ?_⟩
    · obtain ⟨hwell, hkind⟩ := hkept kept hmem
      exact Node.legible_iff.2 ⟨hwell, every_import hwell hkind fun _ _ => isQuotable_of_ne⟩
    · obtain ⟨hwell, hkind⟩ := hkept kept hmem
      exact every_import hwell hkind fun _ _ => rewritesLegibly_of_ne
    · exact every_import hwell hkind fun _ _ => rewritesLegibly_of_ne
  · have hsame := (pruneStatement_of_kind (t := t)
      fun isType phase hkind => himport ⟨isType, phase, hkind⟩).1
    simp [hsame, h]

/-- Tidying keeps a program well formed. -/
theorem wellFormed_tidy {p : Program} (t : ScopeTree) (o : TidyOptions) (h : p.wellFormed) :
    (p.tidy t o).1.wellFormed := by
  rw [Program.tidy_eq]
  refine Pass.wellFormed_of_body h rfl fun result hresult => ?_
  obtain ⟨kept, hkept, rfl⟩ := List.mem_map.1 hresult
  exact o.wellFormed_result (Pass.pruned_wellFormed t h kept hkept)

/-- Tidying a legible program gives a legible program exactly when each class value that changes
becomes a text that can be written. -/
theorem legible_tidy_iff {p : Program} (t : ScopeTree) (o : TidyOptions) (h : p.legible) :
    (p.tidy t o).1.legible ↔ Node.everyOf (Kind.rewritesLegibly o.normalizer) p.body := by
  have hnodes := Node.everyOf_iff.1 h
  have hbody : ∀ statement ∈ p.body, statement.legible :=
    fun statement hmem => hnodes statement (List.mem_append_right _ hmem)
  have hstatement : ∀ statement ∈ p.body,
      ((∀ kept ∈ pruneStatement t statement, (o.rewriting.result kept).legible) ↔
        statement.every (Kind.rewritesLegibly o.normalizer)) := by
    intro statement hmem
    obtain ⟨hkept, hiff⟩ := pruneStatement_legible o.normalizer t (hbody statement hmem)
    rw [← hiff]
    exact forall₂_congr fun kept hmem => Rewriting.legible_rewriting_result_iff o (hkept kept hmem)
  have hdirectives : ∀ directive ∈ p.directives, directive.legible :=
    fun directive hmem => hnodes directive (List.mem_append_left _ hmem)
  rw [Node.everyOf_iff, ← forall₂_congr hstatement, Program.tidy_eq, Program.legible,
    Node.everyOf_iff, List.forall_mem_append]
  simp only [List.mem_map, pruneImports, List.mem_filterMap]
  constructor
  · rintro ⟨-, hresult⟩ statement hmem kept hkept
    exact hresult _ ⟨kept, ⟨statement, hmem, hkept⟩, rfl⟩
  · refine fun hresult => ⟨hdirectives, ?_⟩
    rintro _ ⟨kept, ⟨statement, hmem, hkept⟩, rfl⟩
    exact hresult statement hmem kept hkept

end JsxTidy
