import JsxTidy.Proofs.Tidy.Markup
import JsxTidy.Proofs.Tidy.Tidied

/-!
# The counters of changes

The counters say exactly what has changed (`tidy_counts`). They count the specifiers that are gone,
the tags whose attributes have changed their order, and the class attributes whose known value has
changed, and they are zero when the program is the same. A class attribute whose value is not known
is not counted, even if a tag in its value changes: `nested_class_counted_once`.
-/

namespace JsxTidy

open Syntax

variable {policy : SpreadPolicy} {normalize : ClassNormalizer} {o : TidyOptions} {t : ScopeTree}
  {kind : Kind} {span : Span} {parts nodes : List Node} {node : Node} {r : Rewriting}
  {fits : Kind → List Node → Bool} {p : Program}

/-- Changes of markup are added up by what they change. -/
theorem Changes.sum_markup {α : Type} (tags classes : α → Nat) (xs : List α) :
    (xs.map fun x => (⟨0, tags x, classes x⟩ : Changes)).sum =
      ⟨0, (xs.map tags).sum, (xs.map classes).sum⟩ := by
  induction xs with
  | nil => rfl
  | cons x xs ih =>
      rw [List.map_cons, List.sum_cons, ih]
      ext <;> simp

/-! ## Pieces that fail a test -/

namespace Syntax.Node

/-- How many pieces of syntax in one fail a test of their kind and parts. -/
def misfits (fits : Kind → List Node → Bool) (node : Node) : Nat :=
  node.all.countP fun piece => !fits piece.kind piece.parts

/-- A node does not fit by itself or because of its parts. -/
theorem misfits_mk : (mk kind span parts).misfits fits =
    (parts.map (misfits fits)).sum + if fits kind parts then 0 else 1 := by
  rw [misfits, all_mk, List.countP_cons, List.countP_flatMap]
  cases hfits : fits kind parts <;> simp [Node.kind, Node.parts, hfits] <;> rfl

/-- A piece in which nothing fails a test is one all of which passes it. -/
theorem misfits_eq_zero_iff (node : Node) : node.misfits fits = 0 ↔ node.every fits := by
  induction node with
  | mk kind span parts ih =>
      rw [misfits_mk, every_mk, Nat.add_eq_zero_iff, List.sum_eq_zero_iff_forall_eq_nat,
        List.forall_mem_map, forall₂_congr ih, and_comm]
      simp

/-- A test that all pieces in one pass is passed by all pieces in each of them. -/
theorem every_of_mem_all (node : Node) (h : node.every fits) :
    ∀ piece ∈ node.all, piece.every fits := by
  induction node with
  | mk kind span parts ih =>
      intro piece hpiece
      rw [all_mk, List.mem_cons, List.mem_flatMap] at hpiece
      rcases hpiece with rfl | ⟨part, hpart, hpiece⟩
      · exact h
      · exact ih part hpart ((every_mk.1 h).2 part hpart) piece hpiece

end Syntax.Node

/-! ## What one piece adds -/

namespace Rewriting

/-- Sorting counts a tag exactly when it was not in order. -/
theorem snd_sorting : (sorting policy (.mk kind span parts)).2 =
    if kind.inOrder policy parts then 0 else ⟨0, 1, 0⟩ := by
  split
  · rename_i horder
    rw [sorting_eq_iff.2 horder]
  · rename_i horder
    rcases tag_or_sorting_eq policy (.mk kind span parts) with ⟨_, _, _, _, nodes, heq⟩ | heq
    · cases heq
      rw [sorting_tag, sortingChanges]
      exact if_neg horder
    · exact absurd (sorting_eq_iff.1 heq) horder

/-- Normalizing counts a value exactly when it was not normal. -/
theorem snd_normalizing : (normalizing normalize (.mk kind span parts)).2 =
    if kind.isNormal normalize parts then 0 else ⟨0, 0, 1⟩ := by
  split
  · rename_i hnormal
    rw [normalizing_other (Kind.isNormal_iff.1 hnormal)]
  · rename_i hnormal
    obtain ⟨name, value, original, rfl, rfl, hname, hvalue, hchange⟩ :=
      not_not.1 (mt Kind.isNormal_iff.2 hnormal)
    rw [normalizing_class hname hvalue hchange]

end Rewriting

namespace TidyOptions

/-- Tidying counts both. -/
theorem snd_rewriting : (o.rewriting (.mk kind span parts)).2 =
    (if kind.inOrder o.spreadPolicy parts then 0 else ⟨0, 1, 0⟩) +
      if kind.isNormal o.normalizer parts then 0 else ⟨0, 0, 1⟩ := by
  -- A tag is no class attribute, and any other piece is not sorted.
  by_cases hkind : kind = .openingTag
  · subst hkind
    rw [o.rewriting_of_tag rfl, Rewriting.snd_sorting]
    exact (add_zero _).symm
  · have hsame :
        Rewriting.sorting o.spreadPolicy (.mk kind span parts) = (.mk kind span parts, 0) :=
      Rewriting.sorting_of_kind hkind
    have hnormalizing : o.rewriting (.mk kind span parts) =
        Rewriting.normalizing o.normalizer (.mk kind span parts) :=
      o.rewriting_of_ne_tag hkind
    rw [hnormalizing, Rewriting.snd_normalizing, if_pos (Rewriting.sorting_eq_iff.1 hsame),
      zero_add]

/-- The changes in a piece of syntax are its tags that are out of order, and its class attributes
that are not in normal form. -/
theorem changes_eq (o : TidyOptions) (node : Node) (h : node.wellFormed) :
    o.rewriting.changes node = ⟨0, node.misfits (Kind.inOrder o.spreadPolicy),
      node.misfits (Kind.isNormal o.normalizer)⟩ := by
  induction node with
  | mk kind span parts ih =>
      have hparts := (Node.wellFormed_mk.1 h).2
      have hinside : parts.map o.rewriting.changes = parts.map fun part =>
          ⟨0, part.misfits (Kind.inOrder o.spreadPolicy),
            part.misfits (Kind.isNormal o.normalizer)⟩ :=
        List.map_congr_left fun part hpart => ih part hpart (hparts part hpart)
      -- The parts are rewritten first, which changes neither test of the piece itself.
      have horder : kind.inOrder o.spreadPolicy (parts.map o.rewriting.result) ↔ _ :=
        o.rewriting_onMarkup.inOrder_map o.ofNode_result
      have hnormal : kind.isNormal o.normalizer (parts.map o.rewriting.result) ↔ _ :=
        o.rewriting_onMarkup.isNormal_map hparts
      rw [Rewriting.changes_mk, hinside, Changes.sum_markup, snd_rewriting, Node.misfits_mk,
        Node.misfits_mk]
      simp only [horder, hnormal]
      split <;> split <;> rfl

end TidyOptions

/-! ## Tags and class attributes -/

/-- Whether a kind is that of tags. -/
def Syntax.Kind.isTag : Kind → Bool
  | .openingTag => true
  | _ => false

/-- Whether a piece of syntax is a class attribute. -/
def Syntax.Node.isClassAttribute : Node → Bool
  | .mk .markupAttribute _ (name :: _) => isClassName name
  | _ => false

/-- The value of an attribute, if it is known without running the program. -/
def Syntax.Node.knownValue? : Node → Option String
  | .mk .markupAttribute _ [_, value] => staticValue? value
  | _ => .none

/-- The tags of a program, outer ones first. -/
def Syntax.Program.tags (p : Program) : List Node :=
  (Node.allOf p.body).filter (·.kind.isTag)

/-- The class attributes of a program, outer ones first. -/
def Syntax.Program.classAttributes (p : Program) : List Node :=
  (Node.allOf p.body).filter Node.isClassAttribute

/-- A tag has a name, type arguments and a list of attributes. -/
theorem Syntax.Node.exists_of_isTag (htag : node.kind.isTag) (h : node.wellFormed) :
    ∃ span name types listSpan nodes,
      node = .mk .openingTag span [name, types, .mk .list listSpan nodes] := by
  obtain ⟨kind, span, parts⟩ := node
  have hkind : kind = .openingTag := by
    cases kind <;> first | rfl | cases htag
  subst hkind
  have hadmits := (wellFormed_mk.1 h).1
  unfold Kind.admits at hadmits
  split at hadmits <;> simp_all

/-- An attribute of classes has a name that says so, and a value. -/
theorem Syntax.Node.exists_of_isClassAttribute (hclass : node.isClassAttribute)
    (h : node.wellFormed) : ∃ span name value,
      node = .mk .markupAttribute span [name, value] ∧ isClassName name := by
  unfold isClassAttribute at hclass
  split at hclass
  · rename_i span name rest
    have hadmits := (wellFormed_mk.1 h).1
    rcases rest with _ | ⟨value, _ | ⟨_, _⟩⟩
    · cases hadmits
    · exact ⟨span, name, value, rfl, hclass⟩
    · cases hadmits
  · cases hclass

/-- The two names of such attributes are `className` and `class`. -/
theorem Syntax.Node.isClassAttribute_iff : node.isClassAttribute ↔
    AttributeSlot.ofNode node = .named "className" ∨
      AttributeSlot.ofNode node = .named "class" := by
  constructor
  · intro h
    unfold isClassAttribute isClassName at h
    split at h
    · split at h
      · rw [Bool.or_eq_true, beq_iff_eq, beq_iff_eq] at h
        exact h.imp (congrArg AttributeSlot.named) (congrArg AttributeSlot.named)
      · cases h
    · cases h
  · intro h
    unfold AttributeSlot.ofNode at h
    split at h
    · rcases h with h | h <;> cases h <;> rfl
    · simp at h
    · simp at h

theorem Syntax.Kind.isTidied_of_isTag (h : kind.isTag) : kind.isTidied := by
  cases kind <;> first | rfl | cases h

/-- Only a tag can be out of order. -/
theorem Syntax.Kind.inOrder_of_not_isTag (h : ¬ kind.isTag) : kind.inOrder policy parts := by
  refine Kind.inOrder_iff.2 ?_
  rintro _ _ _ _ rfl
  exact absurd rfl h

theorem Syntax.Node.isTidied_of_isClassAttribute (h : node.isClassAttribute) :
    node.kind.isTidied := by
  unfold isClassAttribute at h
  split at h
  · rfl
  · cases h

/-- Only an attribute of classes can have a value that is not normal. -/
theorem Syntax.Node.isNormal_of_not_isClassAttribute (h : ¬ node.isClassAttribute) :
    node.kind.isNormal normalize node.parts := by
  obtain ⟨kind, span, parts⟩ := node
  refine Kind.isNormal_iff.2 ?_
  rintro ⟨name, value, _, hkind, hparts, hname, -⟩
  cases hkind
  cases hparts
  exact h hname

/-- Attributes stay as they are exactly when their order is the one in which they stand. -/
theorem sortedAttributes_eq_iff :
    sortedAttributes policy nodes = nodes ↔ isIdentity (attributeOrder policy nodes) := by
  refine ⟨fun h => ?_, sortedAttributes_of_isIdentity⟩
  rw [← h]
  exact attributeOrder_sortedAttributes policy nodes

namespace TidyOptions

/-- Tidying a tag sorts its attributes. -/
theorem result_tag (o : TidyOptions) {name types : Node} {listSpan : Span} :
    o.rewriting.result (.mk .openingTag span [name, types, .mk .list listSpan nodes]) =
      .mk .openingTag span [o.rewriting.result name, o.rewriting.result types,
        .mk .list listSpan (sortedAttributes o.spreadPolicy (nodes.map o.rewriting.result))] := by
  have hlist : o.rewriting.result (.mk .list listSpan nodes) =
      .mk .list listSpan (nodes.map o.rewriting.result) :=
    o.rewriting_onMarkup.result_other Bool.false_ne_true
  rw [Rewriting.result_mk, List.map_cons, List.map_cons, List.map_singleton, hlist, rewriting,
    Rewriting.andThen_of_idle_second, Rewriting.sorting_tag]
  rw [Rewriting.sorting_tag]
  exact Rewriting.normalizing_of_kind Kind.noConfusion

/-- The attributes of a tag are in order exactly when tidying keeps their order. -/
theorem inOrder_iff (htag : node.kind.isTag) (h : node.wellFormed) :
    node.kind.inOrder o.spreadPolicy node.parts ↔
      (o.rewriting.result node).attributes = node.attributes.map o.rewriting.result := by
  obtain ⟨span, name, types, listSpan, nodes, rfl⟩ := Node.exists_of_isTag htag h
  have horder := (sortedAttributes_map o.spreadPolicy fun node (_ : node ∈ nodes) =>
    o.ofNode_result node).1
  rw [o.result_tag]
  show isIdentity (attributeOrder o.spreadPolicy nodes) ↔
    sortedAttributes o.spreadPolicy (nodes.map o.rewriting.result) = nodes.map o.rewriting.result
  rw [sortedAttributes_eq_iff, horder]

/-- Tidying an attribute rewrites its value if it is a class. -/
theorem result_attribute (o : TidyOptions) :
    o.rewriting.result (.mk .markupAttribute span parts) =
      (Rewriting.normalizing o.normalizer
        (.mk .markupAttribute span (parts.map o.rewriting.result))).1 := by
  rw [Rewriting.result_mk, rewriting,
    Rewriting.andThen_of_idle_first (Rewriting.sorting_of_kind Kind.noConfusion)]

/-- A class value is in normal form exactly when tidying keeps it, as far as it is known, and then
nothing changes but what stands in the attribute. -/
theorem isNormal_iff (hclass : node.isClassAttribute) (h : node.wellFormed) :
    (node.kind.isNormal o.normalizer node.parts ↔
      (o.rewriting.result node).knownValue? = node.knownValue?) ∧
    (node.kind.isNormal o.normalizer node.parts →
      o.rewriting.result node = .mk node.kind node.span (node.parts.map o.rewriting.result)) := by
  obtain ⟨span, name, value, rfl, hname⟩ := Node.exists_of_isClassAttribute hclass h
  have hparts := (Node.wellFormed_mk.1 h).2
  have hwell : value.wellFormed := hparts value (by simp)
  have hknown := o.rewriting_onMarkup.staticValue?_result hwell
  rw [Kind.isNormal_iff, o.result_attribute]
  by_cases hrewrites : Rewriting.RewritesClass o.normalizer .markupAttribute [name, value]
  · -- The new value is known, and it is not the old one.
    refine ⟨iff_of_false (not_not.2 hrewrites) ?_, fun hnot => absurd hrewrites hnot⟩
    obtain ⟨_, _, original, -, hshape, -, hvalue, hchange⟩ := hrewrites
    cases hshape
    have hname' : isClassName (o.rewriting.result name) := by
      rwa [isClassName_congr (o.rewriting_onMarkup.result_kind name)]
    rw [List.map_cons, List.map_singleton,
      Rewriting.normalizing_class hname' (hknown.trans hvalue) hchange]
    intro hsame
    have hvalues : some (o.normalizer original) = some original := Eq.trans hsame hvalue
    exact hchange (Option.some.inj hvalues)
  · have hmap := mt (o.rewriting_onMarkup.rewritesClass_map hparts).1 hrewrites
    rw [Rewriting.normalizing_other hmap]
    exact ⟨iff_of_true hrewrites hknown, fun _ => rfl⟩

end TidyOptions

/-- What tidying leaves alone is in order and in normal form. -/
theorem TidyOptions.every_of_result_eq (o : TidyOptions) (h : o.rewriting.result node = node) :
    node.every (Kind.inOrder o.spreadPolicy) ∧ node.every (Kind.isNormal o.normalizer) := by
  rw [o.result_rewriting] at h
  have horder : node.every (Kind.inOrder o.spreadPolicy) := by
    rw [← h]
    exact Rewriting.every_inOrder_normalizing _ (Rewriting.every_inOrder_sorting node)
  rw [(Rewriting.sorting_of_inOrder node horder).1] at h
  exact ⟨horder, Rewriting.isNormal_of_normalizing_eq node h⟩

/-! ## Specifiers of imports -/

/-- Nothing but an import has specifiers. -/
theorem specifiersOf_of_kind {statement : Node}
    (hkind : ∀ isType phase, statement.kind ≠ .importDeclaration isType phase) :
    specifiersOf statement = [] := by
  unfold specifiersOf
  split
  · exact absurd rfl (hkind _ _)
  · rfl

/-- Tidying leaves specifiers as they are. -/
theorem specifiersOf_result (o : TidyOptions) {statement : Node} (h : statement.wellFormed) :
    specifiersOf (o.rewriting.result statement) = specifiersOf statement := by
  by_cases himport : ∃ isType phase, statement.kind = .importDeclaration isType phase
  · obtain ⟨isType, phase, hkind⟩ := himport
    rw [(o.rewriting_onMarkup.untouched_import h hkind).1]
  · have hkind : ∀ isType phase, statement.kind ≠ .importDeclaration isType phase :=
      fun isType phase hkind => himport ⟨isType, phase, hkind⟩
    rw [specifiersOf_of_kind hkind, specifiersOf_of_kind]
    rwa [o.rewriting_onMarkup.result_kind]

namespace Syntax.Program

/-- Tidying keeps the live specifiers of imports. -/
theorem importSpecifiers_tidy (t : ScopeTree) (o : TidyOptions) (h : p.wellFormed) :
    importSpecifiers (p.tidy t o).1.body =
      (importSpecifiers p.body).filter (isLiveSpecifier t) := by
  rw [tidy_eq, ← importSpecifiers_pruneImports, importSpecifiers, importSpecifiers,
    List.flatMap_map]
  exact List.flatMap_congr fun statement hstatement =>
    specifiersOf_result o (Pass.pruned_wellFormed t h statement hstatement)

/-- The counters of a tidying, read off the program. -/
theorem snd_tidy (t : ScopeTree) (o : TidyOptions) (h : p.wellFormed) : (p.tidy t o).2 =
    ⟨removedImports t p.body,
      (p.body.map (Node.misfits (Kind.inOrder o.spreadPolicy))).sum,
      (p.body.map (Node.misfits (Kind.isNormal o.normalizer))).sum⟩ := by
  have hbody := Pass.body_wellFormed h
  have hchanges : p.body.map o.rewriting.changes = _ :=
    List.map_congr_left fun statement hstatement =>
      o.changes_eq statement (hbody statement hstatement)
  rw [tidy_eq, (pruneImports_map o.rewriting_onMarkup hbody).2.1, hchanges, Changes.sum_markup]
  exact Changes.ext rfl (Nat.zero_add _) (Nat.zero_add _)

/-- Pieces that fail a test are counted all together. -/
theorem sum_misfits (p : Program) (fits : Kind → List Node → Bool) :
    (p.body.map (Node.misfits fits)).sum =
      (Node.allOf p.body).countP fun piece => !fits piece.kind piece.parts := by
  rw [Node.allOf_eq, List.countP_flatMap]
  rfl

/-- Where only pieces of some sort can fail a test, and those fail it that change, the failures are
the pieces of that sort that change. -/
theorem countP_misfits {test changed : Node → Bool}
    (hother : ∀ piece ∈ nodes, ¬ test piece → fits piece.kind piece.parts)
    (hiff : ∀ piece ∈ nodes, test piece → (fits piece.kind piece.parts ↔ ¬ changed piece)) :
    nodes.countP (fun piece => !fits piece.kind piece.parts) =
      (nodes.filter test).countP changed := by
  rw [List.countP_filter]
  refine List.countP_congr fun piece hpiece => ?_
  cases htest : test piece with
  | false => simp [hother piece hpiece (by simp [htest])]
  | true =>
      have hfits := (hiff piece hpiece htest).trans (by simp : _ ↔ !changed piece)
      simp [Bool.eq_iff_iff.2 hfits]

/-- All nodes of a well-formed program are well-formed. -/
theorem wellFormed_of_mem_allOf (h : p.wellFormed) :
    ∀ piece ∈ Node.allOf p.body, piece.wellFormed := by
  intro piece hpiece
  rw [Node.allOf_eq, List.mem_flatMap] at hpiece
  obtain ⟨statement, hstatement, hpiece⟩ := hpiece
  exact Node.every_of_mem_all statement (Pass.body_wellFormed h statement hstatement) piece hpiece

/-- The pieces of some sort of markup in a tidied program are those of the program, tidied, in some
order. -/
theorem filter_tidy (t : ScopeTree) (o : TidyOptions) (h : p.wellFormed) {test : Node → Bool}
    (htidied : ∀ node, test node → node.kind.isTidied)
    (hresult : ∀ node, test (o.rewriting.result node) = test node) :
    ((Node.allOf (p.tidy t o).1.body).filter test).Perm
      (((Node.allOf p.body).filter test).map o.rewriting.result) := by
  have hmarkup : ∀ nodes : List Node,
      (Node.allOf nodes).filter test = (Node.markupOf nodes).filter test := by
    intro nodes
    rw [Node.markupOf_eq, List.filter_filter]
    refine List.filter_congr fun node _ => ?_
    cases htest : test node with
    | false => rfl
    | true => rw [htidied node htest, Bool.and_self]
  have hmap : test ∘ o.rewriting.result = test := funext hresult
  have hperm := (p.markup_tidy t o h).filter test
  rwa [List.filter_map, hmap, ← hmarkup, ← hmarkup] at hperm

/-- The counters are zero exactly when tidying leaves a program as it is. -/
theorem snd_tidy_eq_zero_iff (t : ScopeTree) (o : TidyOptions) (h : p.wellFormed) :
    (p.tidy t o).2 = 0 ↔ (p.tidy t o).1 = p := by
  have hmisfits : ∀ fits, (p.body.map (Node.misfits fits)).sum = 0 ↔ Node.everyOf fits p.body := by
    intro fits
    rw [List.sum_eq_zero_iff_forall_eq_nat, List.forall_mem_map, Node.everyOf_iff]
    exact forall₂_congr fun statement _ => statement.misfits_eq_zero_iff
  constructor
  · intro hzero
    rw [snd_tidy t o h] at hzero
    obtain ⟨himports, htags, hclasses⟩ := Changes.mk.inj hzero
    rw [tidy_eq_self himports ((hmisfits _).1 htags) ((hmisfits _).1 hclasses)]
  · intro hsame
    have himports : removedImports t p.body = 0 := by
      have hlive := importSpecifiers_tidy t o h
      rw [hsame, eq_comm, List.filter_eq_self] at hlive
      rw [removedImports_eq_countP, List.countP_eq_zero]
      exact fun specifier hspecifier => by simpa using hlive specifier hspecifier
    have hbody : p.body.map o.rewriting.result = p.body := by
      rw [tidy_eq, pruneImports_of_removedImports himports] at hsame
      exact congrArg Program.body hsame
    have hfixed : ∀ statement ∈ p.body, o.rewriting.result statement = statement :=
      List.map_inj_left.1 (hbody.trans (List.map_id p.body).symm)
    have hevery : ∀ statement ∈ p.body, _ := fun statement hstatement =>
      o.every_of_result_eq (hfixed statement hstatement)
    rw [tidy_eq_self himports
      (Node.everyOf_iff.2 fun statement hstatement => (hevery statement hstatement).1)
      (Node.everyOf_iff.2 fun statement hstatement => (hevery statement hstatement).2)]

/-! ## All counters -/

/-- What it means that counters say exactly how a program differs from what it is tidied to. -/
structure CountsChanges (o : TidyOptions) (p q : Program) (c : Changes) : Prop where
  /-- The removed imports are the specifiers that are gone. -/
  removed : c.removedImports =
    (importSpecifiers p.body).countP fun specifier => specifier ∉ importSpecifiers q.body
  /-- The tags become those of the other program, in some order. -/
  tags : q.tags.Perm (p.tags.map o.rewriting.result)
  /-- The attributes of a tag become those of the other tag, in some order. -/
  attributes : ∀ tag ∈ p.tags, (o.rewriting.result tag).attributes.Perm
    (tag.attributes.map o.rewriting.result)
  /-- The sorted tags are those whose attributes come in another order. -/
  sorted : c.sortedTags = p.tags.countP fun tag =>
    (o.rewriting.result tag).attributes ≠ tag.attributes.map o.rewriting.result
  /-- The class attributes become those of the other program, in some order. -/
  classes : q.classAttributes.Perm (p.classAttributes.map o.rewriting.result)
  /-- The normalized classes are the class attributes whose known value has changed. -/
  normalized : c.normalizedClasses = p.classAttributes.countP fun node =>
    (o.rewriting.result node).knownValue? ≠ node.knownValue?
  /-- In the others nothing has changed but tags and attributes inside them. -/
  others : ∀ node ∈ p.classAttributes, (o.rewriting.result node).knownValue? = node.knownValue? →
    o.rewriting.result node = .mk node.kind node.span (node.parts.map o.rewriting.result)
  /-- The counters are zero exactly when nothing has changed. -/
  zero : c = 0 ↔ q = p

/-- The counters of a tidying say exactly what it has changed. -/
theorem tidy_counts (p : Program) (t : ScopeTree) (o : TidyOptions) (h : p.wellFormed) :
    p.CountsChanges o (p.tidy t o).1 (p.tidy t o).2 := by
  have hwell := wellFormed_of_mem_allOf h
  refine ⟨?_, ?_, ?_, ?_, ?_, ?_, ?_, snd_tidy_eq_zero_iff t o h⟩
  · rw [snd_tidy t o h, importSpecifiers_tidy t o h, removedImports_eq_countP]
    refine List.countP_congr fun specifier hspecifier => ?_
    simp [List.mem_filter, hspecifier]
  · exact filter_tidy t o h (fun _ => Kind.isTidied_of_isTag) fun node => by
      rw [o.rewriting_onMarkup.result_kind]
  · intro tag hmem
    obtain ⟨hmem, htag⟩ := List.mem_filter.1 hmem
    obtain ⟨_, _, _, _, nodes, rfl⟩ := Node.exists_of_isTag htag (hwell tag hmem)
    rw [o.result_tag]
    exact sortedAttributes_perm o.spreadPolicy _
  · rw [snd_tidy t o h, tags]
    refine (sum_misfits p _).trans (countP_misfits ?_ fun tag hmem htag => ?_)
    · exact fun piece _ => Kind.inOrder_of_not_isTag
    · simpa using o.inOrder_iff htag (hwell tag hmem)
  · exact filter_tidy t o h (fun _ => Node.isTidied_of_isClassAttribute) fun node => by
      rw [Bool.eq_iff_iff, Node.isClassAttribute_iff, Node.isClassAttribute_iff, o.ofNode_result]
  · rw [snd_tidy t o h, classAttributes]
    refine (sum_misfits p _).trans (countP_misfits ?_ fun node hmem hclass => ?_)
    · exact fun piece _ => Node.isNormal_of_not_isClassAttribute
    · simpa using (o.isNormal_iff hclass (hwell node hmem)).1
  · intro node hmem hknown
    obtain ⟨hmem, hclass⟩ := List.mem_filter.1 hmem
    obtain ⟨hiff, hresult⟩ := o.isNormal_iff hclass (hwell node hmem)
    exact hresult (hiff.2 hknown)

end Syntax.Program

/-- An import is gone and the class of a nested tag rewritten, and both are counted. -/
theorem nested_tag_counted : ∃ parsed, (parse nestedTagSource).toOption = some parsed ∧
    parsed.program.wellFormed ∧
    removedImports (ScopeTree.build parsed.program) parsed.program.body = 1 ∧
    parsed.program.tags.length = 2 ∧
    parsed.program.CountsChanges ⟨.barrier, .collapse⟩
      (parsed.program.tidy (ScopeTree.build parsed.program) ⟨.barrier, .collapse⟩).1
      (parsed.program.tidy (ScopeTree.build parsed.program) ⟨.barrier, .collapse⟩).2 := by
  have hread : ∃ parsed, (parse nestedTagSource).toOption = some parsed ∧
      parsed.program.wellFormed ∧
      removedImports (ScopeTree.build parsed.program) parsed.program.body = 1 ∧
      parsed.program.tags.length = 2 :=
    exists_parsed_of_any (by decide +kernel)
  obtain ⟨parsed, hparsed, hwell, hremoved, htags⟩ := hread
  exact ⟨parsed, hparsed, hwell, hremoved, htags, parsed.program.tidy_counts _ _ hwell⟩

/-- A program with a class attribute in whose value stands a tag with another class attribute. -/
def nestedClassSource : String :=
  "const a = <div className=\x7b<i className=\" b \" />\x7d />;\n"

/-- The values of both class attributes change, but the outer one is not known and not counted. -/
theorem nested_class_counted_once : ∃ parsed,
    (parse nestedClassSource).toOption = some parsed ∧
    ((parsed.program.classAttributes.zip (parsed.program.tidy (ScopeTree.build parsed.program)
      ⟨.barrier, .collapse⟩).1.classAttributes).countP
        fun (before, after) => before.parts[1]? ≠ after.parts[1]?) = 2 ∧
    (parsed.program.tidy (ScopeTree.build parsed.program) ⟨.barrier, .collapse⟩).2 = ⟨0, 0, 1⟩ :=
  exists_parsed_of_any (by decide +kernel)

end JsxTidy
