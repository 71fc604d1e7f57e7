import JsxTidy.Proofs.Attribute.Normal
import JsxTidy.Proofs.Import.Remaining
import JsxTidy.Proofs.Scope.Profile
import JsxTidy.Proofs.Tidy.Passes

/-!
# Tidying twice

A program is tidied when no specifier of an import is unused, the attributes of all tags are in
order, and all class values are in normal form. Tidying leaves a tidied program as it is, and what
it comes to is tidied if normalizing a class value twice is normalizing it once. So tidying twice is
tidying once: `tidy_tidied`.
-/

namespace JsxTidy

open Syntax

/-- Whether nothing is left to tidy in a program. -/
structure Syntax.Program.IsTidied (o : TidyOptions) (p : Program) : Prop where
  imports : removedImports (ScopeTree.build p) p.body = 0
  tags : Node.everyOf (Kind.inOrder o.spreadPolicy) p.body
  classes : Node.everyOf (Kind.isNormal o.normalizer) p.body

variable {t : ScopeTree} {o : TidyOptions} {policy : SpreadPolicy} {normalize : ClassNormalizer}
  {name : String} {kind : Kind} {r : Rewriting} {node : Node} {p : Program}

/-! ## What names do -/

/-- The order of the parts of a list does not matter for names. -/
theorem NameProfile.root_perm {profiles profiles' : List NameProfile}
    (h : profiles.Perm profiles') : root name .list profiles = root name .list profiles' := by
  have hreach : ∀ context, reachOf context profiles = reachOf context profiles' := by
    intro context
    have hcomm : LeftCommutative fun (profile : NameProfile) rest =>
        profile.reach context ∪ rest := ⟨fun _ _ _ => Reach.union_left_comm _ _ _⟩
    exact h.foldr_eq _
  simp only [root, rootReach, rootNamesFunction, hreach, h.any_eq]

/-- Whether a piece of syntax does nothing with the name. -/
structure NameProfile.IsSilent (profile : NameProfile) : Prop where
  names : profile.namesFunction = false
  reach : ∀ context, profile.reach context = ∅

theorem NameProfile.reachOf_of_isSilent {profiles : List NameProfile}
    (h : ∀ profile ∈ profiles, profile.IsSilent) (context : DeclarationContext) :
    reachOf context profiles = ∅ := by
  induction profiles with
  | nil => rfl
  | cons profile profiles ih =>
      rw [reachOf, List.foldr_cons, (h profile List.mem_cons_self).reach]
      exact congrArg (∅ ∪ ·) (ih fun other hother => h other (List.mem_cons_of_mem _ hother))

theorem NameProfile.isSilent_root (hkind : kind.isConstant) {profiles : List NameProfile}
    (h : ∀ profile ∈ profiles, profile.IsSilent) : (root name kind profiles).IsSilent := by
  have hnames : profiles.any namesFunction = false := by
    simpa using fun profile hprofile => (h profile hprofile).names
  have hreach := reachOf_of_isSilent h
  cases kind <;> cases hkind
  all_goals exact ⟨hnames, fun context => hreach _⟩

/-- The value of an attribute may be exchanged for another one that does nothing with the name. -/
theorem NameProfile.root_markupAttribute {tag value other : NameProfile} (h : value.IsSilent)
    (hother : other.IsSilent) :
    root name .markupAttribute [tag, value] = root name .markupAttribute [tag, other] := by
  simp only [root, rootReach, rootNamesFunction, reachOf, List.foldr_cons, List.any_cons, h.reach,
    hother.reach, h.names, hother.names]

/-- Literals do nothing with names. -/
theorem Syntax.Node.isSilent_of_isConstant (node : Node)
    (h : node.every (fun kind _ => kind.isConstant)) : (node.profile name).IsSilent := by
  induction node with
  | mk kind span parts ih =>
      obtain ⟨hkind, hparts⟩ := every_mk.1 h
      rw [profile_mk]
      refine NameProfile.isSilent_root hkind fun profile hprofile => ?_
      obtain ⟨part, hpart, rfl⟩ := List.mem_map.1 hprofile
      exact ih part hpart (hparts part hpart)

/-- A rewriting that keeps the profiles of single pieces keeps those of all syntax. -/
theorem Rewriting.profile_result_of (good : Node → Prop)
    (hgood : ∀ kind span parts, good (.mk kind span parts) → ∀ part ∈ parts, good part)
    (h : ∀ kind span parts, good (.mk kind span parts) →
      (r (.mk kind span (parts.map r.result))).1.profile name =
        (Node.mk kind span (parts.map r.result)).profile name)
    (node : Node) (hnode : good node) : (r.result node).profile name = node.profile name := by
  induction node with
  | mk kind span parts ih =>
      rw [result_mk, h kind span parts hnode, Node.profile_mk, Node.profile_mk, List.map_map]
      congr 1
      exact List.map_congr_left fun part hpart =>
        ih part hpart (hgood kind span parts hnode part hpart)

theorem Rewriting.profile_result (h : ∀ node, (r node).1.profile name = node.profile name)
    (node : Node) : (r.result node).profile name = node.profile name :=
  profile_result_of (fun _ => True) (fun _ _ _ _ _ _ => trivial) (fun _ _ _ _ => h _) node trivial

theorem Rewriting.profile_sorting (node : Node) :
    (sorting policy node).1.profile name = node.profile name := by
  rcases tag_or_sorting_eq policy node with ⟨span, tag, types, listSpan, nodes, rfl⟩ | heq
  · have hlist : (Node.mk .list listSpan (sortedAttributes policy nodes)).profile name =
        (Node.mk .list listSpan nodes).profile name := by
      rw [Node.profile_mk, Node.profile_mk]
      exact NameProfile.root_perm ((sortedAttributes_perm policy nodes).map (Node.profile name))
    rw [sorting_tag, Node.profile_mk, Node.profile_mk]
    simp only [List.map_cons, List.map_nil, hlist]
  · rw [heq]

theorem Rewriting.profile_normalizing (h : node.wellFormed) :
    (normalizing normalize node).1.profile name = node.profile name := by
  obtain ⟨kind, span, parts⟩ := node
  by_cases hclass : RewritesClass normalize kind parts
  · obtain ⟨tag, value, original, rfl, rfl, htag, hvalue, hchange⟩ := hclass
    have hwell : value.wellFormed := (Node.wellFormed_mk.1 h).2 value (by simp)
    have hbefore := every_isConstant_of_staticValue? hwell hvalue
    rw [normalizing_class htag hvalue hchange, Node.profile_mk, Node.profile_mk]
    exact NameProfile.root_markupAttribute (Node.isSilent_of_isConstant _ rfl)
      (Node.isSilent_of_isConstant value hbefore)
  · rw [normalizing_other hclass]

/-- Tidying keeps what well-formed syntax does with names. -/
theorem TidyOptions.profile_result (o : TidyOptions) (h : node.wellFormed) :
    (o.rewriting.result node).profile name = node.profile name := by
  have hsorted : ((Rewriting.sorting o.spreadPolicy).result node).wellFormed :=
    (Rewriting.sorting_onMarkup _).wellFormed_result (fun _ => Rewriting.wellFormed_sorting) node h
  -- Normalizing keeps profiles of well-formed syntax only: it drops what stands in a value.
  rw [o.result_rewriting, Rewriting.profile_result_of (fun node => node.wellFormed) ?_ ?_ _ hsorted,
    Rewriting.profile_result Rewriting.profile_sorting]
  · exact fun kind span parts hnode => (Node.wellFormed_mk.1 hnode).2
  · exact fun kind span parts hnode => Rewriting.profile_normalizing
      ((Rewriting.normalizing_onMarkup _).wellFormed_map
        (fun _ => Rewriting.wellFormed_normalizing) hnode)

theorem Syntax.Node.reachOf_map {f : Node → Node} {nodes : List Node}
    (h : ∀ node ∈ nodes, (f node).profile name = node.profile name)
    (context : DeclarationContext) :
    reachOf name context (nodes.map f) = reachOf name context nodes := by
  rw [reachOf, reachOf, List.map_map]
  exact congrArg _ (List.map_congr_left h)

/-! ## Tidied programs -/

namespace Syntax.Program

/-- Tidying leaves a program as it is in which it finds nothing to tidy. -/
theorem tidy_eq_self (himports : removedImports t p.body = 0)
    (htags : Node.everyOf (Kind.inOrder o.spreadPolicy) p.body)
    (hclasses : Node.everyOf (Kind.isNormal o.normalizer) p.body) : p.tidy t o = (p, 0) := by
  have hidle : ∀ statement ∈ p.body,
      o.rewriting.result statement = statement ∧ o.rewriting.changes statement = 0 := by
    intro statement hstatement
    obtain ⟨hsorted, hsorting⟩ := Rewriting.sorting_of_inOrder statement
      (Node.everyOf_iff.1 htags statement hstatement)
    obtain ⟨hnormal, hnormalizing⟩ := Rewriting.normalizing_of_isNormal statement
      (Node.everyOf_iff.1 hclasses statement hstatement)
    rw [o.result_rewriting, o.changes_rewriting, hsorted, hsorting, hnormal, hnormalizing]
    exact ⟨rfl, rfl⟩
  have hresult : p.body.map o.rewriting.result = p.body := by
    rw [List.map_congr_left fun statement hstatement => (hidle statement hstatement).1,
      List.map_id']
  have hchanges : (p.body.map o.rewriting.changes).sum = 0 := by
    rw [List.map_congr_left fun statement hstatement => (hidle statement hstatement).2]
    simp
  rw [tidy_eq, pruneImports_of_removedImports himports, hresult, hchanges, himports]
  rfl

/-- Tidying leaves a tidied program as it is. -/
theorem tidy_of_isTidied (h : p.IsTidied o) : p.tidy (ScopeTree.build p) o = (p, 0) :=
  tidy_eq_self h.imports h.tags h.classes

/-- What tidying comes to is tidied. -/
theorem isTidied_tidy (h : p.wellFormed)
    (hnormalize : ∀ text, o.normalizer (o.normalizer text) = o.normalizer text) :
    (p.tidy (ScopeTree.build p) o).1.IsTidied o := by
  generalize htidied : (p.tidy (ScopeTree.build p) o).1 = tidied
  rw [tidy_eq] at htidied
  have hbody : tidied.body = p.pruned.body.map o.rewriting.result := htidied ▸ rfl
  have hpruned : ∀ statement ∈ p.pruned.body, statement.wellFormed := Pass.pruned_wellFormed _ h
  refine ⟨?_, ?_, ?_⟩
  · -- The tidied program does with names what the pruned one does, in which all imports are used.
    have hreach : ∀ name, tidied.reach name = p.pruned.reach name := by
      intro name
      rw [← htidied]
      exact congrArg (_ ∪ ·) (Node.reachOf_map
        (fun statement hstatement => o.profile_result (hpruned statement hstatement)) .lexical)
    have hlive : isLiveSpecifier (ScopeTree.build p.pruned) =
        isLiveSpecifier (ScopeTree.build p) := by
      funext specifier
      exact isLive_pruned h
    rw [hbody, removedImports_congr (isLiveSpecifier_congr hreach),
      (pruneImports_map o.rewriting_onMarkup hpruned).2.2, removedImports_congr hlive]
    exact removedImports_pruneImports
  · rw [hbody, Node.everyOf_iff, List.forall_mem_map]
    intro statement _
    rw [o.result_rewriting]
    exact Rewriting.every_inOrder_normalizing _ (Rewriting.every_inOrder_sorting statement)
  · rw [hbody, Node.everyOf_iff, List.forall_mem_map]
    intro statement _
    rw [o.result_rewriting]
    exact Rewriting.every_isNormal_normalizing hnormalize _

/-- Tidying a second time, with what is known of the names in the tidied program, changes nothing,
if normalizing a class value twice is normalizing it once. -/
theorem tidy_tidied (p : Program) (o : TidyOptions) (h : p.wellFormed)
    (hnormalize : ∀ text, o.normalizer (o.normalizer text) = o.normalizer text) :
    (p.tidy (ScopeTree.build p) o).1.tidy (ScopeTree.build (p.tidy (ScopeTree.build p) o).1) o =
      ((p.tidy (ScopeTree.build p) o).1, 0) :=
  tidy_of_isTidied (isTidied_tidy h hnormalize)

end Syntax.Program

/-- Gives all class attributes the same value. -/
def TidyOptions.sameClass : TidyOptions :=
  ⟨.barrier, fun _ => "c"⟩

/-- An import is removed and the class of a nested tag rewritten, and then nothing is left to do. -/
theorem nested_tag_tidied_once : ∃ parsed, (parse nestedTagSource).toOption = some parsed ∧
    parsed.program.wellFormed ∧
    (∀ text, TidyOptions.sameClass.normalizer (TidyOptions.sameClass.normalizer text) =
      TidyOptions.sameClass.normalizer text) ∧
    removedImports (ScopeTree.build parsed.program) parsed.program.body = 1 ∧
    (Pass.normalize.run (ScopeTree.build parsed.program) .sameClass parsed.program).2 = ⟨0, 0, 1⟩ ∧
    (parsed.program.tidy (ScopeTree.build parsed.program) .sameClass).1.tidy
      (ScopeTree.build (parsed.program.tidy (ScopeTree.build parsed.program) .sameClass).1)
        .sameClass =
      ((parsed.program.tidy (ScopeTree.build parsed.program) .sameClass).1, 0) := by
  have hread : ∃ parsed, (parse nestedTagSource).toOption = some parsed ∧
      parsed.program.wellFormed ∧
      removedImports (ScopeTree.build parsed.program) parsed.program.body = 1 ∧
      (Pass.normalize.run (ScopeTree.build parsed.program) .sameClass parsed.program).2 =
        ⟨0, 0, 1⟩ :=
    exists_parsed_of_any (by decide +kernel)
  obtain ⟨parsed, hparsed, hwell, hremoved, hnormalized⟩ := hread
  exact ⟨parsed, hparsed, hwell, fun _ => rfl, hremoved, hnormalized,
    parsed.program.tidy_tidied .sameClass hwell fun _ => rfl⟩

end JsxTidy
