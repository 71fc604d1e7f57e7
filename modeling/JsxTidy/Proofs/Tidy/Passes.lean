import JsxTidy.Proofs.Attribute.Normalizing
import JsxTidy.Proofs.Import.Pruned
import Mathlib.Algebra.GroupWithZero.Nat

/-!
# Tidying in separate passes

Tidying prunes imports and then carries sorting and normalizing through the tree together. The three
can be done as passes of their own, in any order: `runAll_perm`. Sorting and normalizing slide
through each other, and pruning touches only imports, which hold nothing that the others change.
They slide through themselves as well, so that a tree can be tidied from its root inwards as well as
from its innermost pieces outwards: `tidy_eq_outerFirst`.
-/

namespace JsxTidy

open Syntax

variable {t : ScopeTree} {o : TidyOptions}
  {node statement : Node} {body : List Node} {r : Rewriting} {p : Program}

/-! ## Sorting and normalizing -/

namespace Rewriting

/-- Where the first rewriting is idle, the second one acts alone. -/
theorem andThen_of_idle_first {first second : Rewriting} (h : first node = (node, 0)) :
    (first.andThen second) node = second node := by
  rw [andThen, h]
  exact Prod.ext rfl (zero_add _)

/-- Where the second one is idle, the first one acts alone. -/
theorem andThen_of_idle_second {first second : Rewriting}
    (h : second (first node).1 = ((first node).1, 0)) :
    (first.andThen second) node = first node := by
  show ((second (first node).1).1, (first node).2 + (second (first node).1).2) = first node
  rw [h]
  exact Prod.ext rfl (add_zero _)

/-- At a tag, sorting and then normalizing is sorting. -/
theorem sorting_andThen_of_tag (policy : SpreadPolicy) (normalize : ClassNormalizer)
    (hkind : node.kind = .openingTag) :
    ((sorting policy).andThen (normalizing normalize)) node = sorting policy node := by
  refine andThen_of_idle_second (normalizing_of_kind ?_)
  rw [(sorting_onMarkup policy).kind, hkind]
  exact Kind.noConfusion

/-- At anything else it is normalizing. -/
theorem sorting_andThen_of_ne_tag (policy : SpreadPolicy) (normalize : ClassNormalizer)
    (hkind : node.kind ≠ .openingTag) :
    ((sorting policy).andThen (normalizing normalize)) node = normalizing normalize node :=
  andThen_of_idle_first (sorting_of_kind hkind)

/-- At one piece of syntax it does not matter whether sorting or normalizing comes first. -/
theorem sorting_andThen_normalizing (policy : SpreadPolicy) (normalize : ClassNormalizer) :
    (sorting policy).andThen (normalizing normalize) =
      (normalizing normalize).andThen (sorting policy) := by
  funext node
  by_cases hkind : node.kind = .openingTag
  · have hbefore : node.kind ≠ .markupAttribute := by simp [hkind]
    rw [sorting_andThen_of_tag policy normalize hkind,
      andThen_of_idle_first (normalizing_of_kind hbefore)]
  · have hafter : (normalizing normalize node).1.kind ≠ .openingTag := by
      rwa [(normalizing_onMarkup normalize).kind]
    rw [sorting_andThen_of_ne_tag policy normalize hkind,
      andThen_of_idle_second (sorting_of_kind hafter)]

/-- Both together are sorting everywhere and then normalizing everywhere. -/
theorem everywhere_sorting_normalizing (policy : SpreadPolicy) (normalize : ClassNormalizer)
    (node : Node) :
    ((sorting policy).andThen (normalizing normalize)).everywhere node =
      ((normalizing normalize).result ((sorting policy).result node),
        (sorting policy).changes node +
          (normalizing normalize).changes ((sorting policy).result node)) := by
  have hslot := (normalizing_onMarkup normalize).ofNode_result (ofNode_normalizing normalize)
  exact everywhere_andThen (fun _ => True) (fun _ _ _ _ _ _ => trivial)
    (fun kind span parts _ => sorting_slides (normalizing_onMarkup normalize) hslot kind span _)
    node trivial

/-- In well-formed syntax they are normalizing everywhere and then sorting everywhere, too. -/
theorem everywhere_normalizing_sorting (policy : SpreadPolicy) (normalize : ClassNormalizer)
    (h : node.wellFormed) :
    ((sorting policy).andThen (normalizing normalize)).everywhere node =
      ((sorting policy).result ((normalizing normalize).result node),
        (normalizing normalize).changes node +
          (sorting policy).changes ((normalizing normalize).result node)) := by
  rw [sorting_andThen_normalizing]
  refine everywhere_andThen (fun node => node.wellFormed) ?_ ?_ node h
  · intro kind span parts hwell
    exact (Node.wellFormed_mk.1 hwell).2
  · intro kind span parts hwell
    exact normalizing_slides (sorting_onMarkup policy)
      ((normalizing_onMarkup normalize).wellFormed_map (fun _ => wellFormed_normalizing) hwell)

end Rewriting

/-! ## Tidying -/

/-- A node is sorted first and normalized then. -/
theorem TidyOptions.result_rewriting (o : TidyOptions) (node : Node) : o.rewriting.result node =
    (Rewriting.normalizing o.normalizer).result
      ((Rewriting.sorting o.spreadPolicy).result node) := by
  rw [Rewriting.result, TidyOptions.rewriting, Rewriting.everywhere_sorting_normalizing]

/-- Both rewritings count their own changes. -/
theorem TidyOptions.changes_rewriting (o : TidyOptions) (node : Node) : o.rewriting.changes node =
    (Rewriting.sorting o.spreadPolicy).changes node +
      (Rewriting.normalizing o.normalizer).changes
        ((Rewriting.sorting o.spreadPolicy).result node) := by
  rw [Rewriting.changes, TidyOptions.rewriting, Rewriting.everywhere_sorting_normalizing]

/-- Nothing but tags and attributes is rewritten. -/
theorem TidyOptions.rewriting_onMarkup (o : TidyOptions) : o.rewriting.OnMarkup :=
  (Rewriting.sorting_onMarkup o.spreadPolicy).andThen (Rewriting.normalizing_onMarkup o.normalizer)

/-- A tag is only sorted. -/
theorem TidyOptions.rewriting_of_tag (o : TidyOptions) (hkind : node.kind = .openingTag) :
    o.rewriting node = Rewriting.sorting o.spreadPolicy node :=
  Rewriting.sorting_andThen_of_tag _ _ hkind

/-- Anything else is only normalized. -/
theorem TidyOptions.rewriting_of_ne_tag (o : TidyOptions) (hkind : node.kind ≠ .openingTag) :
    o.rewriting node = Rewriting.normalizing o.normalizer node :=
  Rewriting.sorting_andThen_of_ne_tag _ _ hkind

/-- Tidying keeps the slots of attributes. -/
theorem TidyOptions.ofNode_result (o : TidyOptions) (node : Node) :
    AttributeSlot.ofNode (o.rewriting.result node) = AttributeSlot.ofNode node :=
  o.rewriting_onMarkup.ofNode_result
    (fun _ => (Rewriting.ofNode_normalizing _ _).trans (Rewriting.ofNode_sorting _ _)) node

/-- Tidying a single piece keeps it well formed. -/
theorem TidyOptions.wellFormed_rewriting (o : TidyOptions) (h : node.wellFormed) :
    (o.rewriting node).1.wellFormed :=
  Rewriting.wellFormed_normalizing (Rewriting.wellFormed_sorting h)

/-- Tidying keeps syntax well formed. -/
theorem TidyOptions.wellFormed_result (o : TidyOptions) (h : node.wellFormed) :
    (o.rewriting.result node).wellFormed :=
  o.rewriting_onMarkup.wellFormed_result (fun _ => o.wellFormed_rewriting) node h

/-- Tidying prunes the statements and rewrites those that are left. -/
theorem Syntax.Program.tidy_eq (p : Program) (t : ScopeTree) (o : TidyOptions) : p.tidy t o =
    ({ p with body := (pruneImports t p.body).map o.rewriting.result },
      ⟨removedImports t p.body, 0, 0⟩ + ((pruneImports t p.body).map o.rewriting.changes).sum) := by
  rw [Program.tidy, Rewriting.everywhereIn_eq]

/-! ## Pruning -/

/-- An import holds no markup. -/
theorem untidied_of_import (hwell : statement.wellFormed) {isType : Bool} {phase : ImportPhase}
    (hkind : statement.kind = .importDeclaration isType phase) :
    statement.every fun kind _ => !kind.isTidied := by
  obtain ⟨kind, span, parts⟩ := statement
  cases hkind
  refine Node.every_mono (fun kind _ hkind => ?_) _ (Node.isImportPiece_import hwell)
  cases kind <;> first | rfl | cases hkind

/-- An import has no markup, so that no rewriting of markup changes it. -/
theorem Rewriting.OnMarkup.untouched_import (h : r.OnMarkup) (hwell : statement.wellFormed)
    {isType : Bool} {phase : ImportPhase}
    (hkind : statement.kind = .importDeclaration isType phase) :
    r.result statement = statement ∧ r.changes statement = 0 :=
  h.untouched statement (untidied_of_import hwell hkind)

/-- Nothing but imports is pruned. -/
theorem pruneStatement_of_kind
    (hkind : ∀ isType phase, statement.kind ≠ .importDeclaration isType phase) :
    pruneStatement t statement = some statement ∧ unusedIn t statement = 0 := by
  obtain ⟨kind, span, parts⟩ := statement
  cases kind with
  | importDeclaration isType phase => exact absurd rfl (hkind isType phase)
  | _ => exact ⟨rfl, rfl⟩

/-- A statement that is kept keeps its kind. -/
theorem kind_of_pruneStatement {kept : Node} (hkept : pruneStatement t statement = some kept) :
    kept.kind = statement.kind := by
  rcases import_or_untouched statement with ⟨_, _, _, _, _, _, _, rfl⟩ | huntouched
  · rw [pruneStatement_import] at hkept
    split at hkept
    · cases hkept
    · cases hkept
      rfl
  · rw [huntouched] at hkept
    cases hkept
    rfl

/-- A statement can be pruned before or after its markup is rewritten. -/
theorem pruneStatement_result (h : r.OnMarkup) (hwell : statement.wellFormed) :
    pruneStatement t (r.result statement) = (pruneStatement t statement).map r.result ∧
    ((pruneStatement t statement).toList.map r.changes).sum = r.changes statement ∧
    unusedIn t (r.result statement) = unusedIn t statement := by
  by_cases himport : ∃ isType phase, statement.kind = .importDeclaration isType phase
  · obtain ⟨isType, phase, hkind⟩ := himport
    obtain ⟨hresult, hchanges⟩ := h.untouched_import hwell hkind
    have hkept : ∀ kept ∈ pruneStatement t statement,
        r.result kept = kept ∧ r.changes kept = 0 := by
      intro kept hkept
      exact h.untouched_import (wellFormed_pruneStatement hwell kept hkept)
        ((kind_of_pruneStatement hkept).trans hkind)
    rw [hresult, hchanges]
    cases hpruned : pruneStatement t statement with
    | none => exact ⟨rfl, rfl, rfl⟩
    | some kept =>
        obtain ⟨hsame, hnone⟩ := hkept kept hpruned
        refine ⟨?_, ?_, rfl⟩
        · rw [Option.map_some, hsame]
        · rw [Option.toList_some, List.map_singleton, List.sum_singleton, hnone]
  · have hbefore : ∀ isType phase, statement.kind ≠ .importDeclaration isType phase :=
      fun isType phase hkind => himport ⟨isType, phase, hkind⟩
    have hafter : ∀ isType phase, (r.result statement).kind ≠ .importDeclaration isType phase := by
      simpa only [h.result_kind] using hbefore
    obtain ⟨hkept, hunused⟩ := pruneStatement_of_kind (t := t) hbefore
    obtain ⟨hkept', hunused'⟩ := pruneStatement_of_kind (t := t) hafter
    rw [hkept, hkept', hunused, hunused']
    refine ⟨rfl, ?_, rfl⟩
    rw [Option.toList_some, List.map_singleton, List.sum_singleton]

/-- A module can be pruned before or after its markup is rewritten. -/
theorem pruneImports_map (h : r.OnMarkup) (hbody : ∀ statement ∈ body, statement.wellFormed) :
    pruneImports t (body.map r.result) = (pruneImports t body).map r.result ∧
    ((pruneImports t body).map r.changes).sum = (body.map r.changes).sum ∧
    removedImports t (body.map r.result) = removedImports t body := by
  induction body with
  | nil => exact ⟨rfl, rfl, rfl⟩
  | cons statement body ih =>
      obtain ⟨hrest, hsum, hremoved⟩ := ih fun other hother => hbody other (by simp [hother])
      obtain ⟨hresult, hchanges, hunused⟩ :=
        pruneStatement_result (t := t) h (hbody statement (by simp))
      refine ⟨?_, ?_, ?_⟩
      · rw [List.map_cons, pruneImports_cons, pruneImports_cons, hrest, hresult, List.map_append]
        cases pruneStatement t statement <;> rfl
      · rw [pruneImports_cons, List.map_append, List.sum_append, hchanges, hsum, List.map_cons,
          List.sum_cons]
      · exact congrArg₂ (· + ·) hunused hremoved

/-! ## Passes -/

/-- One of the three things that tidying does. -/
inductive Pass where
  | prune | sort | normalize
deriving DecidableEq

namespace Pass

/-- A program with its statements rewritten, and what has changed. -/
def rewrite (r : Rewriting) (p : Program) : Program × Changes :=
  let (body, changes) := r.everywhereIn p.body
  ({ p with body }, changes)

/-- A program after one pass, and what the pass has changed. -/
def run (t : ScopeTree) (o : TidyOptions) : Pass → Program → Program × Changes
  | prune, p => ({ p with body := pruneImports t p.body }, ⟨removedImports t p.body, 0, 0⟩)
  | sort, p => rewrite (.sorting o.spreadPolicy) p
  | normalize, p => rewrite (.normalizing o.normalizer) p

/-- A program after some passes, and what they have changed all together. -/
def runAll (t : ScopeTree) (o : TidyOptions) : List Pass → Program → Program × Changes
  | [], p => (p, .none)
  | pass :: rest, p =>
    let (p, changes) := pass.run t o p
    let (p, more) := runAll t o rest p
    (p, changes + more)

/-- The changes of a program are those of its statements. -/
theorem rewrite_eq (r : Rewriting) (p : Program) :
    rewrite r p = ({ p with body := p.body.map r.result }, (p.body.map r.changes).sum) := by
  rw [rewrite, Rewriting.everywhereIn_eq]

/-- The statements of a well-formed program are well-formed. -/
theorem body_wellFormed (h : p.wellFormed) : ∀ statement ∈ p.body, statement.wellFormed :=
  fun statement hstatement => Node.everyOf_iff.1 h statement (List.mem_append_right _ hstatement)

/-- What pruning keeps of a well-formed program is well formed. -/
theorem pruned_wellFormed (t : ScopeTree) (h : p.wellFormed) :
    ∀ kept ∈ pruneImports t p.body, kept.wellFormed := by
  intro kept hkept
  obtain ⟨statement, hstatement, hpruned⟩ := List.mem_filterMap.1 hkept
  exact wellFormed_pruneStatement (body_wellFormed h statement hstatement) kept hpruned

/-- A program is well formed when its directives and its statements are. -/
theorem wellFormed_of_body {q : Program} (h : p.wellFormed)
    (hdirectives : q.directives = p.directives)
    (hbody : ∀ statement ∈ q.body, statement.wellFormed) : q.wellFormed := by
  refine Node.everyOf_iff.2 fun statement hstatement => ?_
  rcases List.mem_append.1 hstatement with hstatement | hstatement
  · rw [hdirectives] at hstatement
    exact Node.everyOf_iff.1 h statement (List.mem_append_left _ hstatement)
  · exact hbody statement hstatement

/-- A rewriting that keeps nodes well-formed keeps programs so. -/
theorem wellFormed_rewrite (hmarkup : r.OnMarkup)
    (hroot : ∀ node : Node, node.wellFormed → (r node).1.wellFormed) (h : p.wellFormed) :
    (rewrite r p).1.wellFormed := by
  rw [rewrite_eq]
  refine wellFormed_of_body h rfl fun statement hstatement => ?_
  obtain ⟨before, hbefore, rfl⟩ := List.mem_map.1 hstatement
  exact hmarkup.wellFormed_result hroot before (body_wellFormed h before hbefore)

/-- Every pass keeps a program well formed. -/
theorem wellFormed_run (pass : Pass) (h : p.wellFormed) : (pass.run t o p).1.wellFormed := by
  cases pass with
  | prune => exact wellFormed_of_body h rfl (pruned_wellFormed t h)
  | sort =>
      exact wellFormed_rewrite (Rewriting.sorting_onMarkup _)
        (fun _ => Rewriting.wellFormed_sorting) h
  | normalize =>
      exact wellFormed_rewrite (Rewriting.normalizing_onMarkup _)
        (fun _ => Rewriting.wellFormed_normalizing) h

/-! ## Any order -/

/-- Whether two passes do the same to a program in either order. -/
def Commute (t : ScopeTree) (o : TidyOptions) (p : Program) (first second : Pass) : Prop :=
  (second.run t o (first.run t o p).1).1 = (first.run t o (second.run t o p).1).1 ∧
  (first.run t o p).2 + (second.run t o (first.run t o p).1).2 =
    (second.run t o p).2 + (first.run t o (second.run t o p).1).2

/-- It does not matter which of two passes is named first. -/
theorem Commute.symm {first second : Pass} (h : Commute t o p first second) :
    Commute t o p second first :=
  ⟨h.1.symm, h.2.symm⟩

/-- Pruning and a rewriting of markup commute. -/
theorem prune_rewrite {pass : Pass} (hpass : pass.run t o = rewrite r) (hmarkup : r.OnMarkup)
    (h : p.wellFormed) : Commute t o p prune pass := by
  obtain ⟨hmap, hsum, hremoved⟩ := pruneImports_map (t := t) hmarkup (body_wellFormed h)
  rw [Commute, hpass]
  simp only [run, rewrite_eq, hmap, hsum, hremoved, true_and]
  exact add_comm _ _

/-- Sorting and normalizing commute. -/
theorem sort_normalize (h : p.wellFormed) : Commute t o p sort normalize := by
  have hboth : ∀ statement ∈ p.body, _ = _ := fun statement hstatement =>
    (Rewriting.everywhere_sorting_normalizing o.spreadPolicy o.normalizer statement).symm.trans
      (Rewriting.everywhere_normalizing_sorting o.spreadPolicy o.normalizer
        (body_wellFormed h statement hstatement))
  simp only [Commute, run, rewrite_eq, List.map_map, ← List.sum_map_add]
  refine ⟨congrArg (fun body => { p with body }) ?_, congrArg List.sum ?_⟩
  · exact List.map_congr_left fun statement hstatement =>
      (Prod.mk.inj (hboth statement hstatement)).1
  · exact List.map_congr_left fun statement hstatement =>
      (Prod.mk.inj (hboth statement hstatement)).2

/-- Any two passes commute. -/
theorem commute (first second : Pass) (h : p.wellFormed) : Commute t o p first second := by
  have hsort : Commute t o p prune sort := prune_rewrite rfl (Rewriting.sorting_onMarkup _) h
  have hnormalize : Commute t o p prune normalize :=
    prune_rewrite rfl (Rewriting.normalizing_onMarkup _) h
  have hmarkup : Commute t o p sort normalize := sort_normalize h
  cases first <;> cases second
  case prune.prune | sort.sort | normalize.normalize => exact ⟨rfl, rfl⟩
  case prune.sort => exact hsort
  case sort.prune => exact hsort.symm
  case prune.normalize => exact hnormalize
  case normalize.prune => exact hnormalize.symm
  case sort.normalize => exact hmarkup
  case normalize.sort => exact hmarkup.symm

theorem runAll_nil (p : Program) : runAll t o [] p = (p, 0) := rfl

theorem runAll_cons (pass : Pass) (passes : List Pass) (p : Program) :
    runAll t o (pass :: passes) p =
      ((runAll t o passes (pass.run t o p).1).1,
        (pass.run t o p).2 + (runAll t o passes (pass.run t o p).1).2) := rfl

/-- The order of passes does not matter. -/
theorem runAll_perm {passes passes' : List Pass} (hperm : passes.Perm passes')
    (h : p.wellFormed) : runAll t o passes p = runAll t o passes' p := by
  induction hperm generalizing p with
  | nil => rfl
  | cons pass _ ih => rw [runAll_cons, runAll_cons, ih (wellFormed_run pass h)]
  | swap first second passes =>
      obtain ⟨hprogram, hchanges⟩ := commute (t := t) (o := o) first second h
      simp only [runAll_cons, hprogram, ← add_assoc, hchanges]
  | trans _ _ ih ih' => exact (ih h).trans (ih' h)

/-- Tidying a program is pruning its imports, sorting its attributes and rewriting its class values
in passes of their own, in any order, with their changes added up. -/
theorem runAll_eq_tidy (p : Program) (t : ScopeTree) (o : TidyOptions) (passes : List Pass)
    (h : p.wellFormed) (horder : passes.Perm [prune, sort, normalize]) :
    runAll t o passes p = p.tidy t o := by
  rw [runAll_perm horder h, Program.tidy_eq]
  have hresult : (pruneImports t p.body).map o.rewriting.result =
      ((pruneImports t p.body).map (Rewriting.sorting o.spreadPolicy).result).map
        (Rewriting.normalizing o.normalizer).result := by
    rw [List.map_map]
    exact List.map_congr_left fun node _ => o.result_rewriting node
  have hsum : ((pruneImports t p.body).map o.rewriting.changes).sum =
      ((pruneImports t p.body).map (Rewriting.sorting o.spreadPolicy).changes).sum +
        (((pruneImports t p.body).map (Rewriting.sorting o.spreadPolicy).result).map
          (Rewriting.normalizing o.normalizer).changes).sum := by
    rw [List.map_map, ← List.sum_map_add]
    exact congrArg List.sum (List.map_congr_left fun node _ => o.changes_rewriting node)
  simp only [runAll_cons, runAll_nil, run, rewrite_eq, hresult, hsum, add_zero]

end Pass

/-- A tag with a class that is rewritten stands in the value of an attribute of another tag. -/
def nestedTagSource : String :=
  "import \x7b a \x7d from \"m\";\nconst b = <div b=\x7b<i c=\"\" className=\" c\" />\x7d a=\"\" />;\n"

/-- Normalizing the nested tag first and pruning and sorting later is tidying. -/
theorem nested_tag_tidied_in_passes : ∃ parsed,
    (parse nestedTagSource).toOption = some parsed ∧ parsed.program.wellFormed ∧
    (Pass.normalize.run (ScopeTree.build parsed.program) ⟨.barrier, .collapse⟩ parsed.program).2 =
      ⟨0, 0, 1⟩ ∧
    removedImports (ScopeTree.build parsed.program) parsed.program.body = 1 ∧
    Pass.runAll (ScopeTree.build parsed.program) ⟨.barrier, .collapse⟩
      [.normalize, .prune, .sort] parsed.program =
        parsed.program.tidy (ScopeTree.build parsed.program) ⟨.barrier, .collapse⟩ := by
  have hread : ∃ parsed, (parse nestedTagSource).toOption = some parsed ∧
      parsed.program.wellFormed ∧
      (Pass.normalize.run (ScopeTree.build parsed.program) ⟨.barrier, .collapse⟩
        parsed.program).2 = ⟨0, 0, 1⟩ ∧
      removedImports (ScopeTree.build parsed.program) parsed.program.body = 1 :=
    exists_parsed_of_any (by decide +kernel)
  obtain ⟨parsed, hparsed, hwell, hnormalized, hremoved⟩ := hread
  exact ⟨parsed, hparsed, hwell, hnormalized, hremoved,
    Pass.runAll_eq_tidy parsed.program _ _ _ hwell (by decide)⟩

/-! ## Outer pieces first -/

namespace Syntax.Node

/-- The nodes of some pieces are those of each of them. -/
theorem length_allOf (nodes : List Node) :
    (allOf nodes).length = (nodes.map fun node => node.all.length).sum := by
  induction nodes with
  | nil => rfl
  | cons node rest ih => rw [allOf, List.length_append, ih, List.map_cons, List.sum_cons]

/-- A piece of syntax is one more than the pieces in its parts. -/
theorem length_all (node : Node) : node.all.length = (allOf node.parts).length + 1 := by
  obtain ⟨kind, span, parts⟩ := node
  rfl

/-- A part has no more pieces than all parts together. -/
theorem length_all_le_of_mem {nodes : List Node} (h : node ∈ nodes) :
    node.all.length ≤ (allOf nodes).length := by
  obtain ⟨before, behind, rfl⟩ := List.append_of_mem h
  simp only [length_allOf, List.map_append, List.map_cons, List.sum_append, List.sum_cons]
  omega

/-- Their number does not depend on the order of the pieces. -/
theorem length_allOf_perm {nodes nodes' : List Node} (h : nodes.Perm nodes') :
    (allOf nodes).length = (allOf nodes').length := by
  rw [length_allOf, length_allOf, (h.map _).sum_eq]

end Syntax.Node

namespace Rewriting

/-- Sorting does not make pieces. -/
theorem length_all_sorting (policy : SpreadPolicy) (node : Node) :
    (sorting policy node).1.all.length = node.all.length := by
  rcases tag_or_sorting_eq policy node with ⟨_, name, types, _, attributes, rfl⟩ | heq
  · have hsorted := Node.length_allOf_perm (sortedAttributes_perm policy attributes)
    rw [sorting_tag]
    simp only [Node.all, Node.allOf, List.length_cons, List.length_append, hsorted]
  · rw [heq]

/-- Rewriting a class value puts a single piece in its place. -/
theorem length_all_normalizing_le (normalize : ClassNormalizer) (node : Node) :
    (normalizing normalize node).1.all.length ≤ node.all.length := by
  obtain ⟨kind, span, parts⟩ := node
  by_cases h : RewritesClass normalize kind parts
  · obtain ⟨name, value, original, rfl, rfl, hname, hvalue, hchange⟩ := h
    have hone := value.length_all
    rw [normalizing_class hname hvalue hchange]
    simp only [Node.all, Node.allOf, List.length_cons, List.length_append, List.length_nil]
    omega
  · rw [normalizing_other h]

end Rewriting

namespace TidyOptions

/-- Tidying a piece does not make pieces. -/
theorem length_all_rewriting_le (o : TidyOptions) (node : Node) :
    (o.rewriting node).1.all.length ≤ node.all.length :=
  (Rewriting.length_all_normalizing_le _ _).trans (Rewriting.length_all_sorting _ node).le

/-- A part of what a piece has become is smaller than the piece. -/
theorem length_all_lt_of_mem (o : TidyOptions) {part : Node}
    (h : part ∈ (o.rewriting node).1.parts) : part.all.length < node.all.length := by
  have hroot := (o.rewriting node).1.length_all
  have hpart := Node.length_all_le_of_mem h
  have hle := o.length_all_rewriting_le node
  omega

/-- A piece of syntax tidied before the parts of what it has become, and what has changed. -/
def outerFirst (o : TidyOptions) (node : Node) : Node × Changes :=
  let root := (o.rewriting node).1
  let parts := root.parts.attach.map fun part => o.outerFirst part.1
  (.mk root.kind root.span (parts.map Prod.fst),
    (o.rewriting node).2 + (parts.map Prod.snd).sum)
termination_by node.all.length
decreasing_by exact o.length_all_lt_of_mem part.2

/-- Tidying slides through itself. -/
theorem rewriting_slides (o : TidyOptions) {kind : Kind} {span : Span} {parts : List Node}
    (hwell : (Node.mk kind span parts).wellFormed) :
    Rewriting.Slides o.rewriting o.rewriting kind span parts := by
  by_cases hkind : kind = .openingTag
  · subst hkind
    have hsorting : Rewriting.Slides (.sorting o.spreadPolicy) o.rewriting .openingTag span parts :=
      Rewriting.sorting_slides o.rewriting_onMarkup o.ofNode_result .openingTag span parts
    exact hsorting.congr fun _ => o.rewriting_of_tag rfl
  · have hnormalizing : Rewriting.Slides (.normalizing o.normalizer) o.rewriting kind span parts :=
      Rewriting.normalizing_slides o.rewriting_onMarkup hwell
    exact hnormalizing.congr fun _ => o.rewriting_of_ne_tag hkind

/-- Tidying a well-formed tree from its root inwards is tidying it from its innermost pieces
outwards. -/
theorem outerFirst_eq (o : TidyOptions) (h : node.wellFormed) :
    o.outerFirst node = o.rewriting.everywhere node := by
  induction hsize : node.all.length using Nat.strong_induction_on generalizing node with
  | _ size ih =>
      subst hsize
      obtain ⟨kind, span, parts⟩ := node
      -- The parts of what the root has become are smaller than the tree, and well formed like it.
      have hroot := Node.every_parts (o.wellFormed_rewriting h)
      have hparts : ∀ part ∈ (o.rewriting (.mk kind span parts)).1.parts,
          o.outerFirst part = o.rewriting.everywhere part := fun part hpart =>
        ih _ (o.length_all_lt_of_mem hpart) (hroot part hpart) rfl
      have hmap : (o.rewriting (.mk kind span parts)).1.parts.attach.map
          (fun part => o.outerFirst part.1) =
            (o.rewriting (.mk kind span parts)).1.parts.map o.rewriting.everywhere := by
        rw [List.attach_map_val]
        exact List.map_congr_left hparts
      rw [Rewriting.everywhere_eq_of_slides (o.rewriting_slides h), outerFirst, hmap, List.map_map,
        List.map_map]
      rfl

end TidyOptions

/-- Tidying a program is pruning its imports and then tidying every statement from the root
inwards. -/
theorem Syntax.Program.tidy_eq_outerFirst (t : ScopeTree) (o : TidyOptions)
    (h : p.wellFormed) : p.tidy t o =
      ({ p with body := (pruneImports t p.body).map fun statement => (o.outerFirst statement).1 },
        ⟨removedImports t p.body, 0, 0⟩ +
          ((pruneImports t p.body).map fun statement => (o.outerFirst statement).2).sum) := by
  have hkept : ∀ kept ∈ pruneImports t p.body, o.outerFirst kept = o.rewriting.everywhere kept :=
    fun kept hmem => o.outerFirst_eq (Pass.pruned_wellFormed t h kept hmem)
  have hbody : (pruneImports t p.body).map (fun statement => (o.outerFirst statement).1) =
      (pruneImports t p.body).map o.rewriting.result :=
    List.map_congr_left fun kept hmem => congrArg Prod.fst (hkept kept hmem)
  have hchanges : (pruneImports t p.body).map (fun statement => (o.outerFirst statement).2) =
      (pruneImports t p.body).map o.rewriting.changes :=
    List.map_congr_left fun kept hmem => congrArg Prod.snd (hkept kept hmem)
  rw [hbody, hchanges, Program.tidy_eq]

end JsxTidy
