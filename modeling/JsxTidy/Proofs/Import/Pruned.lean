import JsxTidy.Proofs.Import.Specifier

/-!
# What pruning does to names

Pruning takes declarations of the module from what a program sees, all of them imports that no use
refers to, and nothing else: `sheds_pruned` says so. The main result, `pruned_resolves_alike`,
compares the scope trees of a program before and after pruning. A name of the module that is
imported and declared again stays declared, with its uses, as long as one of its declarations does.
-/

namespace JsxTidy

open Syntax

/-! ## Lists that lose elements -/

/-- The second list is the first one without some of its elements, all of one sort. -/
inductive Sheds {α : Type} (lost : α → Prop) : List α → List α → Prop
  | nil : Sheds lost [] []
  | drop {a : α} {before after : List α} : lost a → Sheds lost before after →
      Sheds lost (a :: before) after
  | keep {a : α} {before after : List α} : Sheds lost before after →
      Sheds lost (a :: before) (a :: after)

namespace Sheds

variable {α : Type} {lost wider : α → Prop} {before after before' after' : List α} {a : α}
  {f : α → Bool}

theorem refl (l : List α) : Sheds lost l l := by
  induction l with
  | nil => exact .nil
  | cons a l ih => exact .keep ih

/-- What two lists shed, they shed together. -/
theorem append (h : Sheds lost before after) (h' : Sheds lost before' after') :
    Sheds lost (before ++ before') (after ++ after') := by
  induction h with
  | nil => exact h'
  | drop ha _ ih => exact .drop ha ih
  | keep _ ih => exact .keep ih

theorem mono (hlost : ∀ a, lost a → wider a) (h : Sheds lost before after) :
    Sheds wider before after := by
  induction h with
  | nil => exact .nil
  | drop ha _ ih => exact .drop (hlost _ ha) ih
  | keep _ ih => exact .keep ih

/-- A filter loses what it does not pass. -/
theorem of_filter (f : α → Bool) (l : List α) :
    Sheds (fun a => a ∈ l ∧ ¬ f a) l (l.filter f) := by
  induction l with
  | nil => exact .nil
  | cons a l ih =>
      have hrest := ih.mono fun b hb => And.intro (List.mem_cons_of_mem a hb.1) hb.2
      by_cases ha : f a
      · rw [List.filter_cons_of_pos ha]
        exact .keep hrest
      · rw [List.filter_cons_of_neg ha]
        exact .drop ⟨List.mem_cons_self, ha⟩ hrest

/-- What is made of a list sheds what is made of the elements that the list sheds. -/
theorem map {β : Type} {lost' : β → Prop} (g : α → β) (hlost : ∀ a, lost a → lost' (g a))
    (h : Sheds lost before after) : Sheds lost' (before.map g) (after.map g) := by
  induction h with
  | nil => exact .nil
  | drop ha _ ih => exact .drop (hlost _ ha) ih
  | keep _ ih => exact .keep ih

/-- Nothing comes in that was not there before. -/
theorem subset (h : Sheds lost before after) : after ⊆ before := by
  induction h with
  | nil => exact List.Subset.refl _
  | drop _ _ ih => exact List.subset_cons_of_subset _ ih
  | keep _ ih => exact List.cons_subset_cons _ ih

/-- What is not there any more was lost. -/
theorem lost_of_mem (h : Sheds lost before after) (hbefore : a ∈ before) (hafter : a ∉ after) :
    lost a := by
  induction h with
  | nil => cases hbefore
  | drop hb _ ih =>
      rcases List.mem_cons.1 hbefore with rfl | hbefore
      · exact hb
      · exact ih hbefore hafter
  | keep _ ih =>
      rcases List.mem_cons.1 hbefore with rfl | hbefore
      · exact absurd List.mem_cons_self hafter
      · exact ih hbefore fun hmem => hafter (List.mem_cons_of_mem _ hmem)

/-- A filter that passes nothing of what is lost passes the same before and after. -/
theorem filter_eq (h : Sheds lost before after) (hlost : ∀ a, lost a → ¬ f a) :
    after.filter f = before.filter f := by
  induction h with
  | nil => rfl
  | drop ha _ ih => rw [List.filter_cons_of_neg (hlost _ ha), ih]
  | keep _ ih => rw [List.filter_cons, List.filter_cons, ih]

end Sheds

/-! ## What a module loses -/

/-- A declaration by a specifier that pruning removes from some statements. -/
def RemovedFrom (t : ScopeTree) (body : List Node) (s : Sight) : Prop :=
  ∃ specifier ∈ importSpecifiers body, ¬ isLiveSpecifier t specifier ∧
    ImportsAs specifier (localName specifier) ∧ s = Sight.ofSpecifier specifier

/-- Whether something enters or leaves a scope. -/
def NameEvent.isMove : NameEvent → Bool
  | .enter _ | .leave => true
  | .declare .. | .use .. => false

/-- The second statements see what the first ones do, except for some sights, and open the same
scopes. -/
structure SeesLess (lost : Sight → Prop) (before after : List Node) : Prop where
  sights : ∀ next, Sheds lost (Node.sights next before) (Node.sights next after)
  scopeCount : Node.scopeCountOf after = Node.scopeCountOf before
  moves : (Node.eventsOf .lexical after).filter NameEvent.isMove =
    (Node.eventsOf .lexical before).filter NameEvent.isMove

namespace Syntax.Node

/-- The scopes of two lists of nodes are counted one behind the other. -/
theorem scopeCountOf_append (nodes others : List Node) :
    scopeCountOf (nodes ++ others) = scopeCountOf nodes + scopeCountOf others := by
  induction nodes with
  | nil => rw [List.nil_append, scopeCountOf, Nat.zero_add]
  | cons node rest ih => rw [List.cons_append, scopeCountOf, scopeCountOf, ih, Nat.add_assoc]

/-- Their events come one behind the other, too. -/
theorem eventsOf_append (context : DeclarationContext) (nodes others : List Node) :
    eventsOf context (nodes ++ others) = eventsOf context nodes ++ eventsOf context others := by
  induction nodes with
  | nil => rfl
  | cons node rest ih => rw [List.cons_append, eventsOf, eventsOf, ih, List.append_assoc]

/-- So do their sights, of which the later ones lie in later scopes. -/
theorem sights_append (next : ScopeId) (nodes others : List Node) :
    sights next (nodes ++ others) =
      sights next nodes ++ sights (next + scopeCountOf nodes) others := by
  induction nodes generalizing next with
  | nil => rfl
  | cons node rest ih =>
      rw [List.cons_append, sights_cons, sights_cons, ih, List.append_assoc, scopeCountOf,
        Nat.add_assoc]

end Syntax.Node

namespace SeesLess

variable {lost wider : Sight → Prop} {before after before' after' : List Node}

theorem refl (nodes : List Node) : SeesLess lost nodes nodes :=
  ⟨fun _ => .refl _, rfl, rfl⟩

theorem mono (hlost : ∀ s, lost s → wider s) (h : SeesLess lost before after) :
    SeesLess wider before after :=
  ⟨fun next => (h.sights next).mono hlost, h.scopeCount, h.moves⟩

theorem append (h : SeesLess lost before after) (h' : SeesLess lost before' after') :
    SeesLess lost (before ++ before') (after ++ after') where
  sights := by
    intro next
    rw [Node.sights_append, Node.sights_append, h.scopeCount]
    exact (h.sights next).append (h'.sights _)
  scopeCount := by
    rw [Node.scopeCountOf_append, Node.scopeCountOf_append, h.scopeCount, h'.scopeCount]
  moves := by
    rw [Node.eventsOf_append, Node.eventsOf_append, List.filter_append, List.filter_append,
      h.moves, h'.moves]

end SeesLess

section Statement

variable {t : ScopeTree} {specifiers : List Node} {isType : Bool} {phase : ImportPhase}
  {span listSpan : Span} {source attributes statement : Node}

/-- An import without some of its specifiers is well formed. -/
theorem wellFormed_import_filter (f : Node → Bool)
    (h : (Node.mk (.importDeclaration isType phase) span
      [.mk .list listSpan specifiers, source, attributes]).wellFormed) :
    (Node.mk (.importDeclaration isType phase) span
      [.mk .list listSpan (specifiers.filter f), source, attributes]).wellFormed := by
  obtain ⟨hadmits, hparts⟩ := Node.wellFormed_mk.1 h
  obtain ⟨hspecifiers, hrest⟩ := Node.admits_import.1 hadmits
  have hlist := (Node.wellFormed_mk.1 (hparts (.mk .list listSpan specifiers) (by simp))).2
  refine Node.wellFormed_mk.2 ⟨Node.admits_import.2 ⟨fun x hx => ?_, hrest⟩, ?_⟩
  · exact hspecifiers x (List.mem_filter.1 hx).1
  · intro part hpart
    rcases List.mem_cons.1 hpart with rfl | hpart
    · exact Node.wellFormed_mk.2 ⟨rfl, fun x hx => hlist x (List.mem_filter.1 hx).1⟩
    · exact hparts part (List.mem_cons_of_mem _ hpart)

/-- A statement is an import that has a list of specifiers, or pruning does not touch it. -/
theorem import_or_untouched (statement : Node) :
    (∃ isType phase span listSpan specifiers source attributes,
      statement = .mk (.importDeclaration isType phase) span
        [.mk .list listSpan specifiers, source, attributes]) ∨
    ∀ t, pruneStatement t statement = some statement := by
  by_cases h : ∃ isType phase span listSpan specifiers source attributes,
      statement = .mk (.importDeclaration isType phase) span
        [.mk .list listSpan specifiers, source, attributes]
  · exact .inl h
  · refine .inr fun t => ?_
    unfold pruneStatement
    split
    · exact absurd ⟨_, _, _, _, _, _, _, rfl⟩ h
    · rfl

/-- Pruning an import filters its specifiers, and removes the import when all are filtered out. -/
theorem pruneStatement_import :
    pruneStatement t (.mk (.importDeclaration isType phase) span
      [.mk .list listSpan specifiers, source, attributes]) =
        if (specifiers.filter (isLiveSpecifier t)).isEmpty ∧ ¬ specifiers.isEmpty then none
        else some (.mk (.importDeclaration isType phase) span
          [.mk .list listSpan (specifiers.filter (isLiveSpecifier t)), source, attributes]) := by
  simp [pruneStatement]

/-- What is kept of a well-formed statement is well-formed. -/
theorem wellFormed_pruneStatement (h : statement.wellFormed) :
    ∀ kept ∈ pruneStatement t statement, kept.wellFormed := by
  rcases import_or_untouched statement with ⟨_, _, _, _, _, _, _, rfl⟩ | huntouched
  · rw [pruneStatement_import]
    intro kept hkept
    split at hkept
    · cases hkept
    · cases hkept
      exact wellFormed_import_filter _ h
  · rw [huntouched t]
    rintro _ ⟨⟩
    exact h

/-- An import opens no scope. -/
theorem moves_import
    (h : (Node.mk (.importDeclaration isType phase) span
      [.mk .list listSpan specifiers, source, attributes]).wellFormed) :
    (Node.eventsOf .lexical [.mk (.importDeclaration isType phase) span
      [.mk .list listSpan specifiers, source, attributes]]).filter NameEvent.isMove = [] := by
  rw [Node.eventsOf, events_import h, Node.eventsOf, List.append_nil, List.filter_map,
    List.map_eq_nil_iff, List.filter_eq_nil_iff]
  simp [NameEvent.isMove]

/-- Pruning a statement takes declarations of unused imports from it. -/
theorem seesLess_statement (h : statement.wellFormed) :
    SeesLess (RemovedFrom t [statement]) [statement] (pruneStatement t statement).toList := by
  rcases import_or_untouched statement with
    ⟨isType, phase, span, listSpan, specifiers, source, attributes, rfl⟩ | huntouched
  · have hfiltered := wellFormed_import_filter (isLiveSpecifier t) h
    have hspecifiers := (declaresLocal_of_import h).1
    have hsheds : Sheds (RemovedFrom t [.mk (.importDeclaration isType phase) span
        [.mk .list listSpan specifiers, source, attributes]])
          (specifiers.map Sight.ofSpecifier)
          ((specifiers.filter (isLiveSpecifier t)).map Sight.ofSpecifier) := by
      refine (Sheds.of_filter (isLiveSpecifier t) specifiers).map _ ?_
      rintro s ⟨hs, hlive⟩
      have hmem : s ∈ importSpecifiers [.mk (.importDeclaration isType phase) span
          [.mk .list listSpan specifiers, source, attributes]] := by
        simpa [importSpecifiers, specifiersOf] using hs
      exact ⟨s, hmem, hlive, (hspecifiers s hs).imports, rfl⟩
    rw [pruneStatement_import]
    split
    · -- An import that loses all its specifiers goes as a whole.
      rename_i hempty
      rw [List.isEmpty_iff.1 hempty.1] at hsheds
      refine ⟨fun next => ?_, ?_, ?_⟩
      · rw [sights_import h]
        exact hsheds
      · rw [Node.scopeCountOf, scopeCount_import h]
        rfl
      · rw [moves_import h]
        rfl
    · refine ⟨fun next => ?_, ?_, ?_⟩
      · rw [Option.toList_some, sights_import h, sights_import hfiltered]
        exact hsheds
      · simp only [Option.toList_some, Node.scopeCountOf, scopeCount_import h,
          scopeCount_import hfiltered]
      · rw [Option.toList_some, moves_import h, moves_import hfiltered]
  · rw [huntouched t]
    exact .refl _

end Statement

/-- Statements are pruned one by one. -/
theorem pruneImports_cons (t : ScopeTree) (statement : Node) (body : List Node) :
    pruneImports t (statement :: body) =
      (pruneStatement t statement).toList ++ pruneImports t body := by
  rw [pruneImports, pruneImports, List.filterMap_cons]
  cases pruneStatement t statement <;> rfl

/-- Pruning the statements of a module takes declarations of unused imports from them. -/
theorem seesLess_pruneImports {t : ScopeTree} {body : List Node}
    (h : ∀ statement ∈ body, statement.wellFormed) :
    SeesLess (RemovedFrom t body) body (pruneImports t body) := by
  induction body with
  | nil => exact .refl _
  | cons statement body ih =>
      rw [pruneImports_cons, ← List.singleton_append]
      refine SeesLess.append ((seesLess_statement (h statement (by simp))).mono ?_)
        ((ih fun other hother => h other (by simp [hother])).mono ?_)
      · rintro s ⟨specifier, hmem, hs⟩
        exact ⟨specifier, by simp_all [importSpecifiers], hs⟩
      · rintro s ⟨specifier, hmem, hs⟩
        exact ⟨specifier, by simp_all [importSpecifiers], hs⟩

/-! ## The scopes of a tree -/

/-- The scopes of a tree without the names in them: the scope around each, and its flags. -/
def ScopeTree.outline (t : ScopeTree) : List (Option ScopeId × List ScopeFlag) :=
  t.scopes.toList.map fun s => (s.parent, s.flags)

/-- A tree that grows by no scope keeps its outline. -/
theorem ScopeTree.Grows.outline_eq {t t' : ScopeTree} (h : t.Grows t')
    (hsize : t'.scopes.size = t.scopes.size) : t'.outline = t.outline := by
  refine List.ext_getElem? fun id => ?_
  rw [ScopeTree.outline, ScopeTree.outline, List.getElem?_map, List.getElem?_map,
    Array.getElem?_toList, Array.getElem?_toList]
  cases hs : t.scopes[id]? with
  | none =>
      rw [Array.getElem?_eq_none_iff, ← hsize, ← Array.getElem?_eq_none_iff] at hs
      rw [hs]
  | some s =>
      obtain ⟨s', hs', hparent, hflags⟩ := h id s hs
      rw [hs', Option.map_some, Option.map_some, hparent, hflags]

/-- A scope that is opened is the last one of the outline. -/
theorem ScopeTree.outline_pushScope (t : ScopeTree) (parent : ScopeId) (flags : List ScopeFlag) :
    (t.pushScope parent flags).outline = t.outline ++ [(some parent, flags)] := by
  simp [ScopeTree.outline, ScopeTree.pushScope]

/-- The outline has an entry for each scope. -/
theorem ScopeTree.length_outline (t : ScopeTree) : t.outline.length = t.scopes.size := by
  simp [ScopeTree.outline]

namespace Resolver

variable {r r' : Resolver}

/-- What entering and leaving scopes depends on. -/
def outline (r : Resolver) : List (Option ScopeId × List ScopeFlag) × List ScopeId :=
  (r.tree.outline, r.entered)

/-- A declaration or use leaves the outline as it is. -/
theorem outline_step_of_not_isMove (r : Resolver) {event : NameEvent} (h : ¬ event.isMove) :
    (r.step event).outline = r.outline := by
  cases event with
  | enter flags => exact absurd rfl h
  | leave => exact absurd rfl h
  | declare kind name span =>
      rw [outline, outline, step,
        ScopeTree.grows_declare.outline_eq ScopeTree.size_declare]
  | use name span => rfl

/-- A move changes the outline without a look at what has been declared. -/
theorem outline_step_of_isMove (hr : r.outline = r'.outline) {event : NameEvent}
    (h : event.isMove) : (r.step event).outline = (r'.step event).outline := by
  obtain ⟨htree, hentered⟩ := Prod.mk.inj hr
  cases event with
  | enter flags =>
      have hsize : r.tree.scopes.size = r'.tree.scopes.size := by
        rw [← ScopeTree.length_outline, htree, ScopeTree.length_outline]
      simp only [outline, step, ScopeTree.outline_pushScope, current, htree, hentered, hsize]
  | leave => simp only [outline, step, htree, hentered]
  | declare kind name span => cases h
  | use name span => cases h

/-- Declaring and using names does not show in the outline of the scopes. -/
theorem outline_foldl (events : List NameEvent) (hr : r.outline = r'.outline) :
    (events.foldl step r).outline =
      ((events.filter NameEvent.isMove).foldl step r').outline := by
  induction events generalizing r r' with
  | nil => exact hr
  | cons event events ih =>
      by_cases h : event.isMove
      · rw [List.filter_cons_of_pos h, List.foldl_cons, List.foldl_cons]
        exact ih (outline_step_of_isMove hr h)
      · rw [List.filter_cons_of_neg h, List.foldl_cons]
        exact ih ((outline_step_of_not_isMove r h).trans hr)

end Resolver

/-! ## The names of a pruned program -/

namespace Syntax.Program

variable {p : Program} {id : ScopeId} {name : String} {s : Sight}

/-- A program without its unused imports. -/
def pruned (p : Program) : Program :=
  { p with body := pruneImports (ScopeTree.build p) p.body }

/-- A pruned program sees what it saw before except for declarations of unused imports. -/
theorem sheds_pruned (h : p.wellFormed) :
    Sheds (RemovedFrom (ScopeTree.build p) p.body) p.sights p.pruned.sights := by
  have hbody : ∀ statement ∈ p.body, statement.wellFormed := by
    intro statement hstatement
    exact Node.everyOf_iff.1 h statement (List.mem_append_right _ hstatement)
  rw [sights_eq, sights_eq]
  exact (Sheds.refl _).append ((seesLess_pruneImports hbody).sights _)

/-- The scopes of a pruned program are those it had before. -/
theorem outline_pruned (h : p.wellFormed) :
    (ScopeTree.build p.pruned).outline = (ScopeTree.build p).outline := by
  have hbody : ∀ statement ∈ p.body, statement.wellFormed := by
    intro statement hstatement
    exact Node.everyOf_iff.1 h statement (List.mem_append_right _ hstatement)
  have hmoves : p.pruned.events.filter NameEvent.isMove = p.events.filter NameEvent.isMove := by
    rw [Program.events, Program.events, List.filter_append, List.filter_append]
    exact congrArg (_ ++ ·) (seesLess_pruneImports hbody).moves
  have hrun : (Resolver.run p.pruned.events).outline = (Resolver.run p.events).outline := by
    rw [Resolver.run, Resolver.run, Resolver.outline_foldl p.pruned.events rfl,
      Resolver.outline_foldl p.events rfl, hmoves]
  rw [ScopeTree.outline, ScopeTree.outline, scopes_build, scopes_build]
  exact congrArg Prod.fst hrun

/-- A use does not refer to the module when the module's import of its name is unused. -/
theorem declaringScope?_ne_module (hs : s ∈ p.sights) (huse : s.isUse)
    (hlive : ¬ (ScopeTree.build p).isLive s.use.name) :
    s.declaringScope? p.declares ≠ some ScopeTree.module := by
  intro hmodule
  obtain ⟨m, hm, rfl⟩ := List.mem_map.1 hs
  exact hlive (isLive_build_iff.2 ⟨m, List.mem_filter.2 ⟨hm, huse⟩, rfl, hmodule⟩)

/-- What a pruned program does not declare any more is the unused import of a name. -/
theorem removed_of_declares (h : p.wellFormed) (hbefore : p.declares id name)
    (hafter : ¬ p.pruned.declares id name) :
    id = ScopeTree.module ∧ ¬ (ScopeTree.build p).isLive name ∧
      ∃ specifier ∈ importSpecifiers p.body,
        ¬ isLiveSpecifier (ScopeTree.build p) specifier ∧ ImportsAs specifier name := by
  obtain ⟨s, hs, hdeclares⟩ := declares_iff.1 hbefore
  have hgone : s ∉ p.pruned.sights := fun hmem => hafter (declares_iff.2 ⟨s, hmem, hdeclares⟩)
  obtain ⟨specifier, hmem, hlive, himports, rfl⟩ := (sheds_pruned h).lost_of_mem hs hgone
  simp only [Sight.declares, Sight.ofSpecifier, Bool.and_eq_true, beq_iff_eq,
    Option.some.injEq] at hdeclares
  obtain ⟨rfl, rfl⟩ := hdeclares
  exact ⟨rfl, hlive, specifier, hmem, hlive, himports⟩

/-- Every use refers to the same scope before and after pruning. -/
theorem declaringScope?_pruned (h : p.wellFormed) (hs : s ∈ p.sights) (huse : s.isUse) :
    s.declaringScope? p.pruned.declares = s.declaringScope? p.declares := by
  refine ((find?_eq_find?_iff ?_).2 ?_).symm
  · intro id hdeclares
    obtain ⟨s', hs', hdeclares'⟩ := declares_iff.1 hdeclares
    exact declares_iff.2 ⟨s', (sheds_pruned h).subset hs', hdeclares'⟩
  · intro id hfound
    by_contra hafter
    have hbefore := List.find?_some (p := fun id => p.declares id s.use.name) hfound
    obtain ⟨rfl, hlive, -⟩ := removed_of_declares h hbefore hafter
    exact declaringScope?_ne_module hs huse hlive hfound

/-- A pruned program uses the names that it used before, at the same places. -/
theorem uses_pruned (h : p.wellFormed) :
    p.pruned.sights.filter Sight.isUse = p.sights.filter Sight.isUse := by
  refine (sheds_pruned h).filter_eq ?_
  rintro s ⟨specifier, -, -, -, rfl⟩
  simp [Sight.isUse, Sight.ofSpecifier]

/-- The same names of the module are used before and after pruning. -/
theorem isLive_pruned (h : p.wellFormed) :
    (ScopeTree.build p.pruned).isLive name = (ScopeTree.build p).isLive name := by
  have hsights : ∀ q : Program, (ScopeTree.build q).isLive name ↔
      ∃ s ∈ q.sights.filter Sight.isUse, s.use.name = name ∧
        s.declaringScope? q.declares = some ScopeTree.module := by
    intro q
    rw [isLive_build_iff, ← map_sight_uses]
    simp only [List.mem_map, exists_exists_and_eq_and]
    rfl
  rw [Bool.eq_iff_iff, hsights, hsights, uses_pruned h]
  refine exists_congr fun s => and_congr_right fun hs => ?_
  obtain ⟨hs, huse⟩ := List.mem_filter.1 hs
  rw [declaringScope?_pruned h hs huse]

/-- An unused name that the module declares has no uses. -/
theorem references?_of_not_isLive (hdeclares : p.declares ScopeTree.module name)
    (hlive : ¬ (ScopeTree.build p).isLive name) :
    (ScopeTree.build p).references? ScopeTree.module name = some [] := by
  rw [references?_build, if_pos hdeclares]
  congr 1
  rw [List.map_eq_nil_iff, List.filter_eq_nil_iff]
  intro s hs
  obtain ⟨hs, huse⟩ := List.mem_filter.1 hs
  simp only [decide_eq_true_eq, not_and]
  rintro rfl
  exact declaringScope?_ne_module hs huse hlive

end Syntax.Program

/-! ## Pruning again -/

section Again

variable {t t' : ScopeTree} {statement kept : Node} {body : List Node}

/-- Pruning depends on which specifiers are live and on nothing else. -/
theorem pruneImports_congr (h : isLiveSpecifier t' = isLiveSpecifier t) :
    pruneImports t' body = pruneImports t body := by
  have hstatement : pruneStatement t' = pruneStatement t := by
    funext statement
    rcases import_or_untouched statement with ⟨_, _, _, _, _, _, _, rfl⟩ | huntouched
    · rw [pruneStatement_import, pruneStatement_import, h]
    · rw [huntouched, huntouched]
  rw [pruneImports, pruneImports, hstatement]

/-- What pruning leaves of a statement has nothing more to prune. -/
theorem pruneStatement_of_kept (h : pruneStatement t statement = some kept) :
    pruneStatement t kept = some kept := by
  rcases import_or_untouched statement with ⟨_, _, _, _, _, _, _, rfl⟩ | huntouched
  · rw [pruneStatement_import] at h
    split at h
    · cases h
    · rename_i hkept
      cases h
      rw [pruneStatement_import, List.filter_filter]
      simp only [Bool.and_self]
      rw [if_neg]
      rintro ⟨hempty, hnonempty⟩
      exact hnonempty hempty
  · rw [huntouched t] at h
    cases h
    exact huntouched t

/-- Pruning twice is pruning once. -/
theorem pruneImports_pruneImports : pruneImports t (pruneImports t body) = pruneImports t body := by
  rw [pruneImports, pruneImports, List.filterMap_filterMap]
  refine List.filterMap_congr fun statement _ => ?_
  cases hkept : pruneStatement t statement with
  | none => rfl
  | some kept => exact pruneStatement_of_kept hkept

/-- The unused specifiers of a module are counted all together. -/
theorem removedImports_eq_countP :
    removedImports t body = (importSpecifiers body).countP fun s => !isLiveSpecifier t s := by
  induction body with
  | nil => rfl
  | cons statement body ih =>
      rw [importSpecifiers, List.flatMap_cons, List.countP_append]
      exact congrArg (unusedIn t statement + ·) ih

/-- Nothing is left to remove after pruning. -/
theorem removedImports_pruneImports : removedImports t (pruneImports t body) = 0 := by
  rw [removedImports_eq_countP, importSpecifiers_pruneImports, List.countP_eq_zero]
  intro s hs
  simpa using (List.mem_filter.1 hs).2

end Again

/-! ## Two runs of the resolver -/

namespace Syntax.Program

/-- Pruning changes no reference. The scopes, the unresolved names and the uses of every name that
is still declared are as before; what is not declared any more is an unused import of the module;
and nothing more can be pruned. -/
theorem pruned_resolves_alike (p : Program) (h : p.wellFormed) :
    (ScopeTree.build p.pruned).outline = (ScopeTree.build p).outline ∧
    (ScopeTree.build p.pruned).unresolved = (ScopeTree.build p).unresolved ∧
    (∀ id name, (ScopeTree.build p.pruned).Has id name →
      (ScopeTree.build p).Has id name ∧
      (ScopeTree.build p.pruned).references? id name = (ScopeTree.build p).references? id name) ∧
    (∀ id name, (ScopeTree.build p).Has id name → ¬ (ScopeTree.build p.pruned).Has id name →
      id = ScopeTree.module ∧ (ScopeTree.build p).references? id name = some [] ∧
      ∃ specifier ∈ importSpecifiers p.body,
        specifier ∉ importSpecifiers p.pruned.body ∧ ImportsAs specifier name) ∧
    pruneImports (ScopeTree.build p.pruned) p.pruned.body = p.pruned.body ∧
    removedImports (ScopeTree.build p.pruned) p.pruned.body = 0 := by
  have hsame : isLiveSpecifier (ScopeTree.build p.pruned) =
      isLiveSpecifier (ScopeTree.build p) := by
    funext specifier
    exact isLive_pruned h
  have hscope : ∀ s ∈ p.sights.filter Sight.isUse,
      s.declaringScope? p.pruned.declares = s.declaringScope? p.declares := by
    intro s hs
    exact declaringScope?_pruned h (List.mem_filter.1 hs).1 (List.mem_filter.1 hs).2
  have hkeeps : ∀ {id name}, p.pruned.declares id name → p.declares id name := by
    intro id name hafter
    obtain ⟨s, hs, hdeclares⟩ := declares_iff.1 hafter
    exact declares_iff.2 ⟨s, (sheds_pruned h).subset hs, hdeclares⟩
  refine ⟨outline_pruned h, ?_, ?_, ?_, ?_, ?_⟩
  · rw [unresolved_build_sights, unresolved_build_sights, uses_pruned h]
    exact congrArg _ (List.filter_congr fun s hs => by rw [hscope s hs])
  · intro id name hafter
    rw [has_build_iff] at hafter ⊢
    refine ⟨hkeeps hafter, ?_⟩
    rw [references?_build, references?_build, if_pos hafter, if_pos (hkeeps hafter), uses_pruned h]
    congr 2
    exact List.filter_congr fun s hs => by rw [hscope s hs]
  · intro id name hbefore hafter
    rw [has_build_iff] at hbefore hafter
    obtain ⟨rfl, hlive, specifier, hmem, hdead, himports⟩ := removed_of_declares h hbefore hafter
    refine ⟨rfl, references?_of_not_isLive hbefore hlive, specifier, hmem, ?_, himports⟩
    rw [pruned, importSpecifiers_pruneImports]
    exact fun hkept => hdead (List.mem_filter.1 hkept).2
  · rw [pruneImports_congr hsame]
    exact pruneImports_pruneImports
  · rw [removedImports_eq_countP, hsame, ← removedImports_eq_countP]
    exact removedImports_pruneImports

end Syntax.Program

/-- The module declares the imported `a` a second time, and nothing uses either. -/
def redeclaredImportSource : String :=
  "import { a, b } from \"m\";\nvar a;\nf(b);\n"

/-- The name that is declared twice stays declared without its import, and nothing else changes. -/
theorem redeclared_import_pruned : ∃ parsed,
    (parse redeclaredImportSource).toOption = some parsed ∧ parsed.program.wellFormed ∧
    removedImports (ScopeTree.build parsed.program) parsed.program.body = 1 ∧
    (ScopeTree.build parsed.program.pruned).references? ScopeTree.module "a" = some [] ∧
    (ScopeTree.build parsed.program.pruned).unresolved =
      (ScopeTree.build parsed.program).unresolved ∧
    removedImports (ScopeTree.build parsed.program.pruned) parsed.program.pruned.body = 0 := by
  have hread : ∃ parsed, (parse redeclaredImportSource).toOption = some parsed ∧
      parsed.program.wellFormed ∧
      removedImports (ScopeTree.build parsed.program) parsed.program.body = 1 ∧
      (ScopeTree.build parsed.program).references? ScopeTree.module "a" = some [] ∧
      parsed.program.pruned.declares ScopeTree.module "a" :=
    exists_parsed_of_any (by decide +kernel)
  obtain ⟨parsed, hparsed, hwell, hremoved, hbefore, hdeclares⟩ := hread
  obtain ⟨-, hunresolved, hreferences, -, -, hagain⟩ :=
    Program.pruned_resolves_alike parsed.program hwell
  have hafter := (hreferences _ _ (Program.has_build_iff.2 hdeclares)).2
  exact ⟨parsed, hparsed, hwell, hremoved, hafter.trans hbefore, hunresolved, hagain⟩

end JsxTidy
