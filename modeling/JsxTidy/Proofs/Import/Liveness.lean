import JsxTidy.Pipeline
import JsxTidy.Proofs.Scope.Resolution

/-!
# Which imports are kept

Pruning keeps the specifiers whose local name is used outside all inner scopes that declare it.
The main result, `mem_pruned_iff`, says so in terms of the trails of uses: a use keeps an import of
its name exactly when no scope around it inside the module declares that name.
-/

namespace JsxTidy

open Syntax

/-- A specifier of an import that brings a name into the module. -/
inductive ImportsAs : Node → String → Prop where
  | named (isType : Bool) (span nameSpan : Span) (imported : Node) (name : String)
      (parts : List Node) :
      ImportsAs (.mk (.importSpecifier isType) span [imported, .mk (.binding name) nameSpan parts])
        name
  | default (span nameSpan : Span) (name : String) (parts : List Node) :
      ImportsAs (.mk .importDefault span [.mk (.binding name) nameSpan parts]) name
  | whole (span nameSpan : Span) (name : String) (parts : List Node) :
      ImportsAs (.mk .importNamespace span [.mk (.binding name) nameSpan parts]) name

/-- The name that a specifier of an import brings into the module. -/
def importedName? : Node → Option String
  | .mk (.importSpecifier _) _ [_, .mk (.binding name) _ _] => some name
  | .mk .importDefault _ [.mk (.binding name) _ _] => some name
  | .mk .importNamespace _ [.mk (.binding name) _ _] => some name
  | _ => none

theorem importedName?_eq_some_iff {specifier : Node} {name : String} :
    importedName? specifier = some name ↔ ImportsAs specifier name := by
  constructor
  · intro h
    unfold importedName? at h
    split at h
    · cases h
      exact .named ..
    · cases h
      exact .default ..
    · cases h
      exact .whole ..
    · cases h
  · rintro (_ | _ | _) <;> rfl

instance (specifier : Node) (name : String) : Decidable (ImportsAs specifier name) :=
  decidable_of_iff _ importedName?_eq_some_iff

/-- The specifiers of all imports of a module. -/
def importSpecifiers (body : List Node) : List Node :=
  body.flatMap specifiersOf

variable {t : ScopeTree} {p : Program} {m : Mention} {specifier : Node} {name : String}

theorem ImportsAs.localName_eq (h : ImportsAs specifier name) : localName specifier = name := by
  cases h <;> rfl

/-! ## What pruning keeps -/

/-- The specifiers that are left in a statement after pruning. -/
theorem specifiersOf_pruneStatement (statement : Node) :
    (pruneStatement t statement).toList.flatMap specifiersOf =
      (specifiersOf statement).filter (isLiveSpecifier t) := by
  by_cases h : ∃ isType phase span listSpan specifiers source attributes,
      statement = .mk (.importDeclaration isType phase) span
        [.mk .list listSpan specifiers, source, attributes]
  · obtain ⟨isType, phase, span, listSpan, specifiers, source, attributes, rfl⟩ := h
    simp only [pruneStatement, specifiersOf]
    split
    · have hempty : specifiers.filter (isLiveSpecifier t) = [] := by
        simp_all
      simp [hempty]
    · simp [specifiersOf]
  · have hnone : specifiersOf statement = [] := by
      unfold specifiersOf
      split
      · exact absurd ⟨_, _, _, _, _, _, _, rfl⟩ h
      · rfl
    have hkept : pruneStatement t statement = some statement := by
      unfold pruneStatement
      split
      · exact absurd ⟨_, _, _, _, _, _, _, rfl⟩ h
      · rfl
    simp [hnone, hkept]

/-- Pruning keeps the live specifiers of a module, in their order, and no others. -/
theorem importSpecifiers_pruneImports (body : List Node) :
    importSpecifiers (pruneImports t body) =
      (importSpecifiers body).filter (isLiveSpecifier t) := by
  induction body with
  | nil => rfl
  | cons statement body ih =>
      have hstatement := specifiersOf_pruneStatement (t := t) statement
      simp only [importSpecifiers, pruneImports] at ih ⊢
      rw [List.flatMap_cons, List.filter_append, ← ih, ← hstatement]
      cases hpruned : pruneStatement t statement with
      | none => simp [hpruned]
      | some kept => simp [hpruned]

/-! ## Scopes around a use -/

/-- In a chain of scopes the last one has the smallest number. -/
theorem ScopeTree.Chain.last_lt {ids : List ScopeId} {last : ScopeId}
    (h : t.Chain (ids ++ [last])) : ∀ id ∈ ids, last < id := by
  induction ids with
  | nil => simp
  | cons id ids ih =>
      cases ids with
      | nil =>
          obtain ⟨⟨s, _, _, hlt⟩, _⟩ := h
          simpa using hlt
      | cons parent ids =>
          obtain ⟨⟨s, _, _, hlt⟩, hrest⟩ := h
          intro other hother
          rcases List.mem_cons.1 hother with rfl | hother
          · exact Nat.lt_trans (ih hrest parent (by simp)) hlt
          · exact ih hrest other hother

namespace Syntax.Program

/-- The module itself is none of the scopes inside it. -/
theorem module_notMem_scopes (hm : m ∈ p.mentions) : ScopeTree.module ∉ m.trail.scopes := by
  intro hmem
  exact Nat.lt_irrefl _ ((chain_build hm).last_lt _ hmem)

/-- A use of a name that the module declares refers to the module unless a scope inside the module
declares the name around the use. -/
theorem declaringScope?_eq_module_iff (hm : m ∈ p.mentions)
    (hmodule : p.declares ScopeTree.module m.name) :
    p.declaringScope? m = some ScopeTree.module ↔
      ∀ id ∈ m.trail.scopes, ¬ p.declares id m.name :=
  find?_concat_eq_some_iff (f := fun id => p.declares id m.name) hmodule (module_notMem_scopes hm)

/-- The module's binding of a name is live when some use of the name refers to the module. -/
theorem isLive_build_iff : (ScopeTree.build p).isLive name ↔
    ∃ u ∈ p.uses, u.name = name ∧ p.declaringScope? u = some ScopeTree.module := by
  have huse : ∀ u ∈ p.uses, u ∈ p.mentions := fun u hu => (List.mem_filter.1 hu).1
  rw [ScopeTree.isLive, ScopeTree.moduleBinding?]
  cases hget : (ScopeTree.build p).get? ScopeTree.module name with
  | none =>
      simp only [Option.bind_eq_bind, Option.bind_none, Bool.false_eq_true, false_iff]
      rintro ⟨u, hu, rfl, hmodule⟩
      have hdeclares := List.find?_some (p := fun id => p.declares id u.name) hmodule
      have hhas := has_build_iff.2 hdeclares
      simp [ScopeTree.Has, hget] at hhas
  | some b =>
      obtain ⟨binding, hb, hname, hscope⟩ := (sound_build p).named _ _ b hget
      have hattached : ∀ u ∈ p.uses, p.attached? u = some b ↔
          u.name = name ∧ p.declaringScope? u = some ScopeTree.module := by
        intro u hu
        rw [attached?_eq_some_iff (huse u hu)]
        constructor
        · rintro ⟨binding', hb', hname', hscope'⟩
          cases hb'.symm.trans hb
          exact ⟨hname'.symm.trans hname, by rw [hscope', hscope]⟩
        · rintro ⟨huname, hmodule⟩
          exact ⟨binding, hb, by rw [hname, huname], by rw [hmodule, hscope]⟩
      simp only [Option.bind_eq_bind, Option.bind_some, hb, Binding.isReferenced,
        references_build hb, Bool.not_eq_true', List.isEmpty_eq_false_iff, ne_eq,
        List.map_eq_nil_iff, List.filter_eq_nil_iff, not_forall, decide_eq_true_eq]
      constructor
      · rintro ⟨u, hu, h⟩
        exact ⟨u, hu, (hattached u hu).1 (not_not.1 h)⟩
      · rintro ⟨u, hu, h⟩
        exact ⟨u, hu, not_not.2 ((hattached u hu).2 h)⟩

end Syntax.Program

/-! ## Imports declare names of the module -/

/-- The mentions of some pieces of syntax hold those of each of them, seen from its place. -/
theorem exists_mentions_subset {nodes : List Node} {node : Node} (h : node ∈ nodes) (kind : Kind)
    (scope? : Option ScopeId) (trail : Trail) (part : Nat) (next : ScopeId) :
    ∃ part' next', node.mentions (⟨kind, part', scope?⟩ :: trail) next' ⊆
      Node.mentionsOf kind scope? part trail next nodes := by
  induction nodes generalizing part next with
  | nil => cases h
  | cons first rest ih =>
      rw [Node.mentionsOf]
      rcases List.mem_cons.1 h with rfl | h
      · exact ⟨part, next, List.subset_append_left _ _⟩
      · obtain ⟨part', next', hsubset⟩ := ih h (part + 1) (next + first.scopeCount)
        exact ⟨part', next', List.Subset.trans hsubset (List.subset_append_right _ _)⟩

/-- A specifier mentions its local name as imported into the module. -/
theorem ImportsAs.exists_mention (h : ImportsAs specifier name) (trail : Trail)
    (hcontext : trail.context = .imported) (hscopes : trail.scopes = []) (next : ScopeId) :
    ∃ m ∈ specifier.mentions trail next,
      m.role = .declaration .imported ∧ m.declares ScopeTree.module name := by
  have hmention : ∀ frames : Trail, frames.context = .imported → frames.scopes = [] → ∀ span,
      let m : Mention := ⟨.declaration frames.context.bindingKind, name, span, frames⟩
      m.role = .declaration .imported ∧ m.declares ScopeTree.module name := by
    intro frames hcontext hscopes span
    simp [Mention.declares, Mention.target?, hcontext, DeclarationContext.bindingKind,
      Trail.innermost, hscopes]
  cases h with
  | named isType span nameSpan imported name parts =>
      refine ⟨_, ?_, hmention (⟨.importSpecifier isType, 1, none⟩ :: trail) ?_ ?_ nameSpan⟩
      · simp [Node.mentions, Node.mentionsOf, Trail.numberOf?, NameEvent.scopeOf?]
      · simpa [Trail.context, NameEvent.contextIn, NameEvent.scopeOf?] using hcontext
      · simpa [Trail.scopes] using hscopes
  | default span nameSpan name parts =>
      refine ⟨_, ?_, hmention (⟨.importDefault, 0, none⟩ :: trail) ?_ ?_ nameSpan⟩
      · simp [Node.mentions, Node.mentionsOf, Trail.numberOf?, NameEvent.scopeOf?]
      · simpa [Trail.context, NameEvent.contextIn, NameEvent.scopeOf?] using hcontext
      · simpa [Trail.scopes] using hscopes
  | whole span nameSpan name parts =>
      refine ⟨_, ?_, hmention (⟨.importNamespace, 0, none⟩ :: trail) ?_ ?_ nameSpan⟩
      · simp [Node.mentions, Node.mentionsOf, Trail.numberOf?, NameEvent.scopeOf?]
      · simpa [Trail.context, NameEvent.contextIn, NameEvent.scopeOf?] using hcontext
      · simpa [Trail.scopes] using hscopes

/-- A program mentions the names of its imports as imported into the module. -/
theorem ImportsAs.exists_mention_of_mem (himports : ImportsAs specifier name)
    (hspecifier : specifier ∈ importSpecifiers p.body) :
    ∃ m ∈ p.mentions, m.role = .declaration .imported ∧ m.declares ScopeTree.module name := by
  obtain ⟨statement, hstatement, hmem⟩ := List.mem_flatMap.1 hspecifier
  unfold specifiersOf at hmem
  split at hmem
  · rename_i isType phase span listSpan specifiers source attributes
    obtain ⟨i, next, hbody⟩ := exists_mentions_subset hstatement .list none [] 0
      (1 + Node.scopeCountOf p.directives)
    obtain ⟨j, next', hlist⟩ := exists_mentions_subset hmem .list none
      [⟨.importDeclaration isType phase, 0, none⟩, ⟨.list, i, none⟩] 0 next
    obtain ⟨m, hm, himported⟩ := himports.exists_mention
      [⟨.list, j, none⟩, ⟨.importDeclaration isType phase, 0, none⟩, ⟨.list, i, none⟩] rfl rfl next'
    refine ⟨m, List.mem_append_right _ (hbody ?_), himported⟩
    have hm := hlist hm
    simp only [Node.mentions, Node.mentionsOf, Trail.numberOf?, NameEvent.scopeOf?,
      Option.isSome_none, Bool.false_eq_true, if_false, List.mem_append]
    exact .inl hm
  · cases hmem

/-- The module declares the names of its imports. -/
theorem ImportsAs.declares_of_mem (himports : ImportsAs specifier name)
    (hspecifier : specifier ∈ importSpecifiers p.body) : p.declares ScopeTree.module name := by
  obtain ⟨m, hm, _, hdeclares⟩ := himports.exists_mention_of_mem hspecifier
  exact List.any_eq_true.2 ⟨m, hm, hdeclares⟩

/-- Pruning keeps a specifier exactly when some use of its name stands outside all scopes inside
the module that declare the name. -/
theorem mem_pruned_iff (hspecifier : specifier ∈ importSpecifiers p.body)
    (himports : ImportsAs specifier name) :
    specifier ∈ importSpecifiers (pruneImports (ScopeTree.build p) p.body) ↔
      ∃ u ∈ p.uses, u.name = name ∧ ∀ id ∈ u.trail.scopes, ¬ p.declares id name := by
  have hmodule := himports.declares_of_mem hspecifier
  rw [importSpecifiers_pruneImports, List.mem_filter, and_iff_right hspecifier, isLiveSpecifier,
    himports.localName_eq, Program.isLive_build_iff]
  constructor
  · rintro ⟨u, hu, rfl, h⟩
    exact ⟨u, hu, rfl,
      (Program.declaringScope?_eq_module_iff (List.mem_filter.1 hu).1 hmodule).1 h⟩
  · rintro ⟨u, hu, rfl, h⟩
    exact ⟨u, hu, rfl,
      (Program.declaringScope?_eq_module_iff (List.mem_filter.1 hu).1 hmodule).2 h⟩

theorem eq_ok_of_toOption {ε α : Type} {result : Except ε α} {a : α}
    (h : result.toOption = some a) : result = .ok a := by
  cases result with
  | error problem => cases h
  | ok found =>
      cases h
      rfl

/-- What a given text reads as is found by reading it. -/
theorem exists_parsed_of_any {source : String} {P : Parsed → Prop} [DecidablePred P]
    (h : (parse source).toOption.any fun parsed => decide (P parsed)) :
    ∃ parsed, (parse source).toOption = some parsed ∧ P parsed := by
  obtain ⟨parsed, hparsed, hdecide⟩ := (Option.any_eq_true _ _).1 h
  exact ⟨parsed, hparsed, of_decide_eq_true hdecide⟩

end JsxTidy
