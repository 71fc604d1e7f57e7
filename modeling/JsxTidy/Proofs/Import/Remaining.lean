import JsxTidy.Proofs.Import.Pruned
import JsxTidy.Proofs.Scope.Profile
import JsxTidy.Proofs.Syntax.Stripped
import Mathlib.Data.List.Forall2

/-!
# Imports that remain

An import goes when it has specifiers and all of them are dead. Every other statement stays at its
place among the others: an import with some live specifiers keeps exactly these, and a statement
without specifiers stays as it is. The main result, `pruneImports_keepsLive`, says so for any
statements and any scope tree, together with the number of specifiers that are gone. Trimming all
imports first and then dropping those that are left empty comes to the same: `pruneInPhases?_eq`.

Where no specifier of an import is unused, pruning does nothing. How many are unused shows in
stripped syntax: `removedImports_stripped`.
-/

namespace JsxTidy

open Syntax

/-! ## What is left of each statement -/

section KeepsLive

/-- Whether a name is dead in a module: the module has no binding for it, or one that no place
uses. -/
def ScopeTree.IsDead (t : ScopeTree) (name : String) : Prop :=
  ∀ binding, t.moduleBinding? name = some binding → binding.references = []

theorem ScopeTree.isDead_iff {t : ScopeTree} {name : String} :
    t.IsDead name ↔ t.isLive name = false := by
  rw [ScopeTree.IsDead, ScopeTree.isLive]
  cases t.moduleBinding? name with
  | none => simp
  | some binding => simp [Binding.isReferenced]

instance (t : ScopeTree) (name : String) : Decidable (t.IsDead name) :=
  decidable_of_iff _ ScopeTree.isDead_iff.symm

/-- Whether a statement is an import with specifiers, all of them dead. -/
def IsEmptied (t : ScopeTree) (statement : Node) : Prop :=
  specifiersOf statement ≠ [] ∧ ∀ s ∈ specifiersOf statement, t.IsDead (localName s)

instance (t : ScopeTree) (statement : Node) : Decidable (IsEmptied t statement) :=
  inferInstanceAs (Decidable (_ ∧ _))

/-- What becomes of a statement that stays. -/
inductive KeepsLive (t : ScopeTree) : Node → Node → Prop where
  /-- An import with a live specifier keeps its live specifiers, in their order, and nothing else
  of it changes. -/
  | trimmed {isType : Bool} {phase : ImportPhase} {span listSpan : Span} {source attributes : Node}
      {specifiers : List Node} : (∃ s ∈ specifiers, ¬ t.IsDead (localName s)) →
      KeepsLive t
        (.mk (.importDeclaration isType phase) span
          [.mk .list listSpan specifiers, source, attributes])
        (.mk (.importDeclaration isType phase) span
          [.mk .list listSpan (specifiers.filter fun s => ¬ t.IsDead (localName s)),
            source, attributes])
  /-- A statement that is no import, or an import without specifiers, stays as it is. -/
  | untouched {statement : Node} : specifiersOf statement = [] → KeepsLive t statement statement

variable {t : ScopeTree} {statement : Node}

theorem isLiveSpecifier_eq : isLiveSpecifier t = fun s => decide (¬ t.IsDead (localName s)) := by
  funext s
  simp [isLiveSpecifier, ScopeTree.isDead_iff]

/-- A statement that pruning never touches has no specifiers: in an empty scope tree they would all
be dead. -/
theorem specifiersOf_of_untouched (h : ∀ t, pruneStatement t statement = some statement) :
    specifiersOf statement = [] := by
  have hkept := specifiersOf_pruneStatement (t := .empty) statement
  rw [h, Option.toList_some, List.flatMap_singleton, eq_comm, List.filter_eq_self] at hkept
  by_contra hsome
  obtain ⟨s, hs⟩ := List.exists_mem_of_ne_nil _ hsome
  exact Bool.false_ne_true (hkept s hs)

theorem pruneStatement_of_isEmptied (h : IsEmptied t statement) :
    pruneStatement t statement = none := by
  rcases import_or_untouched statement with ⟨_, _, _, _, specifiers, _, _, rfl⟩ | huntouched
  · obtain ⟨hsome, hdead⟩ := h
    have hnone : specifiers.filter (isLiveSpecifier t) = [] := by
      rw [List.filter_eq_nil_iff, isLiveSpecifier_eq]
      exact fun s hs => by simpa using hdead s hs
    rw [pruneStatement_import, hnone, if_pos]
    exact ⟨rfl, by simpa [specifiersOf] using hsome⟩
  · exact absurd (specifiersOf_of_untouched huntouched) h.1

theorem keepsLive_of_not_isEmptied (h : ¬ IsEmptied t statement) :
    ∃ kept, pruneStatement t statement = some kept ∧ KeepsLive t statement kept := by
  rcases import_or_untouched statement with ⟨_, _, _, _, specifiers, _, _, rfl⟩ | huntouched
  · rw [pruneStatement_import, isLiveSpecifier_eq]
    by_cases hlive : ∃ s ∈ specifiers, ¬ t.IsDead (localName s)
    · refine ⟨_, if_neg ?_, .trimmed hlive⟩
      rintro ⟨hnone, -⟩
      obtain ⟨s, hs, hdead⟩ := hlive
      rw [List.isEmpty_iff, List.filter_eq_nil_iff] at hnone
      exact hnone s hs (by simpa using hdead)
    · have hempty : specifiers = [] := by
        by_contra hsome
        exact h ⟨hsome, by simpa [specifiersOf] using hlive⟩
      subst hempty
      exact ⟨_, if_neg fun hemptied => hemptied.2 rfl, .untouched rfl⟩
  · exact ⟨statement, huntouched t, .untouched (specifiersOf_of_untouched huntouched)⟩

/-- Pruning keeps the statements that it does not empty, in their order, and of these everything
but their dead specifiers. The specifiers that it counts as removed are those that are gone. -/
theorem pruneImports_keepsLive (t : ScopeTree) (body : List Node) :
    List.Forall₂ (KeepsLive t) (body.filter fun s => ¬ IsEmptied t s) (pruneImports t body) ∧
    removedImports t body + (importSpecifiers (pruneImports t body)).length =
      (importSpecifiers body).length := by
  constructor
  · induction body with
    | nil => exact .nil
    | cons statement body ih =>
        rw [pruneImports_cons]
        by_cases hemptied : IsEmptied t statement
        · rw [pruneStatement_of_isEmptied hemptied,
            List.filter_cons_of_neg (by simpa using hemptied)]
          exact ih
        · obtain ⟨kept, hkept, hlive⟩ := keepsLive_of_not_isEmptied hemptied
          rw [hkept, List.filter_cons_of_pos (by simpa using hemptied)]
          exact .cons hlive ih
  · rw [removedImports_eq_countP, importSpecifiers_pruneImports, ← List.countP_eq_length_filter,
      List.length_eq_countP_add_countP (isLiveSpecifier t), Nat.add_comm]
    simp

/-! ## Pruning in two phases -/

/-- How far the first phase of pruning is: the statements that it has passed, without their dead
specifiers, which of them stay, and how many specifiers are gone. -/
structure Trimming where
  passed : List Node
  stays : List Bool
  removed : Nat

namespace Trimming

/-- Nothing has been trimmed yet. -/
def start : Trimming :=
  ⟨[], [], 0⟩

/-- A statement is passed that stays as it is. -/
def leave (s : Trimming) (statement : Node) : Trimming :=
  ⟨s.passed ++ [statement], s.stays ++ [true], s.removed⟩

/-- The next statement is trimmed. An import stays unless that takes its last specifier. -/
def step (t : ScopeTree) (s : Trimming) : Node → Trimming
  | .mk (.importDeclaration isType phase) span
      [.mk .list listSpan specifiers, source, attributes] =>
    if specifiers.isEmpty then
      s.leave (.mk (.importDeclaration isType phase) span
        [.mk .list listSpan specifiers, source, attributes])
    else
      let live := specifiers.filter (isLiveSpecifier t)
      ⟨s.passed ++ [.mk (.importDeclaration isType phase) span
          [.mk .list listSpan live, source, attributes]],
        s.stays ++ [!live.isEmpty],
        s.removed + specifiers.countP fun specifier => !isLiveSpecifier t specifier⟩
  | statement => s.leave statement

/-- The statements that stay, by one flag for each. -/
def kept (stays : List Bool) (statements : List Node) : List Node :=
  ((stays.zip statements).filter Prod.fst).map Prod.snd

/-- The second phase: the statements whose flags hold, found by the places of the statements. It
fails where there is no flag for a statement. -/
def sweep? (stays : List Bool) : Nat → List Node → Option (List Node)
  | _, [] => some []
  | place, statement :: rest => do
    let isKept ← stays[place]?
    let rest ← sweep? stays (place + 1) rest
    return if isKept then statement :: rest else rest

/-- The first phase has trimmed some statements: it has a flag for each, and pruning them leaves
those whose flags hold. -/
structure Trimmed (t : ScopeTree) (body : List Node) (s : Trimming) : Prop where
  length_eq : s.stays.length = s.passed.length
  kept_eq : kept s.stays s.passed = pruneImports t body
  removed_eq : s.removed = removedImports t body

variable {s : Trimming} {body : List Node}

theorem kept_append {stays stays' : List Bool} {statements : List Node}
    (hlength : stays.length = statements.length) (statements' : List Node) :
    kept (stays ++ stays') (statements ++ statements') =
      kept stays statements ++ kept stays' statements' := by
  rw [kept, List.zip_append hlength, List.filter_append, List.map_append]
  rfl

/-- A statement is passed as pruning leaves it. -/
theorem step_eq (t : ScopeTree) (s : Trimming) (statement : Node) : ∃ isKept out,
    s.step t statement =
      ⟨s.passed ++ [out], s.stays ++ [isKept], s.removed + unusedIn t statement⟩ ∧
    kept [isKept] [out] = (pruneStatement t statement).toList := by
  rcases import_or_untouched statement with ⟨_, _, _, _, specifiers, _, _, rfl⟩ | huntouched
  · rw [step, pruneStatement_import]
    cases specifiers with
    | nil => exact ⟨true, _, rfl, rfl⟩
    | cons specifier rest =>
        refine ⟨_, _, rfl, ?_⟩
        cases (specifier :: rest).filter (isLiveSpecifier t) with
        | nil => rfl
        | cons live more => rfl
  · have hnone := specifiersOf_of_untouched huntouched
    have hunused : unusedIn t statement = 0 := by
      rw [unusedIn, hnone]
      rfl
    refine ⟨true, statement, ?_, ?_⟩
    · rw [hunused]
      unfold step
      split
      · -- An import that pruning never touches is one without specifiers.
        exact if_pos (List.isEmpty_iff.2 hnone)
      · rfl
    · rw [huntouched]
      rfl

/-- Trimming the next statement keeps all flags right. -/
theorem Trimmed.step (h : s.Trimmed t body) (statement : Node) :
    (s.step t statement).Trimmed t (body ++ [statement]) := by
  obtain ⟨isKept, out, hstep, hkept⟩ := step_eq t s statement
  rw [hstep]
  refine ⟨?_, ?_, ?_⟩
  · simp only [List.length_append, h.length_eq, List.length_cons, List.length_nil]
  · rw [kept_append h.length_eq, h.kept_eq, hkept, pruneImports, pruneImports,
      List.filterMap_append]
    cases hpruned : pruneStatement t statement <;> simp [hpruned]
  · rw [h.removed_eq, removedImports_eq_countP, removedImports_eq_countP, importSpecifiers,
      importSpecifiers, List.flatMap_append, List.countP_append, List.flatMap_singleton]
    rfl

/-- The first phase trims all statements. -/
theorem Trimmed.foldl (h : s.Trimmed t body) (rest : List Node) :
    (rest.foldl (Trimming.step t) s).Trimmed t (body ++ rest) := by
  induction rest generalizing s body with
  | nil => rwa [List.append_nil]
  | cons statement rest ih =>
      have hrest := ih (h.step statement)
      rwa [List.append_assoc] at hrest

/-- With a flag for each statement the second phase does not fail. Its places begin behind the
flags of the statements before. -/
theorem sweep?_eq_some (before : List Bool) {stays : List Bool} {statements : List Node}
    (hlength : stays.length = statements.length) :
    sweep? (before ++ stays) before.length statements = some (kept stays statements) := by
  induction statements generalizing before stays with
  | nil =>
      rw [List.length_eq_zero_iff.1 hlength]
      rfl
  | cons statement rest ih =>
      cases stays with
      | nil => cases hlength
      | cons isKept stays =>
          have hrest := ih (before ++ [isKept]) (Nat.succ.inj hlength)
          have hflag : (before ++ isKept :: stays)[before.length]? = some isKept := by simp
          rw [List.append_assoc, List.singleton_append, List.length_append] at hrest
          rw [sweep?, hflag]
          refine (congrArg (Option.bind · _) hrest).trans ?_
          cases isKept <;> rfl

/-- Where all flags hold, everything stays. -/
theorem kept_of_all {stays : List Bool} {statements : List Node}
    (hlength : stays.length = statements.length) (hall : stays.all id) :
    kept stays statements = statements := by
  have hflags : ∀ pair ∈ stays.zip statements, pair.1 = true := fun pair hpair =>
    List.all_eq_true.1 hall pair.1 (List.of_mem_zip hpair).1
  rw [kept, List.filter_eq_self.2 hflags, List.map_snd_zip (Nat.le_of_eq hlength.symm)]

end Trimming

/-- Pruning in two phases. The first one trims every import and notes which statements stay; the
second one drops the others, unless there are none. -/
def pruneInPhases? (t : ScopeTree) (body : List Node) : Option (List Node × Nat) :=
  let s := body.foldl (Trimming.step t) .start
  if s.stays.all id then some (s.passed, s.removed)
  else (Trimming.sweep? s.stays 0 s.passed).map fun kept => (kept, s.removed)

/-- Pruning in two phases does not fail and is pruning. -/
theorem pruneInPhases?_eq (t : ScopeTree) (body : List Node) :
    pruneInPhases? t body = some (pruneImports t body, removedImports t body) := by
  have hstart : Trimming.start.Trimmed t [] := ⟨rfl, rfl, rfl⟩
  have htrimmed : (body.foldl (Trimming.step t) .start).Trimmed t body := hstart.foldl body
  rw [pruneInPhases?, ← htrimmed.kept_eq, ← htrimmed.removed_eq]
  split
  · rename_i hall
    rw [Trimming.kept_of_all htrimmed.length_eq hall]
  · exact congrArg (Option.map _) (Trimming.sweep?_eq_some [] htrimmed.length_eq)

end KeepsLive

/-! ## Unused specifiers in stripped syntax -/

variable {name : String} {node : Node} {p q : Program}

theorem ImportsAs.stripped (h : ImportsAs node name) : ImportsAs node.stripped name := by
  have hbinding : ∀ span parts, (Node.mk (.binding name) span parts).stripped =
      .mk (.binding name) ⟨0, 0⟩ (parts.map Node.stripped) :=
    fun _ _ => Node.stripped_of_not_isEnclosable Bool.false_ne_true
  cases h with
  | named isType span nameSpan imported name parts =>
      have hkind : ¬ (Kind.importSpecifier isType).isEnclosable := Bool.false_ne_true
      rw [Node.stripped_of_not_isEnclosable hkind, List.map_cons, List.map_cons, List.map_nil,
        hbinding]
      exact .named ..
  | default span nameSpan name parts =>
      have hkind : ¬ Kind.importDefault.isEnclosable := Bool.false_ne_true
      rw [Node.stripped_of_not_isEnclosable hkind, List.map_cons, List.map_nil, hbinding]
      exact .default ..
  | whole span nameSpan name parts =>
      have hkind : ¬ Kind.importNamespace.isEnclosable := Bool.false_ne_true
      rw [Node.stripped_of_not_isEnclosable hkind, List.map_cons, List.map_nil, hbinding]
      exact .whole ..

theorem ImportsAs.of_stripped (h : ImportsAs node.stripped name) : ImportsAs node name := by
  generalize hstripped : node.stripped = stripped at h
  cases h with
  | named isType span nameSpan imported name parts =>
      obtain ⟨_, before, rfl, hparts⟩ := Node.exists_of_stripped_eq hstripped Bool.false_ne_true
      rcases before with _ | ⟨imported, _ | ⟨inner, _ | ⟨_, _⟩⟩⟩ <;> simp at hparts
      obtain ⟨_, _, rfl, -⟩ := Node.exists_of_stripped_eq hparts.2 Bool.false_ne_true
      exact .named ..
  | default span nameSpan name parts =>
      obtain ⟨_, before, rfl, hparts⟩ := Node.exists_of_stripped_eq hstripped Bool.false_ne_true
      rcases before with _ | ⟨inner, _ | ⟨_, _⟩⟩ <;> simp at hparts
      obtain ⟨_, _, rfl, -⟩ := Node.exists_of_stripped_eq hparts Bool.false_ne_true
      exact .default ..
  | whole span nameSpan name parts =>
      obtain ⟨_, before, rfl, hparts⟩ := Node.exists_of_stripped_eq hstripped Bool.false_ne_true
      rcases before with _ | ⟨inner, _ | ⟨_, _⟩⟩ <;> simp at hparts
      obtain ⟨_, _, rfl, -⟩ := Node.exists_of_stripped_eq hparts Bool.false_ne_true
      exact .whole ..

/-- The local name of a specifier shows in stripped syntax. -/
theorem localName_stripped (node : Node) : localName node.stripped = localName node := by
  have hlocal : ∀ node, localName node = (importedName? node).getD "" := by
    intro node
    cases hname : importedName? node with
    | some name => exact (importedName?_eq_some_iff.1 hname).localName_eq
    | none =>
        unfold localName
        split
        case h_4 => rfl
        all_goals cases hname
  have himported : importedName? node.stripped = importedName? node := by
    ext name
    rw [importedName?_eq_some_iff, importedName?_eq_some_iff]
    exact ⟨ImportsAs.of_stripped, ImportsAs.stripped⟩
  rw [hlocal, hlocal, himported]

/-- The specifiers of a stripped statement are those of the statement, stripped. -/
theorem specifiersOf_stripped (statement : Node) :
    specifiersOf statement.stripped = (specifiersOf statement).map Node.stripped := by
  have hkind : ∀ isType phase, ¬ (Kind.importDeclaration isType phase).isEnclosable :=
    fun _ _ => Bool.false_ne_true
  have hnone : ∀ statement, (∀ isType phase span listSpan specifiers source attributes,
      statement ≠ .mk (.importDeclaration isType phase) span
        [.mk .list listSpan specifiers, source, attributes]) → specifiersOf statement = [] := by
    intro statement hother
    unfold specifiersOf
    split
    · exact absurd rfl (hother _ _ _ _ _ _ _)
    · rfl
  by_cases himport : ∃ isType phase span listSpan specifiers source attributes,
      statement = .mk (.importDeclaration isType phase) span
        [.mk .list listSpan specifiers, source, attributes]
  · obtain ⟨isType, phase, span, listSpan, specifiers, source, attributes, rfl⟩ := himport
    rw [Node.stripped_of_not_isEnclosable (hkind isType phase), List.map_cons,
      Node.stripped_list]
    rfl
  · rw [hnone statement, hnone statement.stripped, List.map_nil]
    · intro isType phase span listSpan specifiers source attributes hstripped
      obtain ⟨_, parts, rfl, hparts⟩ := Node.exists_of_stripped_eq hstripped (hkind isType phase)
      rcases parts with _ | ⟨clause, _ | ⟨source, _ | ⟨rest, _ | ⟨_, _⟩⟩⟩⟩ <;> simp at hparts
      obtain ⟨_, _, rfl, -⟩ := Node.exists_of_stripped_list hparts.1
      exact himport ⟨_, _, _, _, _, _, _, rfl⟩
    · rintro _ _ _ _ _ _ _ rfl
      exact himport ⟨_, _, _, _, _, _, _, rfl⟩

theorem removedImports_congr {t t' : ScopeTree} (h : isLiveSpecifier t' = isLiveSpecifier t)
    (body : List Node) : removedImports t' body = removedImports t body := by
  rw [removedImports_eq_countP, removedImports_eq_countP, h]

theorem removedImports_stripped (t : ScopeTree) (body : List Node) :
    removedImports t (body.map Node.stripped) = removedImports t body := by
  have hspecifiers : importSpecifiers (body.map Node.stripped) =
      (importSpecifiers body).map Node.stripped := by
    simp only [importSpecifiers, List.flatMap_map, List.map_flatMap, specifiersOf_stripped]
  rw [removedImports_eq_countP, removedImports_eq_countP, hspecifiers, List.countP_map]
  refine List.countP_congr fun specifier _ => ?_
  simp only [Function.comp_apply, isLiveSpecifier, localName_stripped]

/-- Programs that do the same with names have the same live specifiers. -/
theorem isLiveSpecifier_congr (h : ∀ name, p.reach name = q.reach name) :
    isLiveSpecifier (ScopeTree.build p) = isLiveSpecifier (ScopeTree.build q) := by
  funext specifier
  rw [isLiveSpecifier, isLiveSpecifier, Program.isLive_build_eq, Program.isLive_build_eq, h]

/-! ## Where nothing is unused -/

/-- Where no import is unused, pruning does nothing. -/
theorem pruneImports_of_removedImports {t : ScopeTree} :
    ∀ {body : List Node}, removedImports t body = 0 → pruneImports t body = body
  | [], _ => rfl
  | statement :: rest, h => by
      obtain ⟨hstatement, hrest⟩ := Nat.add_eq_zero_iff.1 h
      have hkept : pruneStatement t statement = some statement := by
        rcases import_or_untouched statement with ⟨_, _, _, _, specifiers, _, _, rfl⟩ | huntouched
        · have hlive : specifiers.filter (isLiveSpecifier t) = specifiers := by
            rw [List.filter_eq_self]
            simpa [unusedIn, specifiersOf, List.countP_eq_zero] using hstatement
          rw [pruneStatement_import, hlive, if_neg]
          rintro ⟨hempty, hnonempty⟩
          exact hnonempty hempty
        · exact huntouched t
      rw [pruneImports_cons, hkept, pruneImports_of_removedImports hrest]
      rfl

end JsxTidy
