import JsxTidy.Proofs.Import.Fresh
import JsxTidy.Proofs.Parser.Programs
import JsxTidy.Proofs.Tidy.Passes

/-!
# Restoring as substitution

Imports are restored one after the other, each in the text that the ones before it have left. What
is put back makes no occurrence of a marker, since it stood in the text that was read, began there
with the word `import`, and ends with a semicolon. So each marker that occurs once goes on to do so
until it is its turn, and in the end every statement with a marker has been replaced by the import
that it stands for, in whatever order the statements stand: `restore_substitutes`.
-/

namespace JsxTidy

open Text

namespace VerbatimImport

/-! ## Texts with markers -/

/-- A statement with the marker of an import. It begins with an `import`, which is the only one
before the marker, and ends at the first semicolon behind the marker. What stands around the marker
may be anything else; the quotes of a source belong to it. -/
structure MarkerStatement where
  opening : List Char
  captured : VerbatimImport
  closing : List Char
  begins : "import".toList <+: opening
  only : occurrences "import".toList opening = 1
  ends : ';' ∉ closing

def MarkerStatement.text (s : MarkerStatement) : List Char :=
  s.opening ++ (s.captured.marker ++ (s.closing ++ [';']))

/-- The statement of an import as it is written: it has the text of `markedStatement`. -/
def MarkerStatement.written (o : ImportOpening) (captured : VerbatimImport) :
    MarkerStatement where
  opening := o.text
  captured := captured
  closing := ['"']
  begins := (splitLast?_spec o.text_spec.1).2
  only := by
    obtain ⟨isType, phase, hasBraces⟩ := o
    cases isType <;> cases phase <;> cases hasBraces <;> decide +kernel
  ends := by decide

/-- A stretch of a text: some text that stays, or the statement with a marker. -/
inductive Stretch where
  | plain (text : List Char)
  | statement (s : MarkerStatement)

namespace Stretch

/-- A stretch with the marker of its import. -/
def marked : Stretch → List Char
  | plain text => text
  | statement s => s.text

/-- A stretch with its import in the place of its statement. -/
def substituted : Stretch → List Char
  | plain text => text
  | statement s => closed s.captured.original

/-- The import of a stretch, if it has one. -/
def import? : Stretch → Option VerbatimImport
  | plain _ => none
  | statement s => some s.captured

/-- The text of some stretches, with markers. -/
def markedText (stretches : List Stretch) : List Char :=
  stretches.flatMap marked

/-- The text of some stretches with every statement replaced by its import, all at once. -/
def substitutedText (stretches : List Stretch) : List Char :=
  stretches.flatMap substituted

/-- The imports of some stretches in their order. -/
def imports (stretches : List Stretch) : List VerbatimImport :=
  stretches.filterMap import?

variable {stretches : List Stretch} {captured : VerbatimImport}

theorem markedText_around (front : List Stretch) (stretch : Stretch) (back : List Stretch) :
    markedText (front ++ stretch :: back) =
      markedText front ++ (stretch.marked ++ markedText back) := by
  rw [markedText, List.flatMap_append, List.flatMap_cons]
  rfl

theorem substitutedText_around (front : List Stretch) (stretch : Stretch) (back : List Stretch) :
    substitutedText (front ++ stretch :: back) =
      substitutedText front ++ (stretch.substituted ++ substitutedText back) := by
  rw [substitutedText, List.flatMap_append, List.flatMap_cons]
  rfl

theorem imports_statement (front : List Stretch) (s : MarkerStatement) (back : List Stretch) :
    imports (front ++ statement s :: back) = imports front ++ s.captured :: imports back := by
  rw [imports, List.filterMap_append]
  rfl

theorem imports_plain (front : List Stretch) (text : List Char) (back : List Stretch) :
    imports (front ++ plain text :: back) = imports front ++ imports back := by
  rw [imports, List.filterMap_append]
  rfl

/-- Where there is no import, there is nothing to replace. -/
theorem markedText_eq_of_no_imports (h : imports stretches = []) :
    markedText stretches = substitutedText stretches := by
  refine List.flatMap_congr fun stretch hstretch => ?_
  cases stretch with
  | plain text => rfl
  | statement s =>
      have hnone := List.filterMap_eq_nil_iff.1 h (statement s) hstretch
      cases hnone

/-- The marker of an import occurs in the text of the stretches that it belongs to. -/
theorem marker_infix_markedText (h : captured ∈ imports stretches) :
    captured.marker <:+: markedText stretches := by
  obtain ⟨stretch, hstretch, hcaptured⟩ := List.mem_filterMap.1 h
  obtain ⟨front, back, rfl⟩ := List.append_of_mem hstretch
  cases stretch with
  | plain text => cases hcaptured
  | statement s =>
      cases hcaptured
      rw [markedText_around]
      exact ⟨markedText front ++ s.opening, s.closing ++ [';'] ++ markedText back,
        by simp [marked, MarkerStatement.text]⟩

end Stretch

open Stretch

variable {imports : List VerbatimImport} {marker before after source : List Char}
  {stretches : List Stretch} {start salt index : Nat}

/-! ## One step -/

/-- An import is put in the place of its statement when its marker occurs once. -/
theorem restoreOne_statement (s : MarkerStatement) (hmarker : IsMarker s.captured.marker)
    (h : occurrences s.captured.marker (before ++ (s.text ++ after)) = 1) :
    restoreOne (before ++ (s.text ++ after)) s.captured =
      before ++ (closed s.captured.original ++ after) := by
  have htext : before ++ (s.text ++ after) =
      (before ++ s.opening) ++ (s.captured.marker ++ (s.closing ++ ';' :: after)) := by
    simp [MarkerStatement.text]
  rw [htext] at h ⊢
  have hopening := splitLast?_of_once (by decide) s.begins s.only
  exact restoreOne_of_found (splitFirst?_of_once hmarker.ne_nil h) hopening
    (by simp [hmarker.noEnd, s.ends])

/-- A marker that occurs once, and not in the statement of another import, still occurs once when
that import is restored. -/
theorem once_of_restored (hmarker : marker ≠ []) (s : MarkerStatement)
    (havoids : Avoids marker before (closed s.captured.original) after)
    (hfound : marker <:+: before ∨ marker <:+: after)
    (h : occurrences marker (before ++ (s.text ++ after)) = 1) :
    occurrences marker (before ++ (closed s.captured.original ++ after)) = 1 := by
  have hle := (occurrences_around hmarker before s.text after).1
  have hpos : 0 < occurrences marker before + occurrences marker after := by
    rcases hfound with hbefore | hafter
    · exact Nat.add_pos_left (occurrences_pos hmarker hbefore) _
    · exact Nat.add_pos_right _ (occurrences_pos hmarker hafter)
  rw [havoids.occurrences_eq hmarker]
  omega

/-! ## All steps -/

/-- Restoring imports replaces their statements when each marker occurs once and what is put back
avoids the markers of the imports that come later. -/
theorem restore_markedText (hmarker : ∀ captured ∈ imports, IsMarker captured.marker)
    (havoids : imports.Pairwise fun captured later =>
      ∀ before after, Avoids later.marker before (closed captured.original) after)
    (hown : (Stretch.imports stretches).Perm imports)
    (honce : ∀ captured ∈ imports, occurrences captured.marker (markedText stretches) = 1) :
    restore imports (markedText stretches) = substitutedText stretches := by
  induction imports generalizing stretches with
  | nil => exact markedText_eq_of_no_imports hown.eq_nil
  | cons first rest ih =>
      obtain ⟨hfirst, hrest⟩ := List.forall_mem_cons.1 hmarker
      obtain ⟨honceFirst, honceRest⟩ := List.forall_mem_cons.1 honce
      obtain ⟨havoidsFirst, havoidsRest⟩ := List.pairwise_cons.1 havoids
      obtain ⟨stretch, hstretch, hcaptured⟩ :=
        List.mem_filterMap.1 (hown.mem_iff.2 (List.mem_cons_self (a := first)))
      obtain ⟨front, back, rfl⟩ := List.append_of_mem hstretch
      cases stretch with
      | plain text => cases hcaptured
      | statement s =>
          cases hcaptured
          -- From now on the import is some text that stays.
          have hown' : (Stretch.imports (front ++ plain (closed s.captured.original) :: back)).Perm
              rest := by
            rw [imports_statement] at hown
            rw [imports_plain]
            exact (List.perm_middle.symm.trans hown).cons_inv
          have hnext := ih hrest havoidsRest hown' fun later hlater => ?_
          · rw [restore_cons, markedText_around]
            rw [markedText_around] at honceFirst
            rw [marked, restoreOne_statement s hfirst honceFirst]
            rw [markedText_around, substitutedText_around] at hnext
            rw [substitutedText_around]
            exact hnext
          · have hmem := hown'.mem_iff.2 hlater
            rw [imports_plain, List.mem_append] at hmem
            have hone := honceRest later hlater
            rw [markedText_around] at hone ⊢
            exact once_of_restored (hrest later hlater).ne_nil s (havoidsFirst later hlater _ _)
              (hmem.imp marker_infix_markedText marker_infix_markedText) hone

/-- Restoring imports leaves a text without their markers as it is. -/
theorem restore_of_absent {code : List Char}
    (h : ∀ captured ∈ imports, ¬ captured.marker <:+: code) : restore imports code = code := by
  induction imports with
  | nil => rfl
  | cons first rest ih =>
      obtain ⟨hfirst, hrest⟩ := List.forall_mem_cons.1 h
      have hnone : splitFirst? first.marker code = none := by
        rw [← Option.not_isSome_iff_eq_none]
        exact mt contains_iff.1 hfirst
      have hsame : restoreOne code first = code := by
        rw [restoreOne, splitStatement?, hnone]
        rfl
      rw [restore_cons, hsame]
      exact ih hrest

/-! ## Statements that keep their text -/

/-- An end of a marker is no beginning of a text that the word `import` stands at. -/
theorem not_ends_closed (hword : WordStandsAt source "import".toList start) (stop : Nat)
    {tail : List Char} (hnil : tail ≠ []) (hends : tail <:+ markerOf salt index) :
    ¬ tail <+: closed (sliceBytes start stop source) := by
  intro hbegins
  have hend : ';' ∉ tail := fun hmem =>
    (markerOf_isMarker salt index).noEnd (hends.subset hmem)
  have hslice : tail <+: sliceBytes start stop source := by
    unfold closed at hbegins
    split at hbegins
    · exact hbegins
    · rcases List.prefix_concat_iff.1 hbegins with hall | hslice
      · exact absurd (by simp [hall]) hend
      · exact hslice
  obtain ⟨rest, hrest, hnext⟩ := hword
  have htext : tail <+: "import".toList ++ (rest ++ [' ']) := by
    rw [← List.append_assoc, ← hrest]
    exact (hslice.trans (takeBytes_isPrefix _ _)).trans (List.prefix_append _ _)
  have hbegins : BeginsAsImport ("import".toList ++ (rest ++ [' '])) := by
    cases rest with
    | nil => exact ⟨' ', by decide, List.prefix_refl _⟩
    | cons c rest =>
        refine ⟨c, ?_, ?_⟩
        · rintro rfl
          exact absurd (hnext '_' rfl) (by decide)
        · exact ⟨rest ++ [' '], by simp⟩
  exact hbegins.not_ends hnil hends htext

end VerbatimImport

namespace Syntax.Program

open VerbatimImport

variable {p q : Program} {t : ScopeTree} {o : TidyOptions} {statement : Node}

/-- Whether the imports without specifiers in a program stand in another one just so. -/
def BareWithin (p q : Program) : Prop :=
  ∀ statement ∈ p.body, isBare statement → statement ∈ q.body

/-- Tidying adds no import without specifiers, and leaves those that there are as they are. -/
theorem bareWithin_tidy (h : p.wellFormed) : (p.tidy t o).1.BareWithin p := by
  intro statement hstatement hbare
  rw [tidy_eq] at hstatement
  obtain ⟨kept, hkept, rfl⟩ := List.mem_map.1 hstatement
  obtain ⟨origin, horigin, hpruned⟩ := List.mem_filterMap.1 hkept
  have hsame : o.rewriting.result kept = kept := by
    obtain ⟨isType, phase, span, clause, old, attributes, heq, -⟩ := exists_of_isBare hbare
    have hkind : kept.kind = .importDeclaration isType phase := by
      rw [← o.rewriting_onMarkup.result_kind, heq]
      rfl
    exact (o.rewriting_onMarkup.untouched_import (Pass.pruned_wellFormed t h kept hkept) hkind).1
  rw [hsame] at hbare ⊢
  rcases import_or_untouched origin with ⟨_, _, _, _, _, _, _, rfl⟩ | huntouched
  · -- An import that keeps none of its specifiers had none.
    rw [pruneStatement_import] at hpruned
    split at hpruned
    · cases hpruned
    · rename_i hsome
      cases hpruned
      rw [List.isEmpty_iff.1 (not_not.1 (not_and.1 hsome hbare))] at horigin ⊢
      exact horigin
  · rw [huntouched t] at hpruned
    cases hpruned
    exact horigin

/-- The word `import` stands where an import begins in a program that is read. -/
theorem wordStandsAt_import {source : String} {parsed : Parsed} (h : parse source = .ok parsed)
    (hstatement : statement ∈ parsed.program.body) (hbare : isBare statement) :
    WordStandsAt source.toList "import".toList statement.span.start := by
  obtain ⟨last, hlandmarks⟩ := inOrder_of_parse h
  refine hlandmarks.wordStandsAt (List.mem_flatMap.2 ⟨statement, ?_, ?_⟩)
  · exact List.mem_append_right _ hstatement
  · obtain ⟨isType, phase, span, clause, old, attributes, rfl, -⟩ := exists_of_isBare hbare
    rw [Node.landmarks_mk]
    exact List.mem_append_left _ (List.mem_singleton.2 rfl)

end Syntax.Program

namespace VerbatimImport

open Syntax

variable {p : Program}

/-- What is put back for a captured import avoids the markers of all captured imports. -/
theorem avoids_captured {source : String} {parsed : Parsed} (hparsed : parse source = .ok parsed)
    (hbare : p.BareWithin parsed.program) {captured later : VerbatimImport}
    (hcaptured : captured ∈ (capture source.toList p).2)
    (hlater : later ∈ (capture source.toList p).2) (before after : List Char) :
    Avoids later.marker before (closed captured.original) after := by
  obtain ⟨⟨number, hmarker⟩, -⟩ := mem_capture hlater
  obtain ⟨-, statement, hstatement, hkeeps, horiginal⟩ := mem_capture hcaptured
  have hword := Program.wordStandsAt_import hparsed (hbare statement hstatement hkeeps) hkeeps
  have habsent := (capture_fit source.toList p).absent later hlater captured hcaptured
  rw [hmarker] at habsent ⊢
  rw [horiginal] at habsent ⊢
  refine avoids_closed_of_not_begins habsent (fun tail hnil hends => ?_) before after
  exact not_ends_closed hword _ hnil hends

/-- Restoring the imports of a program that was read, or of one that has been tidied since, is a
substitution in any text in which each of their markers occurs once, in a statement of its own: all
statements with markers are replaced by their imports, closed by a semicolon, and the rest of the
text stays as it is. A text without markers stays as it is altogether. -/
theorem restore_substitutes {source : String} {parsed : Parsed}
    (hparsed : parse source = .ok parsed) {p : Program} (hbare : p.BareWithin parsed.program) :
    (∀ stretches : List Stretch, (Stretch.imports stretches).Perm (capture source.toList p).2 →
      (∀ captured ∈ (capture source.toList p).2,
        occurrences captured.marker (Stretch.markedText stretches) = 1) →
      restore (capture source.toList p).2 (Stretch.markedText stretches) =
        Stretch.substitutedText stretches) ∧
    ∀ code : List Char, (∀ captured ∈ (capture source.toList p).2, ¬ captured.marker <:+: code) →
      restore (capture source.toList p).2 code = code := by
  refine ⟨fun stretches hown honce => ?_, fun code => restore_of_absent⟩
  refine restore_markedText (capture_fit source.toList p).isMarker ?_ hown honce
  exact List.pairwise_of_forall_mem_list fun captured hcaptured later hlater =>
    avoids_captured hparsed hbare hcaptured hlater

/-- A program with an unused import between two imports without specifiers, the second of which has
no semicolon. -/
def unusedBetweenSource : String :=
  "import \"a\";\nimport x from \"m\";\nimport \"b\"\n"

/-- A call, and behind it the markers of two imports, the other way round. -/
def swappedMarkersText : String :=
  "f();\nimport \"__cleanup_verbatim_import_1__\";\n" ++
    "import \"__cleanup_verbatim_import_0__\";"

/-- The imports of the tidied program are put back where their markers stand. -/
theorem imports_put_back_swapped : ∃ parsed, parse unusedBetweenSource = .ok parsed ∧
    restore (capture unusedBetweenSource.toList (parsed.tidied .default).program).2
      swappedMarkersText.toList = "f();\nimport \"b\";\nimport \"a\";".toList ∧
    restore (capture unusedBetweenSource.toList (parsed.tidied .default).program).2 "f();".toList =
      "f();".toList := by
  obtain ⟨parsed, hoption, hcapture⟩ :
      ∃ parsed, (parse unusedBetweenSource).toOption = some parsed ∧
        (capture unusedBetweenSource.toList (parsed.tidied .default).program).2 =
          [⟨markerOf 0 0, "import \"a\";".toList⟩, ⟨markerOf 0 1, "import \"b\"".toList⟩] :=
    exists_parsed_of_any (by decide +kernel)
  have hparsed := eq_ok_of_toOption hoption
  have hbare : (parsed.tidied .default).program.BareWithin parsed.program :=
    Program.bareWithin_tidy (Program.wellFormed_of_legible (legible_of_parse hparsed))
  obtain ⟨hsubstitutes, hstays⟩ := restore_substitutes hparsed hbare
  rw [hcapture] at hsubstitutes hstays
  refine ⟨parsed, hparsed, ?_⟩
  rw [hcapture]
  refine ⟨?_, hstays _ (by decide +kernel)⟩
  have hswapped := hsubstitutes
    [.plain "f();\n".toList,
      .statement (.written ⟨false, .evaluation, false⟩ ⟨markerOf 0 1, "import \"b\"".toList⟩),
      .plain "\n".toList,
      .statement (.written ⟨false, .evaluation, false⟩ ⟨markerOf 0 0, "import \"a\";".toList⟩)]
    (List.Perm.swap _ _ _) (by decide +kernel)
  exact hswapped

end VerbatimImport

end JsxTidy
