import JsxTidy.Proofs.Import.Layout
import JsxTidy.Proofs.Text.Occurrences

/-!
# Fresh markers

The letters that keep markers out of a text are tried one more at a time, and the first number of
them that does is found. The markers made with it occur neither in each other nor in what is put
back for them. So putting one import back makes no occurrence of the marker of another one. It loses
none either where the import stands in its own place; a text with a marker of its own before it may
lose some.
-/

namespace JsxTidy

open Text

namespace VerbatimImport

variable {text statement part before after taken code marker : List Char} {c : Char}
  {salt index fuel count : Nat} {captured import' other : VerbatimImport}

/-! ## The search for the letters -/

/-- Every number of letters that the search goes past leaves the markers in the text. -/
theorem infix_of_lt_saltFrom {tried : Nat} (hle : count ≤ tried)
    (hlt : tried < saltFrom text fuel count) : markerStem tried <:+: text := by
  induction fuel generalizing count with
  | zero => exact absurd hlt (Nat.not_lt.2 hle)
  | succ fuel ih =>
      rw [saltFrom] at hlt
      split at hlt
      · rename_i hoccurs
        rcases Nat.eq_or_lt_of_le hle with rfl | hlater
        · exact contains_iff.1 hoccurs
        · exact ih hlater hlt
      · exact absurd hlt (Nat.not_lt.2 hle)

theorem markerStem_isPrefix (h : salt ≤ count) : markerStem salt <+: markerStem count := by
  refine ⟨List.replicate (count - salt) 'x', ?_⟩
  rw [markerStem, markerStem, List.append_assoc, List.replicate_append_replicate,
    Nat.add_sub_cancel' h]

/-- The search goes on exactly as long as the markers occur in the text. -/
theorem markerStem_infix_iff (text : List Char) (count : Nat) :
    markerStem count <:+: text ↔ count < VerbatimImport.salt text := by
  constructor
  · intro hoccurs
    by_contra hge
    have hstem := (markerStem_isPrefix (Nat.not_lt.1 hge)).isInfix.trans hoccurs
    rw [VerbatimImport.salt] at hstem
    exact not_infix_saltFrom (by omega) hstem
  · exact infix_of_lt_saltFrom (Nat.zero_le count)

/-- The search takes no more steps than the text has characters. -/
theorem salt_le_length (text : List Char) : VerbatimImport.salt text ≤ text.length := by
  by_contra hlt
  have hoccurs := (markerStem_infix_iff text text.length).2 (Nat.not_le.1 hlt)
  have hlength := hoccurs.length_le
  have hstart : 0 < markerStart.length := by decide
  rw [markerStem, List.length_append, List.length_replicate] at hlength
  omega

/-! ## What is put back -/

/-- Whether a text begins with the word `import`, and does not go on as a marker does there. -/
def BeginsAsImport (statement : List Char) : Prop :=
  ∃ c, c ≠ '_' ∧ "import".toList ++ [c] <+: statement

theorem exists_import_tail (salt index : Nat) :
    ∃ tail, 'o' ∉ tail ∧ markerOf salt index =
      "__cleanup_verbatim_imp".toList ++ 'o' :: 'r' :: 't' :: '_' :: tail := by
  refine ⟨List.replicate salt 'x' ++ (Nat.toDigits 10 index ++ ['_', '_']), ?_, ?_⟩
  · simp [notMem_toDigits]
  · rw [markerOf_eq, markerStem, List.append_assoc]
    rfl

/-- A marker has one `import` in it, which goes on with an underscore. -/
theorem eq_underscore_of_import_infix (h : "import".toList ++ [c] <:+: markerOf salt index) :
    c = '_' := by
  obtain ⟨front, behind, heq⟩ := h
  obtain ⟨tail, hletter, htail⟩ := exists_import_tail salt index
  have hsplit : "__cleanup_verbatim_imp".toList ++ 'o' :: ('r' :: 't' :: '_' :: tail) =
      (front ++ "imp".toList) ++ 'o' :: ('r' :: 't' :: c :: behind) := by
    rw [← htail, ← heq]
    simp
  have hrest := ((List.append_cons_inj_of_notMem (by decide) (by simp [hletter])).1 hsplit).2.2
  simp only [List.cons.injEq, true_and] at hrest
  exact hrest.1.symm

theorem exists_trimEnd_append (statement : List Char) :
    ∃ gap, statement = trimEnd statement ++ gap ∧ '_' ∉ gap := by
  refine ⟨(statement.reverse.takeWhile isBlank).reverse, ?_, fun hmem => ?_⟩
  · rw [trimEnd, ← List.reverse_append, List.takeWhile_append_dropWhile, List.reverse_reverse]
  · have hblank := List.all_eq_true.1 List.all_takeWhile '_' (List.mem_reverse.1 hmem)
    exact absurd hblank (by decide)

/-- No marker begins behind the last semicolon of a closed statement. -/
theorem exists_closed_eq (statement : List Char) :
    ∃ start gap, closed statement = start ++ ';' :: gap ∧ '_' ∉ gap := by
  unfold closed
  split
  · rename_i hlast
    obtain ⟨gap, hstatement, hgap⟩ := exists_trimEnd_append statement
    obtain ⟨start, hstart⟩ := List.getLast?_eq_some_iff.1 hlast
    exact ⟨start, gap, by rw [hstatement, hstart]; simp, hgap⟩
  · exact ⟨statement, [], rfl, by simp⟩

theorem isPrefix_closed (statement : List Char) : statement <+: closed statement := by
  unfold closed
  split
  · exact List.prefix_refl statement
  · exact List.prefix_append statement [';']

theorem BeginsAsImport.closed (h : BeginsAsImport statement) :
    BeginsAsImport (closed statement) := by
  obtain ⟨c, hc, hword⟩ := h
  exact ⟨c, hc, hword.trans (isPrefix_closed statement)⟩

/-- A part of a marker that begins with it holds its first character. -/
theorem IsMarker.mem_of_begins (h : IsMarker marker) (hnil : part ≠ [])
    (hbegins : part <+: marker) : '_' ∈ part := by
  obtain ⟨behind, hbehind⟩ := hbegins
  refine List.mem_of_head? (Eq.trans ?_ h.first)
  rw [← hbehind, List.head?_append_of_ne_nil _ hnil]

/-- A part of a marker that ends with it holds its last character. -/
theorem IsMarker.mem_of_ends (h : IsMarker marker) (hnil : part ≠ []) (hends : part <:+ marker) :
    '_' ∈ part := by
  obtain ⟨front, hfront⟩ := hends
  refine List.mem_of_getLast? (Eq.trans ?_ h.last)
  rw [← hfront, List.getLast?_append_of_ne_nil _ hnil]

/-- An end of a marker is no beginning of an import. -/
theorem BeginsAsImport.not_ends (h : BeginsAsImport statement) (hnil : part ≠ [])
    (hends : part <:+ markerOf salt index) : ¬ part <+: statement := by
  intro hbegins
  obtain ⟨c, hc, hword⟩ := h
  rcases List.prefix_or_prefix_of_prefix hbegins hword with hshort | hlong
  · -- Neither the word nor the character behind it is the last one of the marker.
    have hmem := hshort.subset ((markerOf_isMarker salt index).mem_of_ends hnil hends)
    simp [Ne.symm hc] at hmem
  · exact hc <| eq_underscore_of_import_infix (hlong.isInfix.trans hends.isInfix)

/-- What is put back for an import avoids the markers that the import does not hold and that do not
end as it begins. -/
theorem avoids_closed_of_not_begins (habsent : ¬ markerOf salt index <:+: statement)
    (hbegins : ∀ tail ≠ [], tail <:+ markerOf salt index → ¬ tail <+: closed statement)
    (before after : List Char) : Avoids (markerOf salt index) before (closed statement) after := by
  have hmarker := markerOf_isMarker salt index
  refine avoids_of (hmarker.absent_closed habsent) ?_ ?_ hbegins before after
  · exact fun hinside => hmarker.noEnd (hinside.subset (semicolon_mem_closed statement))
  · -- A marker holds no semicolon, and behind the last one it has nothing to begin with.
    intro front hnil hbegins hends
    obtain ⟨start, gap, hclosed, hgap⟩ := exists_closed_eq statement
    rw [hclosed] at hends
    rcases List.suffix_or_suffix_of_suffix hends (List.suffix_append start (';' :: gap)) with
      hinside | hover
    · rcases List.suffix_cons_iff.1 hinside with hall | hinside
      · exact hmarker.noEnd (hbegins.subset (by simp [hall]))
      · exact hgap (hinside.subset (hmarker.mem_of_begins hnil hbegins))
    · exact hmarker.noEnd (hbegins.subset (hover.subset (by simp)))

theorem avoids_closed (hstatement : BeginsAsImport statement)
    (habsent : ¬ markerOf salt index <:+: statement) (before after : List Char) :
    Avoids (markerOf salt index) before (closed statement) after :=
  avoids_closed_of_not_begins habsent
    (fun _ hnil hends => hstatement.closed.not_ends hnil hends) before after

/-- The statement with the marker of an import avoids the markers that it does not hold. -/
theorem IsMarker.avoids_markedStatement (h : IsMarker marker)
    (hother : ¬ marker <:+: import'.marker) (opening : ImportOpening) (before after : List Char) :
    Avoids marker before (markedStatement opening import') after := by
  obtain ⟨_, hunderscore, hspace, _⟩ := opening.text_spec
  refine avoids_of ?_ ?_ ?_ ?_ before after
  · intro hinside
    have hbehind : marker <:+: [] ++ markedStatement opening import' := hinside
    rcases h.infix_markedStatement hbehind with hnil | hinside
    · exact h.ne_nil (List.infix_nil.1 hnil)
    · exact hother hinside
  · intro houtside
    exact h.noSpace (houtside.subset (List.mem_append_left _ hspace))
  · intro front hnil hbegins hends
    have hlast : front.getLast? = some ';' := by
      obtain ⟨start, hstart⟩ := hends
      rw [← List.getLast?_append_of_ne_nil start hnil, hstart]
      simp [markedStatement]
    exact h.noEnd (hbegins.subset (List.mem_of_getLast? hlast))
  · intro tail hnil hends hbegins
    rcases List.prefix_or_prefix_of_prefix hbegins (List.prefix_append opening.text _) with
      hshort | hlong
    · exact hunderscore (hshort.subset (h.mem_of_ends hnil hends))
    · exact h.noSpace (hends.subset (hlong.subset hspace))

/-! ## Restoring one import beside another -/

/-- Whether restoring an import spares the marker of another one. -/
structure Spares (import' other : VerbatimImport) : Prop where
  /-- Where the marker of the import does not occur before its statement, the occurrences of the
  other marker lie around the statement, and around what is put in its place. -/
  own_place : ∀ before opening after, ¬ import'.marker <:+: before →
    restoreOne (before ++ (markedStatement opening import' ++ after)) import' =
        before ++ (closed import'.original ++ after) ∧
      Avoids other.marker before (markedStatement opening import') after ∧
      Avoids other.marker before (closed import'.original) after
  /-- In any text no occurrence of the other marker is made, and one is lost exactly when it lies in
  what is taken out or reaches over an end of that. -/
  any_text : ∀ code, restoreOne code import' = code ∨
    ∃ before taken after, Takes import' code before taken after ∧
      Avoids other.marker before (closed import'.original) after ∧
      occurrences other.marker (restoreOne code import') ≤ occurrences other.marker code ∧
      (occurrences other.marker (restoreOne code import') = occurrences other.marker code ↔
        Avoids other.marker before taken after)

theorem spares_of_markers {number : Nat} (hmarker : import'.marker = markerOf salt number)
    (hother : other.marker = markerOf salt index) (hne : index ≠ number)
    (habsent : ¬ other.marker <:+: import'.original)
    (hstatement : BeginsAsImport import'.original) : Spares import' other where
  own_place before opening after hbefore := by
    have h : IsMarker import'.marker := hmarker ▸ markerOf_isMarker salt number
    refine ⟨h.restoreOne_own hbefore opening after, ?_, ?_⟩
    · rw [hother]
      refine (markerOf_isMarker salt index).avoids_markedStatement ?_ opening before after
      exact fun hinside => hne <| eq_of_markerOf_infix (hmarker ▸ hinside)
    · rw [hother] at habsent ⊢
      exact avoids_closed hstatement habsent before after
  any_text code := by
    have h : IsMarker import'.marker := hmarker ▸ markerOf_isMarker salt number
    refine (h.restoreOne_cases code).imp_right ?_
    rintro ⟨before, taken, after, htakes⟩
    rw [hother] at habsent ⊢
    have havoids := avoids_closed hstatement habsent before after
    have hmarkerNil := (markerOf_isMarker salt index).ne_nil
    have haround := occurrences_around hmarkerNil before taken after
    refine ⟨before, taken, after, htakes, havoids, ?_⟩
    rw [htakes.restored, havoids.occurrences_eq hmarkerNil, htakes.code_eq]
    exact ⟨haround.1, Eq.comm.trans haround.2⟩

/-- The search for the letters of the markers of a text ends, at the first number of them that keeps
the markers out of the text. The imports that are captured have these markers, by their number. None
occurs in an original text or in another marker, and restoring one import spares the markers of the
others. -/
theorem capture_markers_apart (text : List Char) (p : Syntax.Program) :
    (∀ count, markerStem count <:+: text ↔ count < VerbatimImport.salt text) ∧
      VerbatimImport.salt text ≤ text.length ∧
      (∀ index, ¬ markerOf (VerbatimImport.salt text) index <:+: text) ∧
      ∀ (i : Nat) (captured : VerbatimImport), (capture text p).2[i]? = some captured →
        captured.marker = markerOf (VerbatimImport.salt text) i ∧
        ∀ (j : Nat) (other : VerbatimImport), (capture text p).2[j]? = some other →
          ¬ other.marker <:+: captured.original ∧
          (j ≠ i → other.marker ≠ captured.marker ∧ ¬ other.marker <:+: captured.marker ∧
            (BeginsAsImport captured.original → Spares captured other)) := by
  refine ⟨markerStem_infix_iff text, salt_le_length text, markerOf_not_infix text,
    fun i captured hcaptured => ?_⟩
  obtain ⟨hmarker, _⟩ := getElem?_captureFrom hcaptured
  have horiginal := original_isInfix (List.mem_of_getElem? hcaptured)
  rw [Nat.zero_add] at hmarker
  refine ⟨hmarker, fun j other hmem => ?_⟩
  obtain ⟨hother, _⟩ := getElem?_captureFrom hmem
  rw [Nat.zero_add] at hother
  have habsent : ¬ other.marker <:+: captured.original := fun hinside =>
    markerOf_not_infix text j (hother ▸ hinside.trans horiginal)
  refine ⟨habsent, fun hne => ?_⟩
  have hinfix : ¬ other.marker <:+: captured.marker := fun hinside =>
    hne <| eq_of_markerOf_infix (hother ▸ hmarker ▸ hinside)
  refine ⟨fun hsame => hinfix (hsame ▸ List.infix_refl _), hinfix, fun hstatement => ?_⟩
  exact spares_of_markers hmarker hother hne habsent hstatement

/-- A program that is nothing but two imports. -/
def twoImportsSource : String :=
  "import \"a\";\nimport \"b\";\n"

theorem two_imports_spare_each_other :
    ∃ parsed, (parse twoImportsSource).toOption = some parsed ∧
      ∃ first second, (capture twoImportsSource.toList parsed.program).2 = [first, second] ∧
        Spares first second ∧ Spares second first := by
  obtain ⟨parsed, hparsed, hcapture⟩ :
      ∃ parsed, (parse twoImportsSource).toOption = some parsed ∧
        (capture twoImportsSource.toList parsed.program).2 =
          [⟨markerOf 0 0, "import \"a\";".toList⟩, ⟨markerOf 0 1, "import \"b\";".toList⟩] :=
    exists_parsed_of_any (by decide +kernel)
  obtain ⟨-, -, -, hapart⟩ := capture_markers_apart twoImportsSource.toList parsed.program
  have hfirst := congrArg (·[0]?) hcapture
  have hsecond := congrArg (·[1]?) hcapture
  refine ⟨parsed, hparsed, _, _, hcapture, ?_, ?_⟩
  · exact (((hapart 0 _ hfirst).2 1 _ hsecond).2 (by decide)).2.2 ⟨' ', by decide, _, rfl⟩
  · exact (((hapart 1 _ hsecond).2 0 _ hfirst).2 (by decide)).2.2 ⟨' ', by decide, _, rfl⟩

/-- A program that writes the markers of its imports before them, the later one in front. -/
def hiddenMarkerSource : String :=
  "f(\"\\x5f_cleanup_verbatim_import_1__\\x5f_cleanup_verbatim_import_0__\");\n" ++
    "import \"a\";\nimport \"b\";\n"

/-- Restoring the first import takes out text from the marker of the second one on. -/
theorem hidden_marker_lost :
    (∃ parsed, (parse hiddenMarkerSource).toOption = some parsed ∧
      (capture hiddenMarkerSource.toList parsed.program).2 =
        [⟨markerOf 0 0, "import \"a\";".toList⟩, ⟨markerOf 0 1, "import \"b\";".toList⟩] ∧
      occurrences (markerOf 0 1) (print (capture hiddenMarkerSource.toList parsed.program).1
        parsed.comments).toList = 2 ∧
      occurrences (markerOf 0 1) (restoreOne (print (capture hiddenMarkerSource.toList
        parsed.program).1 parsed.comments).toList
          ⟨markerOf 0 0, "import \"a\";".toList⟩) = 1) ∧
      ((Pipeline.new .default).run hiddenMarkerSource).1.toOption =
        some ⟨"f(\"__cleanup_verbatim_import \"a\";\n" ++
          "import \"__cleanup_verbatim_import_0__\";\nimport \"b\";\n", ⟨0, 0, 0⟩⟩ := by
  exact ⟨exists_parsed_of_any (by decide +kernel), by decide +kernel⟩

end VerbatimImport

end JsxTidy
