import JsxTidy.Proofs.Import.Restore

/-!
# Imports in wrong places

When an import is put somewhere else than in its own place, what is restored afterwards does not
make up for it. No semicolons may be lost, so that each time exactly one sentence is taken out,
which holds a marker. The original texts hold no markers, and so the first sentence that changes
stays different from what it was.
-/

namespace JsxTidy

open Text

namespace VerbatimImport

variable {import' : VerbatimImport} {opening : ImportOpening} {imports all : List VerbatimImport}
  {front rest before after taken code final : List Char}

/-- Whether two texts go on with different sentences behind the same beginning: with one that holds
a marker of some imports in the first text, with one that holds no marker in the second. -/
def DifferBehind (imports all : List VerbatimImport) (before code final : List Char) : Prop :=
  ∃ said said' after after', code = before ++ (said ++ after) ∧
    final = before ++ (said' ++ after') ∧ IsSentence said ∧ IsSentence said' ∧
    (∃ import' ∈ imports, import'.marker <:+: said) ∧
    ∀ import' ∈ all, ¬ import'.marker <:+: said'

theorem DifferBehind.cons (h : DifferBehind imports all before code final) :
    DifferBehind (import' :: imports) all before code final := by
  obtain ⟨said, said', after, after', hcode, hfinal, hsaid, hsaid', ⟨other, hmem, hoccurs⟩,
    hnone⟩ := h
  exact ⟨said, said', after, after', hcode, hfinal, hsaid, hsaid', ⟨other, by simp [hmem], hoccurs⟩,
    hnone⟩

/-- When a sentence is taken out of a text and nothing changes afterwards, or only some text behind
another beginning, then the text has changed behind the shorter beginning. -/
theorem Takes.differBehind (h : Takes import' code before taken after) (htaken : IsSentence taken)
    (hfit : Fit all) (hmem : import' ∈ all) (hsubset : imports ⊆ all)
    (hlater : restoreOne code import' = final ∨
      ∃ before', DifferBehind imports all before' (restoreOne code import') final) :
    ∃ before', before' <+: before ∧
      DifferBehind (import' :: imports) all before' code final := by
  obtain ⟨said, tail, hsaid, hclosed⟩ := exists_sentence (semicolon_mem_closed import'.original)
  have hholds : ∀ other ∈ all, ¬ other.marker <:+: said := fun other hother hoccurs =>
    hfit.absent_closed other hother import' hmem (hoccurs.trans ⟨[], tail, by simp [hclosed]⟩)
  have hrestored : restoreOne code import' = before ++ (said ++ (tail ++ after)) := by
    rw [h.restored, hclosed, List.append_assoc]
  rcases hlater with rfl | ⟨before', said₁, said₂, after₁, after₂, hcode, hfinal, hsaid₁, hsaid₂,
    ⟨other, hother, hoccurs⟩, hnone⟩
  · exact ⟨before, List.prefix_refl before, taken, said, after, tail ++ after, h.code_eq, hrestored,
      htaken, hsaid, ⟨import', by simp, h.holds_marker⟩, hholds⟩
  rw [hrestored] at hcode
  rcases List.append_eq_append_iff.1 hcode with ⟨between, rfl, hbehind⟩ | ⟨gap, rfl, hbehind⟩
  · -- The later change begins behind the sentence that was put in, or else within it.
    refine ⟨before, List.prefix_refl before, ?_⟩
    have hmem : ';' ∈ between := by
      by_contra hnone
      rw [← List.append_assoc between] at hbehind
      have hsame := hsaid.eq_of_append (hsaid₁.append hnone) hbehind
      refine hholds other (hsubset hother) ?_
      rw [hsame]
      exact hoccurs.trans (List.suffix_append between said₁).isInfix
    obtain ⟨between, rfl⟩ := hsaid.prefix_of_mem hmem hbehind
    exact ⟨taken, said, after, between ++ (said₂ ++ after₂), h.code_eq, by simp [hfinal], htaken,
      hsaid, ⟨import', by simp, h.holds_marker⟩, hholds⟩
  · refine ⟨before', List.prefix_append before' gap, ?_⟩
    by_cases hmem : ';' ∈ gap
    · -- The later change is over before the import begins.
      obtain ⟨gap, rfl⟩ := hsaid₁.prefix_of_mem hmem hbehind
      exact ⟨said₁, said₂, gap ++ (taken ++ after), after₂, by simp [h.code_eq], hfinal, hsaid₁,
        hsaid₂, ⟨other, by simp [hother], hoccurs⟩, hnone⟩
    · exact ⟨gap ++ taken, said₂, after, after₂, by simp [h.code_eq], hfinal, htaken.append hmem,
        hsaid₂,
        ⟨import', by simp, h.holds_marker.trans (List.suffix_append gap taken).isInfix⟩, hnone⟩

/-- When imports are restored with no more semicolons taken away than one for each of them, then
the text changes nowhere or behind some beginning. -/
theorem differBehind_restore (code : List Char) (hfit : Fit all) (hsubset : imports ⊆ all)
    (hcount : code.count ';' + semicolons imports ≤
      (restore imports code).count ';' + imports.length) :
    code = restore imports code ∨
      ∃ before, DifferBehind imports all before code (restore imports code) := by
  induction imports generalizing code with
  | nil => exact .inl rfl
  | cons first imports ih =>
      obtain ⟨hmem, hsubset'⟩ := List.cons_subset.1 hsubset
      obtain ⟨hfirst, htight⟩ := (hfit.isMarker first hmem).count_restoreOne code
      have hrest := count_restore_le (fun later hlater => hfit.isMarker later (hsubset' hlater))
        (restoreOne code first)
      rw [restore_cons, semicolons_cons, List.length_cons] at hcount
      have hlater := ih (restoreOne code first) hsubset' (by omega)
      rw [restore_cons]
      rcases htight (by omega) with hsame | ⟨before, taken, after, htakes, htaken⟩
      · rw [hsame] at hlater ⊢
        exact hlater.imp_right fun ⟨before, hdiffer⟩ => ⟨before, hdiffer.cons⟩
      · obtain ⟨before', _, hdiffer⟩ := htakes.differBehind htaken hfit hmem hsubset' hlater
        exact .inr ⟨before', hdiffer⟩

/-- The statement with a marker is no beginning of a text that begins with the original import. -/
theorem not_markedStatement_append (hfit : Fit all) (hmem : import' ∈ all) :
    markedStatement opening import' ++ after ≠ closed import'.original ++ rest := by
  intro heq
  obtain ⟨said, tail, hsaid, hclosed⟩ := exists_sentence (semicolon_mem_closed import'.original)
  have habsent := hfit.absent_closed import' hmem import' hmem
  have hmarker := hfit.isMarker import' hmem
  rw [hclosed, List.append_assoc] at heq
  rw [hclosed, ← (hmarker.isSentence opening).eq_of_append hsaid heq] at habsent
  exact habsent (marker_infix_markedStatement.trans ⟨[], tail, rfl⟩)

theorem DifferBehind.prefix_code (h : DifferBehind imports all before code final) :
    before <+: code := by
  obtain ⟨_, _, _, _, hcode, _⟩ := h
  exact ⟨_, hcode.symm⟩

/-- When a text with the original of an import differs from the text with its marker there or later,
the sentence that has changed is the statement with the marker. -/
theorem DifferBehind.infix_of_behind {between code' : List Char}
    (h : DifferBehind imports all (front ++ between)
      (front ++ (markedStatement opening import' ++ rest))
      (front ++ (closed import'.original ++ code')))
    (hfit : Fit all) (hmem : import' ∈ all) (hsubset : imports ⊆ all) :
    ∃ other ∈ imports, other.marker <:+: import'.marker := by
  obtain ⟨said, said', after, after', hcode, hfinal, hsaid, hsaid', ⟨other, hother, hoccurs⟩,
    hnone⟩ := h
  have hmarker := hfit.isMarker import' hmem
  have hother' := hfit.isMarker other (hsubset hother)
  rw [List.append_assoc, List.append_cancel_left_eq] at hcode hfinal
  have hsemicolon : ';' ∉ between := by
    intro hsemicolon
    obtain ⟨_, rfl⟩ := (hmarker.isSentence opening).prefix_of_mem hsemicolon hcode
    rw [List.append_assoc] at hfinal
    exact not_markedStatement_append hfit hmem hfinal.symm
  rw [← List.append_assoc between] at hcode
  have hown := (hmarker.isSentence opening).eq_of_append (hsaid.append hsemicolon) hcode
  have hin : other.marker <:+: [] ++ markedStatement opening import' := by
    rw [List.nil_append, hown]
    exact hoccurs.trans (List.suffix_append between said).isInfix
  refine ⟨other, hother, (hother'.infix_markedStatement hin).resolve_left fun hempty => ?_⟩
  have hfirst := hother'.first
  simp [List.infix_nil.1 hempty] at hfirst

/-- When a text with the original of an import differs from the text with its marker before that,
the statement with the marker belongs to the sentence that has changed, and no marker stands between
the beginning of the sentence and the statement. -/
theorem DifferBehind.infix_of_before {gap code' : List Char}
    (h : DifferBehind imports all before
      (before ++ (gap ++ (markedStatement opening import' ++ rest)))
      (before ++ (gap ++ (closed import'.original ++ code'))))
    (hfit : Fit all) (hmem : import' ∈ all) (hsubset : imports ⊆ all) :
    (∃ other ∈ imports, other.marker <:+: import'.marker) ∧ ¬ import'.marker <:+: gap := by
  obtain ⟨said, said', after, after', hcode, hfinal, hsaid, hsaid', ⟨other, hother, hoccurs⟩,
    hnone⟩ := h
  have hmarker := hfit.isMarker import' hmem
  have hother' := hfit.isMarker other (hsubset hother)
  rw [List.append_cancel_left_eq] at hcode hfinal
  have hsemicolon : ';' ∉ gap := by
    intro hsemicolon
    obtain ⟨tail, rfl⟩ := hsaid.prefix_of_mem hsemicolon hcode.symm
    rw [List.append_assoc] at hfinal
    rw [hsaid.eq_of_append hsaid' hfinal] at hoccurs
    exact hnone other (hsubset hother) hoccurs
  obtain ⟨first, tail, hfirst, hclosed⟩ :=
    exists_sentence (semicolon_mem_closed import'.original)
  rw [hclosed, List.append_assoc, ← List.append_assoc] at hfinal
  have hown' := (hfirst.append hsemicolon).eq_of_append hsaid' hfinal
  rw [← List.append_assoc gap] at hcode
  have hown := hsaid.eq_of_append ((hmarker.isSentence opening).append hsemicolon) hcode.symm
  -- What stands in front of the import is the same in both sentences.
  have hgap : ∀ other ∈ all, ¬ other.marker <:+: gap := fun other hother hin =>
    hnone other hother (hown' ▸ hin.trans (List.prefix_append gap first).isInfix)
  rw [hown] at hoccurs
  exact ⟨⟨other, hother,
    (hother'.infix_markedStatement hoccurs).resolve_left (hgap other (hsubset hother))⟩,
    hgap import' hmem⟩

/-- When the marker of an import occurs before its own place, then what is restored afterwards does
not bring about the text with the original import there, if that has as many semicolons. -/
theorem restore_ne_own {rest' : List Char} (hfit : Fit (import' :: imports))
    (hoccurs : import'.marker <:+: front)
    (hcount : rest'.count ';' + imports.length = rest.count ';' + semicolons imports) :
    restore (import' :: imports) (front ++ (markedStatement opening import' ++ rest)) ≠
      front ++ (closed import'.original ++ rest') := by
  intro heq
  have hmem : import' ∈ import' :: imports := List.mem_cons_self
  have hsubset : imports ⊆ import' :: imports := List.subset_cons_self _ _
  have hmarker := hfit.isMarker import' hmem
  have hlater : ¬ ∃ later ∈ imports, later.marker <:+: import'.marker :=
    fun ⟨later, hback, hin⟩ => (List.pairwise_cons.1 hfit.distinct).1 later hback hin
  -- No semicolons are lost, and so only sentences are taken out.
  have hone := hmarker.count_markedStatement opening
  have hfinal := congrArg (List.count ';') heq
  rw [restore_cons] at heq hfinal
  obtain ⟨code, hcode⟩ : ∃ code, code = front ++ (markedStatement opening import' ++ rest) :=
    ⟨_, rfl⟩
  have hcodeCount := congrArg (List.count ';') hcode
  rw [← hcode] at heq hfinal
  have hrest := count_restore_le (fun later hback => hfit.isMarker later (hsubset hback))
    (restoreOne code import')
  obtain ⟨hfirst, htight⟩ := hmarker.count_restoreOne code
  simp only [List.count_append, hone] at hfinal hcodeCount
  have hdiffer := differBehind_restore (restoreOne code import') hfit hsubset (by omega)
  rw [heq] at hdiffer
  rcases htight (by omega) with hsame | ⟨before, taken, after, htakes, htaken⟩
  · rw [hsame, hcode] at hdiffer
    rcases hdiffer with hnone | ⟨before, hdiffer⟩
    · exact not_markedStatement_append hfit hmem (List.append_cancel_left hnone)
    · rcases List.prefix_or_prefix_of_prefix hdiffer.prefix_code (List.prefix_append _ _) with
        ⟨gap, rfl⟩ | ⟨between, rfl⟩
      · rw [List.append_assoc, List.append_assoc] at hdiffer
        exact hlater (hdiffer.infix_of_before hfit hmem hsubset).1
      · exact hlater (hdiffer.infix_of_behind hfit hmem hsubset)
  · obtain ⟨before', ⟨middle, rfl⟩, hdiffer⟩ :=
      htakes.differBehind htaken hfit hmem hsubset hdiffer
    rw [hcode] at htakes hdiffer
    obtain ⟨gap, rfl, hin⟩ := htakes.begins_before hoccurs
    rw [List.append_assoc, List.append_assoc, List.append_assoc, List.append_assoc,
      ← List.append_assoc middle, ← List.append_assoc middle] at hdiffer
    exact (hdiffer.infix_of_before hfit hmem (List.Subset.refl _)).2
      (hin.trans (List.suffix_append middle gap).isInfix)

end VerbatimImport

end JsxTidy
