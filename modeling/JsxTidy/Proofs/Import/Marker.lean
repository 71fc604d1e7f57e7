import JsxTidy.Proofs.Import.Restore

/-!
# Markers

The start of the markers of a text, with its letters, does not occur in the text. Each marker
begins with it and goes on with a number of its own. So the markers of captured imports can be told
from their original texts and from each other.
-/

namespace JsxTidy.VerbatimImport

open Text

variable {text : List Char} {salt index later fuel count : Nat}

/-- What all markers with the same number of letters begin with. -/
def markerStem (salt : Nat) : List Char :=
  markerStart ++ List.replicate salt 'x'

/-! ## The shape of a marker -/

theorem markerOf_eq (salt index : Nat) :
    markerOf salt index = markerStem salt ++ (Nat.toDigits 10 index ++ ['_', '_']) := by
  simp [markerOf, markerStem]

theorem notMem_toDigits {c : Char} (hc : c.isDigit = false) (index : Nat) :
    c ∉ Nat.toDigits 10 index := by
  intro hmem
  rw [Nat.isDigit_of_mem_toDigits (by decide) (by decide) hmem] at hc
  cases hc

theorem notMem_markerOf {c : Char} (hstart : c ∉ markerStart) (hletter : c ≠ 'x')
    (hdigit : c.isDigit = false) (hend : c ≠ '_') : c ∉ markerOf salt index := by
  simp [markerOf_eq, markerStem, hstart, hletter, notMem_toDigits hdigit, hend]

theorem markerOf_isMarker (salt index : Nat) : IsMarker (markerOf salt index) where
  first := rfl
  last := by
    rw [markerOf_eq, List.getLast?_append, List.getLast?_append]
    rfl
  noSpace := notMem_markerOf (by decide) (by decide) (by decide) (by decide)
  noEnd := notMem_markerOf (by decide) (by decide) (by decide) (by decide)

/-! ## The letters of the markers -/

/-- Enough letters keep the markers out of a text, whatever the text is. -/
theorem not_infix_saltFrom (h : text.length < count + fuel) :
    ¬ markerStem (saltFrom text fuel count) <:+: text := by
  induction fuel generalizing count with
  | zero =>
      intro hoccurs
      have hlength := hoccurs.length_le
      simp only [saltFrom, markerStem, List.length_append, List.length_replicate] at hlength
      omega
  | succ fuel ih =>
      rw [saltFrom]
      split
      · exact ih (by omega)
      · exact fun hoccurs => ‹¬ _› (contains_iff.2 hoccurs)

/-- The stem of the markers of a text does not occur in the text. -/
theorem markerOf_not_infix (text : List Char) (index : Nat) :
    ¬ markerOf (VerbatimImport.salt text) index <:+: text := by
  intro hoccurs
  refine not_infix_saltFrom (by omega : text.length < 0 + (text.length + 1)) ?_
  rw [markerOf_eq] at hoccurs
  exact (List.prefix_append _ _).isInfix.trans hoccurs

/-! ## The numbers of the markers -/

/-- The letter at the third place of a marker stands nowhere else in it. -/
theorem exists_marker_tail (salt index : Nat) :
    ∃ tail, markerOf salt index = '_' :: '_' :: 'c' :: tail ∧ 'c' ∉ tail := by
  refine ⟨"leanup_verbatim_import_".toList ++ (List.replicate salt 'x' ++
    (Nat.toDigits 10 index ++ ['_', '_'])), ?_, ?_⟩
  · rw [markerOf_eq, markerStem, List.append_assoc]
    rfl
  · simp [notMem_toDigits]

/-- A marker occurs in another one only at its beginning. -/
theorem prefix_of_markerOf_infix (h : markerOf salt later <:+: markerOf salt index) :
    markerOf salt later <+: markerOf salt index := by
  obtain ⟨tail, htail, hletter⟩ := exists_marker_tail salt index
  obtain ⟨tail', htail', _⟩ := exists_marker_tail salt later
  rw [htail, htail'] at h ⊢
  have hrest : ¬ '_' :: '_' :: 'c' :: tail' <:+: '_' :: 'c' :: tail := by
    intro hoccurs
    rcases List.infix_cons_iff.1 hoccurs with hprefix | hoccurs
    · simp [List.cons_prefix_cons] at hprefix
    rcases List.infix_cons_iff.1 hoccurs with hprefix | hoccurs
    · simp [List.cons_prefix_cons] at hprefix
    · exact hletter (hoccurs.subset (by simp))
  exact (List.infix_cons_iff.1 h).resolve_right hrest

/-- A marker with another number does not occur in a marker. -/
theorem eq_of_markerOf_infix (h : markerOf salt later <:+: markerOf salt index) :
    later = index := by
  obtain ⟨rest, hrest⟩ := prefix_of_markerOf_infix h
  rw [markerOf_eq, markerOf_eq, List.append_assoc, List.append_cancel_left_eq] at hrest
  have hdigits := eq_of_append_singleton (notMem_toDigits (by decide) later)
    (notMem_toDigits (by decide : '_'.isDigit = false) index) (by simpa using hrest)
  have hvalues := congrArg (Nat.ofDigitChars 10 · 0) hdigits
  simpa using hvalues

/-! ## Captured imports -/

variable {body : List Syntax.Node} {captured : VerbatimImport} {i : Nat}

theorem exists_of_isBare {statement : Syntax.Node} (h : isBare statement) :
    ∃ isType phase span clause source attributes,
      statement = .mk (.importDeclaration isType phase) span [clause, source, attributes] ∧
        clause.parts = [] := by
  unfold isBare at h
  split at h
  · exact ⟨_, _, _, _, _, _, rfl, List.isEmpty_iff.1 h⟩
  · cases h

/-- A captured import has the marker with its number, and the text of a statement that keeps its
text. -/
theorem getElem?_captureFrom (h : (captureFrom text salt index body).2[i]? = some captured) :
    captured.marker = markerOf salt (index + i) ∧ ∃ statement ∈ body, isBare statement ∧
      captured.original = sliceBytes statement.span.start statement.span.stop text := by
  induction body generalizing index i with
  | nil => cases h
  | cons first rest ih =>
      have hlater : ∀ {index i}, (captureFrom text salt index rest).2[i]? = some captured →
          captured.marker = markerOf salt (index + i) ∧
            ∃ statement ∈ first :: rest, isBare statement ∧
              captured.original = sliceBytes statement.span.start statement.span.stop text := by
        intro index i hrest
        obtain ⟨hmarker, statement, hstatement, horiginal⟩ := ih hrest
        exact ⟨hmarker, statement, List.mem_cons_of_mem _ hstatement, horiginal⟩
      rw [captureFrom] at h
      split at h
      · rename_i hbare
        cases i with
        | zero =>
            cases h
            exact ⟨rfl, first, List.mem_cons_self, hbare, rfl⟩
        | succ i =>
            rw [Nat.add_comm i 1, ← Nat.add_assoc]
            exact hlater h
      · exact hlater h

theorem mem_capture {p : Syntax.Program} (h : captured ∈ (capture text p).2) :
    (∃ number, captured.marker = markerOf (VerbatimImport.salt text) number) ∧
      ∃ statement ∈ p.body, isBare statement ∧
        captured.original = sliceBytes statement.span.start statement.span.stop text := by
  obtain ⟨i, hi⟩ := List.mem_iff_getElem?.1 h
  obtain ⟨hmarker, horiginal⟩ := getElem?_captureFrom hi
  exact ⟨⟨0 + i, hmarker⟩, horiginal⟩

theorem original_isInfix {p : Syntax.Program} (h : captured ∈ (capture text p).2) :
    captured.original <:+: text := by
  obtain ⟨-, statement, -, -, horiginal⟩ := mem_capture h
  exact horiginal ▸ sliceBytes_isInfix _ _ text

theorem captureFrom_pairwise (text : List Char) (salt index : Nat) (body : List Syntax.Node) :
    (captureFrom text salt index body).2.Pairwise
      fun import' later => ¬ later.marker <:+: import'.marker := by
  refine List.pairwise_iff_getElem.2 fun i j hi hj hlt hoccurs => ?_
  rw [(getElem?_captureFrom (List.getElem?_eq_getElem hi)).1,
    (getElem?_captureFrom (List.getElem?_eq_getElem hj)).1] at hoccurs
  have := eq_of_markerOf_infix hoccurs
  omega

/-- The markers of captured imports can be told from their surroundings. -/
theorem capture_fit (text : List Char) (p : Syntax.Program) : Fit (capture text p).2 where
  isMarker import' hmem := by
    obtain ⟨⟨number, hmarker⟩, _⟩ := mem_capture hmem
    rw [hmarker]
    exact markerOf_isMarker _ number
  absent other hother import' hmem hoccurs := by
    obtain ⟨⟨number, hmarker⟩, _⟩ := mem_capture hother
    rw [hmarker] at hoccurs
    exact markerOf_not_infix text number (hoccurs.trans (original_isInfix hmem))
  distinct := captureFrom_pairwise text _ 0 p.body

end JsxTidy.VerbatimImport
