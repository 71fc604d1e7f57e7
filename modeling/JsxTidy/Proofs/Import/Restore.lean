import JsxTidy.Import.Verbatim
import JsxTidy.Proofs.Text.Find

/-!
# Putting one import back

The statement with a marker is found by its marker, as long as the marker does not occur before.
Otherwise text is taken out that begins somewhere before: it ends in a semicolon, like the
statement, but holds another occurrence of the marker. What is taken out and what is put in can be
told apart by counting semicolons.
-/

namespace JsxTidy

open Text

/-- What an import without specifiers says in front of its source. -/
structure ImportOpening where
  isType : Bool
  phase : Syntax.ImportPhase
  hasBraces : Bool

/-- The text of an import up to its source, with the quote that opens it. -/
def ImportOpening.text (o : ImportOpening) : List Char :=
  "import ".toList ++ (if o.isType then "type ".toList else []) ++
    (match o.phase with
      | .evaluation => []
      | .deferred => "defer ".toList
      | .source => "source ".toList) ++
    (if o.hasBraces then "\x7b\x7d from ".toList else []) ++ ['"']

/-- The only `import` in an opening is at its start, and an opening shares little with markers. -/
theorem ImportOpening.text_spec (o : ImportOpening) :
    splitLast? "import".toList o.text = some ([], o.text) ∧
      '_' ∉ o.text ∧ ' ' ∈ o.text ∧ ';' ∉ o.text := by
  obtain ⟨isType, phase, hasBraces⟩ := o
  cases isType <;> cases phase <;> cases hasBraces <;> decide

namespace VerbatimImport

/-- Whether a text has the shape of a marker. -/
structure IsMarker (marker : List Char) : Prop where
  first : marker.head? = some '_'
  last : marker.getLast? = some '_'
  noSpace : ' ' ∉ marker
  noEnd : ';' ∉ marker

/-- Whether the markers of some imports can be told from their surroundings: they have the shape of
markers, the original texts do not hold them, and no import has a marker that holds a later one. -/
structure Fit (imports : List VerbatimImport) : Prop where
  isMarker : ∀ import' ∈ imports, IsMarker import'.marker
  absent : ∀ other ∈ imports, ∀ import' ∈ imports, ¬ other.marker <:+: import'.original
  distinct : imports.Pairwise fun import' later => ¬ later.marker <:+: import'.marker

/-- The statement of an import with its marker. -/
def markedStatement (opening : ImportOpening) (import' : VerbatimImport) : List Char :=
  opening.text ++ (import'.marker ++ ['"', ';'])

variable {import' : VerbatimImport} {opening : ImportOpening} {imports all : List VerbatimImport}
  {marker front rest before after taken code final : List Char}

theorem IsMarker.ne_nil (h : IsMarker marker) : marker ≠ [] := by
  rintro rfl
  cases h.first

/-! ## Statements -/

/-- A closed statement has a semicolon. -/
theorem semicolon_mem_closed (statement : List Char) : ';' ∈ closed statement := by
  unfold closed
  split
  · exact (trimEnd_isPrefix statement).subset (List.mem_of_getLast? ‹_›)
  · simp

/-- A marker that a statement does not hold is not in the closed statement either. -/
theorem IsMarker.absent_closed {statement : List Char} (h : IsMarker marker)
    (habsent : ¬ marker <:+: statement) : ¬ marker <:+: closed statement := by
  unfold closed
  split
  · exact habsent
  · intro hoccurs
    rcases List.infix_concat_iff.1 hoccurs with hsuffix | hoccurs
    · rcases List.suffix_concat_iff.1 hsuffix with hnil | ⟨start, hstart, _⟩
      · exact h.ne_nil hnil
      · exact h.noEnd (by simp [hstart])
    · exact habsent hoccurs

theorem Fit.absent_closed (h : Fit all) :
    ∀ other ∈ all, ∀ import' ∈ all, ¬ other.marker <:+: closed import'.original :=
  fun other hother import' hmem =>
    (h.isMarker other hother).absent_closed (h.absent other hother import' hmem)

theorem Fit.of_append_left {left right : List VerbatimImport} (h : Fit (left ++ right)) :
    Fit left where
  isMarker import' hmem := h.isMarker import' (List.mem_append_left _ hmem)
  absent other hother import' hmem :=
    h.absent other (List.mem_append_left _ hother) import' (List.mem_append_left _ hmem)
  distinct := (List.pairwise_append.1 h.distinct).1

theorem Fit.of_append_right {left right : List VerbatimImport} (h : Fit (left ++ right)) :
    Fit right where
  isMarker import' hmem := h.isMarker import' (List.mem_append_right _ hmem)
  absent other hother import' hmem :=
    h.absent other (List.mem_append_right _ hother) import' (List.mem_append_right _ hmem)
  distinct := (List.pairwise_append.1 h.distinct).2.1

/-- The statement with a marker is a sentence. -/
theorem IsMarker.isSentence (h : IsMarker import'.marker) (opening : ImportOpening) :
    IsSentence (markedStatement opening import') := by
  obtain ⟨_, _, _, hopening⟩ := opening.text_spec
  exact ⟨opening.text ++ (import'.marker ++ ['"']), by simp [markedStatement],
    by simp [hopening, h.noEnd]⟩

/-- The statement with a marker has one semicolon. -/
theorem IsMarker.count_markedStatement (h : IsMarker import'.marker) (opening : ImportOpening) :
    (markedStatement opening import').count ';' = 1 := by
  obtain ⟨start, hstart, hmem⟩ := h.isSentence opening
  rw [hstart, List.count_append, List.count_eq_zero.2 hmem]
  rfl

theorem marker_infix_markedStatement : import'.marker <:+: markedStatement opening import' :=
  ⟨opening.text, ['"', ';'], by simp [markedStatement]⟩

/-- A marker that occurs where a statement with another marker ends occurs in front of that, or in
the other marker. -/
theorem IsMarker.infix_markedStatement (h : IsMarker marker)
    (hoccurs : marker <:+: before ++ markedStatement opening import') :
    marker <:+: before ∨ marker <:+: import'.marker := by
  by_contra hneither
  obtain ⟨hbefore, hmarker⟩ := not_or.1 hneither
  obtain ⟨_, hunderscore, hspace, _⟩ := opening.text_spec
  have hbehind := infix_behind hbefore h.first h.last hunderscore hspace h.noSpace hoccurs
  have hquote : marker <:+: import'.marker ++ (['"', ';'] ++ []) := hbehind
  have hnone := infix_behind hmarker h.first h.last (by decide) (List.mem_cons_of_mem _ (by simp))
    h.noEnd hquote
  exact h.ne_nil (List.infix_nil.1 hnone)

/-! ## One import -/

theorem restore_cons (import' : VerbatimImport) (imports : List VerbatimImport)
    (code : List Char) :
    restore (import' :: imports) code = restore imports (restoreOne code import') := rfl

theorem restore_append (imports later : List VerbatimImport) (code : List Char) :
    restore (imports ++ later) code = restore later (restore imports code) :=
  List.foldl_append

/-- An import is put in the place of the statement that is found around its marker. -/
theorem restoreOne_of_found {opening closing : List Char}
    (hfound : splitFirst? import'.marker code =
      some (before ++ opening, import'.marker ++ (closing ++ ';' :: after)))
    (hopening : splitLast? "import".toList opening = some ([], opening))
    (hend : ';' ∉ import'.marker ++ closing) :
    restoreOne code import' = before ++ (closed import'.original ++ after) := by
  have hlast := splitLast?_append before hopening
  have hsemicolon := splitFirst?_singleton after hend
  rw [List.append_assoc] at hsemicolon
  have hsplit : splitStatement? import'.marker code = some (before, after) := by
    simp only [splitStatement?, hfound, hlast, hsemicolon, Option.bind_eq_bind, Option.bind_some,
      List.drop_succ_cons, List.drop_zero]
    rfl
  rw [restoreOne, hsplit]
  exact List.append_assoc before _ after

/-- An import is put back in its own place when its marker does not occur before. -/
theorem IsMarker.restoreOne_own (h : IsMarker import'.marker)
    (hbefore : ¬ import'.marker <:+: before) (opening : ImportOpening) (rest : List Char) :
    restoreOne (before ++ (markedStatement opening import' ++ rest)) import' =
      before ++ (closed import'.original ++ rest) := by
  obtain ⟨hopening, hunderscore, hspace, _⟩ := opening.text_spec
  have hfound := splitFirst?_behind (['"'] ++ ';' :: rest) hbefore h.first h.last
    hunderscore hspace h.noSpace
  have htext : before ++ (markedStatement opening import' ++ rest) =
      before ++ (opening.text ++ (import'.marker ++ (['"'] ++ ';' :: rest))) := by
    simp [markedStatement]
  rw [htext]
  exact restoreOne_of_found hfound hopening (by simp [h.noEnd])

/-- Whether restoring an import takes a part out of a text and puts the import in its place. -/
structure Takes (import' : VerbatimImport) (code before taken after : List Char) : Prop where
  code_eq : code = before ++ (taken ++ after)
  restored : restoreOne code import' = before ++ (closed import'.original ++ after)
  /-- The marker occurs first behind the beginning of what is taken. -/
  found : ∃ word rest, splitFirst? import'.marker code = some (before ++ word, rest)
  holds_marker : import'.marker <:+: taken
  ends : ∃ start, taken = start ++ [';']

/-- Restoring an import changes nothing or takes something out. -/
theorem IsMarker.restoreOne_cases (h : IsMarker import'.marker) (code : List Char) :
    restoreOne code import' = code ∨
      ∃ before taken after, Takes import' code before taken after := by
  cases hsplit : splitStatement? import'.marker code with
  | none => exact .inl (by rw [restoreOne, hsplit])
  | some parts =>
      obtain ⟨before, after⟩ := parts
      have hrestored : restoreOne code import' = before ++ (closed import'.original ++ after) := by
        rw [restoreOne, hsplit]
        exact List.append_assoc before _ after
      simp only [splitStatement?, Option.bind_eq_bind, Option.bind_eq_some_iff] at hsplit
      obtain ⟨⟨front, rest⟩, hfound, ⟨before', word⟩, hlast, ⟨middle, after'⟩, hend, heq⟩ := hsplit
      obtain ⟨hcode, hprefix⟩ := splitFirst?_spec hfound
      have hfront : front = before' ++ word := (splitLast?_spec hlast).1
      have hrest : rest = middle ++ after' := (splitFirst?_spec hend).1
      obtain ⟨after'', rfl⟩ := (splitFirst?_spec hend).2
      cases heq
      refine .inr ⟨before', word ++ middle ++ [';'], after'', ?_, hrestored, ⟨word, rest, ?_⟩, ?_,
        ⟨word ++ middle, rfl⟩⟩
      · simp [hcode, hfront, hrest]
      · rw [hfound, hfront]
      · -- The marker has no semicolon and ends before the first one.
        have hmiddle : import'.marker <+: middle := by
          rcases List.prefix_or_prefix_of_prefix hprefix ⟨_, hrest.symm⟩ with h' | ⟨tail, htail⟩
          · exact h'
          · cases tail with
            | nil => simp [← htail]
            | cons c tail =>
                rw [← htail, hrest, List.prefix_append_right_inj, List.singleton_append,
                  List.cons_prefix_cons] at hprefix
                exact absurd h.noEnd (by simp [← htail, hprefix.1])
        exact hmiddle.isInfix.trans ⟨word, [';'], rfl⟩

/-- What is taken out begins before the first text that holds the marker. -/
theorem Takes.begins_before (h : Takes import' (front ++ rest) before taken after)
    (hoccurs : import'.marker <:+: front) :
    ∃ gap, front = before ++ gap ∧ import'.marker <:+: gap := by
  obtain ⟨⟨left, behind⟩, hleft⟩ := Option.isSome_iff_exists.1 (contains_iff.2 hoccurs)
  obtain ⟨word, _, hfound⟩ := h.found
  have hsame := splitFirst?_append rest hleft
  rw [hfound, Option.some.injEq, Prod.mk.injEq] at hsame
  obtain ⟨hfront, hbehind⟩ := splitFirst?_spec hleft
  exact ⟨word ++ behind, by rw [hfront, ← hsame.1, List.append_assoc],
    hbehind.isInfix.trans (List.suffix_append word behind).isInfix⟩

/-! ## Counting semicolons -/

/-- Restoring an import adds its semicolons, and takes at least one away unless it changes nothing.
If it takes no more away, then it takes out a sentence. -/
theorem IsMarker.count_restoreOne (h : IsMarker import'.marker) (code : List Char) :
    (restoreOne code import').count ';' + 1 ≤
        code.count ';' + (closed import'.original).count ';' ∧
      ((restoreOne code import').count ';' + 1 =
          code.count ';' + (closed import'.original).count ';' →
        restoreOne code import' = code ∨
          ∃ before taken after, Takes import' code before taken after ∧ IsSentence taken) := by
  rcases h.restoreOne_cases code with hsame | ⟨before, taken, after, htakes⟩
  · have hpositive := List.count_pos_iff.2 (semicolon_mem_closed import'.original)
    exact ⟨by rw [hsame]; omega, fun _ => .inl hsame⟩
  · obtain ⟨start, hstart⟩ := htakes.ends
    have hpositive : 0 < taken.count ';' := List.count_pos_iff.2 (by simp [hstart])
    have hcode := congrArg (List.count ';') htakes.code_eq
    have hrestored := congrArg (List.count ';') htakes.restored
    simp only [List.count_append] at hcode hrestored
    refine ⟨by omega, fun heq => .inr ⟨before, taken, after, htakes, ?_⟩⟩
    have hone : taken.count ';' = 1 := by omega
    rw [hstart] at hone ⊢
    exact isSentence_of_count hone

/-- The number of semicolons in the original texts of imports. -/
def semicolons (imports : List VerbatimImport) : Nat :=
  (imports.flatMap fun import' => closed import'.original).count ';'

@[simp] theorem semicolons_cons (import' : VerbatimImport) (imports : List VerbatimImport) :
    semicolons (import' :: imports) =
      (closed import'.original).count ';' + semicolons imports := by
  simp [semicolons]

/-- Restoring imports adds their semicolons and takes at least one away for each of them, unless
nothing is put back. -/
theorem count_restore_le (h : ∀ import' ∈ imports, IsMarker import'.marker) (code : List Char) :
    (restore imports code).count ';' + imports.length ≤ code.count ';' + semicolons imports := by
  induction imports generalizing code with
  | nil => simp [restore, semicolons]
  | cons first imports ih =>
      have hfirst := ((h first (by simp)).count_restoreOne code).1
      have hrest := ih (fun import' hmem => h import' (by simp [hmem])) (restoreOne code first)
      rw [restore_cons, semicolons_cons, List.length_cons]
      omega

end VerbatimImport

end JsxTidy
