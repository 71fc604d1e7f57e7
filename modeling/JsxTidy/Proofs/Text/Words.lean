import JsxTidy.Attribute.Class
import JsxTidy.Proofs.Text.Collapse
import Mathlib.Data.List.Chain
import Mathlib.Data.List.TakeWhile

/-!
# Collapsing is splitting and joining

A text consists of its words and of blanks around them, in one way only: `hasWords_iff`. Trimming a
text and making its runs of blanks single spaces leaves its words with one space between
neighbours, and so texts are collapsed to the same text exactly when they have the same words.
-/

namespace JsxTidy.Text

variable {c : Char} {cs gap word rest text : List Char} {ws ws' : List (List Char)}

/-- Whether a text is a word: it has characters, and none of them is blank. -/
structure IsWord (word : List Char) : Prop where
  ne_nil : word ≠ []
  not_isBlank : ∀ c ∈ word, ¬ isBlank c

/-- Whether a text consists of some words in their order and of blanks. No word can be made longer,
since a blank or the end of the text follows it and blanks or nothing stand in front of it. -/
inductive HasWords : List Char → List (List Char) → Prop
  | blank {gap : List Char} (hgap : ∀ c ∈ gap, isBlank c) : HasWords gap []
  | word {gap word rest : List Char} {ws : List (List Char)} (hgap : ∀ c ∈ gap, isBlank c)
      (hword : IsWord word) (hend : ∀ c ∈ rest.head?, isBlank c) (hrest : HasWords rest ws) :
      HasWords (gap ++ (word ++ rest)) (word :: ws)

/-! ## The words of a text -/

theorem IsWord.reverse (hne : word ≠ []) (hword : ∀ c ∈ word, ¬ isBlank c) :
    IsWord word.reverse where
  ne_nil := by simpa using hne
  not_isBlank c hc := hword c (List.mem_reverse.1 hc)

theorem HasWords.cons_blank (hc : isBlank c) (h : HasWords cs ws) : HasWords (c :: cs) ws := by
  cases h with
  | blank hgap => exact .blank (List.forall_mem_cons.2 ⟨hc, hgap⟩)
  | word hgap hword hend hrest =>
      rw [← List.cons_append]
      exact .word (List.forall_mem_cons.2 ⟨hc, hgap⟩) hword hend hrest

/-- A text that begins with a word has that word first. -/
theorem HasWords.first (hword : IsWord word) (hend : ∀ c ∈ rest.head?, isBlank c)
    (hrest : HasWords rest ws) : HasWords (word ++ rest) (word :: ws) := by
  have hgap : ∀ c ∈ [], isBlank c := List.forall_mem_nil _
  rw [← List.nil_append (word ++ rest)]
  exact .word hgap hword hend hrest

/-- What is split off a text are words that it has. -/
theorem hasWords_wordsFrom (hword : ∀ c ∈ word, ¬ isBlank c) :
    HasWords (word.reverse ++ cs) (wordsFrom word cs) := by
  induction cs generalizing word with
  | nil =>
      by_cases hne : word = []
      · subst hne
        exact .blank (by simp)
      · rw [wordsFrom, if_neg (by simpa using hne)]
        exact .first (.reverse hne hword) (by simp) (.blank (by simp))
  | cons c cs ih =>
      by_cases hc : isBlank c
      · have hrest : HasWords (c :: cs) (wordsFrom [] cs) :=
          .cons_blank hc (ih (List.forall_mem_nil _))
        rw [wordsFrom, if_pos hc]
        by_cases hne : word = []
        · subst hne
          exact hrest
        · rw [if_neg (by simpa using hne)]
          exact .first (.reverse hne hword) (by simpa using hc) hrest
      · have hlonger := ih (List.forall_mem_cons.2 ⟨hc, hword⟩)
        rw [wordsFrom, if_neg hc]
        rwa [List.reverse_cons, List.append_assoc] at hlonger

/-- Blanks in front of a text belong to no word. -/
theorem words_gap (hgap : ∀ c ∈ gap, isBlank c) (rest : List Char) :
    words (gap ++ rest) = words rest := by
  induction gap with
  | nil => rfl
  | cons c gap ih =>
      obtain ⟨hc, hgap⟩ := List.forall_mem_cons.1 hgap
      rw [List.cons_append, words, wordsFrom, if_pos hc]
      exact ih hgap

/-- A word ends where a blank or the end of the text follows. -/
theorem words_append (hword : IsWord word) (hend : ∀ c ∈ rest.head?, isBlank c) :
    words (word ++ rest) = word :: words rest := by
  have hread : ∀ front : List Char, (∀ c ∈ front, ¬ isBlank c) → ∀ seen,
      wordsFrom seen (front ++ rest) = wordsFrom (front.reverse ++ seen) rest := by
    intro front
    induction front with
    | nil => simp
    | cons c front ih =>
        intro hfront seen
        obtain ⟨hc, hfront⟩ := List.forall_mem_cons.1 hfront
        rw [List.cons_append, wordsFrom, if_neg hc, ih hfront, List.reverse_cons,
          List.append_assoc, List.singleton_append]
  have hne : ¬ word.reverse.isEmpty := by simpa using hword.ne_nil
  rw [words, hread word hword.not_isBlank [], List.append_nil]
  cases rest with
  | nil => rw [wordsFrom, if_neg hne, List.reverse_reverse]; rfl
  | cons c rest =>
      have hc : isBlank c := hend c rfl
      rw [wordsFrom, if_pos hc, if_neg hne, List.reverse_reverse, words, wordsFrom, if_pos hc]
      rfl

/-- A text has its words, and no others. -/
theorem hasWords_iff : HasWords text ws ↔ words text = ws := by
  constructor
  · intro h
    induction h with
    | blank hgap => simpa [words, wordsFrom] using words_gap hgap []
    | word hgap hword hend hrest ih => rw [words_gap hgap, words_append hword hend, ih]
  · rintro rfl
    exact hasWords_wordsFrom (List.forall_mem_nil _)

theorem isWord_of_mem_words (h : word ∈ words text) : IsWord word := by
  have hwords : HasWords text (words text) := hasWords_iff.2 rfl
  generalize words text = ws at h hwords
  induction hwords with
  | blank hgap => cases h
  | word hgap hword hend hrest ih =>
      rcases List.mem_cons.1 h with rfl | h
      · exact hword
      · exact ih h

/-! ## Joining words -/

/-- Words are joined by one space in front of each but the first. -/
theorem unwords_cons (word : List Char) (ws : List (List Char)) :
    unwords (word :: ws) = word ++ ws.flatMap (' ' :: ·) := by
  induction ws generalizing word with
  | nil => simp [unwords]
  | cons next ws ih =>
      have hrest := ih next
      simp only [unwords, List.intersperse_cons_cons, List.flatten_cons] at hrest ⊢
      rw [hrest]
      rfl

/-- Words that are joined can be split again. -/
theorem words_unwords (hwords : ∀ word ∈ ws, IsWord word) : words (unwords ws) = ws := by
  have hspaced : ∀ ws : List (List Char), (∀ word ∈ ws, IsWord word) →
      HasWords (ws.flatMap (' ' :: ·)) ws ∧ ∀ c ∈ (ws.flatMap (' ' :: ·)).head?, isBlank c := by
    intro ws hws
    induction ws with
    | nil => exact ⟨.blank (by simp), by simp⟩
    | cons word ws ih =>
        obtain ⟨hword, hws⟩ := List.forall_mem_cons.1 hws
        obtain ⟨hrest, hend⟩ := ih hws
        have hspace : ∀ c ∈ [' '], isBlank c := List.forall_mem_singleton.2 (by decide)
        exact ⟨.word hspace hword hend hrest, by simpa using hspace⟩
  cases ws with
  | nil => rfl
  | cons word ws =>
      obtain ⟨hword, hws⟩ := List.forall_mem_cons.1 hwords
      obtain ⟨hrest, hend⟩ := hspaced ws hws
      rw [unwords_cons, ← hasWords_iff]
      exact .first hword hend hrest

/-! ## Trimming -/

theorem trimEnd_eq_nil (hgap : ∀ c ∈ gap, isBlank c) : trimEnd gap = [] := by
  simpa [trimEnd, List.dropWhile_eq_nil_iff] using hgap

/-- Trimming the end of a text leaves what stands before its last word. -/
theorem trimEnd_append (front : List Char) (hword : IsWord word) (rest : List Char) :
    trimEnd (front ++ (word ++ rest)) = front ++ (word ++ trimEnd rest) := by
  have hstops : ∀ back : List Char, (back ++ (front ++ word).reverse).dropWhile isBlank =
      back.dropWhile isBlank ++ (front ++ word).reverse := by
    intro back
    induction back with
    | nil =>
        obtain ⟨start, last, rfl⟩ := (List.eq_nil_or_concat word).resolve_left hword.ne_nil
        have hlast : ¬ isBlank last := hword.not_isBlank last (by simp)
        simp [hlast]
    | cons c back ih =>
        by_cases hc : isBlank c
        · simpa [hc] using ih
        · simp [hc]
  have hreverse : (front ++ (word ++ rest)).reverse = rest.reverse ++ (front ++ word).reverse := by
    simp
  rw [trimEnd, hreverse, hstops]
  simp [trimEnd]

theorem trimStart_append (hgap : ∀ c ∈ gap, isBlank c) (hword : IsWord word) (rest : List Char) :
    trimStart (gap ++ (word ++ rest)) = word ++ rest := by
  obtain ⟨c, start, rfl⟩ := List.exists_cons_of_ne_nil hword.ne_nil
  have hc : ¬ isBlank c := hword.not_isBlank c (by simp)
  rw [trimStart, List.dropWhile_append_of_pos hgap, List.cons_append,
    List.dropWhile_cons_of_neg hc]

/-! ## Collapsing -/

theorem collapseRuns_word (hword : ∀ c ∈ word, ¬ isBlank c) (rest : List Char) :
    collapseRuns false (word ++ rest) = word ++ collapseRuns false rest := by
  induction word with
  | nil => rfl
  | cons c word ih =>
      obtain ⟨hc, hword⟩ := List.forall_mem_cons.1 hword
      rw [List.cons_append, collapseRuns, if_neg hc, ih hword, List.cons_append]

/-- Blanks in front of a word become one space, or none behind a blank. -/
theorem collapseRuns_gap (hgap : ∀ c ∈ gap, isBlank c) (hword : IsWord word) (inRun : Bool)
    (rest : List Char) : collapseRuns inRun (gap ++ (word ++ rest)) =
      (if inRun || gap.isEmpty then [] else [' ']) ++ (word ++ collapseRuns false rest) := by
  induction gap generalizing inRun with
  | nil =>
      obtain ⟨c, start, rfl⟩ := List.exists_cons_of_ne_nil hword.ne_nil
      obtain ⟨hc, hstart⟩ := List.forall_mem_cons.1 hword.not_isBlank
      simp [collapseRuns, hc, collapseRuns_word hstart]
  | cons c gap ih =>
      obtain ⟨hc, hgap⟩ := List.forall_mem_cons.1 hgap
      cases inRun <;> simp [collapseRuns, hc, ih hgap]

/-- Behind a word, each further word comes with one space in front. -/
theorem HasWords.collapseRuns_trimEnd (h : HasWords rest ws)
    (hhead : ∀ c ∈ rest.head?, isBlank c) :
    collapseRuns false (trimEnd rest) = ws.flatMap (' ' :: ·) := by
  induction h with
  | blank hgap => rw [trimEnd_eq_nil hgap]; rfl
  | @word gap word rest ws hgap hword hend hrest ih =>
      have hgap' : ¬ gap.isEmpty := by
        intro hempty
        obtain ⟨c, start, rfl⟩ := List.exists_cons_of_ne_nil hword.ne_nil
        rw [List.isEmpty_iff.1 hempty] at hhead
        exact hword.not_isBlank c (by simp) (hhead c rfl)
      rw [trimEnd_append gap hword, collapseRuns_gap hgap hword, ih hend]
      simp [hgap']

/-- Collapsing a text joins its words. -/
theorem collapse_eq_unwords (text : List Char) : collapse text = unwords (words text) := by
  have h : HasWords text (words text) := hasWords_iff.2 rfl
  revert h
  generalize words text = ws
  intro h
  cases h with
  | blank hgap => rw [collapse, trim, trimStart, List.dropWhile_eq_nil_iff.2 hgap]; rfl
  | word hgap hword hend hrest =>
      rw [unwords_cons, ← hrest.collapseRuns_trimEnd hend, collapse, trim,
        trimStart_append hgap hword]
      exact (congrArg (collapseRuns false) (trimEnd_append [] hword _)).trans
        (collapseRuns_word hword.not_isBlank _)

/-- A collapsed text has the words of the text. -/
theorem words_collapse (text : List Char) : words (collapse text) = words text := by
  rw [collapse_eq_unwords, words_unwords fun _ => isWord_of_mem_words]

/-- The blanks that are left are spaces, and no two of them stand side by side. -/
theorem isChain_collapseRuns (inRun : Bool) (cs : List Char) :
    (collapseRuns inRun cs).IsChain (fun c d => ¬ (isBlank c ∧ isBlank d)) ∧
      (inRun → ∀ c ∈ (collapseRuns inRun cs).head?, ¬ isBlank c) ∧
      ∀ c ∈ collapseRuns inRun cs, isBlank c → c = ' ' := by
  induction cs generalizing inRun with
  | nil => exact ⟨.nil, by simp [collapseRuns], by simp [collapseRuns]⟩
  | cons c cs ih =>
      obtain ⟨hchain, hhead, hspaces⟩ := ih true
      rw [collapseRuns]
      split
      · cases inRun with
        | true => exact ⟨hchain, hhead, hspaces⟩
        | false =>
            refine ⟨List.isChain_cons.2 ⟨fun d hd h => hhead rfl d hd h.2, hchain⟩, by simp, ?_⟩
            exact List.forall_mem_cons.2 ⟨fun _ => rfl, hspaces⟩
      · obtain ⟨hchain, -, hspaces⟩ := ih false
        refine ⟨List.isChain_cons.2 ⟨fun d hd h => ‹¬ isBlank c = true› h.1, hchain⟩, ?_,
          List.forall_mem_cons.2 ⟨fun hc => absurd hc ‹_›, hspaces⟩⟩
        rintro - d hd
        rwa [← Option.mem_some_iff.1 hd]

end JsxTidy.Text

namespace JsxTidy

open Text

/-- The value that collapsing makes of another one has the words of that one, joined by single
spaces; these are the words that the value consists of besides blanks. It has no blanks at its
ends, no blanks side by side and no other blanks than spaces, and collapsing it again leaves it as
it is. Two values are collapsed to the same one exactly when they have the same words. -/
theorem ClassNormalizer.collapse_joins_words (value : String) :
    (∀ ws, HasWords value.toList ws ↔ words value.toList = ws) ∧
    (collapse value).toList = [' '].intercalate (words value.toList) ∧
    collapse (collapse value) = collapse value ∧
    IsTrimmed (collapse value).toList ∧
    (collapse value).toList.IsChain (fun c d => ¬ (isBlank c ∧ isBlank d)) ∧
    (∀ c ∈ (collapse value).toList, isBlank c → c = ' ') ∧
    ∀ other : String,
      collapse value = collapse other ↔ words value.toList = words other.toList := by
  have htext : ∀ value, (collapse value).toList = Text.collapse value.toList :=
    fun value => String.toList_ofList
  have hwords : ∀ value, words (collapse value).toList = words value.toList := fun value => by
    rw [htext, words_collapse]
  have hjoined : ∀ value, collapse value = String.ofList (unwords (words value.toList)) :=
    fun value => congrArg String.ofList (collapse_eq_unwords value.toList)
  refine ⟨fun ws => hasWords_iff, ?_, ?_, ?_, ?_, ?_, fun other => ⟨fun heq => ?_, fun heq => ?_⟩⟩
  · rw [htext, collapse_eq_unwords]
    rfl
  · rw [hjoined (collapse value), hwords, ← hjoined]
  · rw [htext]
    exact isTrimmed_collapseRuns (isTrimmed_trim _)
  · rw [htext]
    exact (isChain_collapseRuns false _).1
  · rw [htext]
    exact (isChain_collapseRuns false _).2.2
  · rw [← hwords, heq, hwords]
  · rw [hjoined, heq, ← hjoined]

example : ClassNormalizer.collapse "  p-2 \n  flex " = "p-2 flex" := by decide

end JsxTidy
