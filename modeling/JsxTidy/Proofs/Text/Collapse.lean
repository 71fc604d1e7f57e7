import JsxTidy.Text.Blank

/-!
# Collapsed texts

A text without blanks at its ends is left alone by trimming, and it keeps its ends when its runs of
blanks become single spaces. So a text that was collapsed is left alone by collapsing:
`collapse_collapse`.
-/

namespace JsxTidy.Text

variable {c : Char} {cs : List Char}

/-- Whether a text has blanks at neither end. -/
structure IsTrimmed (cs : List Char) : Prop where
  head : ∀ c ∈ cs.head?, ¬ isBlank c
  last : ∀ c ∈ cs.getLast?, ¬ isBlank c

theorem not_isBlank_of_mem_dropWhile (cs : List Char) (h : c ∈ (cs.dropWhile isBlank).head?) :
    ¬ isBlank c := by
  have hhead := List.head?_dropWhile_not isBlank cs
  rw [Option.mem_def] at h
  rw [h] at hhead
  simpa using hhead

theorem dropWhile_of_head (h : ∀ c ∈ cs.head?, ¬ isBlank c) : cs.dropWhile isBlank = cs := by
  cases cs with
  | nil => rfl
  | cons c cs => exact List.dropWhile_cons_of_neg (h c rfl)

theorem trimEnd_prefix (cs : List Char) : trimEnd cs <+: cs := by
  have hsuffix := List.reverse_prefix.2 (List.dropWhile_suffix (l := cs.reverse) isBlank)
  rwa [List.reverse_reverse] at hsuffix

/-- Trimming leaves blanks at neither end. -/
theorem isTrimmed_trim (cs : List Char) : IsTrimmed (trim cs) where
  head := by
    intro c hc
    refine not_isBlank_of_mem_dropWhile cs ?_
    obtain ⟨rest, hrest⟩ := trimEnd_prefix (trimStart cs)
    have hhead : (trimEnd (trimStart cs)).head? = some c := hc
    show c ∈ (trimStart cs).head?
    rw [← hrest, List.head?_append, hhead]
    rfl
  last := by
    intro c hc
    refine not_isBlank_of_mem_dropWhile (trimStart cs).reverse ?_
    rwa [trim, trimEnd, List.getLast?_reverse] at hc

/-- A text without blanks at its ends is trimmed already. -/
theorem trim_of_isTrimmed (h : IsTrimmed cs) : trim cs = cs := by
  have hstart : trimStart cs = cs := dropWhile_of_head h.head
  have hend : cs.reverse.dropWhile isBlank = cs.reverse := by
    refine dropWhile_of_head fun c hc => h.last c ?_
    rwa [List.head?_reverse] at hc
  rw [trim, hstart, trimEnd, hend, List.reverse_reverse]

/-- Runs of blanks that are single spaces stay so. -/
theorem collapseRuns_collapseRuns (inRun : Bool) (cs : List Char) :
    collapseRuns inRun (collapseRuns inRun cs) = collapseRuns inRun cs := by
  induction cs generalizing inRun with
  | nil => rfl
  | cons c cs ih =>
      rw [collapseRuns]
      split
      · cases inRun with
        | true => exact ih true
        | false => exact congrArg (' ' :: ·) (ih true)
      · rename_i hblank
        rw [collapseRuns, if_neg hblank, ih false]

/-- The last character stays if it is not blank. -/
theorem getLast?_collapseRuns (inRun : Bool) (hlast : cs.getLast? = some c) (hc : ¬ isBlank c) :
    (collapseRuns inRun cs).getLast? = some c := by
  induction cs generalizing inRun with
  | nil => cases hlast
  | cons d cs ih =>
      cases cs with
      | nil =>
          obtain rfl : d = c := Option.some.inj hlast
          rw [collapseRuns, if_neg hc]
          rfl
      | cons e cs =>
          have hrest : ∀ inRun, (collapseRuns inRun (e :: cs)).getLast? = some c :=
            fun inRun => ih inRun hlast
          rw [collapseRuns]
          split
          · split
            · exact hrest true
            · rw [List.getLast?_cons, hrest true, Option.getD_some]
          · rw [List.getLast?_cons, hrest false, Option.getD_some]

/-- A text without blanks at its ends has none there when its runs of blanks are made spaces. -/
theorem isTrimmed_collapseRuns (h : IsTrimmed cs) : IsTrimmed (collapseRuns false cs) := by
  cases cs with
  | nil => exact h
  | cons d cs =>
      have hd : ¬ isBlank d := h.head d rfl
      obtain ⟨c, hlast⟩ : ∃ c, (d :: cs).getLast? = some c := ⟨_, List.getLast?_cons⟩
      have hc := h.last c hlast
      constructor
      · rw [collapseRuns, if_neg hd]
        exact h.head
      · rw [getLast?_collapseRuns false hlast hc]
        intro e he
        obtain rfl := Option.mem_some_iff.1 he
        exact hc

/-- Collapsing a text twice is collapsing it once. -/
theorem collapse_collapse (cs : List Char) : collapse (collapse cs) = collapse cs := by
  rw [collapse, collapse, trim_of_isTrimmed (isTrimmed_collapseRuns (isTrimmed_trim cs)),
    collapseRuns_collapseRuns]

end JsxTidy.Text
