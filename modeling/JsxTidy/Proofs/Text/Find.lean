import JsxTidy.Text.Blank
import JsxTidy.Text.Find
import JsxTidy.Text.Offset
import Mathlib.Data.List.Infix

/-!
# What a search in a text finds

A search for the first occurrence finds one whenever there is one, and nothing in front of it
occurs. What stands behind an occurrence does not matter for the search, and neither does text in
front that no occurrence can share with it. A text with a semicolon begins with a sentence, which
ends in the first semicolon; where two texts begin in the same way, they begin with the same
sentence.
-/

namespace JsxTidy.Text

variable {pattern text front rest before between : List Char} {c first shared : Char}

/-! ## Single occurrences -/

theorem after?_eq_some_iff : after? pattern text = some rest ↔ text = pattern ++ rest := by
  induction pattern generalizing text with
  | nil => simp [after?]
  | cons p pattern ih =>
      cases text with
      | nil => simp [after?]
      | cons c text =>
          by_cases hpc : p = c
          · subst hpc
            simpa [after?] using ih
          · have hcp : ¬ c = p := fun h => hpc h.symm
            simp [after?, hpc, hcp]

/-- A text begins with a pattern when the pattern is a prefix of it. -/
theorem beginsWith_iff : beginsWith pattern text ↔ pattern <+: text := by
  rw [beginsWith, Option.isSome_iff_exists]
  constructor
  · rintro ⟨rest, h⟩
    exact ⟨rest, (after?_eq_some_iff.1 h).symm⟩
  · rintro ⟨rest, h⟩
    exact ⟨rest, after?_eq_some_iff.2 h.symm⟩

/-! ## The first occurrence -/

/-- Only the empty pattern occurs in the empty text. -/
theorem splitFirst?_nil_eq_some_iff : splitFirst? pattern [] = some (front, rest) ↔
    pattern = [] ∧ front = [] ∧ rest = [] := by
  rw [splitFirst?]
  split <;> simp_all [eq_comm]

/-- A search stops at the first character when the pattern begins there, and goes on behind it
otherwise. -/
theorem splitFirst?_cons_eq_some_iff : splitFirst? pattern (c :: text) = some (front, rest) ↔
    (beginsWith pattern (c :: text) ∧ front = [] ∧ rest = c :: text) ∨
      (¬ beginsWith pattern (c :: text) ∧
        ∃ behind, front = c :: behind ∧ splitFirst? pattern text = some (behind, rest)) := by
  rw [splitFirst?]
  split
  · rename_i hbegins
    simp [hbegins, eq_comm]
  · rename_i hnot
    rw [Option.map_eq_some_iff]
    constructor
    · rintro ⟨⟨behind, rest⟩, hbehind, heq⟩
      cases heq
      exact .inr ⟨hnot, behind, rfl, hbehind⟩
    · rintro (⟨hbegins, -⟩ | ⟨-, behind, rfl, hbehind⟩)
      · exact absurd hbegins hnot
      · exact ⟨(behind, rest), hbehind, rfl⟩

/-- What a search finds is an occurrence. -/
theorem splitFirst?_spec (h : splitFirst? pattern text = some (front, rest)) :
    text = front ++ rest ∧ pattern <+: rest := by
  induction text generalizing front with
  | nil =>
      obtain ⟨rfl, rfl, rfl⟩ := splitFirst?_nil_eq_some_iff.1 h
      exact ⟨rfl, List.prefix_refl []⟩
  | cons c text ih =>
      rcases splitFirst?_cons_eq_some_iff.1 h with ⟨hbegins, rfl, rfl⟩ | ⟨-, behind, rfl, hbehind⟩
      · exact ⟨rfl, beginsWith_iff.1 hbegins⟩
      · obtain ⟨htext, hrest⟩ := ih hbehind
        exact ⟨by rw [htext, List.cons_append], hrest⟩

/-- A search finds something when the pattern occurs. -/
theorem contains_iff : contains pattern text ↔ pattern <:+: text := by
  rw [contains]
  constructor
  · intro h
    obtain ⟨⟨front, rest⟩, hsplit⟩ := Option.isSome_iff_exists.1 h
    obtain ⟨htext, hrest⟩ := splitFirst?_spec hsplit
    rw [htext]
    exact hrest.isInfix.trans (List.suffix_append front rest).isInfix
  · intro h
    induction text with
    | nil => simp [splitFirst?, List.infix_nil.1 h]
    | cons c text ih =>
        rw [splitFirst?]
        split
        · rfl
        · have hoccurs : pattern <:+: text :=
            (List.infix_cons_iff.1 h).resolve_left fun hprefix =>
              ‹¬ _› (beginsWith_iff.2 hprefix)
          rw [Option.isSome_map]
          exact ih hoccurs

/-- What stands behind the first occurrence does not matter for the search. -/
theorem splitFirst?_append (more : List Char)
    (h : splitFirst? pattern text = some (front, rest)) :
    splitFirst? pattern (text ++ more) = some (front, rest ++ more) := by
  induction text generalizing front with
  | nil =>
      obtain ⟨rfl, rfl, rfl⟩ := splitFirst?_nil_eq_some_iff.1 h
      cases more <;> simp [splitFirst?, beginsWith, after?]
  | cons c text ih =>
      rw [List.cons_append, splitFirst?_cons_eq_some_iff]
      have hlonger : c :: text <+: c :: (text ++ more) := List.prefix_append (c :: text) more
      rcases splitFirst?_cons_eq_some_iff.1 h with
        ⟨hbegins, rfl, rfl⟩ | ⟨hnot, behind, rfl, hbehind⟩
      · exact .inl ⟨beginsWith_iff.2 ((beginsWith_iff.1 hbegins).trans hlonger), rfl, rfl⟩
      · refine .inr ⟨fun hbegins => hnot (beginsWith_iff.2 ?_), behind, rfl, ih hbehind⟩
        -- An occurrence at the front would have to reach behind the text that holds a later one.
        obtain ⟨htext, hrest⟩ := splitFirst?_spec hbehind
        have hlength : pattern.length ≤ (c :: text).length := by
          rw [htext, List.length_cons, List.length_append]
          have := hrest.length_le
          omega
        exact List.prefix_of_prefix_length_le (beginsWith_iff.1 hbegins) hlonger hlength

/-- No occurrence begins before the one that a search finds. -/
theorem length_le_of_splitFirst? {before after : List Char}
    (h : splitFirst? pattern text = some (front, rest))
    (htext : text = before ++ (pattern ++ after)) : front.length ≤ before.length := by
  induction text generalizing front before with
  | nil =>
      have hfront := (List.append_eq_nil_iff.1 (splitFirst?_spec h).1.symm).1
      rw [hfront]
      exact Nat.zero_le _
  | cons c text ih =>
      rcases splitFirst?_cons_eq_some_iff.1 h with ⟨-, rfl, rfl⟩ | ⟨hnot, behind, rfl, hbehind⟩
      · exact Nat.zero_le _
      · cases before with
        | nil => exact absurd (beginsWith_iff.2 ⟨after, htext.symm⟩) hnot
        | cons d before =>
            obtain ⟨-, htext⟩ := List.cons.inj htext
            exact Nat.succ_le_succ (ih hbehind htext)

/-- The first occurrence of a character that does not occur before. -/
theorem splitFirst?_singleton (rest : List Char) (h : c ∉ front) :
    splitFirst? [c] (front ++ c :: rest) = some (front, c :: rest) := by
  induction front with
  | nil => simp [splitFirst?, beginsWith, after?]
  | cons d front ih =>
      obtain ⟨hcd, hfront⟩ := not_or.1 (mt List.mem_cons.2 h)
      rw [List.cons_append, splitFirst?, ih hfront]
      simp [beginsWith, after?, hcd]

/-- A search for a character finds the first place where it stands. -/
theorem splitFirst?_singleton_eq_some_iff : splitFirst? [c] text = some (front, rest) ↔
    text = front ++ rest ∧ c ∉ front ∧ rest.head? = some c := by
  constructor
  · intro h
    obtain ⟨htext, hrest⟩ := splitFirst?_spec h
    obtain ⟨behind, rfl⟩ := hrest
    have hmem : c ∈ text := by simp [htext]
    obtain ⟨first, others, hfirst, hnot⟩ := List.eq_append_cons_of_mem hmem
    rw [hfirst, splitFirst?_singleton others hnot] at h
    simp only [Option.some.injEq, Prod.mk.injEq] at h
    exact ⟨htext, h.1 ▸ hnot, rfl⟩
  · rintro ⟨rfl, hfront, hrest⟩
    obtain ⟨behind, rfl⟩ := List.head?_eq_some_iff.1 hrest
    exact splitFirst?_singleton behind hfront

/-- The first occurrence of a character splits a text in one way only. -/
theorem eq_of_append_singleton {after : List Char} (hfront : c ∉ front) (hbefore : c ∉ before)
    (h : front ++ c :: rest = before ++ c :: after) : front = before := by
  have hfirst := splitFirst?_singleton rest hfront
  rw [h, splitFirst?_singleton after hbefore] at hfirst
  simp only [Option.some.injEq, Prod.mk.injEq] at hfirst
  exact hfirst.1.symm

/-- A pattern that is no prefix of a text is none of a longer text either, when it ends in a
character that the next part of the longer text lacks, and lacks a character of that part. -/
theorem not_prefix_append (hbefore : ¬ pattern <+: before)
    (hlast : pattern.getLast? = some first) (hbetween : first ∉ between)
    (hshared : shared ∈ between) (hmissing : shared ∉ pattern) :
    ¬ pattern <+: before ++ (between ++ rest) := by
  intro hprefix
  rw [← List.append_assoc] at hprefix
  rcases Nat.le_total pattern.length (before ++ between).length with hlength | hlength
  · -- The pattern ends inside `between`.
    have hinside : pattern <+: before ++ between :=
      List.prefix_of_prefix_length_le hprefix (List.prefix_append _ _) hlength
    rcases List.prefix_or_prefix_of_prefix hinside (List.prefix_append before between) with
      h | ⟨tail, rfl⟩
    · exact hbefore h
    · have htail : tail <+: between := (List.prefix_append_right_inj before).1 hinside
      cases tail with
      | nil => exact hbefore (by simp)
      | cons c tail =>
          have hmem : first ∈ c :: tail := by
            rw [List.getLast?_append_of_ne_nil _ (List.cons_ne_nil c tail)] at hlast
            exact List.mem_of_getLast? hlast
          exact hbetween (htail.subset hmem)
  · -- The pattern reaches behind `between` and holds all of it.
    have hover : before ++ between <+: pattern :=
      List.prefix_of_prefix_length_le (List.prefix_append _ _) hprefix hlength
    exact hmissing (hover.subset (List.mem_append_right before hshared))

/-- A pattern does not occur before a place right behind `between` unless it occurs in what stands
before that, when it begins and ends in a character that `between` lacks and lacks a character of
`between` itself. -/
theorem splitFirst?_behind (rest : List Char) (hbefore : ¬ pattern <:+: before)
    (hfirst : pattern.head? = some first) (hlast : pattern.getLast? = some first)
    (hbetween : first ∉ between) (hshared : shared ∈ between) (hmissing : shared ∉ pattern) :
    splitFirst? pattern (before ++ (between ++ (pattern ++ rest))) =
      some (before ++ between, pattern ++ rest) := by
  have hhere : splitFirst? pattern (between ++ (pattern ++ rest)) =
      some (between, pattern ++ rest) := by
    clear hshared hmissing
    induction between with
    | nil =>
        obtain ⟨p, hp⟩ : ∃ p, pattern = first :: p := List.head?_eq_some_iff.1 hfirst
        have hbegins : beginsWith pattern (first :: (p ++ rest)) :=
          beginsWith_iff.2 ⟨rest, by rw [hp, List.cons_append]⟩
        rw [List.nil_append, hp, List.cons_append, splitFirst?, ← hp, if_pos hbegins]
    | cons d between ih =>
        obtain ⟨hne, hmem⟩ := not_or.1 (mt List.mem_cons.2 hbetween)
        have hbegins : ¬ beginsWith pattern (d :: (between ++ (pattern ++ rest))) := by
          intro hbegins
          obtain ⟨p, rfl⟩ := List.head?_eq_some_iff.1 hfirst
          exact hne (List.cons_prefix_cons.1 (beginsWith_iff.1 hbegins)).1
        rw [List.cons_append, splitFirst?, if_neg hbegins, ih hmem]
        rfl
  induction before with
  | nil => exact hhere
  | cons d before ih =>
      have hbegins : ¬ beginsWith pattern (d :: before ++ (between ++ (pattern ++ rest))) :=
        fun hbegins => not_prefix_append (fun h => hbefore h.isInfix) hlast hbetween hshared
          hmissing (beginsWith_iff.1 hbegins)
      have hrest := ih fun h => hbefore (h.trans (List.suffix_cons d before).isInfix)
      rw [List.cons_append] at hbegins ⊢
      rw [splitFirst?, if_neg hbegins, hrest]
      rfl

/-- An occurrence in a text with `between` in it lies in front of that or behind. -/
theorem infix_behind (hbefore : ¬ pattern <:+: before) (hfirst : pattern.head? = some first)
    (hlast : pattern.getLast? = some first) (hbetween : first ∉ between)
    (hshared : shared ∈ between) (hmissing : shared ∉ pattern)
    (h : pattern <:+: before ++ (between ++ rest)) : pattern <:+: rest := by
  induction before with
  | nil =>
      clear hshared hmissing
      induction between with
      | nil => exact h
      | cons d between ih =>
          obtain ⟨hne, hmem⟩ := not_or.1 (mt List.mem_cons.2 hbetween)
          refine ih hmem ((List.infix_cons_iff.1 h).resolve_left fun hprefix => ?_)
          obtain ⟨p, rfl⟩ := List.head?_eq_some_iff.1 hfirst
          exact hne (List.cons_prefix_cons.1 hprefix).1
  | cons d before ih =>
      refine ih (fun h => hbefore (h.trans (List.suffix_cons d before).isInfix)) ?_
      exact (List.infix_cons_iff.1 h).resolve_left
        (not_prefix_append (fun h => hbefore h.isInfix) hlast hbetween hshared hmissing)

/-! ## The last occurrence -/

theorem splitLast?_spec (h : splitLast? pattern text = some (front, rest)) :
    text = front ++ rest ∧ pattern <+: rest := by
  induction text generalizing front with
  | nil =>
      rw [splitLast?] at h
      split at h
      · cases h
        simp_all
      · cases h
  | cons c text ih =>
      rw [splitLast?] at h
      split at h
      · rename_i parts hparts
        cases h
        obtain ⟨htext, hrest⟩ := ih hparts
        exact ⟨by rw [htext, List.cons_append], hrest⟩
      · split at h
        · cases h
          exact ⟨rfl, beginsWith_iff.1 ‹_›⟩
        · cases h

/-- What stands in front of the last occurrence does not matter for the search. -/
theorem splitLast?_append (before : List Char) (h : splitLast? pattern text = some ([], text)) :
    splitLast? pattern (before ++ text) = some (before, text) := by
  induction before with
  | nil => exact h
  | cons c before ih => rw [List.cons_append, splitLast?, ih]

theorem splitLast?_singleton_eq_none (h : c ∉ text) : splitLast? [c] text = none := by
  induction text with
  | nil => rfl
  | cons d text ih =>
      obtain ⟨hcd, htext⟩ := not_or.1 (mt List.mem_cons.2 h)
      rw [splitLast?, ih htext]
      simp [beginsWith, after?, hcd]

/-- The last occurrence of a character that does not occur behind. -/
theorem splitLast?_singleton (front : List Char) (h : c ∉ rest) :
    splitLast? [c] (front ++ c :: rest) = some (front, c :: rest) := by
  refine splitLast?_append front ?_
  rw [splitLast?, splitLast?_singleton_eq_none h]
  simp [beginsWith, after?]

/-- A search for a character finds the last place where it stands. -/
theorem splitLast?_singleton_eq_some_iff : splitLast? [c] text = some (front, rest) ↔
    text = front ++ rest ∧ ∃ behind, rest = c :: behind ∧ c ∉ behind := by
  constructor
  · intro h
    obtain ⟨htext, behind, rfl⟩ := splitLast?_spec h
    have hmem : c ∈ text.reverse := by simp [htext]
    obtain ⟨last, others, hlast, hnot⟩ := List.eq_append_cons_of_mem hmem
    have hsplit : text = others.reverse ++ c :: last.reverse := by
      rw [← List.reverse_reverse text, hlast]
      simp
    rw [hsplit, splitLast?_singleton others.reverse (by simpa using hnot)] at h
    simp only [Option.some.injEq, Prod.mk.injEq, List.singleton_append, List.cons.injEq,
      true_and] at h
    exact ⟨htext, behind, rfl, h.2 ▸ by simpa using hnot⟩
  · rintro ⟨rfl, behind, rfl, hbehind⟩
    exact splitLast?_singleton front hbehind

/-! ## Parts of a text -/

theorem takeBytes_isPrefix (bytes : Nat) (text : List Char) : takeBytes bytes text <+: text := by
  fun_induction takeBytes bytes text with
  | case1 => exact List.prefix_refl []
  | case2 bytes c cs _ ih => exact List.cons_prefix_cons.2 ⟨rfl, ih⟩
  | case3 => exact List.nil_prefix

theorem dropBytes_isSuffix (bytes : Nat) (text : List Char) : dropBytes bytes text <:+ text := by
  fun_induction dropBytes bytes text with
  | case1 => exact List.suffix_refl []
  | case2 bytes c cs _ ih => exact ih.trans (List.suffix_cons c cs)
  | case3 => exact List.suffix_refl _

theorem dropBytes_append (front rest : List Char) :
    dropBytes (byteLength front) (front ++ rest) = rest := by
  induction front with
  | nil =>
      cases rest with
      | nil => rfl
      | cons c rest =>
          have hpos := c.utf8Size_pos
          rw [byteLength, List.nil_append, dropBytes, if_neg (by omega)]
  | cons c front ih =>
      rw [byteLength, List.cons_append, dropBytes, if_pos (Nat.le_add_right _ _),
        Nat.add_sub_cancel_left, ih]

/-- A stretch of a text occurs in the text. -/
theorem sliceBytes_isInfix (start stop : Nat) (text : List Char) :
    sliceBytes start stop text <:+: text :=
  (takeBytes_isPrefix _ _).isInfix.trans (dropBytes_isSuffix start text).isInfix

/-- The text without the blanks at its end is a prefix of it. -/
theorem trimEnd_isPrefix (text : List Char) : trimEnd text <+: text := by
  rw [trimEnd, ← List.reverse_suffix, List.reverse_reverse]
  exact List.dropWhile_suffix _

/-! ## Sentences -/

/-- Whether a text ends in its only semicolon. -/
def IsSentence (said : List Char) : Prop :=
  ∃ start, said = start ++ [';'] ∧ ';' ∉ start

variable {said said' after after' : List Char}

/-- A text with a semicolon begins with a sentence. -/
theorem exists_sentence (h : ';' ∈ text) :
    ∃ said after, IsSentence said ∧ text = said ++ after := by
  obtain ⟨start, after, htext, hstart⟩ := List.eq_append_cons_of_mem h
  exact ⟨start ++ [';'], after, ⟨start, rfl, hstart⟩, by simp [htext]⟩

/-- A text begins with one sentence only. -/
theorem IsSentence.eq_of_append (h : IsSentence said) (h' : IsSentence said')
    (heq : said ++ after = said' ++ after') : said = said' := by
  obtain ⟨start, rfl, hstart⟩ := h
  obtain ⟨start', rfl, hstart'⟩ := h'
  rw [eq_of_append_singleton hstart hstart' (by simpa using heq)]

/-- A sentence at the beginning of a text belongs to any part in front that has a semicolon. -/
theorem IsSentence.prefix_of_mem (h : IsSentence said) (hmem : ';' ∈ text)
    (heq : said ++ after = text ++ after') : said <+: text := by
  obtain ⟨said', tail, hsaid', rfl⟩ := exists_sentence hmem
  rw [List.append_assoc] at heq
  rw [h.eq_of_append hsaid' heq]
  exact List.prefix_append said' tail

/-- Text without a semicolon in front of a sentence belongs to it. -/
theorem IsSentence.append (h : IsSentence said) (hfront : ';' ∉ text) :
    IsSentence (text ++ said) := by
  obtain ⟨start, rfl, hstart⟩ := h
  exact ⟨text ++ start, by simp, by simp [hfront, hstart]⟩

theorem isSentence_of_count {start : List Char} (h : (start ++ [';']).count ';' = 1) :
    IsSentence (start ++ [';']) := by
  refine ⟨start, rfl, List.count_eq_zero.1 ?_⟩
  simpa using h

end JsxTidy.Text
