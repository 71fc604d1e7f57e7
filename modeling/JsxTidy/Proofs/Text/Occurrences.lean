import JsxTidy.Proofs.Text.Find

/-!
# Counting occurrences

Where a part in the middle of a text is taken out, the occurrences of a pattern in front of it and
behind it are still there. Others are lost, and there are none exactly when the part avoids the
pattern: when no occurrence lies in the part or reaches over one of its ends. What occurs once is
found where it stands, from either side.
-/

namespace JsxTidy.Text

/-- The number of places where a pattern occurs in a text. -/
def occurrences (pattern text : List Char) : Nat :=
  text.tails.countP (beginsWith pattern)

/-- Whether every occurrence of a pattern around the middle of a text lies in front of the middle
or behind it. -/
def Avoids (pattern before middle after : List Char) : Prop :=
  ∀ front rest, before ++ (middle ++ after) = front ++ (pattern ++ rest) →
    front ++ pattern <+: before ∨ pattern ++ rest <:+ after

variable {pattern before middle after text start : List Char} {c : Char}

/-! ## Where no occurrence is lost -/

/-- An occurrence at the front of a text is not one behind its first character. -/
theorem not_suffix_cons_append (c : Char) (text after : List Char) :
    ¬ c :: (text ++ after) <:+ after := by
  intro hsuffix
  have hlength := hsuffix.length_le
  simp only [List.length_cons, List.length_append] at hlength
  omega

theorem avoids_nil (pattern after : List Char) : Avoids pattern [] [] after :=
  fun front _ heq => .inr ⟨front, heq.symm⟩

theorem avoids_cons_middle (hpattern : pattern ≠ []) :
    Avoids pattern [] (c :: middle) after ↔
      ¬ pattern <+: c :: (middle ++ after) ∧ Avoids pattern [] middle after := by
  constructor
  · intro h
    refine ⟨?_, fun front rest heq => ?_⟩
    · rintro ⟨rest, heq⟩
      rcases h [] rest heq.symm with hfront | hbehind
      · exact hpattern (List.prefix_nil.1 hfront)
      · exact absurd (heq ▸ hbehind) (not_suffix_cons_append c middle after)
    · refine (h (c :: front) rest (congrArg (c :: ·) heq)).imp_left fun hfront => ?_
      exact absurd (List.prefix_nil.1 hfront) (List.cons_ne_nil c _)
  · rintro ⟨hhere, h⟩ front rest heq
    cases front with
    | nil => exact absurd ⟨rest, heq.symm⟩ hhere
    | cons d front =>
        obtain ⟨-, heq⟩ := List.cons.inj heq
        refine (h front rest heq).imp_left fun hfront => ?_
        exact absurd (List.append_eq_nil_iff.1 (List.prefix_nil.1 hfront)).2 hpattern

theorem avoids_cons_before :
    Avoids pattern (c :: before) middle after ↔
      (pattern <+: c :: (before ++ (middle ++ after)) → pattern <+: c :: before) ∧
        Avoids pattern before middle after := by
  constructor
  · intro h
    refine ⟨?_, fun front rest heq => ?_⟩
    · rintro ⟨rest, heq⟩
      refine (h [] rest heq.symm).resolve_right fun hbehind => ?_
      rw [heq, ← List.append_assoc] at hbehind
      exact not_suffix_cons_append c (before ++ middle) after hbehind
    · exact (h (c :: front) rest (congrArg (c :: ·) heq)).imp_left
        fun hfront => (List.cons_prefix_cons.1 hfront).2
  · rintro ⟨hhere, h⟩ front rest heq
    cases front with
    | nil => exact .inl (hhere ⟨rest, heq.symm⟩)
    | cons d front =>
        obtain ⟨hsame, hrest⟩ := List.cons.inj heq
        exact (h front rest hrest).imp_left
          fun hfront => List.cons_prefix_cons.2 ⟨hsame.symm, hfront⟩

/-! ## The number of occurrences -/

theorem occurrences_nil (hpattern : pattern ≠ []) : occurrences pattern [] = 0 := by
  simpa [occurrences, List.countP_eq_zero, beginsWith_iff] using hpattern

theorem occurrences_cons_of_pos (h : pattern <+: c :: text) :
    occurrences pattern (c :: text) = occurrences pattern text + 1 := by
  rw [occurrences, List.tails_cons, List.countP_cons_of_pos (beginsWith_iff.2 h)]
  rfl

theorem occurrences_cons_of_neg (h : ¬ pattern <+: c :: text) :
    occurrences pattern (c :: text) = occurrences pattern text := by
  rw [occurrences, List.tails_cons,
    List.countP_cons_of_neg fun hbegins => h (beginsWith_iff.1 hbegins)]
  rfl

/-- Text in front of another one takes no occurrence away from it, and adds none when it avoids the
pattern. -/
theorem occurrences_behind (hpattern : pattern ≠ []) (middle after : List Char) :
    occurrences pattern after ≤ occurrences pattern (middle ++ after) ∧
      (occurrences pattern (middle ++ after) = occurrences pattern after ↔
        Avoids pattern [] middle after) := by
  induction middle with
  | nil => simp [avoids_nil]
  | cons c middle ih =>
      obtain ⟨hle, hiff⟩ := ih
      rw [avoids_cons_middle hpattern, List.cons_append, ← hiff]
      by_cases hhere : pattern <+: c :: (middle ++ after)
      · rw [occurrences_cons_of_pos hhere]
        exact ⟨by omega, iff_of_false (by omega) fun h => h.1 hhere⟩
      · rw [occurrences_cons_of_neg hhere]
        exact ⟨hle, by simp [hhere]⟩

/-- The occurrences in front of the middle of a text and behind it are among those of the text, and
they are all of them exactly when the middle avoids the pattern. -/
theorem occurrences_around (hpattern : pattern ≠ []) (before middle after : List Char) :
    occurrences pattern before + occurrences pattern after ≤
        occurrences pattern (before ++ (middle ++ after)) ∧
      (occurrences pattern (before ++ (middle ++ after)) =
          occurrences pattern before + occurrences pattern after ↔
        Avoids pattern before middle after) := by
  induction before with
  | nil => simpa [occurrences_nil hpattern] using occurrences_behind hpattern middle after
  | cons c before ih =>
      obtain ⟨hle, hiff⟩ := ih
      rw [avoids_cons_before, List.cons_append, ← hiff]
      by_cases hbefore : pattern <+: c :: before
      · have hwhole : pattern <+: c :: (before ++ (middle ++ after)) :=
          hbefore.trans (List.prefix_append (c :: before) _)
        rw [occurrences_cons_of_pos hbefore, occurrences_cons_of_pos hwhole]
        exact ⟨by omega, by simp only [hbefore, implies_true, true_and]; omega⟩
      · rw [occurrences_cons_of_neg hbefore]
        by_cases hwhole : pattern <+: c :: (before ++ (middle ++ after))
        · -- The occurrence at the front reaches into the middle.
          rw [occurrences_cons_of_pos hwhole]
          exact ⟨by omega, iff_of_false (by omega) fun h => hbefore (h.1 hwhole)⟩
        · rw [occurrences_cons_of_neg hwhole]
          exact ⟨hle, by simp [hwhole]⟩

theorem Avoids.occurrences_eq (h : Avoids pattern before middle after) (hpattern : pattern ≠ []) :
    occurrences pattern (before ++ (middle ++ after)) =
      occurrences pattern before + occurrences pattern after :=
  (occurrences_around hpattern before middle after).2.2 h

/-! ## Texts that avoid a pattern anywhere -/

/-- A text avoids a pattern wherever it stands when neither of the two occurs in the other, and no
end of either is a beginning of the other. -/
theorem avoids_of (hinside : ¬ pattern <:+: middle) (houtside : ¬ middle <:+: pattern)
    (hfront : ∀ start ≠ [], start <+: pattern → ¬ start <:+ middle)
    (hbehind : ∀ tail ≠ [], tail <:+ pattern → ¬ tail <+: middle) (before after : List Char) :
    Avoids pattern before middle after := by
  intro front rest heq
  rcases List.append_eq_append_iff.1 heq with ⟨gap, rfl, hgap⟩ | ⟨gap, rfl, hgap⟩
  · -- The occurrence begins in the middle or behind it.
    right
    rcases List.append_eq_append_iff.1 hgap with ⟨behind, -, rfl⟩ | ⟨start, rfl, hstart⟩
    · exact List.suffix_append behind (pattern ++ rest)
    · by_cases hnil : start = []
      · rw [hstart, hnil]
        exact List.suffix_refl after
      · rcases List.prefix_or_prefix_of_prefix ⟨rest, hstart⟩ ⟨after, rfl⟩ with hall | hpart
        · exact absurd (hall.isInfix.trans (List.suffix_append gap start).isInfix) hinside
        · exact absurd (List.suffix_append gap start) (hfront start hnil hpart)
  · -- The occurrence begins in front of the middle.
    left
    rcases List.append_eq_append_iff.1 hgap with ⟨tail, rfl, -⟩ | ⟨tail, rfl, htail⟩
    · exact ⟨tail, List.append_assoc front pattern tail⟩
    · by_cases hnil : tail = []
      · rw [hnil, List.append_nil]
      · rcases List.prefix_or_prefix_of_prefix ⟨after, htail⟩ ⟨rest, rfl⟩ with hall | hpart
        · exact absurd (hall.isInfix.trans (List.suffix_append gap tail).isInfix) houtside
        · exact absurd hpart (hbehind tail hnil (List.suffix_append gap tail))

/-! ## What occurs once -/

variable {front rest : List Char}

theorem occurrences_pos (hpattern : pattern ≠ []) (h : pattern <:+: text) :
    0 < occurrences pattern text := by
  obtain ⟨front, rest, rfl⟩ := h
  have hbehind : 0 < occurrences pattern (pattern ++ rest) := by
    refine List.countP_pos_iff.2 ⟨pattern ++ rest, ?_, beginsWith_iff.2 ⟨rest, rfl⟩⟩
    exact (List.mem_tails _ _).2 (List.suffix_refl _)
  rw [List.append_assoc]
  exact Nat.lt_of_lt_of_le hbehind (occurrences_behind hpattern front _).1

/-- The only occurrence of a pattern is the first one. -/
theorem splitFirst?_of_once (hpattern : pattern ≠ [])
    (h : occurrences pattern (front ++ (pattern ++ rest)) = 1) :
    splitFirst? pattern (front ++ (pattern ++ rest)) = some (front, pattern ++ rest) := by
  induction front with
  | nil =>
      cases pattern with
      | nil => exact absurd rfl hpattern
      | cons c pattern =>
          rw [List.nil_append, List.cons_append, splitFirst?, if_pos]
          exact beginsWith_iff.2 ⟨rest, rfl⟩
  | cons c front ih =>
      have hlater := occurrences_pos hpattern
        (List.infix_append front pattern rest)
      rw [List.append_assoc] at hlater
      have hhere : ¬ pattern <+: c :: (front ++ (pattern ++ rest)) := by
        intro hhere
        rw [List.cons_append, occurrences_cons_of_pos hhere] at h
        omega
      rw [List.cons_append, occurrences_cons_of_neg hhere] at h
      rw [List.cons_append, splitFirst?, if_neg (mt beginsWith_iff.1 hhere), ih h]
      rfl

/-- The only occurrence of a pattern at the front of a text is the last one. -/
theorem splitLast?_of_once (hpattern : pattern ≠ []) (hbegins : pattern <+: text)
    (h : occurrences pattern text = 1) : splitLast? pattern text = some ([], text) := by
  cases text with
  | nil => exact absurd (List.prefix_nil.1 hbegins) hpattern
  | cons c text =>
      rw [occurrences_cons_of_pos hbegins] at h
      have hnone : splitLast? pattern text = none := by
        cases hlater : splitLast? pattern text with
        | none => rfl
        | some parts =>
            obtain ⟨before, behind⟩ := parts
            obtain ⟨htext, hoccurs⟩ := splitLast?_spec hlater
            have hinfix : pattern <:+: text := by
              rw [htext]
              exact hoccurs.isInfix.trans (List.suffix_append before behind).isInfix
            have hpos := occurrences_pos hpattern hinfix
            omega
      rw [splitLast?, hnone]
      exact if_pos (beginsWith_iff.2 hbegins)

end JsxTidy.Text
