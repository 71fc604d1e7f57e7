import JsxTidy.Proofs.Json.Finds
import Mathlib.Tactic.SplitIfs

/-!
# Reading strings

A string that is read has to say something: each of its escapes stands for a character, if need be
together with the next one. A string that is only stepped over may also hold half of a surrogate
pair. The main results, `finds_stringRest` and `finds_skipStringRest`, say that behind an opening
quote exactly the strings of the grammar are read and stepped over.
-/

namespace JsxTidy.Json

open Text

variable {c : Cursor} {x y : Char} {n : Nat} {s : String} {t rest : List Char}

/-! ## Escapes -/

theorem shortEscape?_eq_some_iff : Reader.shortEscape? x = some y ↔ (x, y) ∈ shortEscapes := by
  constructor
  · intro h
    unfold Reader.shortEscape? at h
    split at h
    · rename_i hx
      cases h
      rcases hx with rfl | rfl | rfl <;> decide
    · split_ifs at h <;> cases h <;> subst x <;> decide
  · intro h
    simp only [shortEscapes, List.mem_cons, Prod.mk.injEq, List.not_mem_nil, or_false] at h
    rcases h with ⟨rfl, rfl⟩ | ⟨rfl, rfl⟩ | ⟨rfl, rfl⟩ | ⟨rfl, rfl⟩ | ⟨rfl, rfl⟩ | ⟨rfl, rfl⟩ |
      ⟨rfl, rfl⟩ | ⟨rfl, rfl⟩ <;> rfl

theorem EscapeText.ne_nil (h : EscapeText t x) : t ≠ [] := by
  cases h <;> simp

/-- Only an escape by number begins with a `u`. -/
theorem escapeText_cons_iff (hy : y ≠ 'u') :
    EscapeText (y :: t) x ↔ t = [] ∧ (y, x) ∈ shortEscapes := by
  constructor
  · intro h
    cases h with
    | short hmem => exact ⟨rfl, hmem⟩
    | unit => exact absurd rfl hy
    | pair => exact absurd rfl hy
  · rintro ⟨rfl, hmem⟩
    exact .short hmem

theorem RawPart.ne_nil (h : RawPart t) : t ≠ [] := by
  cases h <;> simp

theorem CharText.ne_nil (h : CharText t x) : t ≠ [] := by
  cases h <;> simp

/-- How a character begins in a string, and what becomes of the rest of it. -/
theorem charText_cons_iff :
    CharText (y :: t) x ↔ IsPlain y ∧ t = [] ∧ y = x ∨ y = '\\' ∧ EscapeText t x := by
  constructor
  · intro h
    cases h with
    | plain hx => exact .inl ⟨hx, rfl, rfl⟩
    | escape ht => exact .inr ⟨rfl, ht⟩
  · rintro (⟨hx, rfl, rfl⟩ | ⟨rfl, ht⟩)
    · exact .plain hx
    · exact .escape ht

/-- What a character is written as, whatever it stands for. -/
theorem CharText.exists_rawParts (h : CharText t x) :
    ∃ parts : List (List Char), (∀ part ∈ parts, RawPart part) ∧ t = parts.flatten := by
  cases h with
  | plain hx => exact ⟨[[x]], by simpa using RawPart.plain hx, by simp⟩
  | escape ht =>
      cases ht with
      | short hmem => exact ⟨[['\\', _]], by simpa using RawPart.short hmem, by simp⟩
      | unit ht => exact ⟨['\\' :: 'u' :: _], by simpa using RawPart.unit ht, by simp⟩
      | pair ht ht' =>
          exact ⟨['\\' :: 'u' :: _, '\\' :: 'u' :: _],
            by simpa using ⟨RawPart.unit ht, RawPart.unit ht'⟩, by simp⟩

theorem exists_rawParts {parts : List (List Char)} {chars : List Char}
    (h : List.Forall₂ CharText parts chars) :
    ∃ raw : List (List Char), (∀ part ∈ raw, RawPart part) ∧ parts.flatten = raw.flatten := by
  induction h with
  | nil => exact ⟨[], by simp, rfl⟩
  | cons hpart _ ih =>
      obtain ⟨raw, hraw, rfl⟩ := hpart.exists_rawParts
      obtain ⟨more, hmore, heq⟩ := ih
      refine ⟨raw ++ more, fun part hpart => ?_, by simp [heq]⟩
      exact (List.mem_append.1 hpart).elim (hraw part) (hmore part)

/-- A string that says something is a string. -/
theorem StringText.rawString (h : StringText t s) : RawString t := by
  obtain ⟨parts, hparts, rfl⟩ := h
  obtain ⟨raw, hraw, heq⟩ := exists_rawParts hparts
  exact ⟨raw, hraw, by rw [heq]⟩

namespace Reader

theorem utf8Size_of_hexDigit? (h : hexDigit? x = some n) : x.utf8Size = 1 := by
  have hx : x ≤ 'f' := by
    rw [hexDigit?] at h
    split at h
    · rename_i hx
      exact Char.le_trans hx.2 (by decide)
    split at h
    · rename_i hx
      exact hx.2
    split at h
    · rename_i hx
      exact Char.le_trans hx.2 (by decide)
    · cases h
  exact Char.utf8Size_eq_one_iff.2 (Nat.le_trans hx (by decide))

theorem byteLength_of_mapM {values : List Nat} (h : t.mapM hexDigit? = some values) :
    byteLength t = t.length := by
  induction t generalizing values with
  | nil => rfl
  | cons x t ih =>
      simp only [List.mapM_cons, bind, Option.bind_eq_some_iff] at h
      obtain ⟨n, hx, others, hothers, -⟩ := h
      rw [byteLength, utf8Size_of_hexDigit? hx, ih hothers, List.length_cons, Nat.add_comm]

theorem finds_hexUnit : hexUnit.Finds c n rest ↔ ∃ t, HexText t n ∧ c.rest = t ++ rest := by
  obtain ⟨offset, text⟩ := c
  constructor
  · rintro ⟨last, h⟩
    simp only [hexUnit] at h
    split at h
    · cases h
    rename_i hlong
    split at h
    · rename_i values hvalues
      rw [byteLength_of_mapM hvalues, List.length_take] at hlong
      obtain ⟨a, b, d, e, more, rfl⟩ : ∃ a b d e more, text = a :: b :: d :: e :: more := by
        rcases text with _ | ⟨a, _ | ⟨b, _ | ⟨d, _ | ⟨e, more⟩⟩⟩⟩
        · simp at hlong
        · simp at hlong
        · simp at hlong
        · simp at hlong
        · exact ⟨a, b, d, e, more, rfl⟩
      simp only [List.take_succ_cons, List.take_zero, List.mapM_cons, List.mapM_nil, bind,
        Option.bind_eq_some_iff, pure, Option.some.injEq] at hvalues
      obtain ⟨w, hw, _, ⟨x, hx, _, ⟨y, hy, _, ⟨z, hz, _, rfl, rfl⟩, rfl⟩, rfl⟩, rfl⟩ := hvalues
      cases h
      exact ⟨_, ⟨a, b, d, e, w, x, y, z, rfl, hw, hx, hy, hz, by simp⟩, rfl⟩
    · cases h
  · rintro ⟨_, ⟨a, b, d, e, w, x, y, z, rfl, hw, hx, hy, hz, rfl⟩, rfl⟩
    have hvalues : [a, b, d, e].mapM hexDigit? = some [w, x, y, z] := by
      simp [hw, hx, hy, hz]
    refine ⟨offset + a.utf8Size + b.utf8Size + d.utf8Size + e.utf8Size, ?_⟩
    simp only [hexUnit, List.cons_append, List.nil_append, List.take_succ_cons, List.take_zero,
      byteLength_of_mapM hvalues, hvalues]
    simp [Cursor.skip, Cursor.next]

theorem finds_pairMark {mark : Char} : (pairMark mark).Finds c () rest ↔ c.rest = mark :: rest := by
  rw [pairMark, finds_peek_bind]
  cases htext : c.rest with
  | nil => simp
  | cons x text =>
      simp only [List.head?_cons]
      split
      · simp_all
      · simp_all

theorem finds_escapedCode :
    escapedCode.Finds c x rest ↔ ∃ t, EscapeText ('u' :: t) x ∧ c.rest = t ++ rest := by
  rw [escapedCode]
  constructor
  · intro h
    obtain ⟨high, next, hhigh, h⟩ := exists_of_finds_bind h
    obtain ⟨t, ht, htext⟩ := finds_hexUnit.1 hhigh
    split at h
    · exact absurd h finds_failHere
    -- The unit is not a low surrogate, which may only come second.
    rename_i hlow
    split at h
    · rename_i hpair
      -- Behind a high surrogate there has to be the escape of a low one.
      obtain ⟨_, next, hslash, h⟩ := exists_of_finds_bind h
      obtain ⟨_, next, hmark, h⟩ := exists_of_finds_bind h
      obtain ⟨low, next, hunit, h⟩ := exists_of_finds_bind h
      obtain ⟨t', ht', htext'⟩ := finds_hexUnit.1 hunit
      split at h
      · rename_i hlow
        obtain ⟨rfl, rfl⟩ := finds_pure.1 h
        refine ⟨_, .pair ht ht' hpair hlow, ?_⟩
        rw [htext, finds_pairMark.1 hslash, finds_pairMark.1 hmark, htext']
        simp
      · exact absurd h finds_failHere
    · rename_i hhigh
      obtain ⟨rfl, rfl⟩ := finds_pure.1 h
      refine ⟨t, .unit ht fun hsurrogate => ?_, htext⟩
      rw [IsSurrogate] at hsurrogate
      omega
  · rintro ⟨t, ht, htext⟩
    cases ht with
    | short hmem => simp [shortEscapes] at hmem
    | unit ht hsurrogate =>
        rw [IsSurrogate] at hsurrogate
        refine (finds_hexUnit.2 ⟨t, ht, htext⟩).bind fun next hnext => ?_
        rw [if_neg (by omega), if_neg (by omega)]
        exact finds_pure.2 ⟨rfl, hnext⟩
    | pair ht ht' hhigh hlow =>
        rw [List.append_assoc] at htext
        refine (finds_hexUnit.2 ⟨_, ht, htext⟩).bind fun next hnext => ?_
        rw [if_neg (by omega), if_pos hhigh]
        refine (finds_pairMark.2 hnext).bind fun next hnext => ?_
        refine (finds_pairMark.2 hnext).bind fun next hnext => ?_
        refine (finds_hexUnit.2 ⟨_, ht', hnext⟩).bind fun next hnext => ?_
        rw [if_pos hlow]
        exact finds_pure.2 ⟨rfl, hnext⟩

theorem finds_escape : escape.Finds c x rest ↔ ∃ t, EscapeText t x ∧ c.rest = t ++ rest := by
  rw [escape, finds_peek_bind]
  cases htext : c.rest with
  | nil =>
      simp only [List.head?_nil, finds_failHere, false_iff]
      rintro ⟨t, ht, hnil⟩
      exact ht.ne_nil (List.append_eq_nil_iff.1 hnil.symm).1
  | cons letter text =>
      have hcons : (∃ t, EscapeText t x ∧ letter :: text = t ++ rest) ↔
          ∃ t, EscapeText (letter :: t) x ∧ text = t ++ rest := by
        constructor
        · rintro ⟨_ | ⟨first, t⟩, ht, heq⟩
          · exact absurd rfl ht.ne_nil
          · obtain ⟨rfl, rfl⟩ := List.cons.inj heq
            exact ⟨t, ht, rfl⟩
        · rintro ⟨t, ht, rfl⟩
          exact ⟨_, ht, rfl⟩
      simp only [hcons, List.head?_cons]
      by_cases hletter : letter = 'u'
      · subst hletter
        rw [if_pos rfl, finds_advance_bind, finds_escapedCode, Cursor.rest_next, htext]
        rfl
      · simp only [escapeText_cons_iff hletter, ← shortEscape?_eq_some_iff, if_neg hletter]
        cases shortEscape? letter with
        | none => simp
        | some meant =>
            simp only [finds_advance_bind, finds_pure, Cursor.rest_next, htext]
            simp

/-! ## Strings that are read -/

variable {fuel : Nat} {found chars part mid : List Char}

/-- One more character of a string. -/
theorem finds_charsFrom_of_part (hpart : CharText part x) (htext : c.rest = part ++ mid)
    (h : ∀ next : Cursor, next.rest = mid →
      (charsFrom fuel (x :: found)).Finds next chars rest) :
    (charsFrom (fuel + 1) found).Finds c chars rest := by
  obtain ⟨y, t, rfl⟩ := List.exists_cons_of_ne_nil hpart.ne_nil
  rw [charsFrom, finds_peek_bind, htext]
  simp only [List.cons_append, List.head?_cons]
  rcases charText_cons_iff.1 hpart with ⟨⟨hquote, hslash, hplain⟩, rfl, rfl⟩ | ⟨rfl, ht⟩
  · rw [if_neg hquote, if_neg hslash, if_neg hplain, finds_advance_bind]
    exact h _ (by rw [Cursor.rest_next, htext]; rfl)
  · rw [if_neg (by decide), if_pos rfl, finds_advance_bind]
    exact (finds_escape.2 ⟨t, ht, by rw [Cursor.rest_next, htext]; rfl⟩).bind h

/-- Reading a string goes on with one more character, or the string ends. -/
theorem charsFrom_cases (h : (charsFrom (fuel + 1) found).Finds c chars rest) :
    chars = found.reverse ∧ c.rest = '"' :: rest ∨
      ∃ part x next, CharText part x ∧ c.rest = part ++ next.rest ∧
        (charsFrom fuel (x :: found)).Finds next chars rest := by
  rw [charsFrom, finds_peek_bind] at h
  cases htext : c.rest with
  | nil => simp [htext] at h
  | cons y text =>
      have hnext : c.next.rest = text := by rw [Cursor.rest_next, htext, List.tail_cons]
      simp only [htext, List.head?_cons] at h
      split at h
      · rename_i hy
        rw [finds_advance_bind, finds_pure, hnext] at h
        exact .inl ⟨h.1.symm, by rw [hy, h.2]⟩
      split at h
      · rename_i hy
        rw [finds_advance_bind] at h
        obtain ⟨x, next, hescape, h⟩ := exists_of_finds_bind h
        obtain ⟨t, ht, htail⟩ := finds_escape.1 hescape
        exact .inr ⟨_, x, next, .escape ht, by rw [hy, ← hnext, htail, List.cons_append], h⟩
      split at h
      · exact absurd h finds_failNext
      · rename_i hquote hslash hplain
        rw [finds_advance_bind] at h
        exact .inr ⟨_, y, _, .plain ⟨hquote, hslash, hplain⟩,
          by rw [hnext, List.singleton_append], h⟩

/-- A string is read character by character up to its closing quote. -/
theorem finds_charsFrom (hfuel : c.rest.length < fuel) :
    (charsFrom fuel found).Finds c chars rest ↔
      ∃ parts more, List.Forall₂ CharText parts more ∧ chars = found.reverse ++ more ∧
        c.rest = parts.flatten ++ '"' :: rest := by
  constructor
  · intro h
    induction fuel generalizing c found with
    | zero => cases hfuel
    | succ fuel ih =>
        rcases charsFrom_cases h with ⟨rfl, htext⟩ | ⟨part, x, next, hpart, htext, h⟩
        · exact ⟨[], [], .nil, by simp, by simp [htext]⟩
        · have hpos := List.length_pos_of_ne_nil hpart.ne_nil
          rw [htext, List.length_append] at hfuel
          obtain ⟨parts, more, hparts, rfl, hrest⟩ := ih (by omega) h
          exact ⟨_, _, .cons hpart hparts, by simp, by simp [htext, hrest]⟩
  · rintro ⟨parts, more, hparts, rfl, htext⟩
    induction hparts generalizing c found fuel with
    | nil =>
        obtain ⟨fuel, rfl⟩ := Nat.exists_eq_add_one_of_ne_zero (Nat.ne_zero_of_lt hfuel)
        rw [charsFrom, finds_peek_bind, htext]
        simp only [List.flatten_nil, List.nil_append, List.head?_cons, if_true, finds_advance_bind,
          finds_pure, Cursor.rest_next, htext, List.tail_cons]
        exact ⟨(List.append_nil _).symm, trivial⟩
    | @cons part x parts more hpart _ ih =>
        obtain ⟨fuel, rfl⟩ := Nat.exists_eq_add_one_of_ne_zero (Nat.ne_zero_of_lt hfuel)
        rw [List.flatten_cons, List.append_assoc] at htext
        have hpos := List.length_pos_of_ne_nil hpart.ne_nil
        rw [htext, List.length_append] at hfuel
        refine finds_charsFrom_of_part hpart htext fun next hnext => ?_
        have hmore := @ih next fuel (x :: found) (by rw [hnext]; omega) hnext
        simpa using hmore

/-- A string is read behind its opening quote. -/
theorem finds_stringRest :
    stringRest.Finds c s rest ↔ ∃ t, StringText ('"' :: t) s ∧ c.rest = t ++ rest := by
  rw [stringRest, finds_stepsLeft_bind, finds_map]
  simp only [finds_charsFrom (Nat.lt_succ_self _), StringText]
  constructor
  · rintro ⟨_, ⟨parts, more, hparts, rfl, htext⟩, rfl⟩
    exact ⟨_, ⟨parts, by simpa using hparts, rfl⟩, by simpa using htext⟩
  · rintro ⟨t, ⟨parts, hparts, heq⟩, htext⟩
    obtain ⟨-, rfl⟩ := List.cons.inj heq
    exact ⟨s.toList, ⟨parts, _, hparts, rfl, by simpa using htext⟩, by simp⟩

/-! ## Strings that are stepped over -/

/-- One more character or escape of a string that is stepped over. -/
theorem finds_skipCharsFrom_of_part (hpart : RawPart part) (htext : c.rest = part ++ mid)
    (h : ∀ next : Cursor, next.rest = mid → (skipCharsFrom fuel).Finds next () rest) :
    (skipCharsFrom (fuel + 1)).Finds c () rest := by
  rw [skipCharsFrom, finds_peek_bind, htext]
  cases hpart with
  | plain hx =>
      obtain ⟨hquote, hslash, hplain⟩ := hx
      simp only [List.cons_append, List.head?_cons, if_neg hquote, if_neg hslash, if_neg hplain,
        finds_advance_bind]
      exact h _ (by rw [Cursor.rest_next, htext]; rfl)
  | @short letter x hmem =>
      have hletter : letter ≠ 'u' := by
        rintro rfl
        simp [shortEscapes] at hmem
      simp only [List.cons_append, List.head?_cons, if_neg (show ¬ '\\' = '"' by decide), if_true,
        finds_advance_bind, finds_peek_bind, Cursor.rest_next, htext, List.tail_cons,
        if_neg hletter, shortEscape?_eq_some_iff.2 hmem, Option.isSome_some]
      exact h _ (by simp [htext])
  | unit ht =>
      simp only [List.cons_append, List.head?_cons, if_neg (show ¬ '\\' = '"' by decide), if_true,
        finds_advance_bind, finds_peek_bind, Cursor.rest_next, htext, List.tail_cons]
      exact (finds_hexUnit.2 ⟨_, ht, by simp [htext]⟩).bind h

/-- Stepping over a string goes on with one more character or escape, or the string ends. -/
theorem skipCharsFrom_cases (h : (skipCharsFrom (fuel + 1)).Finds c () rest) :
    c.rest = '"' :: rest ∨
      ∃ part next, RawPart part ∧ c.rest = part ++ next.rest ∧
        (skipCharsFrom fuel).Finds next () rest := by
  rw [skipCharsFrom, finds_peek_bind] at h
  cases htext : c.rest with
  | nil => simp [htext] at h
  | cons y text =>
      have hnext : c.next.rest = text := by rw [Cursor.rest_next, htext, List.tail_cons]
      simp only [htext, List.head?_cons] at h
      split at h
      · rename_i hy
        rw [finds_advance, hnext] at h
        exact .inl (by rw [hy, h])
      split at h
      · rename_i hy
        rw [finds_advance_bind, finds_peek_bind, hnext] at h
        cases text with
        | nil => exact absurd h finds_failHere
        | cons letter text =>
            simp only [List.head?_cons] at h
            split at h
            · rename_i hletter
              rw [finds_advance_bind] at h
              obtain ⟨n, next, hunit, h⟩ := exists_of_finds_bind h
              obtain ⟨t, ht, htail⟩ := finds_hexUnit.1 hunit
              exact .inr ⟨_, next, .unit ht, by simp [hy, hletter, ← htail, htext], h⟩
            split at h
            · rename_i hshort
              obtain ⟨x, hx⟩ := Option.isSome_iff_exists.1 hshort
              rw [finds_advance_bind] at h
              exact .inr ⟨_, _, .short (shortEscape?_eq_some_iff.1 hx), by simp [hy, htext], h⟩
            · exact absurd h finds_failNext
      split at h
      · exact absurd h finds_failHere
      · rename_i hquote hslash hplain
        rw [finds_advance_bind] at h
        exact .inr ⟨_, _, .plain ⟨hquote, hslash, hplain⟩,
          by rw [hnext, List.singleton_append], h⟩

/-- A string is stepped over character by character up to its closing quote. -/
theorem finds_skipCharsFrom (hfuel : c.rest.length < fuel) :
    (skipCharsFrom fuel).Finds c () rest ↔
      ∃ parts : List (List Char), (∀ part ∈ parts, RawPart part) ∧
        c.rest = parts.flatten ++ '"' :: rest := by
  constructor
  · intro h
    induction fuel generalizing c with
    | zero => cases hfuel
    | succ fuel ih =>
        rcases skipCharsFrom_cases h with htext | ⟨part, next, hpart, htext, h⟩
        · exact ⟨[], by simp, by simp [htext]⟩
        · have hpos := List.length_pos_of_ne_nil hpart.ne_nil
          rw [htext, List.length_append] at hfuel
          obtain ⟨parts, hparts, hrest⟩ := ih (by omega) h
          exact ⟨part :: parts, by simpa using ⟨hpart, hparts⟩, by simp [htext, hrest]⟩
  · rintro ⟨parts, hparts, htext⟩
    induction parts generalizing c fuel with
    | nil =>
        obtain ⟨fuel, rfl⟩ := Nat.exists_eq_add_one_of_ne_zero (Nat.ne_zero_of_lt hfuel)
        rw [skipCharsFrom, finds_peek_bind, htext]
        simp [htext]
    | cons part parts ih =>
        obtain ⟨fuel, rfl⟩ := Nat.exists_eq_add_one_of_ne_zero (Nat.ne_zero_of_lt hfuel)
        obtain ⟨hpart, hmore⟩ := List.forall_mem_cons.1 hparts
        rw [List.flatten_cons, List.append_assoc] at htext
        have hpos := List.length_pos_of_ne_nil hpart.ne_nil
        rw [htext, List.length_append] at hfuel
        exact finds_skipCharsFrom_of_part hpart htext fun next hnext =>
          ih (by rw [hnext]; omega) hmore hnext

/-- A string is stepped over behind its opening quote. -/
theorem finds_skipStringRest :
    skipStringRest.Finds c () rest ↔ ∃ t, RawString ('"' :: t) ∧ c.rest = t ++ rest := by
  rw [skipStringRest, finds_stepsLeft_bind, finds_skipCharsFrom (Nat.lt_succ_self _)]
  constructor
  · rintro ⟨parts, hparts, htext⟩
    exact ⟨_, ⟨parts, hparts, rfl⟩, by simpa using htext⟩
  · rintro ⟨t, ⟨parts, hparts, heq⟩, htext⟩
    obtain ⟨-, rfl⟩ := List.cons.inj heq
    exact ⟨parts, hparts, by simpa using htext⟩

end Reader

end JsxTidy.Json
