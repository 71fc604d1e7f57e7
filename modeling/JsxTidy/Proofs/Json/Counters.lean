import JsxTidy.Proofs.Json.Shapes
import Mathlib.Tactic.IntervalCases

/-!
# Reading counters

A counter is a whole number of 32 bits. Since a zero in front stands alone, every number has one
text only: its decimal digits, in front of which there is no sign, and behind which there is neither
a fraction nor an exponent. The main result is `understands_word32`.
-/

namespace JsxTidy.Json

/-- A number of 32 bits in decimal digits. -/
def CounterText (t : List Char) (n : UInt32) : Prop :=
  t = Nat.toDigits 10 n.toNat

variable {t ds rest : List Char} {d : Char}

/-! ## Decimal digits -/

theorem toNat_of_isDigit (h : d.isDigit) : 48 ≤ d.toNat ∧ d.toNat ≤ 57 := by
  simpa [Char.isDigit, UInt32.le_iff_toNat_le] using h

theorem value_lt_ten_of_isDigit (h : d.isDigit) : d.toNat - '0'.toNat < 10 := by
  have hhigh := (toNat_of_isDigit h).2
  have hzero : '0'.toNat = 48 := rfl
  omega

theorem digitChar_of_isDigit (h : d.isDigit) : Nat.digitChar (d.toNat - '0'.toNat) = d := by
  obtain ⟨hlow, hhigh⟩ := toNat_of_isDigit h
  rw [← Char.ofNat_toNat d]
  generalize d.toNat = n at hlow hhigh
  interval_cases n <;> rfl

/-- Digits behind those of a number that is not zero are the digits of the longer number. -/
theorem toDigits_append_digits {n : Nat} (hn : 0 < n) (hds : ∀ c ∈ ds, c.isDigit) :
    Nat.toDigits 10 n ++ ds = Nat.toDigits 10 (Nat.ofDigitChars 10 ds n) := by
  induction ds generalizing n with
  | nil => exact List.append_nil _
  | cons d ds ih =>
      obtain ⟨hd, hds⟩ := List.forall_mem_cons.1 hds
      have hlt := value_lt_ten_of_isDigit hd
      have hone : [d] = Nat.toDigits 10 (d.toNat - '0'.toNat) := by
        rw [Nat.toDigits_of_lt_base hlt, digitChar_of_isDigit hd]
      rw [Nat.ofDigitChars_cons, ← ih (by omega) hds,
        ← Nat.toDigits_append_toDigits (by decide) hn hlt, ← hone, List.append_assoc]
      rfl

/-- Digits without a zero in front are those of their value. -/
theorem toDigits_ofDigitChars (hds : DigitsText ds) (hzero : ds.head? ≠ some '0') :
    Nat.toDigits 10 (Nat.ofDigitChars 10 ds 0) = ds := by
  obtain ⟨hne, hdigits⟩ := hds
  obtain ⟨d, ds, rfl⟩ := List.exists_cons_of_ne_nil hne
  obtain ⟨hd, hdigits⟩ := List.forall_mem_cons.1 hdigits
  have hchar := digitChar_of_isDigit hd
  have hpos : 0 < d.toNat - '0'.toNat := by
    refine Nat.pos_of_ne_zero fun hvalue => hzero ?_
    rw [hvalue] at hchar
    rw [← hchar]
    rfl
  rw [Nat.ofDigitChars_cons, Nat.mul_zero, Nat.zero_add, ← toDigits_append_digits hpos hdigits,
    Nat.toDigits_of_lt_base (value_lt_ten_of_isDigit hd), hchar]
  rfl

theorem head?_toDigits_ne_zero {n : Nat} (hn : 0 < n) : (Nat.toDigits 10 n).head? ≠ some '0' := by
  induction n using Nat.strong_induction_on with
  | _ n ih =>
      by_cases hlt : n < 10
      · rw [Nat.toDigits_of_lt_base hlt]
        interval_cases n <;> decide
      · rw [Nat.toDigits_of_base_le (by decide) (by omega),
          List.head?_append_of_ne_nil _ Nat.toDigits_ne_nil]
        exact ih (n / 10) (by omega) (by omega)

/-- The whole part of a number consists of the digits of its value. -/
theorem wholeText_iff : WholeText t ↔ ∃ n, t = Nat.toDigits 10 n := by
  constructor
  · rintro (rfl | ⟨hds, hzero⟩)
    · exact ⟨0, rfl⟩
    · exact ⟨_, (toDigits_ofDigitChars hds hzero).symm⟩
  · rintro ⟨n, rfl⟩
    rcases Nat.eq_zero_or_pos n with rfl | hn
    · exact .inl rfl
    · have hdigits : DigitsText (Nat.toDigits 10 n) :=
        ⟨Nat.toDigits_ne_nil, fun c hc => Nat.isDigit_of_mem_toDigits (by decide) (by decide) hc⟩
      exact .inr ⟨hdigits, head?_toDigits_ne_zero hn⟩

/-! ## Whole numbers -/

/-- If all digits fit a machine word, their value has been found. -/
theorem absorb_fst_of_length_le {n : Nat} (h : ds.length ≤ (absorb n ds).2) :
    (absorb n ds).1 = Nat.ofDigitChars 10 ds n := by
  induction ds generalizing n with
  | nil => rfl
  | cons c ds ih =>
      rw [absorb] at h ⊢
      dsimp only at h ⊢
      split at h
      · rename_i hfits
        rw [if_pos hfits, Nat.ofDigitChars_cons]
        exact ih (Nat.le_of_succ_le_succ h)
      · simp at h

theorem le_ofDigitChars (n : Nat) : n ≤ Nat.ofDigitChars 10 ds n := by
  induction ds generalizing n with
  | nil => exact Nat.le_refl _
  | cons c ds ih =>
      rw [Nat.ofDigitChars_cons]
      exact Nat.le_trans (by omega) (ih _)

/-- Digits with a value that fits a machine word are all taken. -/
theorem absorb_of_le {n : Nat} (h : Nat.ofDigitChars 10 ds n ≤ greatestWord) :
    absorb n ds = (Nat.ofDigitChars 10 ds n, ds.length) := by
  induction ds generalizing n with
  | nil => rfl
  | cons c ds ih =>
      rw [Nat.ofDigitChars_cons] at h ⊢
      rw [absorb]
      dsimp only
      rw [if_pos (Nat.le_trans (le_ofDigitChars _) h), ih h]
      rfl

/-- A whole number that is not negative is the value of digits with nothing behind them. -/
theorem whole?_sound {n : Numeral} {isNegative : Bool} {value : Nat}
    (h : n.whole? isNegative = some (value : Int)) :
    isNegative = false ∧ n.fraction = none ∧ n.exponent = none ∧
      value = Nat.ofDigitChars 10 n.whole 0 := by
  rw [Numeral.whole?] at h
  dsimp only at h
  split_ifs at h with hmore hsign hzero
  · simp only [Bool.or_eq_true, decide_eq_true_eq, not_or, Option.isSome_iff_ne_none, ne_eq,
      not_not, not_lt] at hmore
    obtain ⟨⟨hfraction, hexponent⟩, hall⟩ := hmore
    have hvalue : ((absorb 0 n.whole).1 : Int) = value := Option.some.inj h
    rw [absorb_fst_of_length_le hall] at hvalue
    exact ⟨by simpa using hsign, hfraction, hexponent, by omega⟩
  · have hvalue : -((absorb 0 n.whole).1 : Int) = value := Option.some.inj h
    omega

theorem whole?_of_digits {value : Nat} (h : value ≤ greatestWord) :
    (Numeral.mk (Nat.toDigits 10 value) none none).whole? false = some (value : Int) := by
  have htaken : absorb 0 (Nat.toDigits 10 value) = (value, (Nat.toDigits 10 value).length) := by
    rw [absorb_of_le (by rwa [Nat.ofDigitChars_ten_toDigits]), Nat.ofDigitChars_ten_toDigits]
  simp [Numeral.whole?, htaken]

namespace Reader

variable {bound : Nat} {c : Cursor} {atEnd : Fault}

theorem eq_of_finds_fractionPart_none (h : (fractionPart atEnd).Finds c none rest) :
    c.rest = rest := by
  rw [fractionPart, finds_peek_bind] at h
  split at h
  · obtain ⟨ds, next, -, h⟩ := exists_of_finds_bind (finds_advance_bind.1 h)
    exact absurd (finds_pure.1 h).1 (by simp)
  · exact (finds_pure.1 h).2

theorem eq_of_finds_exponentPart_none (h : (exponentPart atEnd).Finds c none rest) :
    c.rest = rest := by
  rw [exponentPart, finds_peek_bind] at h
  split at h
  · split at h
    · obtain ⟨isNegative, next, -, h⟩ := exists_of_finds_bind (finds_advance_bind.1 h)
      obtain ⟨ds, last, -, h⟩ := exists_of_finds_bind (finds_get_bind.1 h)
      exact absurd (finds_pure.1 h).1 (by simp)
    · exact (finds_pure.1 h).2
  · exact (finds_pure.1 h).2

/-- A numeral without a fraction and an exponent is its whole part. -/
theorem numeral_sound_of_whole {n : Numeral} (h : (numeral atEnd).Finds c n rest)
    (hfraction : n.fraction = none) (hexponent : n.exponent = none) :
    WholeText n.whole ∧ c.rest = n.whole ++ rest := by
  obtain ⟨whole, next, hwhole, h⟩ := exists_of_finds_bind h
  obtain ⟨fraction, next', hf, h⟩ := exists_of_finds_bind h
  obtain ⟨exponent, last, he, h⟩ := exists_of_finds_bind h
  obtain ⟨rfl, rfl⟩ := finds_pure.1 h
  obtain rfl : fraction = none := hfraction
  obtain rfl : exponent = none := hexponent
  rw [← eq_of_finds_exponentPart_none he, ← eq_of_finds_fractionPart_none hf]
  exact wholePart_sound hwhole

theorem finds_numeral_of_whole (ht : WholeText t) (hrest : IsNumeralEnd rest)
    (htext : c.rest = t ++ rest) : (numeral atEnd).Finds c ⟨t, none, none⟩ rest := by
  have hwhole : (wholePart atEnd).Finds c t rest :=
    finds_wholePart ht (fun x hx => (hrest x hx).1) htext
  refine hwhole.bind fun next hnext => ?_
  have hfraction : (fractionPart atEnd).Finds next none rest := by
    rw [fractionPart, finds_peek_bind, hnext]
    split
    · rename_i hpoint
      exact absurd rfl (hrest _ hpoint).2.1
    · exact finds_pure.2 ⟨rfl, hnext⟩
  refine hfraction.bind fun next hnext => ?_
  have hexponent : (exponentPart atEnd).Finds next none rest := by
    rw [exponentPart, finds_peek_bind, hnext]
    split
    · rename_i x hx
      have hmark := (hrest x hx).2.2
      rw [if_neg (not_or.2 hmark)]
      exact finds_pure.2 ⟨rfl, hnext⟩
    · exact finds_pure.2 ⟨rfl, hnext⟩
  exact hexponent.bind fun next hnext => finds_pure.2 ⟨rfl, hnext⟩

/-- What is made of a numeral with floating-point arithmetic is no whole number. -/
theorem not_finds_float_whole {n : Numeral} {isNegative : Bool} {value : Int} :
    ¬ (n.float isNegative).Finds c (.whole value) rest := by
  intro h
  rw [Numeral.float] at h
  dsimp only at h
  split at h
  · split at h
    · exact absurd (finds_pure.1 h).1 (by simp)
    · exact finds_failHere h
  · split at h
    · split at h
      · exact absurd (finds_pure.1 h).1 (by simp)
      · exact finds_failHere h
    · split at h
      · exact absurd (finds_pure.1 h).1 (by simp)
      · obtain ⟨offset, h⟩ := h
        cases h

/-- A whole number that is not negative is read from its digits. -/
theorem number_sound {isNegative : Bool} {value : Nat}
    (h : (number isNegative).Finds c (.whole value) rest) :
    isNegative = false ∧ c.rest = Nat.toDigits 10 value ++ rest := by
  obtain ⟨n, next, hn, h⟩ := exists_of_finds_bind h
  split at h
  · rename_i found hwhole
    obtain ⟨hvalue, rfl⟩ := finds_pure.1 h
    obtain rfl : found = value := Number.whole.inj hvalue
    obtain ⟨hsign, hfraction, hexponent, rfl⟩ := whole?_sound hwhole
    obtain ⟨ht, htext⟩ := numeral_sound_of_whole hn hfraction hexponent
    obtain ⟨m, hm⟩ := wholeText_iff.1 ht
    refine ⟨hsign, ?_⟩
    rw [htext, hm, Nat.ofDigitChars_ten_toDigits]
  · exact absurd h not_finds_float_whole

theorem finds_number {value : Nat} (hvalue : value ≤ greatestWord) (hrest : IsNumeralEnd rest)
    (htext : c.rest = Nat.toDigits 10 value ++ rest) :
    (number false).Finds c (.whole value) rest := by
  refine (finds_numeral_of_whole (wholeText_iff.2 ⟨value, rfl⟩) hrest htext).bind ?_
  intro next hnext
  rw [whole?_of_digits hvalue]
  exact finds_pure.2 ⟨rfl, hnext⟩

/-- A number is read behind its sign, or where it begins with a digit. -/
theorem scalar?_sound_of_number {n : Number} (h : scalar?.Finds c (some (.number n)) rest) :
    ∃ isNegative start, (number isNegative).Finds start n rest ∧
      (isNegative = false → start = c) := by
  rw [scalar?, finds_peek_bind] at h
  split at h
  · exact absurd (finds_pure.1 h).1 (by simp)
  · split_ifs at h
    · obtain ⟨_, next, -, h⟩ := exists_of_finds_bind (finds_advance_bind.1 h)
      exact absurd (finds_pure.1 h).1 (by simp)
    · obtain ⟨_, next, -, h⟩ := exists_of_finds_bind (finds_advance_bind.1 h)
      exact absurd (finds_pure.1 h).1 (by simp)
    · obtain ⟨_, next, -, h⟩ := exists_of_finds_bind (finds_advance_bind.1 h)
      exact absurd (finds_pure.1 h).1 (by simp)
    · obtain ⟨_, hn, heq⟩ := finds_map.1 (finds_advance_bind.1 h)
      cases heq
      exact ⟨true, c.next, hn, by simp⟩
    · obtain ⟨_, hn, heq⟩ := finds_map.1 h
      cases heq
      exact ⟨false, c, hn, fun _ => rfl⟩
    · obtain ⟨_, next, -, h⟩ := exists_of_finds_bind (finds_advance_bind.1 h)
      exact absurd (finds_pure.1 h).1 (by simp)
    · exact absurd (finds_pure.1 h).1 (by simp)

theorem scalar?_sound_of_whole {value : Nat}
    (h : scalar?.Finds c (some (.number (.whole value))) rest) :
    c.rest = Nat.toDigits 10 value ++ rest := by
  obtain ⟨isNegative, start, hn, hstart⟩ := scalar?_sound_of_number h
  obtain ⟨hsign, htext⟩ := number_sound hn
  rwa [hstart hsign] at htext

theorem finds_scalar?_whole {value : Nat} (hvalue : value ≤ greatestWord)
    (hrest : IsNumeralEnd rest) (htext : c.rest = Nat.toDigits 10 value ++ rest) :
    scalar?.Finds c (some (.number (.whole value))) rest := by
  obtain ⟨d, ds, hds⟩ := List.exists_cons_of_ne_nil (Nat.toDigits_ne_nil (n := value) (b := 10))
  have hdigit : d.isDigit := by
    refine Nat.isDigit_of_mem_toDigits (by decide) (by decide) (?_ : d ∈ Nat.toDigits 10 value)
    rw [hds]
    exact List.mem_cons_self
  have hne : ∀ x : Char, x.isDigit = false → d ≠ x := by
    rintro x hx rfl
    exact absurd hdigit (by simp [hx])
  have hhead : c.rest.head? = some d := by rw [htext, hds]; rfl
  rw [scalar?, finds_peek_bind, hhead]
  simp only [if_neg (hne 'n' rfl), if_neg (hne 't' rfl), if_neg (hne 'f' rfl),
    if_neg (hne '-' rfl), if_pos hdigit]
  exact finds_map.2 ⟨_, finds_number hvalue hrest htext, rfl⟩

/-- A counter is read from its decimal digits. -/
theorem understands_word32 : Understands bound word32 CounterText := by
  have hbound : Int.pow 2 32 = 4294967296 := rfl
  have hvalue {t : List Char} {n : UInt32} (ht : CounterText t n) : ValueText t := by
    have hwhole : WholeText t := wholeText_iff.2 ⟨_, ht⟩
    exact .numeral ⟨t, [], [], by simp, hwhole, .inl rfl, .inl rfl⟩
  refine ⟨hvalue, fun {c n rest} _ h => ?_, fun {c n gap t rest} _ hgap ht hrest htext => ?_⟩
  · obtain ⟨v, hv, haccept⟩ := finds_scalarOf.1 h
    obtain ⟨gap, hgap, htext⟩ := exists_blanks c.rest
    split at haccept
    · split at haccept
      · rename_i hrange
        obtain ⟨value, rfl⟩ := Int.eq_ofNat_of_zero_le hrange.1
        have hlt : value < 2 ^ 32 := by omega
        cases haccept
        have hdrop := scalar?_sound_of_whole hv
        rw [Cursor.rest_dropWhile] at hdrop
        refine ⟨gap, _, hgap, ?_, by rw [htext, hdrop]⟩
        show Nat.toDigits 10 value = Nat.toDigits 10 value.toUInt32.toNat
        rw [Nat.toUInt32, UInt32.toNat_ofNat_of_lt' hlt]
      · cases haccept
    · cases haccept
  · have hlt : n.toNat < 2 ^ 32 := n.toNat_lt
    have hfits : n.toNat ≤ greatestWord := by
      have hword : greatestWord = 2 ^ 64 - 1 := rfl
      omega
    obtain ⟨x, text, hx, hblank, -⟩ := (hvalue ht).exists_cons
    have hdrop : (c.dropWhile isBlank).rest = Nat.toDigits 10 n.toNat ++ rest := by
      rw [Cursor.rest_dropWhile, htext, dropWhile_isBlank hgap (by simpa [hx] using hblank), ht]
    refine finds_scalarOf.2 ⟨.number (.whole n.toNat),
      finds_scalar?_whole hfits hrest.isNumeralEnd hdrop, ?_⟩
    have hrange : (0 : Int) ≤ n.toNat ∧ (n.toNat : Int) < Int.pow 2 32 := by omega
    dsimp only
    rw [if_pos hrange]
    simp

end Reader

end JsxTidy.Json
