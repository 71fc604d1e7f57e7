import JsxTidy.Proofs.Json.Grammar
import JsxTidy.Settings.Literal
import Mathlib.Algebra.Group.Nat.Defs
import Mathlib.Data.List.TakeWhile

/-!
# Texts that are numbers

A text without quotes and brackets is a string unless it is a number. `NumberText` says what a
number looks like: a whole one that fits 64 bits without or with a sign, or one with a point. The
main result, `SettingLiteral.plain_eq_string_iff`, is that every other text means itself.
-/

namespace JsxTidy.SettingLiteral

open Json (DigitsText ExponentText)

/-- The text of a sign, which may be left out. -/
def IsSign (sign : List Char) : Prop :=
  sign = [] ∨ sign = ['+'] ∨ sign = ['-']

/-- A whole number without a minus that fits 64 bits. -/
def UnsignedText (t : List Char) : Prop :=
  ∃ sign digits, t = sign ++ digits ∧ (sign = [] ∨ sign = ['+']) ∧ DigitsText digits ∧
    Nat.ofDigitChars 10 digits 0 < 2 ^ 64

/-- A whole number with a minus that fits 64 bits with a sign. -/
def NegativeText (t : List Char) : Prop :=
  ∃ digits, t = '-' :: digits ∧ DigitsText digits ∧ Nat.ofDigitChars 10 digits 0 ≤ 2 ^ 63

/-- A number with a point and a digit on one side of it. -/
def PointText (t : List Char) : Prop :=
  ∃ sign whole fraction exponent, t = sign ++ (whole ++ '.' :: (fraction ++ exponent)) ∧
    IsSign sign ∧ DigitsText (whole ++ fraction) ∧ ExponentText exponent

/-- The texts that are numbers. -/
def NumberText (t : List Char) : Prop :=
  UnsignedText t ∨ NegativeText t ∨ PointText t

variable {text sign digits rest : List Char} {n : Nat} {c : Char}

/-! ## Runs of characters -/

/-- Whether no characters of a kind are at the beginning of a text. -/
def Stops (keep : Char → Bool) (rest : List Char) : Prop :=
  ∀ c ∈ rest.head?, keep c = false

theorem stops_nil (keep : Char → Bool) : Stops keep [] :=
  nofun

theorem stops_cons {keep : Char → Bool} : Stops keep (c :: rest) ↔ keep c = false := by
  simp [Stops]

/-- What stops more characters stops fewer. -/
theorem Stops.mono {keep more : Char → Bool} (hrest : Stops more rest)
    (h : ∀ c, keep c → more c) : Stops keep rest := by
  intro c hc
  cases hkeep : keep c with
  | false => rfl
  | true => exact absurd (h c hkeep) (by rw [hrest c hc]; decide)

theorem stops_dropWhile (keep : Char → Bool) (text : List Char) :
    Stops keep (text.dropWhile keep) := by
  intro c hc
  have hnot := List.head?_dropWhile_not keep text
  rw [Option.mem_def.1 hc] at hnot
  exact hnot

/-- Characters of a kind are taken up to where they stop. -/
theorem takeWhile_append_of_stops {keep : Char → Bool} {t : List Char} (ht : ∀ c ∈ t, keep c)
    (hrest : Stops keep rest) :
    (t ++ rest).takeWhile keep = t ∧ (t ++ rest).dropWhile keep = rest := by
  rw [List.takeWhile_append_of_pos ht, List.dropWhile_append_of_pos ht]
  cases rest with
  | nil => exact ⟨List.append_nil t, rfl⟩
  | cons c rest =>
      have hc := stops_cons.1 hrest
      simp [hc]

/-! ## Signs and digits -/

/-- Whether a text begins with anything else than a sign. -/
def HasNoSign (t : List Char) : Prop :=
  ∀ c ∈ t.head?, c ≠ '+' ∧ c ≠ '-'

theorem hasNoSign_cons (h : c.isDigit ∨ c = '.') : HasNoSign (c :: rest) := by
  intro c' hc'
  cases hc'
  constructor <;> rintro rfl <;> rcases h with h | h <;> cases h

theorem hasNoSign_of_digits (h : DigitsText digits) : HasNoSign digits := by
  obtain ⟨hne, hdigits⟩ := h
  obtain ⟨c, digits, rfl⟩ := List.exists_cons_of_ne_nil hne
  exact hasNoSign_cons (.inl (hdigits c List.mem_cons_self))

/-- A sign is taken off, and nothing else is. -/
theorem signedDigits_append (hsign : IsSign sign) (hrest : HasNoSign rest) :
    signedDigits (sign ++ rest) = (decide (sign = ['-']), rest) := by
  rcases hsign with rfl | rfl | rfl
  · cases rest with
    | nil => rfl
    | cons c rest =>
        obtain ⟨hplus, hminus⟩ := hrest c rfl
        simp [signedDigits, hplus, hminus]
  · rfl
  · rfl

/-- What is taken off is a sign. -/
theorem exists_sign (text : List Char) : ∃ sign, IsSign sign ∧
    text = sign ++ (signedDigits text).2 ∧ (signedDigits text).1 = decide (sign = ['-']) := by
  unfold signedDigits
  split
  · exact ⟨['+'], .inr (.inl rfl), rfl, rfl⟩
  · exact ⟨['-'], .inr (.inr rfl), rfl, rfl⟩
  · exact ⟨[], .inl rfl, rfl, rfl⟩

/-- Digits are read as the number that they write. -/
theorem nat?_eq_some_iff :
    nat? digits = some n ↔ DigitsText digits ∧ Nat.ofDigitChars 10 digits 0 = n := by
  have hdigits : (digits.isEmpty || !digits.all Char.isDigit) = true ↔ ¬ DigitsText digits := by
    simp [DigitsText, Decidable.imp_iff_not_or]
  unfold nat?
  rw [Nat.ofDigitChars]
  split
  · rename_i h
    exact iff_of_false nofun fun hn => hdigits.1 h hn.1
  · rename_i h
    rw [hdigits, not_not] at h
    simp [h]

/-- Where there are digits behind a sign, they are known. -/
theorem exists_digits (h : nat? (signedDigits text).2 = some n) : ∃ sign digits,
    text = sign ++ digits ∧ IsSign sign ∧ DigitsText digits ∧ Nat.ofDigitChars 10 digits 0 = n := by
  obtain ⟨sign, hsign, htext, -⟩ := exists_sign text
  obtain ⟨hdigits, hn⟩ := nat?_eq_some_iff.1 h
  exact ⟨sign, _, htext, hsign, hdigits, hn⟩

/-! ## Whole numbers -/

/-- A number without a sign, or with a plus sign, is read if it is small enough. -/
theorem isSome_unsigned?_append (hsign : IsSign sign) (hdigits : DigitsText digits) :
    (unsigned? (sign ++ digits)).isSome ↔
      sign ≠ ['-'] ∧ Nat.ofDigitChars 10 digits 0 < 2 ^ 64 := by
  have hhead : ((sign ++ digits).head? == some '-') = decide (sign = ['-']) := by
    rcases hsign with rfl | rfl | rfl
    · obtain ⟨c, digits', rfl⟩ := List.exists_cons_of_ne_nil hdigits.1
      have hminus := (hasNoSign_of_digits hdigits c rfl).2
      simp [hminus]
    · rfl
    · rfl
  have hbound : Nat.pow 2 64 = 2 ^ 64 := rfl
  unfold unsigned?
  simp only [signedDigits_append hsign (hasNoSign_of_digits hdigits),
    nat?_eq_some_iff.2 ⟨hdigits, rfl⟩, Option.bind_eq_bind, Option.bind_some, hhead, hbound,
    Bool.or_self, Bool.or_eq_true, decide_eq_true_eq, Option.isSome_ite']
  rw [not_or, Nat.not_le]

/-- With a minus sign it may be greater by one. -/
theorem isSome_signed?_append (hsign : IsSign sign) (hdigits : DigitsText digits) :
    (signed? (sign ++ digits)).isSome ↔
      if sign = ['-'] then Nat.ofDigitChars 10 digits 0 ≤ 2 ^ 63
      else Nat.ofDigitChars 10 digits 0 < 2 ^ 63 := by
  have hbound : Int.pow 2 63 = 2 ^ 63 := rfl
  unfold signed?
  simp only [signedDigits_append hsign (hasNoSign_of_digits hdigits),
    nat?_eq_some_iff.2 ⟨hdigits, rfl⟩, Option.bind_eq_bind, Option.bind_some, hbound,
    decide_eq_true_eq, Option.isSome_ite']
  split <;> omega

/-- Numbers that cannot be negative are read from their texts alone. -/
theorem isSome_unsigned?_iff : (unsigned? text).isSome ↔ UnsignedText text := by
  constructor
  · intro h
    obtain ⟨n, hn⟩ := Option.isSome_iff_exists.1 h
    obtain ⟨_, hdigits, -⟩ := Option.bind_eq_some_iff.1 hn
    obtain ⟨sign, digits, rfl, hsign, hdigits, -⟩ := exists_digits hdigits
    obtain ⟨hminus, hfits⟩ := (isSome_unsigned?_append hsign hdigits).1 h
    have hplus : sign = [] ∨ sign = ['+'] := hsign.imp_right fun h => h.resolve_right hminus
    exact ⟨sign, digits, rfl, hplus, hdigits, hfits⟩
  · rintro ⟨sign, digits, rfl, hplus, hdigits, hfits⟩
    have hminus : sign ≠ ['-'] := by rcases hplus with rfl | rfl <;> decide
    have hsign : IsSign sign := hplus.imp_right .inl
    exact (isSome_unsigned?_append hsign hdigits).2 ⟨hminus, hfits⟩

/-- A number with a sign has a minus if it does not fit without a sign. -/
theorem isSome_signed?_iff (hunsigned : ¬ UnsignedText text) :
    (signed? text).isSome ↔ NegativeText text := by
  constructor
  · intro h
    obtain ⟨n, hn⟩ := Option.isSome_iff_exists.1 h
    obtain ⟨_, hdigits, -⟩ := Option.bind_eq_some_iff.1 hn
    obtain ⟨sign, digits, rfl, hsign, hdigits, -⟩ := exists_digits hdigits
    have hfits := (isSome_signed?_append hsign hdigits).1 h
    by_cases hminus : sign = ['-']
    · rw [if_pos hminus] at hfits
      exact ⟨digits, by rw [hminus]; rfl, hdigits, hfits⟩
    · rw [if_neg hminus] at hfits
      have hplus : sign = [] ∨ sign = ['+'] := hsign.imp_right fun h => h.resolve_right hminus
      exact absurd ⟨sign, digits, rfl, hplus, hdigits, by omega⟩ hunsigned
  · rintro ⟨digits, rfl, hdigits, hfits⟩
    have hminus : IsSign ['-'] := .inr (.inr rfl)
    exact (isSome_signed?_append hminus hdigits).2 (by rwa [if_pos rfl])

/-! ## Numbers with a point -/

/-- So are exponents. -/
theorem isSome_exponent?_iff : (exponent? text).isSome ↔ ExponentText text := by
  cases text with
  | nil => exact iff_of_true rfl (.inl rfl)
  | cons letter rest =>
      unfold exponent?
      dsimp only
      constructor
      · intro h
        split at h
        · rename_i hletter
          rw [Option.isSome_map] at h
          obtain ⟨n, hn⟩ := Option.isSome_iff_exists.1 h
          obtain ⟨_, hdigits, -⟩ := Option.bind_eq_some_iff.1 hn
          obtain ⟨sign, digits, rfl, hsign, hdigits, -⟩ := exists_digits hdigits
          exact .inr ⟨letter, sign, digits, rfl, hletter, hsign, hdigits⟩
        · cases h
      · rintro (h | ⟨_, sign, digits, h, hletter, hsign, hdigits⟩)
        · cases h
        · cases h
          rw [if_pos hletter, signedDigits_append hsign (hasNoSign_of_digits hdigits),
            nat?_eq_some_iff.2 ⟨hdigits, rfl⟩]
          rfl

theorem isSome_nat?_iff : (nat? digits).isSome ↔ DigitsText digits := by
  simp [Option.isSome_iff_exists, nat?_eq_some_iff]

/-- Behind its sign a number is read from a point with digits on both sides. -/
theorem isSome_float?_append {whole fraction exponent : List Char} (hsign : IsSign sign)
    (hwhole : ∀ c ∈ whole, c.isDigit) (hfraction : ∀ c ∈ fraction, c.isDigit)
    (hexponent : Stops Char.isDigit exponent) :
    (float? (sign ++ (whole ++ '.' :: (fraction ++ exponent)))).isSome ↔
      ExponentText exponent ∧ DigitsText (whole ++ fraction) := by
  have hpoint : HasNoSign (whole ++ '.' :: (fraction ++ exponent)) := by
    cases whole with
    | nil => exact hasNoSign_cons (.inr rfl)
    | cons c whole => exact hasNoSign_cons (.inl (hwhole c List.mem_cons_self))
  have hstop : Stops Char.isDigit ('.' :: (fraction ++ exponent)) := stops_cons.2 rfl
  obtain ⟨hdigits, hrest⟩ := takeWhile_append_of_stops hwhole hstop
  obtain ⟨hbehind, hend⟩ := takeWhile_append_of_stops hfraction hexponent
  unfold float?
  simp only [signedDigits_append hsign hpoint, hdigits, hrest, hbehind, hend,
    ← isSome_exponent?_iff, ← isSome_nat?_iff]
  cases exponent? exponent <;> cases nat? (whole ++ fraction) <;> simp

/-- So are numbers with a point. -/
theorem isSome_float?_iff : (float? text).isSome ↔ PointText text := by
  constructor
  · intro h
    obtain ⟨sign, hsign, htext, -⟩ := exists_sign text
    obtain ⟨behind, hbehind⟩ : ∃ behind, behind = (signedDigits text).2 := ⟨_, rfl⟩
    rw [← hbehind] at htext
    have hsome : ∃ rest, behind.dropWhile Char.isDigit = '.' :: rest := by
      unfold float? at h
      dsimp only at h
      rw [← hbehind] at h
      split at h
      · exact ⟨_, ‹_›⟩
      · cases h
    obtain ⟨rest, hrest⟩ := hsome
    have hdigits : ∀ {t : List Char}, ∀ c ∈ t.takeWhile Char.isDigit, c.isDigit :=
      fun c hc => List.mem_takeWhile_imp hc
    have hsplit : ∀ t : List Char, t = t.takeWhile Char.isDigit ++ t.dropWhile Char.isDigit :=
      fun t => List.takeWhile_append_dropWhile.symm
    rw [htext, hsplit behind, hrest, hsplit rest] at h ⊢
    have hstop := stops_dropWhile Char.isDigit rest
    obtain ⟨hexponent, hdigits⟩ := (isSome_float?_append hsign hdigits hdigits hstop).1 h
    exact ⟨sign, _, _, _, rfl, hsign, hdigits, hexponent⟩
  · rintro ⟨sign, whole, fraction, exponent, rfl, hsign, hdigits, hexponent⟩
    obtain ⟨hwhole, hfraction⟩ := List.forall_mem_append.1 hdigits.2
    have hletter : Stops Char.isDigit exponent := by
      rcases hexponent with rfl | ⟨_, _, _, rfl, rfl | rfl, -, -⟩
      · exact stops_nil _
      · exact stops_cons.2 rfl
      · exact stops_cons.2 rfl
    exact (isSome_float?_append hsign hwhole hfraction hletter).2 ⟨hexponent, hdigits⟩

/-! ## Texts without quotes and brackets -/

/-- A text that is no number means itself. -/
theorem plain_eq_string_iff {s : String} :
    plain text = .string s ↔ ¬ NumberText text ∧ s = String.ofList text := by
  have hnumber : NumberText text ↔
      (float? text).isSome ∨ (unsigned? text).isSome ∨ (signed? text).isSome := by
    rw [isSome_float?_iff, isSome_unsigned?_iff, NumberText]
    by_cases hunsigned : UnsignedText text
    · simp [hunsigned]
    · rw [isSome_signed?_iff hunsigned]
      tauto
  unfold plain
  rw [hnumber]
  cases float? text with
  | some x => simp
  | none =>
      cases unsigned? text with
      | some n => simp
      | none => cases signed? text <;> simp [eq_comm]

end JsxTidy.SettingLiteral
