import JsxTidy.Proofs.Json.Strings

/-!
# Stepping over values

What is stepped over is any value of the grammar, however deep it is nested and whatever its numbers
and strings stand for. The main result is `understands_skipAny`.
-/

namespace JsxTidy.Json

/-- Whether a number may end in front of a text: no digit, fraction or exponent follows. -/
def IsNumeralEnd (rest : List Char) : Prop :=
  ∀ x ∈ rest.head?, x.isDigit = false ∧ x ≠ '.' ∧ x ≠ 'e' ∧ x ≠ 'E'

/-- What ends a value ends a number. -/
theorem IsValueEnd.isNumeralEnd {rest : List Char} (h : IsValueEnd rest) : IsNumeralEnd rest := by
  intro x hx
  rcases h x hx with hblank | rfl | rfl | rfl | rfl
  · simp only [Reader.isBlank, Bool.or_eq_true, beq_iff_eq] at hblank
    rcases hblank with ((rfl | rfl) | rfl) | rfl <;> decide
  · decide
  · decide
  · decide
  · decide

namespace Reader

variable {c : Cursor} {atEnd : Fault} {ds t rest : List Char}

/-! ## Numbers -/

/-- All digits that stand somewhere are read. -/
theorem finds_digits : digits.Finds c ds rest ↔
    c.rest.takeWhile Char.isDigit = ds ∧ c.rest.dropWhile Char.isDigit = rest := by
  rw [← Cursor.rest_dropWhile]
  constructor
  · rintro ⟨_, h⟩
    obtain ⟨hds, hrest⟩ := Prod.mk.inj (Except.ok.inj h)
    exact ⟨hds, by rw [hrest]⟩
  · rintro ⟨rfl, rfl⟩
    exact ⟨_, rfl⟩

/-- Where a digit has to stand, digits are read. -/
theorem someDigits_sound (h : (someDigits atEnd).Finds c ds rest) :
    DigitsText ds ∧ c.rest = ds ++ rest := by
  obtain ⟨found, next, hfound, h⟩ := exists_of_finds_bind h
  obtain ⟨hds, hrest⟩ := finds_digits.1 hfound
  split at h
  · exact absurd h finds_failNext
  · rename_i hsome
    obtain ⟨rfl, rfl⟩ := finds_pure.1 h
    refine ⟨⟨fun hnil => hsome hnil, fun x hx => ?_⟩, ?_⟩
    · rw [← hds] at hx
      exact List.mem_takeWhile_imp hx
    · rw [← hds, ← hrest, List.takeWhile_append_dropWhile]

/-- They are all read. -/
theorem finds_someDigits (hds : DigitsText ds) (hrest : ∀ x ∈ rest.head?, x.isDigit = false)
    (htext : c.rest = ds ++ rest) : (someDigits atEnd).Finds c ds rest := by
  have hdrop : rest.dropWhile Char.isDigit = rest := by
    cases rest with
    | nil => rfl
    | cons x rest => rw [List.dropWhile_cons_of_neg (by simpa using hrest x rfl)]
  have htake : rest.takeWhile Char.isDigit = [] := by
    cases rest with
    | nil => rfl
    | cons x rest => rw [List.takeWhile_cons_of_neg (by simpa using hrest x rfl)]
  have hfound : digits.Finds c ds rest := by
    rw [finds_digits, htext, List.takeWhile_append_of_pos hds.2, List.dropWhile_append_of_pos hds.2,
      htake, hdrop, List.append_nil]
    exact ⟨rfl, rfl⟩
  refine hfound.bind fun next hnext => ?_
  split
  · exact absurd rfl hds.1
  · exact finds_pure.2 ⟨rfl, hnext⟩

/-- The whole part of a number is a zero, or digits that do not begin with one. -/
theorem wholePart_sound (h : (wholePart atEnd).Finds c ds rest) :
    WholeText ds ∧ c.rest = ds ++ rest := by
  rw [wholePart, finds_peek_bind] at h
  split at h
  · rename_i hzero
    have hfound : ds = ['0'] ∧ c.rest.tail = rest := by
      rw [finds_advance_bind, finds_peek_bind, Cursor.rest_next] at h
      split at h
      · split at h
        · exact absurd h finds_failNext
        · simpa [eq_comm] using finds_pure.1 h
      · simpa [eq_comm] using finds_pure.1 h
    obtain ⟨rfl, rfl⟩ := hfound
    exact ⟨.inl rfl, (List.cons_head?_tail hzero).symm⟩
  · rename_i hzero
    obtain ⟨hds, htext⟩ := someDigits_sound h
    refine ⟨.inr ⟨hds, fun hhead => hzero ?_⟩, htext⟩
    rw [htext, List.head?_append, hhead]
    rfl

/-- Each such part is read. -/
theorem finds_wholePart (hds : WholeText ds) (hrest : ∀ x ∈ rest.head?, x.isDigit = false)
    (htext : c.rest = ds ++ rest) : (wholePart atEnd).Finds c ds rest := by
  rw [wholePart, finds_peek_bind]
  rcases hds with rfl | ⟨hds, hzero⟩
  · rw [htext]
    simp only [List.cons_append, List.nil_append, List.head?_cons, finds_advance_bind,
      finds_peek_bind, Cursor.rest_next, htext, List.tail_cons]
    cases rest with
    | nil => simp [htext]
    | cons x rest => simp [hrest x rfl, htext]
  · split
    · rename_i hhead
      rw [htext, List.head?_append_of_ne_nil _ hds.1] at hhead
      exact absurd hhead hzero
    · exact finds_someDigits hds hrest htext

/-- A fraction may be missing. -/
theorem fractionPart_sound {fraction : Option (List Char)}
    (h : (fractionPart atEnd).Finds c fraction rest) :
    ∃ t, FractionText t ∧ c.rest = t ++ rest := by
  rw [fractionPart, finds_peek_bind] at h
  split at h
  · rename_i hpoint
    rw [finds_advance_bind] at h
    obtain ⟨ds, next, hds, h⟩ := exists_of_finds_bind h
    obtain ⟨-, rfl⟩ := finds_pure.1 h
    obtain ⟨hdigits, htext⟩ := someDigits_sound hds
    rw [Cursor.rest_next] at htext
    exact ⟨_, .inr ⟨ds, rfl, hdigits⟩,
      by rw [List.cons_append, ← htext, List.cons_head?_tail hpoint]⟩
  · exact ⟨[], .inl rfl, (finds_pure.1 h).2⟩

/-- Each fraction is read, if no digit or point stands behind it. -/
theorem finds_fractionPart (ht : FractionText t)
    (hrest : ∀ x ∈ rest.head?, x.isDigit = false ∧ x ≠ '.') (htext : c.rest = t ++ rest) :
    ∃ fraction, (fractionPart atEnd).Finds c fraction rest := by
  rcases ht with rfl | ⟨ds, rfl, hds⟩
  · refine ⟨none, ?_⟩
    rw [fractionPart, finds_peek_bind, htext]
    split
    · rename_i hpoint
      exact absurd rfl (hrest _ hpoint).2
    · exact finds_pure.2 ⟨rfl, htext⟩
  · refine ⟨some ds, ?_⟩
    rw [fractionPart, finds_peek_bind, htext]
    simp only [List.cons_append, List.head?_cons, finds_advance_bind]
    have hdigits : (someDigits atEnd).Finds c.next ds rest :=
      finds_someDigits hds (fun x hx => (hrest x hx).1) (by rw [Cursor.rest_next, htext]; rfl)
    exact hdigits.bind fun next hnext => finds_pure.2 ⟨rfl, hnext⟩

/-- An exponent has a sign or none. -/
theorem exponentSign_sound {isNegative : Bool} (h : exponentSign.Finds c isNegative rest) :
    ∃ sign, (sign = [] ∨ sign = ['+'] ∨ sign = ['-']) ∧ c.rest = sign ++ rest := by
  rw [exponentSign, finds_peek_bind] at h
  split at h
  · rename_i hsign
    rw [finds_advance_bind, finds_pure, Cursor.rest_next] at h
    exact ⟨['+'], by simp, by rw [← h.2]; exact (List.cons_head?_tail hsign).symm⟩
  · rename_i hsign
    rw [finds_advance_bind, finds_pure, Cursor.rest_next] at h
    exact ⟨['-'], by simp, by rw [← h.2]; exact (List.cons_head?_tail hsign).symm⟩
  · exact ⟨[], by simp, (finds_pure.1 h).2⟩

/-- Each sign is read in front of digits. -/
theorem finds_exponentSign {sign : List Char} (hsign : sign = [] ∨ sign = ['+'] ∨ sign = ['-'])
    (hds : DigitsText ds) (htext : c.rest = sign ++ (ds ++ rest)) :
    ∃ isNegative, exponentSign.Finds c isNegative (ds ++ rest) := by
  rw [exponentSign]
  simp only [finds_peek_bind, htext]
  rcases hsign with rfl | rfl | rfl
  · obtain ⟨x, more, rfl⟩ := List.exists_cons_of_ne_nil hds.1
    have hx : x.isDigit := hds.2 x List.mem_cons_self
    refine ⟨false, ?_⟩
    simp only [List.nil_append, List.cons_append, List.head?_cons]
    split
    · simp_all
    · simp_all
    · exact finds_pure.2 ⟨rfl, htext⟩
  · exact ⟨false, finds_pure.2 ⟨rfl, by rw [Cursor.rest_next, htext]; rfl⟩⟩
  · exact ⟨true, finds_pure.2 ⟨rfl, by rw [Cursor.rest_next, htext]; rfl⟩⟩

/-- An exponent may be missing. -/
theorem exponentPart_sound {exponent : Option Exponent}
    (h : (exponentPart atEnd).Finds c exponent rest) :
    ∃ t, ExponentText t ∧ c.rest = t ++ rest := by
  rw [exponentPart, finds_peek_bind] at h
  split at h
  · rename_i mark hmark
    split at h
    · rename_i hletter
      rw [finds_advance_bind] at h
      obtain ⟨isNegative, next, hsign, h⟩ := exists_of_finds_bind h
      rw [finds_get_bind] at h
      obtain ⟨ds, last, hds, h⟩ := exists_of_finds_bind h
      obtain ⟨-, rfl⟩ := finds_pure.1 h
      obtain ⟨sign, hform, hnext⟩ := exponentSign_sound hsign
      obtain ⟨hdigits, htext⟩ := someDigits_sound hds
      refine ⟨_, .inr ⟨mark, sign, ds, rfl, hletter, hform, hdigits⟩, ?_⟩
      rw [List.cons_append, List.append_assoc, ← htext, ← hnext, Cursor.rest_next,
        List.cons_head?_tail hmark]
    · exact ⟨[], .inl rfl, (finds_pure.1 h).2⟩
  · exact ⟨[], .inl rfl, (finds_pure.1 h).2⟩

/-- Each exponent is read, if no digit or letter of one stands behind it. -/
theorem finds_exponentPart (ht : ExponentText t)
    (hrest : ∀ x ∈ rest.head?, x.isDigit = false ∧ x ≠ 'e' ∧ x ≠ 'E') (htext : c.rest = t ++ rest) :
    ∃ exponent, (exponentPart atEnd).Finds c exponent rest := by
  rw [exponentPart]
  simp only [finds_peek_bind, htext]
  rcases ht with rfl | ⟨mark, sign, ds, rfl, hmark, hform, hdigits⟩
  · refine ⟨none, ?_⟩
    cases rest with
    | nil => exact finds_pure.2 ⟨rfl, htext⟩
    | cons x rest =>
        obtain ⟨-, hlower, hupper⟩ := hrest x rfl
        simp only [List.nil_append, List.head?_cons]
        rw [if_neg (by simp [hlower, hupper])]
        exact finds_pure.2 ⟨rfl, htext⟩
  · have hnext : c.next.rest = sign ++ (ds ++ rest) := by
      rw [Cursor.rest_next, htext, List.cons_append, List.tail_cons, List.append_assoc]
    obtain ⟨isNegative, offset, hsign⟩ := finds_exponentSign hform hdigits hnext
    have hds : (someDigits atEnd).Finds ⟨offset, ds ++ rest⟩ ds rest :=
      finds_someDigits hdigits (fun x hx => (hrest x hx).1) rfl
    refine ⟨some ⟨isNegative, ds, offset⟩, ?_⟩
    simp only [List.cons_append, List.head?_cons, if_pos hmark, finds_advance_bind]
    refine finds_bind.2 ⟨isNegative, _, hsign, ?_⟩
    rw [finds_get_bind]
    exact hds.bind fun next hnext => finds_pure.2 ⟨rfl, hnext⟩

/-- A numeral is put together from these parts. -/
theorem numeral_sound {n : Numeral} (h : (numeral atEnd).Finds c n rest) :
    ∃ t, NumeralText t ∧ c.rest = t ++ rest := by
  obtain ⟨whole, next, hwhole, h⟩ := exists_of_finds_bind h
  obtain ⟨fraction, next', hfraction, h⟩ := exists_of_finds_bind h
  obtain ⟨exponent, last, hexponent, h⟩ := exists_of_finds_bind h
  obtain ⟨-, rfl⟩ := finds_pure.1 h
  obtain ⟨hw, htext⟩ := wholePart_sound hwhole
  obtain ⟨f, hf, htext'⟩ := fractionPart_sound hfraction
  obtain ⟨e, he, htext''⟩ := exponentPart_sound hexponent
  exact ⟨_, ⟨whole, f, e, rfl, hw, hf, he⟩, by simp [htext, htext', htext'']⟩

/-- A number is read where no longer one stands. -/
theorem finds_numeral (ht : NumeralText t) (hrest : IsNumeralEnd rest)
    (htext : c.rest = t ++ rest) : ∃ n, (numeral atEnd).Finds c n rest := by
  obtain ⟨whole, fraction, exponent, rfl, hw, hf, he⟩ := ht
  have hbehind : ∀ x ∈ (exponent ++ rest).head?, x.isDigit = false ∧ x ≠ '.' := by
    rcases he with rfl | ⟨mark, sign, ds, rfl, rfl | rfl, -⟩
    · exact fun x hx => ⟨(hrest x hx).1, (hrest x hx).2.1⟩
    · simp
    · simp
  have hdigit : ∀ x ∈ (fraction ++ (exponent ++ rest)).head?, x.isDigit = false := by
    rcases hf with rfl | ⟨ds, rfl, -⟩
    · exact fun x hx => (hbehind x hx).1
    · simp
  simp only [List.append_assoc] at htext
  have hwhole : (wholePart atEnd).Finds c whole _ := finds_wholePart hw hdigit htext
  obtain ⟨offset, hwhole⟩ := hwhole
  obtain ⟨f, offset', hfraction⟩ := finds_fractionPart hf hbehind (c := ⟨offset, _⟩) rfl
  obtain ⟨e, offset'', hexponent⟩ := finds_exponentPart he
    (fun x hx => ⟨(hrest x hx).1, (hrest x hx).2.2⟩) (c := ⟨offset', _⟩) rfl
  exact ⟨_, finds_bind.2 ⟨_, _, hwhole, finds_bind.2 ⟨_, _, hfraction,
    finds_bind.2 ⟨_, _, hexponent, finds_pure.2 ⟨rfl, rfl⟩⟩⟩⟩⟩

/-- So is a number that is skipped, behind its sign. -/
theorem skipNumber_sound {u : Unit} (h : skipNumber.Finds c u rest) :
    ∃ t, NumeralText t ∧ c.rest = t ++ rest := by
  obtain ⟨n, next, hn, h⟩ := exists_of_finds_bind h
  obtain ⟨-, rfl⟩ := finds_pure.1 h
  exact numeral_sound hn

/-- Each number is skipped. -/
theorem finds_skipNumber {u : Unit} (ht : NumeralText t) (hrest : IsValueEnd rest)
    (htext : c.rest = t ++ rest) : skipNumber.Finds c u rest := by
  obtain ⟨n, hn⟩ := finds_numeral ht hrest.isNumeralEnd htext
  exact hn.bind fun next hnext => finds_pure.2 ⟨rfl, hnext⟩

/-! ## Lists and objects -/

variable {bound fuel : Nat} {inner : Reader Unit} {lead : List Char}

/-- What is stepped over first in a list: an item with blanks around it, and the bracket or a comma
behind them. -/
theorem skipItemsFrom_cases (hinner : Understands bound inner fun t _ => ValueText t)
    (hc : c.rest.length < bound) (h : (skipItemsFrom inner (fuel + 1)).Finds c () rest) :
    ∃ lead t gap, IsBlankText lead ∧ ValueText t ∧ IsBlankText gap ∧
      (c.rest = lead ++ (t ++ (gap ++ ']' :: rest)) ∨
        ∃ next : Cursor, c.rest = lead ++ (t ++ (gap ++ ',' :: next.rest)) ∧
          (skipItemsFrom inner fuel).Finds next () rest) := by
  obtain ⟨_, next, hitem, h⟩ := exists_of_finds_bind h
  obtain ⟨lead, t, hlead, ht, htext⟩ := hinner.sound hc hitem
  rw [finds_peekItem_bind] at h
  split at h
  · exact absurd h finds_failNext
  · rename_i hcomma
    obtain ⟨gap, text, hgap, hnext, hlast⟩ := exists_of_head?_dropWhile rfl hcomma
    exact ⟨lead, t, gap, hlead, ht, hgap, .inr ⟨_, by rw [htext, hnext, hlast], h⟩⟩
  · rename_i hclose
    obtain ⟨gap, text, hgap, hnext, hlast⟩ := exists_of_head?_dropWhile rfl hclose
    rw [finds_advance, hlast] at h
    exact ⟨lead, t, gap, hlead, ht, hgap, .inl (by rw [htext, hnext, h])⟩
  · exact absurd h finds_failNext

/-- Stepping over an item of a list and what stands behind it. -/
theorem finds_skipItemsFrom_succ {mid : List Char}
    (hinner : Understands bound inner fun t _ => ValueText t) (hc : c.rest.length < bound)
    (hlead : IsBlankText lead) (ht : ValueText t) (hmid : IsValueEnd mid)
    (htext : c.rest = lead ++ (t ++ mid))
    (h : (∃ gap, IsBlankText gap ∧ mid = gap ++ ']' :: rest) ∨
      ∃ gap text, IsBlankText gap ∧ mid = gap ++ ',' :: text ∧
        ∀ next : Cursor, next.rest = text → (skipItemsFrom inner fuel).Finds next () rest) :
    (skipItemsFrom inner (fuel + 1)).Finds c () rest := by
  have hitem : inner.Finds c () mid := hinner.complete hc hlead ht hmid htext
  refine hitem.bind fun next hnext => ?_
  rcases h with ⟨gap, hgap, rfl⟩ | ⟨gap, text, hgap, rfl, hmore⟩
  · refine (finds_peekItem_bind_of hgap rfl hnext).2 (finds_advance.2 ?_)
    exact rest_next_dropWhile hgap rfl hnext
  · refine (finds_peekItem_bind_of hgap rfl hnext).2 (finds_advance_bind.2 ?_)
    exact hmore _ (rest_next_dropWhile hgap rfl hnext)

/-- The items of a list that is not empty are stepped over with the bracket behind them. -/
theorem finds_skipItemsFrom (hinner : Understands bound inner fun t _ => ValueText t)
    (hc : c.rest.length < bound) (hfuel : c.rest.length < fuel) :
    (skipItemsFrom inner fuel).Finds c () rest ↔
      ∃ t items, items ≠ [] ∧ ItemsText Eq true t items ∧ (∀ item ∈ items, ValueText item) ∧
        c.rest = t ++ ']' :: rest := by
  constructor
  · intro h
    -- The text gets shorter with each item, so neither the fuel nor the bound runs out.
    induction fuel generalizing c with
    | zero => cases hfuel
    | succ fuel ih =>
        obtain ⟨lead, t, gap, hlead, ht, hgap, htext | ⟨next, htext, h⟩⟩ :=
          skipItemsFrom_cases hinner hc h
        · exact ⟨_, [t], by simp, .item hlead rfl (.done hgap), by simpa using ht, by simp [htext]⟩
        · have hlength := congrArg List.length htext
          simp only [List.length_append, List.length_cons] at hlength
          obtain ⟨more, items, hne, hmore, hvalues, hnext⟩ := ih (by omega) (by omega) h
          have hbehind := itemsText_false_iff.2 (.inr ⟨hne, gap, more, rfl, hgap, hmore⟩)
          exact ⟨_, t :: items, by simp, .item hlead rfl hbehind,
            List.forall_mem_cons.2 ⟨ht, hvalues⟩, by simp [htext, hnext]⟩
  · rintro ⟨t, items, hne, hitems, hvalues, htext⟩
    induction items generalizing c t fuel with
    | nil => exact absurd rfl hne
    | cons item items ih =>
        obtain ⟨fuel, rfl⟩ := Nat.exists_eq_add_one_of_ne_zero (Nat.ne_zero_of_lt hfuel)
        cases hitems with
        | @item _ lead t more _ _ hlead heq hmore =>
            obtain ⟨hvalue, hvalues⟩ := List.forall_mem_cons.1 hvalues
            have hend := hmore.isValueEnd (.inl rfl) rest
            simp only [List.append_assoc] at htext
            refine finds_skipItemsFrom_succ hinner hc hlead (heq ▸ hvalue) hend htext ?_
            have hlength := congrArg List.length htext
            simp only [List.length_append, List.length_cons] at hlength
            rcases itemsText_false_iff.1 hmore with ⟨-, hgap⟩ | ⟨hne, gap, more, rfl, hgap, hmore⟩
            · exact .inl ⟨_, hgap, rfl⟩
            · refine .inr ⟨gap, more ++ ']' :: rest, hgap, by simp, fun next hnext => ?_⟩
              have hshort := congrArg List.length hnext
              simp only [List.length_append, List.length_cons] at hlength hshort
              exact ih (by omega) (by omega) _ hne hmore hvalues hnext

/-- What is stepped over first in an object: a field with blanks around it, and the brace or a comma
behind them. -/
theorem skipFieldsFrom_cases (hinner : Understands bound inner fun t _ => ValueText t)
    (hc : c.rest.length < bound) (h : (skipFieldsFrom inner (fuel + 1)).Finds c () rest) :
    ∃ lead t field gap, IsBlankText lead ∧
      FieldText (fun t name => name = t ∧ RawString t) t field ∧ ValueText field.2 ∧
      IsBlankText gap ∧ (c.rest = lead ++ (t ++ (gap ++ '\x7d' :: rest)) ∨
        ∃ next : Cursor, c.rest = lead ++ (t ++ (gap ++ ',' :: next.rest)) ∧
          (skipFieldsFrom inner fuel).Finds next () rest) := by
  rw [skipFieldsFrom, finds_peekItem_bind] at h
  split at h
  · exact absurd (exists_of_finds_bind h) (by simp)
  · rename_i hquote
    obtain ⟨lead, text, hlead, htext, hname⟩ := exists_of_head?_dropWhile rfl hquote
    rw [finds_advance_bind] at h
    obtain ⟨_, next, hstring, h⟩ := exists_of_finds_bind h
    obtain ⟨_, next', hcolon, h⟩ := exists_of_finds_bind h
    obtain ⟨_, last, hvalue, h⟩ := exists_of_finds_bind h
    obtain ⟨name, hn, hnext⟩ := finds_skipStringRest.1 hstring
    obtain ⟨front, hfront, hnext'⟩ := finds_colon.1 hcolon
    rw [← hname, hnext, hnext'] at htext
    have hlength := congrArg List.length htext
    simp only [List.length_append, List.length_cons] at hlength
    obtain ⟨back, t, hback, ht, hlast⟩ := hinner.sound (by omega) hvalue
    have hfield : FieldText (fun t name => name = t ∧ RawString t)
        ('"' :: name ++ (front ++ ':' :: (back ++ t))) ('"' :: name, t) :=
      ⟨_, front, back, rfl, ⟨rfl, hn⟩, hfront, hback⟩
    rw [finds_peekItem_bind] at h
    split at h
    · exact absurd h finds_failNext
    · rename_i hcomma
      obtain ⟨gap, text, hgap, hrest, hbehind⟩ := exists_of_head?_dropWhile rfl hcomma
      refine ⟨lead, _, _, gap, hlead, hfield, ht, hgap, .inr ⟨_, ?_, h⟩⟩
      simp only [htext, hlast, hrest, hbehind, List.append_assoc, List.cons_append]
    · rename_i hclose
      obtain ⟨gap, text, hgap, hrest, hbehind⟩ := exists_of_head?_dropWhile rfl hclose
      rw [finds_advance, hbehind] at h
      refine ⟨lead, _, _, gap, hlead, hfield, ht, hgap, .inl ?_⟩
      simp [htext, hlast, hrest, h]
    · exact absurd h finds_failNext
  · exact absurd (exists_of_finds_bind h) (by simp)

/-- Stepping over a field of an object and what stands behind it. -/
theorem finds_skipFieldsFrom_succ {mid : List Char} {field : List Char × List Char}
    (hinner : Understands bound inner fun t _ => ValueText t) (hc : c.rest.length < bound)
    (hlead : IsBlankText lead) (hfield : FieldText (fun t name => name = t ∧ RawString t) t field)
    (hvalue : ValueText field.2) (hmid : IsValueEnd mid) (htext : c.rest = lead ++ (t ++ mid))
    (h : (∃ gap, IsBlankText gap ∧ mid = gap ++ '\x7d' :: rest) ∨
      ∃ gap text, IsBlankText gap ∧ mid = gap ++ ',' :: text ∧
        ∀ next : Cursor, next.rest = text → (skipFieldsFrom inner fuel).Finds next () rest) :
    (skipFieldsFrom inner (fuel + 1)).Finds c () rest := by
  obtain ⟨_, front, back, rfl, ⟨-, hname⟩, hfront, hback⟩ := hfield
  obtain ⟨name, rfl⟩ := hname.exists_cons
  simp only [List.append_assoc, List.cons_append] at htext
  have hlength := congrArg List.length htext
  simp only [List.length_append, List.length_cons] at hlength
  have hquote := rest_next_dropWhile hlead rfl htext
  rw [skipFieldsFrom]
  refine (finds_peekItem_bind_of hlead rfl htext).2 (finds_advance_bind.2 ?_)
  have hstring := finds_skipStringRest.2 ⟨name, hname, hquote⟩
  refine hstring.bind fun next hnext => ?_
  have hcolon := (finds_colon (u := ())).2 ⟨front, hfront, hnext⟩
  refine hcolon.bind fun next hnext => ?_
  have hitem : inner.Finds next () mid :=
    hinner.complete (by rw [hnext]; simp; omega) hback hvalue hmid hnext
  refine hitem.bind fun next hnext => ?_
  rcases h with ⟨gap, hgap, rfl⟩ | ⟨gap, text, hgap, rfl, hmore⟩
  · refine (finds_peekItem_bind_of hgap rfl hnext).2 (finds_advance.2 ?_)
    exact rest_next_dropWhile hgap rfl hnext
  · refine (finds_peekItem_bind_of hgap rfl hnext).2 (finds_advance_bind.2 ?_)
    exact hmore _ (rest_next_dropWhile hgap rfl hnext)

/-- The fields of an object that is not empty are stepped over with the brace behind them. -/
theorem finds_skipFieldsFrom (hinner : Understands bound inner fun t _ => ValueText t)
    (hc : c.rest.length < bound) (hfuel : c.rest.length < fuel) :
    (skipFieldsFrom inner fuel).Finds c () rest ↔
      ∃ t fields, fields ≠ [] ∧
        ItemsText (FieldText fun t name => name = t ∧ RawString t) true t fields ∧
        (∀ field ∈ fields, ValueText field.2) ∧ c.rest = t ++ '\x7d' :: rest := by
  -- There is fuel for each character, of which every field takes some. The first direction is by
  -- induction on the fuel, the second one on the fields.
  constructor
  · intro h
    induction fuel generalizing c with
    | zero => cases hfuel
    | succ fuel ih =>
        obtain ⟨lead, t, field, gap, hlead, hfield, hvalue, hgap, htext | ⟨next, htext, h⟩⟩ :=
          skipFieldsFrom_cases hinner hc h
        · exact ⟨_, [field], by simp, .item hlead hfield (.done hgap), by simpa using hvalue,
            by simp [htext]⟩
        · have hlength := congrArg List.length htext
          simp only [List.length_append, List.length_cons] at hlength
          obtain ⟨more, fields, hne, hmore, hvalues, hnext⟩ := ih (by omega) (by omega) h
          have hbehind := itemsText_false_iff.2 (.inr ⟨hne, gap, more, rfl, hgap, hmore⟩)
          exact ⟨_, field :: fields, by simp, .item hlead hfield hbehind,
            List.forall_mem_cons.2 ⟨hvalue, hvalues⟩, by simp [htext, hnext]⟩
  · rintro ⟨t, fields, hne, hfields, hvalues, htext⟩
    induction fields generalizing c t fuel with
    | nil => exact absurd rfl hne
    | cons field fields ih =>
        obtain ⟨fuel, rfl⟩ := Nat.exists_eq_add_one_of_ne_zero (Nat.ne_zero_of_lt hfuel)
        cases hfields with
        | @item _ lead t more _ _ hlead hfield hmore =>
            obtain ⟨hvalue, hvalues⟩ := List.forall_mem_cons.1 hvalues
            have hend := hmore.isValueEnd (.inr rfl) rest
            simp only [List.append_assoc] at htext
            refine finds_skipFieldsFrom_succ hinner hc hlead hfield hvalue hend htext ?_
            have hlength := congrArg List.length htext
            simp only [List.length_append, List.length_cons] at hlength
            rcases itemsText_false_iff.1 hmore with ⟨-, hgap⟩ | ⟨hne, gap, more, rfl, hgap, hmore⟩
            · exact .inl ⟨_, hgap, rfl⟩
            · refine .inr ⟨gap, more ++ '\x7d' :: rest, hgap, by simp, fun next hnext => ?_⟩
              have hshort := congrArg List.length hnext
              simp only [List.length_append, List.length_cons] at hlength hshort
              exact ih (by omega) (by omega) _ hne hmore hvalues hnext

/-- Steps over a list behind its bracket. -/
def skipList (inner : Reader Unit) : Reader Unit := do
  match ← peekItem? with
  | none => failNext .endOfList
  | some ']' => advance
  | some _ => skipItemsFrom inner (← stepsLeft)

/-- Steps over an object behind its brace. -/
def skipObject (inner : Reader Unit) : Reader Unit := do
  match ← peekItem? with
  | none => failNext .endOfObject
  | some '\x7d' => advance
  | some _ => skipFieldsFrom inner (← stepsLeft)

/-- A list is skipped from behind its bracket on exactly if its items are values. -/
theorem finds_skipList (hinner : Understands bound inner fun t _ => ValueText t)
    (hc : c.rest.length < bound) : (skipList inner).Finds c () rest ↔
      ∃ t items, ItemsText Eq true t items ∧ (∀ item ∈ items, ValueText item) ∧
        c.rest = t ++ ']' :: rest := by
  have hbound := Nat.lt_of_le_of_lt (length_dropWhile_le c) hc
  rw [skipList]
  constructor
  · intro h
    rw [finds_peekItem_bind] at h
    split at h
    · exact absurd h finds_failNext
    · rename_i hclose
      obtain ⟨gap, last, hgap, htext, hlast⟩ := exists_of_head?_dropWhile rfl hclose
      rw [finds_advance, hlast] at h
      exact ⟨gap, [], .done hgap, by simp, by rw [htext, h]⟩
    · rw [finds_stepsLeft_bind, finds_skipItemsFrom hinner hbound (Nat.lt_succ_self _)] at h
      obtain ⟨t, items, -, hitems, hvalues, htext⟩ := h
      obtain ⟨gap, hgap, hrest⟩ := exists_blanks c.rest
      rw [Cursor.rest_dropWhile] at htext
      exact ⟨_, items, hitems.append_blank hgap, hvalues, by rw [hrest, htext, List.append_assoc]⟩
  · rintro ⟨_, items, hitems, hvalues, htext⟩
    cases hitems with
    | done hgap =>
        exact (finds_peekItem_bind_of hgap rfl htext).2 <| finds_advance.2 <|
          rest_next_dropWhile hgap rfl htext
    | @item _ gap t more item items hgap hitem hmore =>
        subst hitem
        obtain ⟨x, t, rfl, hx, hclose⟩ := (hvalues _ List.mem_cons_self).exists_cons
        have hitems : ItemsText Eq true (x :: t ++ more) ((x :: t) :: items) :=
          .first rfl hmore
        simp only [List.append_assoc, List.cons_append] at htext
        rw [finds_peekItem_bind_of hgap hx htext]
        split
        · simp_all
        · simp_all
        · rw [finds_stepsLeft_bind, finds_skipItemsFrom hinner hbound (Nat.lt_succ_self _)]
          refine ⟨_, _, List.cons_ne_nil _ _, hitems, hvalues, ?_⟩
          rw [Cursor.rest_dropWhile, htext, dropWhile_isBlank hgap (by simpa using hx)]
          simp

/-- An object is skipped from behind its brace on exactly if its fields have names and values. -/
theorem finds_skipObject (hinner : Understands bound inner fun t _ => ValueText t)
    (hc : c.rest.length < bound) : (skipObject inner).Finds c () rest ↔
      ∃ t fields, ItemsText (FieldText fun t name => name = t ∧ RawString t) true t fields ∧
        (∀ field ∈ fields, ValueText field.2) ∧ c.rest = t ++ '\x7d' :: rest := by
  have hbound := Nat.lt_of_le_of_lt (length_dropWhile_le c) hc
  rw [skipObject]
  constructor
  · intro h
    rw [finds_peekItem_bind] at h
    split at h
    · exact absurd h finds_failNext
    · rename_i hclose
      obtain ⟨gap, last, hgap, htext, hlast⟩ := exists_of_head?_dropWhile rfl hclose
      rw [finds_advance, hlast] at h
      exact ⟨gap, [], .done hgap, by simp, by rw [htext, h]⟩
    · rw [finds_stepsLeft_bind, finds_skipFieldsFrom hinner hbound (Nat.lt_succ_self _)] at h
      obtain ⟨t, fields, -, hfields, hvalues, htext⟩ := h
      obtain ⟨gap, hgap, hrest⟩ := exists_blanks c.rest
      rw [Cursor.rest_dropWhile] at htext
      exact ⟨_, fields, hfields.append_blank hgap, hvalues,
        by rw [hrest, htext, List.append_assoc]⟩
  · rintro ⟨_, fields, hfields, hvalues, htext⟩
    cases hfields with
    | done hgap =>
        exact (finds_peekItem_bind_of hgap rfl htext).2 <| finds_advance.2 <|
          rest_next_dropWhile hgap rfl htext
    | @item _ gap t more field fields hgap hfield hmore =>
        have hitems := ItemsText.first hfield hmore
        obtain ⟨_, front, back, rfl, ⟨-, hname⟩, -⟩ := hfield
        obtain ⟨name, rfl⟩ := hname.exists_cons
        have htext' := htext
        simp only [List.append_assoc, List.cons_append] at htext'
        rw [finds_peekItem_bind_of hgap rfl htext']
        split
        · simp_all
        · simp_all
        · rw [finds_stepsLeft_bind, finds_skipFieldsFrom hinner hbound (Nat.lt_succ_self _)]
          refine ⟨_, _, List.cons_ne_nil _ _, hitems, hvalues, ?_⟩
          rw [Cursor.rest_dropWhile, htext', dropWhile_isBlank hgap (by simp [isBlank])]
          simp

/-! ## Values -/

variable {depth : Nat} {gap : List Char}

/-- What is stepped over is a value, if all that is nested in it is. -/
theorem skipValue_sound (hdepth : Understands depth (skipValue depth) fun t _ => ValueText t)
    (hc : c.rest.length < depth + 1) (h : (skipValue (depth + 1)).Finds c () rest) :
    ∃ gap t, IsBlankText gap ∧ ValueText t ∧ c.rest = gap ++ (t ++ rest) := by
  suffices hvalue : ∃ t, ValueText t ∧ c.rest.dropWhile isBlank = t ++ rest by
    obtain ⟨t, ht, hdrop⟩ := hvalue
    obtain ⟨gap, hgap, htext⟩ := exists_blanks c.rest
    exact ⟨gap, t, hgap, ht, by rw [htext, hdrop]⟩
  rw [skipValue, finds_peekItem_bind] at h
  cases hdrop : c.rest.dropWhile isBlank with
  | nil =>
      rw [hdrop] at h
      exact absurd h finds_failNext
  | cons x text =>
      have hnext : (c.dropWhile isBlank).next.rest = text := by
        rw [Cursor.rest_next, Cursor.rest_dropWhile, hdrop, List.tail_cons]
      have hinside : (c.dropWhile isBlank).next.rest.length < depth := by
        have hlength := length_dropWhile_le c
        rw [Cursor.rest_dropWhile, hdrop, List.length_cons] at hlength
        rw [hnext]
        omega
      -- The first character says which kind of value it is.
      simp only [hdrop, List.head?_cons] at h
      split_ifs at h with hn ht hf hminus hdigit hquote hlist hobject
      · rw [finds_advance_bind, finds_wordRest, hnext] at h
        exact ⟨['n', 'u', 'l', 'l'], .word (by decide), by rw [hn, h]; rfl⟩
      · rw [finds_advance_bind, finds_wordRest, hnext] at h
        exact ⟨['t', 'r', 'u', 'e'], .word (by decide), by rw [ht, h]; rfl⟩
      · rw [finds_advance_bind, finds_wordRest, hnext] at h
        exact ⟨['f', 'a', 'l', 's', 'e'], .word (by decide), by rw [hf, h]; rfl⟩
      · obtain ⟨t, ht, htext⟩ := skipNumber_sound (finds_advance_bind.1 h)
        exact ⟨_, .negative ht, by rw [hminus, ← hnext, htext]; rfl⟩
      · obtain ⟨t, ht, htext⟩ := skipNumber_sound h
        rw [Cursor.rest_dropWhile, hdrop] at htext
        exact ⟨_, .numeral ht, htext⟩
      · obtain ⟨t, ht, htext⟩ := finds_skipStringRest.1 (finds_advance_bind.1 h)
        exact ⟨_, .string ht, by rw [hquote, ← hnext, htext]; rfl⟩
      · obtain ⟨t, items, hitems, hvalues, htext⟩ :=
          (finds_skipList hdepth hinside).1 (finds_advance_bind.1 h)
        exact ⟨_, .array ⟨t, rfl, hitems⟩ hvalues, by rw [hlist, ← hnext, htext]; simp⟩
      · obtain ⟨t, fields, hfields, hvalues, htext⟩ :=
          (finds_skipObject hdepth hinside).1 (finds_advance_bind.1 h)
        exact ⟨_, .object ⟨t, rfl, hfields⟩ hvalues, by rw [hobject, ← hnext, htext]; simp⟩
      · exact absurd h finds_failNext

/-- Every value is stepped over, if all that is nested in it is. -/
theorem finds_skipValue (hdepth : Understands depth (skipValue depth) fun t _ => ValueText t)
    (hc : c.rest.length < depth + 1) (hgap : IsBlankText gap) (ht : ValueText t)
    (hrest : IsValueEnd rest) (htext : c.rest = gap ++ (t ++ rest)) :
    (skipValue (depth + 1)).Finds c () rest := by
  obtain ⟨x, text, rfl, hblank, -⟩ := ht.exists_cons
  have hnext : (c.dropWhile isBlank).next.rest = text ++ rest :=
    rest_next_dropWhile hgap hblank htext
  have hinside : (c.dropWhile isBlank).next.rest.length < depth :=
    Nat.lt_of_lt_of_le (length_next_dropWhile_lt hgap hblank htext) (Nat.le_of_lt_succ hc)
  rw [skipValue, finds_peekItem_bind_of hgap hblank htext]
  cases ht with
  | word h =>
      simp only [words, List.mem_cons, List.not_mem_nil, or_false, List.cons.injEq] at h
      rcases h with ⟨rfl, rfl⟩ | ⟨rfl, rfl⟩ | ⟨rfl, rfl⟩ <;>
        exact finds_advance_bind.2 (finds_wordRest.2 hnext)
  | numeral h =>
      obtain ⟨_, _, heq, hdigit⟩ := h.exists_cons
      obtain ⟨rfl, rfl⟩ := List.cons.inj heq
      have hne : ∀ y : Char, y.isDigit = false → x ≠ y := by
        rintro y hy rfl
        exact absurd hdigit (by simp [hy])
      simp only [if_neg (hne 'n' rfl), if_neg (hne 't' rfl), if_neg (hne 'f' rfl),
        if_neg (hne '-' rfl), if_pos hdigit]
      refine finds_skipNumber h hrest ?_
      rw [Cursor.rest_dropWhile, htext]
      exact dropWhile_isBlank hgap (by simpa using hblank)
  | negative h => exact finds_advance_bind.2 (finds_skipNumber h hrest hnext)
  | string h =>
      obtain ⟨_, heq⟩ := h.exists_cons
      obtain ⟨rfl, rfl⟩ := List.cons.inj heq
      exact finds_advance_bind.2 (finds_skipStringRest.2 ⟨text, h, hnext⟩)
  | array h hvalues =>
      obtain ⟨t, heq, hitems⟩ := h
      obtain ⟨rfl, rfl⟩ := List.cons.inj heq
      rw [List.append_assoc] at hnext
      exact finds_advance_bind.2 ((finds_skipList hdepth hinside).2 ⟨t, _, hitems, hvalues, hnext⟩)
  | object h hvalues =>
      obtain ⟨t, heq, hfields⟩ := h
      obtain ⟨rfl, rfl⟩ := List.cons.inj heq
      rw [List.append_assoc] at hnext
      exact finds_advance_bind.2 <|
        (finds_skipObject hdepth hinside).2 ⟨t, _, hfields, hvalues, hnext⟩

/-- Where less text is left than the depth allows, values are skipped and nothing else. -/
theorem understands_skipValue (depth : Nat) :
    Understands depth (skipValue depth) fun t _ => ValueText t := by
  induction depth with
  | zero =>
      -- No text is shorter than nothing, so a reader without any depth left is never asked.
      exact ⟨id, fun hc => absurd hc (Nat.not_lt_zero _), fun hc => absurd hc (Nat.not_lt_zero _)⟩
  | succ depth ih => exact ⟨id, fun hc => skipValue_sound ih hc, fun hc => finds_skipValue ih hc⟩

/-- Any value is stepped over. -/
theorem understands_skipAny (bound : Nat) : Understands bound skipAny fun t _ => ValueText t := by
  constructor
  · exact id
  · intro c a rest _ h
    rw [skipAny, finds_stepsLeft_bind] at h
    exact (understands_skipValue _).sound (Nat.lt_succ_self _) h
  · intro c a gap t rest _ hgap ht hrest htext
    rw [skipAny, finds_stepsLeft_bind]
    exact (understands_skipValue _).complete (Nat.lt_succ_self _) hgap ht hrest htext

end Reader

end JsxTidy.Json
