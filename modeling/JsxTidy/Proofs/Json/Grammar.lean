import JsxTidy.Json.Parse
import Mathlib.Data.List.Forall2

/-!
# The grammar of JSON

Which texts are JSON values, and what strings say. Strings are described twice: `RawString` is the
plain grammar, and `StringText` also says which characters are meant, so that a surrogate escape
has to stand in a pair there. An array and an object are described by the texts of their items, so
that a record can say for each field which texts it may have.
-/

namespace JsxTidy.Json

/-! ## Items between brackets -/

/-- Whether a text consists of blanks. -/
def IsBlankText (t : List Char) : Prop :=
  ∀ c ∈ t, Reader.isBlank c

/-- What stands in front of an item: blanks, and a comma between them unless it is the first one. -/
def IsLead (isFirst : Bool) (t : List Char) : Prop :=
  if isFirst then IsBlankText t
  else ∃ gap front, t = gap ++ ',' :: front ∧ IsBlankText gap ∧ IsBlankText front

/-- The text of items up to the bracket behind them, and what the items are. -/
inductive ItemsText {α : Type} (item : List Char → α → Prop) :
    Bool → List Char → List α → Prop where
  | done {isFirst : Bool} {gap : List Char} : IsBlankText gap → ItemsText item isFirst gap []
  | item {isFirst : Bool} {lead t rest : List Char} {a : α} {as : List α} : IsLead isFirst lead →
      item t a → ItemsText item false rest as →
      ItemsText item isFirst (lead ++ (t ++ rest)) (a :: as)

section

variable {α : Type} {item : List Char → α → Prop} {isFirst : Bool} {t gap lead : List Char}
  {as : List α}

theorem isBlankText_nil : IsBlankText [] := fun _ hc => nomatch hc

theorem IsBlankText.append (ht : IsBlankText t) (hgap : IsBlankText gap) :
    IsBlankText (t ++ gap) := fun c hc =>
  (List.mem_append.1 hc).elim (ht c) (hgap c)

/-- Blanks behind what stands in front of an item belong to it. -/
theorem IsLead.append (hlead : IsLead isFirst lead) (hgap : IsBlankText gap) :
    IsLead isFirst (lead ++ gap) := by
  cases isFirst with
  | true => exact IsBlankText.append hlead hgap
  | false =>
      obtain ⟨front, back, rfl, hfront, hback⟩ := hlead
      exact ⟨front, back ++ gap, by simp, hfront, hback.append hgap⟩

/-- Blanks in front of the first item belong to what stands in front of it. -/
theorem ItemsText.append_blank (hgap : IsBlankText gap) (h : ItemsText item true t as) :
    ItemsText item true (gap ++ t) as := by
  cases h with
  | done hback => exact .done (hgap.append hback)
  | item hlead ha hmore =>
      rw [← List.append_assoc]
      exact .item (hgap.append hlead) ha hmore

/-- Nothing has to stand in front of the first item. -/
theorem ItemsText.first {a : α} {rest : List Char} (ha : item t a)
    (hmore : ItemsText item false rest as) : ItemsText item true (t ++ rest) (a :: as) := by
  have hlead : IsLead true [] := isBlankText_nil
  exact .item hlead ha hmore

/-- Nothing but a comma has to stand in front of a further item. -/
theorem ItemsText.next {a : α} {rest : List Char} (ha : item t a)
    (hmore : ItemsText item false rest as) :
    ItemsText item false (',' :: (t ++ rest)) (a :: as) := by
  have hlead : IsLead false [','] := ⟨[], [], rfl, isBlankText_nil, isBlankText_nil⟩
  exact .item hlead ha hmore

/-- Behind an item there are blanks only, or a comma and items that may be the first ones. -/
theorem itemsText_false_iff : ItemsText item false t as ↔ as = [] ∧ IsBlankText t ∨
    as ≠ [] ∧ ∃ gap more, t = gap ++ ',' :: more ∧ IsBlankText gap ∧
      ItemsText item true more as := by
  constructor
  · intro h
    cases h with
    | done hgap => exact .inl ⟨rfl, hgap⟩
    | item hlead ha hmore =>
        obtain ⟨gap, front, rfl, hgap, hfront⟩ := hlead
        have hitems : ItemsText item true _ _ := .item hfront ha hmore
        exact .inr ⟨by simp, gap, _, by simp, hgap, hitems⟩
  · rintro (⟨rfl, ht⟩ | ⟨hne, gap, more, rfl, hgap, hmore⟩)
    · exact .done ht
    · cases hmore with
      | done => exact absurd rfl hne
      | @item _ lead _ _ _ _ hlead ha hmore =>
          have hcomma : IsLead false (gap ++ ',' :: lead) := ⟨gap, lead, rfl, hgap, hlead⟩
          have hitems := ItemsText.item hcomma ha hmore
          rwa [List.append_assoc, List.cons_append] at hitems

end

/-- An array with some texts as its items. -/
def ArrayText (t : List Char) (items : List (List Char)) : Prop :=
  ∃ inner, t = '[' :: (inner ++ [']']) ∧ ItemsText Eq true inner items

/-- A field of an object: its name, and the text of its value. -/
def FieldText {α : Type} (name : List Char → α → Prop) (t : List Char) (field : α × List Char) :
    Prop :=
  ∃ nameText gap front, t = nameText ++ (gap ++ ':' :: (front ++ field.2)) ∧
    name nameText field.1 ∧ IsBlankText gap ∧ IsBlankText front

/-- An object with some names and the texts of their values as its fields. -/
def ObjectText {α : Type} (name : List Char → α → Prop) (t : List Char)
    (fields : List (α × List Char)) : Prop :=
  ∃ inner, t = '\x7b' :: (inner ++ ['\x7d']) ∧ ItemsText (FieldText name) true inner fields

theorem FieldText.length_pos {α : Type} {name : List Char → α → Prop} {t : List Char}
    {field : α × List Char} (h : FieldText name t field) : 0 < t.length := by
  obtain ⟨nameText, gap, front, rfl, -⟩ := h
  simp only [List.length_append, List.length_cons]
  omega

/-! ## Strings -/

/-- The letters of the short escapes, and what they stand for. -/
def shortEscapes : List (Char × Char) :=
  [('"', '"'), ('\\', '\\'), ('/', '/'), ('b', '\x08'), ('f', '\x0c'), ('n', '\n'), ('r', '\r'),
    ('t', '\t')]

/-- Four digits of base sixteen and their value. -/
def HexText (t : List Char) (n : Nat) : Prop :=
  ∃ a b c d w x y z, t = [a, b, c, d] ∧ Reader.hexDigit? a = some w ∧
    Reader.hexDigit? b = some x ∧ Reader.hexDigit? c = some y ∧ Reader.hexDigit? d = some z ∧
    n = 16 * (16 * (16 * w + x) + y) + z

/-- Whether a character stands for itself in a string. -/
def IsPlain (c : Char) : Prop :=
  c ≠ '"' ∧ c ≠ '\\' ∧ ¬ c < ' '

/-- Whether a number is that of a surrogate. -/
def IsSurrogate (n : Nat) : Prop :=
  0xd800 ≤ n ∧ n ≤ 0xdfff

/-- How an escape is written behind its backslash, and the character it stands for. -/
inductive EscapeText : List Char → Char → Prop where
  | short {letter c : Char} : (letter, c) ∈ shortEscapes → EscapeText [letter] c
  | unit {t : List Char} {n : Nat} : HexText t n → ¬ IsSurrogate n →
      EscapeText ('u' :: t) (Char.ofNat n)
  | pair {t t' : List Char} {high low : Nat} : HexText t high → HexText t' low →
      0xd800 ≤ high ∧ high ≤ 0xdbff → 0xdc00 ≤ low ∧ low ≤ 0xdfff →
      EscapeText ('u' :: (t ++ '\\' :: 'u' :: t'))
        (Char.ofNat (0x10000 + (high - 0xd800) * 0x400 + (low - 0xdc00)))

/-- How a character is written in a string. -/
inductive CharText : List Char → Char → Prop where
  | plain {c : Char} : IsPlain c → CharText [c] c
  | escape {t : List Char} {c : Char} : EscapeText t c → CharText ('\\' :: t) c

/-- A string and what it says. -/
def StringText (t : List Char) (s : String) : Prop :=
  ∃ parts : List (List Char), List.Forall₂ CharText parts s.toList ∧
    t = '"' :: (parts.flatten ++ ['"'])

/-- A character or an escape in a string, whatever it stands for. -/
inductive RawPart : List Char → Prop where
  | plain {c : Char} : IsPlain c → RawPart [c]
  | short {letter c : Char} : (letter, c) ∈ shortEscapes → RawPart ['\\', letter]
  | unit {t : List Char} {n : Nat} : HexText t n → RawPart ('\\' :: 'u' :: t)

/-- A string, whatever it says. -/
def RawString (t : List Char) : Prop :=
  ∃ parts : List (List Char), (∀ part ∈ parts, RawPart part) ∧ t = '"' :: (parts.flatten ++ ['"'])

/-! ## Numbers -/

/-- One or more digits. -/
def DigitsText (t : List Char) : Prop :=
  t ≠ [] ∧ ∀ c ∈ t, c.isDigit

/-- The whole part of a number. A zero in front stands alone. -/
def WholeText (t : List Char) : Prop :=
  t = ['0'] ∨ DigitsText t ∧ t.head? ≠ some '0'

/-- The fraction of a number, which may be missing. -/
def FractionText (t : List Char) : Prop :=
  t = [] ∨ ∃ ds, t = '.' :: ds ∧ DigitsText ds

/-- The exponent of a number, which may be missing. -/
def ExponentText (t : List Char) : Prop :=
  t = [] ∨ ∃ mark sign ds, t = mark :: (sign ++ ds) ∧ (mark = 'e' ∨ mark = 'E') ∧
    (sign = [] ∨ sign = ['+'] ∨ sign = ['-']) ∧ DigitsText ds

/-- A number without its sign. -/
def NumeralText (t : List Char) : Prop :=
  ∃ whole fraction exponent, t = whole ++ (fraction ++ exponent) ∧ WholeText whole ∧
    FractionText fraction ∧ ExponentText exponent

/-! ## Values -/

/-- The values that are words. -/
def words : List (List Char) :=
  [['n', 'u', 'l', 'l'], ['t', 'r', 'u', 'e'], ['f', 'a', 'l', 's', 'e']]

/-- A value. -/
inductive ValueText : List Char → Prop where
  | word {t : List Char} : t ∈ words → ValueText t
  | numeral {t : List Char} : NumeralText t → ValueText t
  | negative {t : List Char} : NumeralText t → ValueText ('-' :: t)
  | string {t : List Char} : RawString t → ValueText t
  | array {t : List Char} {items : List (List Char)} : ArrayText t items →
      (∀ item ∈ items, ValueText item) → ValueText t
  | object {t : List Char} {fields : List (List Char × List Char)} :
      ObjectText (fun t name => name = t ∧ RawString t) t fields →
      (∀ field ∈ fields, ValueText field.2) → ValueText t

/-! ## Where values begin and end -/

/-- Whether a value may end in front of a text, or a name. -/
def IsValueEnd (rest : List Char) : Prop :=
  ∀ x ∈ rest.head?, Reader.isBlank x ∨ x = ',' ∨ x = ':' ∨ x = ']' ∨ x = '\x7d'

section

variable {α : Type} {item : List Char → α → Prop} {as : List α} {x : Char} {t rest : List Char}

theorem isValueEnd_cons_iff :
    IsValueEnd (x :: rest) ↔ Reader.isBlank x ∨ x = ',' ∨ x = ':' ∨ x = ']' ∨ x = '\x7d' := by
  simp [IsValueEnd]

theorem IsBlankText.isValueEnd (h : IsBlankText t) (hrest : IsValueEnd rest) :
    IsValueEnd (t ++ rest) := by
  cases t with
  | nil => exact hrest
  | cons x t => exact isValueEnd_cons_iff.2 (.inl (h x List.mem_cons_self))

/-- A value may end in front of further items and the bracket behind them. -/
theorem ItemsText.isValueEnd (h : ItemsText item false t as) (hx : x = ']' ∨ x = '\x7d')
    (rest : List Char) : IsValueEnd (t ++ x :: rest) := by
  cases h with
  | done hgap => exact hgap.isValueEnd (isValueEnd_cons_iff.2 (.inr (.inr (.inr hx))))
  | item hlead =>
      obtain ⟨gap, front, rfl, hgap, -⟩ := hlead
      rw [List.append_assoc, List.append_assoc, List.cons_append]
      exact hgap.isValueEnd (isValueEnd_cons_iff.2 (.inr (.inl rfl)))

theorem RawString.exists_cons (h : RawString t) : ∃ text, t = '"' :: text := by
  obtain ⟨parts, -, rfl⟩ := h
  exact ⟨_, rfl⟩

theorem NumeralText.exists_cons (h : NumeralText t) : ∃ x text, t = x :: text ∧ x.isDigit := by
  obtain ⟨whole, fraction, exponent, rfl, rfl | ⟨⟨hne, hdigits⟩, -⟩, -⟩ := h
  · exact ⟨_, _, rfl, rfl⟩
  · obtain ⟨x, whole, rfl⟩ := List.exists_cons_of_ne_nil hne
    exact ⟨_, _, rfl, hdigits x List.mem_cons_self⟩

theorem not_isBlank_of_isDigit (h : x.isDigit) : Reader.isBlank x = false := by
  by_contra hblank
  simp only [Reader.isBlank, Bool.not_eq_false, Bool.or_eq_true, beq_iff_eq] at hblank
  rcases hblank with ((rfl | rfl) | rfl) | rfl <;> exact absurd h (by decide)

/-- A value begins with a character that is neither a blank nor the end of a list. -/
theorem ValueText.exists_cons (h : ValueText t) :
    ∃ x text, t = x :: text ∧ Reader.isBlank x = false ∧ x ≠ ']' := by
  cases h with
  | word h =>
      simp only [words, List.mem_cons, List.not_mem_nil, or_false] at h
      rcases h with rfl | rfl | rfl <;> exact ⟨_, _, rfl, rfl, by decide⟩
  | numeral h =>
      obtain ⟨x, text, rfl, hx⟩ := h.exists_cons
      refine ⟨x, text, rfl, not_isBlank_of_isDigit hx, ?_⟩
      rintro rfl
      exact absurd hx (by decide)
  | negative => exact ⟨_, _, rfl, rfl, by decide⟩
  | string h =>
      obtain ⟨parts, -, rfl⟩ := h
      exact ⟨_, _, rfl, rfl, by decide⟩
  | array h =>
      obtain ⟨inner, rfl, -⟩ := h
      exact ⟨_, _, rfl, rfl, by decide⟩
  | object h =>
      obtain ⟨inner, rfl, -⟩ := h
      exact ⟨_, _, rfl, rfl, by decide⟩

end

end JsxTidy.Json
