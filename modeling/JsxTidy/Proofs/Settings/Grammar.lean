import JsxTidy.Proofs.Settings.Numbers

/-!
# The grammar of values

Which texts are values and what they mean: truth values, strings and characters in quotes, lists,
tables, and plain texts, each with spaces around it. The values in a list or a table are of the same
grammar, so `ValueText` closes the knot.
-/

namespace JsxTidy.SettingLiteral

/-- Whether a text consists of spaces. -/
def IsSpaceText (t : List Char) : Prop :=
  ∀ c ∈ t, isSpace c

/-- The letters of the short escapes, and what they stand for. -/
def shortEscapes : List (Char × Char) :=
  [('"', '"'), ('\\', '\\'), ('b', '\x08'), ('f', '\x0c'), ('n', '\n'), ('r', '\r'), ('t', '\t')]

/-- Some digits of base sixteen, and the character they stand for. -/
def CodePointText (count : Nat) (t : List Char) (c : Char) : Prop :=
  t.length = count ∧ ∃ values, t.mapM hexDigit? = some values ∧
    let code := values.foldl (fun n d => 16 * n + d) 0
    code.isValidChar ∧ c = Char.ofNat code

/-- How an escape is written behind its backslash, and the character it stands for. -/
inductive EscapeText : List Char → Char → Prop where
  | short {letter c : Char} : (letter, c) ∈ shortEscapes → EscapeText [letter] c
  | small {t : List Char} {c : Char} : CodePointText 4 t c → EscapeText ('u' :: t) c
  | large {t : List Char} {c : Char} : CodePointText 8 t c → EscapeText ('U' :: t) c

/-- What stands between quotes, and the characters that are meant. -/
inductive QuotedText : List Char → List Char → Prop where
  | done : QuotedText [] []
  | char {t said : List Char} {c : Char} : c ≠ '"' → c ≠ '\\' → QuotedText t said →
      QuotedText (c :: t) (c :: said)
  | escape {e t said : List Char} {c : Char} : EscapeText e c → QuotedText t said →
      QuotedText ('\\' :: (e ++ t)) (c :: said)

/-- A string in quotes. -/
def StringText (t : List Char) (s : String) : Prop :=
  ∃ body said, t = '"' :: (body ++ ['"']) ∧ QuotedText body said ∧ s = String.ofList said

/-- The key of a field. -/
def KeyText (t : List Char) (name : String) : Prop :=
  StringText t name ∨ t ≠ [] ∧ (∀ c ∈ t, isKeyChar c) ∧ name = String.ofList t

/-- Items up to the bracket behind them. There may be a comma behind the last one. -/
inductive ItemsText {α : Type} (item : List Char → α → Prop) (ending : Char) :
    List Char → List α → Prop where
  | done : ItemsText item ending [ending] []
  | last {t : List Char} {a : α} : t ≠ [] → item t a → ItemsText item ending (t ++ [ending]) [a]
  | more {t rest : List Char} {a : α} {as : List α} : item t a → ItemsText item ending rest as →
      ItemsText item ending (t ++ ',' :: rest) (a :: as)

/-- A field of a table. -/
inductive FieldText (value : List Char → Setting → Prop) :
    List Char → String × Setting → Prop where
  | mk {front keyText back valueText : List Char} {name : String} {v : Setting} :
      IsSpaceText front → KeyText keyText name → IsSpaceText back → value valueText v →
      FieldText value (front ++ (keyText ++ (back ++ '=' :: valueText))) (name, v)

/-- The values that end with themselves, given the values in them. -/
inductive LiteralText (origin : SettingOrigin) (value : List Char → Setting → Prop) :
    List Char → Setting → Prop where
  | yes : LiteralText origin value "true".toList (.scalar origin (.bool true))
  | no : LiteralText origin value "false".toList (.scalar origin (.bool false))
  | string {t : List Char} {s : String} : StringText t s →
      LiteralText origin value t (.scalar origin (.string s))
  | char (c : Char) : LiteralText origin value ['\'', c, '\''] (.scalar origin (.char c))
  | list {inner : List Char} {vs : List Setting} : ItemsText value ']' inner vs →
      LiteralText origin value ('[' :: inner) (.list origin vs)
  | table {inner : List Char} {fields : List (String × Setting)} :
      ItemsText (FieldText value) '\x7d' inner fields →
      LiteralText origin value ('\x7b' :: inner) (.ofFields origin fields)

/-- The words that are values. -/
def words : List (List Char) :=
  ["true".toList, "false".toList]

/-- A text that is not taken for anything with quotes, brackets or words. -/
structure PlainText (t : List Char) : Prop where
  plain : ∀ c ∈ t, isPlain c
  start : ∀ c ∈ t.head?, isSpace c = false ∧ c ≠ '"' ∧ c ≠ '\''
  noWord : ∀ word ∈ words, ¬ word <+: t

/-- The texts that are values. -/
inductive ValueText (origin : SettingOrigin) : List Char → Setting → Prop where
  | literal {front t back : List Char} {v : Setting} : IsSpaceText front →
      LiteralText origin (ValueText origin) t v → IsSpaceText back →
      ValueText origin (front ++ (t ++ back)) v
  | plain {front t : List Char} : IsSpaceText front → PlainText t →
      ValueText origin (front ++ t) (.scalar origin (plain (Text.trim t)))

/-! ## How texts begin -/

variable {t rest front back : List Char} {c : Char} {keep : Char → Bool} {origin : SettingOrigin}
  {v : Setting}

/-- The characters that may stand around values. -/
def spaces : List Char :=
  [' ', '\t', '\n', '\x0c', '\r']

theorem isSpace_iff : isSpace c ↔ c ∈ spaces := by
  simp [isSpace, spaces, or_assoc]

theorem isPlain_of_isSpace (h : isSpace c) : isPlain c := by
  have hspaces : spaces.all isPlain := by decide
  exact List.all_eq_true.1 hspaces c (isSpace_iff.1 h)

/-- Whether a value may go on with a character behind its text. -/
def goesOn (c : Char) : Bool :=
  !(c == ',' || c == '\x7d' || c == ']')

theorem goesOn_of_isPlain (h : isPlain c) : goesOn c := by
  simp_all [isPlain, goesOn]

theorem goesOn_of_isSpace (h : isSpace c) : goesOn c :=
  goesOn_of_isPlain (isPlain_of_isSpace h)

theorem isSpaceText_takeWhile (text : List Char) : IsSpaceText (text.takeWhile isSpace) :=
  fun _ hc => List.mem_takeWhile_imp hc

/-- What stops characters of a kind still does so behind some spaces if these stop them too. -/
theorem IsSpaceText.stops (h : IsSpaceText back) (hspaces : spaces.any keep = false)
    (hrest : Stops keep rest) : Stops keep (back ++ rest) := by
  cases back with
  | nil => exact hrest
  | cons c back =>
      have hc : c ∈ spaces := isSpace_iff.1 (h c List.mem_cons_self)
      exact stops_cons.2 (Bool.eq_false_iff.2 (List.any_eq_false.1 hspaces c hc))

/-- A text with spaces in front begins with a space or with what is behind the spaces. -/
theorem IsSpaceText.head?_append (hfront : IsSpaceText front) (h : (front ++ t).head? = some c) :
    isSpace c ∨ t.head? = some c := by
  cases front with
  | nil => exact .inr h
  | cons x front =>
      cases h
      exact .inl (hfront c List.mem_cons_self)

theorem StringText.head? {s : String} (h : StringText t s) : t.head? = some '"' := by
  obtain ⟨body, said, rfl, -⟩ := h
  rfl

theorem KeyText.exists_cons {name : String} (h : KeyText t name) :
    ∃ c t', t = c :: t' ∧ isSpace c = false ∧ c ≠ '\x7d' := by
  rcases h with ⟨body, said, rfl, -⟩ | ⟨hne, hchars, -⟩
  · exact ⟨_, _, rfl, rfl, by decide⟩
  · obtain ⟨c, t, rfl⟩ := List.exists_cons_of_ne_nil hne
    have hother : ('\x7d' :: spaces).any isKeyChar = false := by decide
    have hc : c ∉ '\x7d' :: spaces :=
      fun hmem => List.any_eq_false.1 hother c hmem (hchars c List.mem_cons_self)
    rw [List.mem_cons, not_or, ← isSpace_iff, Bool.not_eq_true] at hc
    exact ⟨c, t, rfl, hc.2, hc.1⟩

theorem LiteralText.exists_cons {value : List Char → Setting → Prop}
    (h : LiteralText origin value t v) :
    ∃ c t', t = c :: t' ∧ isSpace c = false ∧ goesOn c := by
  cases h with
  | yes => exact ⟨_, _, rfl, rfl, rfl⟩
  | no => exact ⟨_, _, rfl, rfl, rfl⟩
  | string hs =>
      obtain ⟨body, said, rfl, -⟩ := hs
      exact ⟨_, _, rfl, rfl, rfl⟩
  | char c => exact ⟨_, _, rfl, rfl, rfl⟩
  | list => exact ⟨_, _, rfl, rfl, rfl⟩
  | table => exact ⟨_, _, rfl, rfl, rfl⟩

/-- No value begins with a character that ends one. -/
theorem ValueText.goesOn_head (h : ValueText origin t v) (hc : t.head? = some c) : goesOn c := by
  cases h with
  | literal hfront ht hback =>
      obtain ⟨x, t, rfl, -, hx⟩ := ht.exists_cons
      rcases hfront.head?_append hc with hspace | hhead
      · exact goesOn_of_isSpace hspace
      · cases hhead
        exact hx
  | plain hfront ht =>
      rcases hfront.head?_append hc with hspace | hhead
      · exact goesOn_of_isSpace hspace
      · exact goesOn_of_isPlain (ht.plain c (List.mem_of_mem_head? hhead))

/-- No field begins with the bracket behind a table. -/
theorem FieldText.head?_ne {value : List Char → Setting → Prop} {field : String × Setting}
    (h : FieldText value t field) : t.head? ≠ some '\x7d' := by
  intro hc
  cases h with
  | mk hfront hkey hback hvalue =>
      obtain ⟨x, t, rfl, -, hx⟩ := hkey.exists_cons
      rcases hfront.head?_append hc with hspace | hhead
      · cases hspace
      · cases hhead
        exact hx rfl

end JsxTidy.SettingLiteral
