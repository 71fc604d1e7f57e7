import JsxTidy.Json.Writer
import JsxTidy.Proofs.Json.Strings

/-!
# What is written

The texts that are written for strings, arrays and objects are texts of the grammar. The main
results are `stringText_text`, `arrayText_text` and `objectText_text`.
-/

namespace JsxTidy.Json

/-! ## Strings -/

theorem hexDigit?_digitChar : ∀ n < 16, Reader.hexDigit? (Nat.digitChar n) = some n := by
  decide

/-- Two digits of base sixteen behind two zeros. -/
theorem hexText_hexPair {n : Nat} (h : n < 256) : HexText ('0' :: '0' :: hexPair n) n :=
  ⟨'0', '0', _, _, 0, 0, n / 16, n % 16, rfl, rfl, rfl, hexDigit?_digitChar _ (by omega),
    hexDigit?_digitChar _ (by omega), by omega⟩

/-- A character is written as itself or as an escape of it. -/
theorem charText_escapedChar (c : Char) : CharText (escapedChar c) c := by
  unfold escapedChar
  split_ifs with hquote hslash hback hfeed hline hreturn htab hcontrol
  · subst hquote
    exact .escape (.short (by simp [shortEscapes]))
  · subst hslash
    exact .escape (.short (by simp [shortEscapes]))
  · subst hback
    exact .escape (.short (by simp [shortEscapes]))
  · subst hfeed
    exact .escape (.short (by simp [shortEscapes]))
  · subst hline
    exact .escape (.short (by simp [shortEscapes]))
  · subst hreturn
    exact .escape (.short (by simp [shortEscapes]))
  · subst htab
    exact .escape (.short (by simp [shortEscapes]))
  · have hsmall : c.toNat < 32 := hcontrol
    have hunit := EscapeText.unit (hexText_hexPair (by omega : c.toNat < 256))
      (by rw [IsSurrogate]; omega)
    rw [Char.ofNat_toNat] at hunit
    exact .escape hunit
  · exact .plain ⟨hquote, hslash, hcontrol⟩

/-- A string that is written says what was to be written. -/
theorem stringText_stringText (s : String) : StringText (stringText s.toList) s := by
  refine ⟨s.toList.map escapedChar, ?_, by rw [stringText, List.flatMap]⟩
  rw [List.forall₂_map_left_iff, List.forall₂_same]
  exact fun c _ => charText_escapedChar c

theorem stringText_text (s : String) : StringText (text (.string s)) s := by
  rw [text]
  exact stringText_stringText s

/-! ## Arrays and objects -/

theorem exists_itemsText (items : List Json) :
    ∃ t, itemsText items = t ++ [']'] ∧ ItemsText Eq false t (items.map text) := by
  induction items with
  | nil => exact ⟨[], rfl, .done isBlankText_nil⟩
  | cons item items ih =>
      obtain ⟨t, heq, ht⟩ := ih
      refine ⟨',' :: (text item ++ t), by simp [itemsText, heq], ?_⟩
      exact .next rfl ht

theorem arrayText_text (items : List Json) : ArrayText (text (.array items)) (items.map text) := by
  cases items with
  | nil => exact ⟨[], by simp [text], .done isBlankText_nil⟩
  | cons item items =>
      obtain ⟨t, heq, ht⟩ := exists_itemsText items
      exact ⟨text item ++ t, by simp [text, heq], .first rfl ht⟩

theorem fieldText_text (field : String × Json) :
    FieldText StringText (stringText field.1.toList ++ ':' :: text field.2)
      (field.1, text field.2) :=
  ⟨_, [], [], rfl, stringText_stringText field.1, isBlankText_nil, isBlankText_nil⟩

theorem exists_fieldsText (fields : List (String × Json)) :
    ∃ t, fieldsText fields = t ++ ['\x7d'] ∧ ItemsText (FieldText StringText) false t
      (fields.map fun field => (field.1, text field.2)) := by
  induction fields with
  | nil => exact ⟨[], rfl, .done isBlankText_nil⟩
  | cons field fields ih =>
      obtain ⟨t, heq, ht⟩ := ih
      refine ⟨',' :: (stringText field.1.toList ++ ':' :: text field.2 ++ t), ?_, ?_⟩
      · simp [fieldsText, heq]
      · exact .next (fieldText_text field) ht

theorem objectText_text (fields : List (String × Json)) :
    ObjectText StringText (text (.object fields))
      (fields.map fun field => (field.1, text field.2)) := by
  cases fields with
  | nil => exact ⟨[], by simp [text], .done isBlankText_nil⟩
  | cons field fields =>
      obtain ⟨t, heq, ht⟩ := exists_fieldsText fields
      exact ⟨stringText field.1.toList ++ ':' :: text field.2 ++ t, by simp [text, heq],
        .first (fieldText_text field) ht⟩

end JsxTidy.Json
