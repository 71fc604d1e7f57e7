import JsxTidy.Proofs.Settings.Literals
import JsxTidy.Proofs.Text.Collapse
import JsxTidy.Settings.Environment
import JsxTidy.Settings.Load

/-!
# Values that are texts

What the value of a variable says where a text is expected. Most values are taken over as they are,
which `IsVerbatim` says of them; others lose the blanks or the quotes around them, or are no texts.
The main results are `Variable.string_setting_eq_ok_iff` and `saysText_self_iff`.
-/

namespace JsxTidy

open Setting SettingLiteral

/-- Whether a text is taken for a number, a truth value, a string or a character in quotes, a list
or a table. -/
def IsSpecial (t : List Char) : Prop :=
  NumberText t ∨ ∃ v, LiteralText .plain (ValueText .plain) t v

/-- Whether the value of a variable is a text, and is taken over as it is. -/
structure IsVerbatim (value : String) : Prop where
  trimmed : Text.IsTrimmed value.toList
  not_special : ¬ IsSpecial value.toList

/-- The text that the value of a variable says, if it is one: the value without the blanks around
it, or what stands in quotes there. -/
def SaysText (value s : String) : Prop :=
  let t := Text.trim value.toList
  ¬ IsSpecial t ∧ s = String.ofList t ∨ StringText t s ∨
    ∃ c, t = ['\'', c, '\''] ∧ s = String.singleton c

variable {t text : List Char} {value s : String} {v : Setting} {c : Char}
  {origin : SettingOrigin}

/-! ## Numbers and plain texts -/

namespace SettingLiteral

/-- A number consists of digits, signs, points and the letters of exponents. -/
theorem NumberText.mem (h : NumberText t) :
    ∀ c ∈ t, c.isDigit ∨ c ∈ ['+', '-', '.', 'e', 'E'] := by
  have hsigned : ∀ {sign digits : List Char}, IsSign sign → (∀ c ∈ digits, c.isDigit) →
      ∀ c ∈ sign ++ digits, c.isDigit ∨ c ∈ ['+', '-', '.', 'e', 'E'] := by
    intro sign digits hsign hdigits c hc
    rcases List.mem_append.1 hc with hc | hc
    · rcases hsign with rfl | rfl | rfl
      · cases hc
      · exact .inr (by simp [List.mem_singleton.1 hc])
      · exact .inr (by simp [List.mem_singleton.1 hc])
    · exact .inl (hdigits c hc)
  rcases h with ⟨sign, digits, rfl, hsign, hdigits, -⟩ | ⟨digits, rfl, hdigits, -⟩ |
    ⟨sign, whole, fraction, exponent, rfl, hsign, hdigits, hexponent⟩
  · exact hsigned (hsign.imp_right .inl) hdigits.2
  · exact hsigned (.inr (.inr rfl)) hdigits.2
  · obtain ⟨hwhole, hfraction⟩ := List.forall_mem_append.1 hdigits.2
    have hend : ∀ c ∈ exponent, c.isDigit ∨ c ∈ ['+', '-', '.', 'e', 'E'] := by
      rcases hexponent with rfl | ⟨letter, sign, digits, rfl, hletter, hsign, hdigits⟩
      · exact nofun
      · refine List.forall_mem_cons.2 ⟨.inr ?_, hsigned hsign hdigits.2⟩
        rcases hletter with rfl | rfl <;> decide
    rw [← List.append_assoc]
    refine List.forall_mem_append.2 ⟨hsigned hsign hwhole, List.forall_mem_cons.2 ⟨.inr ?_, ?_⟩⟩
    · decide
    · exact List.forall_mem_append.2 ⟨fun c hc => .inl (hfraction c hc), hend⟩

/-- A number has no quotes, brackets or words in it. -/
theorem NumberText.plainText (h : NumberText t) : PlainText t := by
  -- None of the characters that would make it something else is one that numbers consist of.
  have hmarks : ([',', '\x7b', '\x7d', '[', ']', '"', '\'', 't', 'f'] ++ spaces).any
      (fun c => c.isDigit || c ∈ ['+', '-', '.', 'e', 'E']) = false := by decide
  have hother : ∀ c ∈ t, c ∉ [',', '\x7b', '\x7d', '[', ']', '"', '\'', 't', 'f'] ++ spaces :=
    fun c hc hmark => List.any_eq_false.1 hmarks c hmark (by simpa using h.mem c hc)
  simp only [List.cons_append, List.nil_append, List.mem_cons, not_or, ← isSpace_iff] at hother
  refine ⟨fun c hc => ?_, fun c hc => ?_, fun word hword hbegins => ?_⟩
  · simp [isPlain, hother c hc]
  · simp [hother c (List.mem_of_mem_head? hc)]
  · simp only [words, List.mem_cons, List.not_mem_nil, or_false] at hword
    rcases hword with rfl | rfl
    · have ht : 't' ∈ "true".toList := by decide
      simpa using hother 't' (hbegins.subset ht)
    · have hf : 'f' ∈ "false".toList := by decide
      simpa using hother 'f' (hbegins.subset hf)

/-- Quotes hold at least as many characters as they say. -/
theorem QuotedText.length_le {said : List Char} (h : QuotedText t said) :
    said.length ≤ t.length := by
  induction h with
  | done => exact Nat.le_refl _
  | char _ _ _ ih => exact Nat.succ_le_succ ih
  | escape _ _ ih =>
      simp only [List.length_cons, List.length_append]
      omega

/-- A text that is a value with quotes, brackets or a word is no plain one. -/
theorem LiteralText.not_plainText {inner : List Char → Setting → Prop}
    (h : LiteralText origin inner t v) : ¬ PlainText t := by
  intro hplain
  cases h with
  | yes => exact hplain.noWord _ List.mem_cons_self (List.prefix_refl _)
  | no => exact hplain.noWord _ (List.mem_cons_of_mem _ List.mem_cons_self) (List.prefix_refl _)
  | string hs => exact (hplain.start _ hs.head?).2.1 rfl
  | char c => exact (hplain.start _ rfl).2.2 rfl
  | list => cases hplain.plain _ List.mem_cons_self
  | table => cases hplain.plain _ List.mem_cons_self

theorem isBlank_of_isSpace (h : isSpace c) : Text.isBlank c := by
  have hspaces : spaces.all Text.isBlank := by decide
  exact List.all_eq_true.1 hspaces c (isSpace_iff.1 h)

/-- A trimmed text that is a value has no spaces around it. -/
theorem ValueText.of_isTrimmed (h : ValueText origin text v) (htext : Text.IsTrimmed text) :
    LiteralText origin (ValueText origin) text v ∨
      PlainText text ∧ v = .scalar origin (SettingLiteral.plain text) := by
  have hfront : ∀ {front rest : List Char}, text = front ++ rest → IsSpaceText front →
      front = [] := by
    rintro (_ | ⟨c, front⟩) rest rfl hfront
    · rfl
    · exact absurd (isBlank_of_isSpace (hfront c List.mem_cons_self)) (htext.head c rfl)
  have hback : ∀ {rest back : List Char}, text = rest ++ back → IsSpaceText back → back = [] := by
    intro rest back htext' hback
    rcases List.eq_nil_or_concat back with rfl | ⟨back, c, rfl⟩
    · rfl
    · have hlast : c ∈ text.getLast? := by
        rw [htext']
        simp
      exact absurd (isBlank_of_isSpace (hback c (by simp))) (htext.last c hlast)
  cases h with
  | @literal front t back _ hspaces ht hspaces' =>
      cases hfront rfl hspaces
      cases hback (List.append_assoc [] t back).symm hspaces'
      exact .inl (by simpa using ht)
  | @plain front t hspaces ht =>
      cases hfront rfl hspaces
      rw [List.nil_append] at htext ⊢
      rw [Text.trim_of_isTrimmed htext]
      exact .inr ⟨ht, rfl⟩

/-- A value without spaces around it is one. -/
theorem LiteralText.valueText (h : LiteralText origin (ValueText origin) t v) :
    ValueText origin t v := by
  have hv : ValueText origin ([] ++ (t ++ [])) v := .literal nofun h nofun
  simpa using hv

theorem PlainText.valueText (h : PlainText t) :
    ValueText origin t (.scalar origin (SettingLiteral.plain (Text.trim t))) := by
  have hv : ValueText origin ([] ++ t) _ := .plain nofun h
  exact hv

end SettingLiteral

/-- What trimmed texts mean as strings. -/
theorem Setting.string_ofText_eq_ok_iff (htext : Text.IsTrimmed text) :
    string (ofText .plain text) = .ok s ↔
      ¬ IsSpecial text ∧ s = String.ofList text ∨ StringText text s ∨
        ∃ c, text = ['\'', c, '\''] ∧ s = String.singleton c := by
  -- A trimmed text is a value with quotes, brackets or a word, a plain text, or no value at all.
  constructor
  · intro h
    by_cases hvalue : ∃ v, ValueText .plain text v
    · obtain ⟨v, hv⟩ := hvalue
      rw [ofText_of_valueText hv] at h
      rcases hv.of_isTrimmed htext with hliteral | ⟨hplain, rfl⟩
      · cases hliteral with
        | yes | no | list | table => cases h
        | string hs =>
            cases h
            exact .inr (.inl hs)
        | char c =>
            cases h
            exact .inr (.inr ⟨c, rfl, rfl⟩)
      · have hs : SettingLiteral.plain text = .string s := by
          unfold SettingLiteral.plain at h ⊢
          split at h
          · cases h
          · cases h
          · cases h
          · cases h
            rfl
        obtain ⟨hnumber, hs⟩ := plain_eq_string_iff.1 hs
        refine .inl ⟨?_, hs⟩
        rintro (h | ⟨v, h⟩)
        · exact hnumber h
        · exact h.not_plainText hplain
    · have hnone : ∀ v, ¬ ValueText .plain text v := fun v hv => hvalue ⟨v, hv⟩
      rw [ofText_of_no_valueText hnone] at h
      cases h
      refine .inl ⟨?_, rfl⟩
      rintro (h | ⟨v, h⟩)
      · exact hnone _ h.plainText.valueText
      · exact hnone v h.valueText
  · rintro (⟨hspecial, rfl⟩ | hs | ⟨c, rfl, rfl⟩)
    · by_cases hvalue : ∃ v, ValueText .plain text v
      · obtain ⟨v, hv⟩ := hvalue
        rw [ofText_of_valueText hv]
        rcases hv.of_isTrimmed htext with hliteral | ⟨hplain, rfl⟩
        · exact absurd (.inr ⟨v, hliteral⟩) hspecial
        · rw [plain_eq_string_iff.2 ⟨fun h => hspecial (.inl h), rfl⟩]
          rfl
      · rw [ofText_of_no_valueText fun v hv => hvalue ⟨v, hv⟩]
        rfl
    · rw [ofText_of_valueText (LiteralText.string hs).valueText]
      rfl
    · rw [ofText_of_valueText (LiteralText.char c).valueText]
      rfl

theorem Variable.string_setting_eq_ok_iff {v : Variable} :
    string (v.setting .plain) = .ok s ↔ SaysText v.value s :=
  string_ofText_eq_ok_iff (Text.isTrimmed_trim _)

/-- The values that say themselves are those that are taken over as they are. -/
theorem saysText_self_iff : SaysText value value ↔ IsVerbatim value := by
  have hlength : (Text.trim value.toList).length ≤ value.toList.length :=
    (Text.trimEnd_prefix _).length_le.trans (List.dropWhile_suffix _).length_le
  constructor
  · rintro (⟨hspecial, hvalue⟩ | ⟨body, said, ht, hsaid, hvalue⟩ | ⟨c, ht, hvalue⟩)
    · have htrim : value.toList = Text.trim value.toList := by
        rw [← String.toList_ofList (l := Text.trim value.toList), ← hvalue]
      rw [← htrim] at hspecial
      exact ⟨htrim ▸ Text.isTrimmed_trim _, hspecial⟩
    · -- With quotes around it the value would be longer than itself.
      have hshort := hsaid.length_le
      rw [ht] at hlength
      rw [hvalue, String.toList_ofList] at hlength
      simp only [List.length_cons, List.length_append, List.length_nil] at hlength
      omega
    · rw [ht, hvalue] at hlength
      simp at hlength
  · rintro ⟨htrimmed, hspecial⟩
    refine .inl ?_
    rw [Text.trim_of_isTrimmed htrimmed, String.ofList_toList]
    exact ⟨hspecial, rfl⟩

instance (value s : String) : Decidable (SaysText value s) :=
  decidable_of_iff ((string (Variable.setting .plain ⟨"", value⟩)).toOption = some s) <| by
    rw [← Variable.string_setting_eq_ok_iff (v := ⟨"", value⟩)]
    cases string (Variable.setting .plain ⟨"", value⟩) <;> simp [Except.toOption]

instance (value : String) : Decidable (IsVerbatim value) :=
  decidable_of_iff _ saysText_self_iff

end JsxTidy
