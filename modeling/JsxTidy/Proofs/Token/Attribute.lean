import JsxTidy.Proofs.Syntax.Legible
import JsxTidy.Token.Lexer
import Mathlib.Data.List.TakeWhile

/-!
# Strings as the values of attributes

Where the value of an attribute is expected, a string is read up to the next quote of its kind, and
so it lacks quotes of this kind. No other token that can stand there is a string.
-/

namespace JsxTidy

/-- Whether a token is a string. -/
def Lexeme.isString : Lexeme → Bool
  | .string .. => true
  | _ => false

/-- Whether a token can be written as the value of an attribute if it is a string. -/
def Lexeme.IsQuotable (l : Lexeme) : Prop :=
  ∀ value raw lone, l = .string value raw lone → Text.isQuotable value.toList

/-- Only a string can hold quotes. -/
theorem Lexeme.IsQuotable.of_not_isString {l : Lexeme} (h : ¬ l.isString) : l.IsQuotable := by
  rintro value raw lone rfl
  exact absurd rfl h

/-- A text that lacks the quotes of one kind can be written between them. -/
theorem Text.isQuotable_of_notMem {text : List Char} {quote : Char}
    (hquote : quote = '"' ∨ quote = '\'') (h : quote ∉ text) : isQuotable text := by
  rcases hquote with rfl | rfl <;> simp [isQuotable, h]

/-! ## Numbers -/

namespace NumberToken

variable {start cursor stop : Cursor} {problems : List Diagnostic}

/-- No number is a string, whatever form it has. -/
theorem not_isString_finish {lexeme : String → Lexeme} (h : ∀ raw, ¬ (lexeme raw).isString) :
    ¬ (finish start stop problems lexeme).lexeme.isString := by
  unfold finish
  extract_lets runsOn
  split
  · exact Bool.false_ne_true
  · exact h _

/-- No number is a string, nor is what runs into a name. -/
theorem not_isString_number {form : NumberForm} :
    ¬ (finish start stop problems (.number form)).lexeme.isString :=
  not_isString_finish fun _ => Bool.false_ne_true

theorem not_isString_bigInt {form : NumberForm} :
    ¬ (finish start stop problems (.bigInt form)).lexeme.isString :=
  not_isString_finish fun _ => Bool.false_ne_true

/-- So it is with numbers in other bases. -/
theorem not_isString_inBase {form : NumberForm} {digit : Char → Bool} :
    ¬ (inBase start form digit).lexeme.isString := by
  unfold inBase
  dsimp only
  split
  · split
    · exact not_isString_bigInt
    · exact not_isString_number
  · exact Bool.false_ne_true

theorem not_isString_afterPoint : ¬ (afterPoint start cursor problems).lexeme.isString := by
  unfold afterPoint
  split <;> exact not_isString_number

theorem not_isString_afterWhole : ¬ (afterWhole start cursor problems).lexeme.isString := by
  unfold afterWhole
  split
  · exact not_isString_afterPoint
  · exact not_isString_bigInt
  · split <;> exact not_isString_number

theorem not_isString_afterZeros : ¬ (afterZeros start cursor).lexeme.isString := by
  unfold afterZeros
  dsimp only
  split
  · exact not_isString_number
  · split
    · exact not_isString_afterPoint
    · exact not_isString_number
    · exact not_isString_number

theorem not_isString_zero : ¬ (zero start).lexeme.isString := by
  unfold zero
  dsimp only
  split
  iterate 6 exact not_isString_inBase
  · split
    · exact not_isString_afterZeros
    · split
      · exact not_isString_number
      · exact not_isString_afterWhole
  · exact not_isString_number

/-- However a number begins, it is no string. -/
theorem not_isString_read : ¬ (read start).lexeme.isString := by
  unfold read
  split
  · exact not_isString_zero
  · exact not_isString_afterWhole

theorem not_isString_fraction : ¬ (fraction start).lexeme.isString :=
  not_isString_afterPoint

end NumberToken

/-! ## All tokens -/

namespace Lexer

variable {cursor start : Cursor} {quote : Char} {fuel : Nat}

/-- Going on never leads back. -/
theorem le_dropWhileFrom (keep : Char → Bool) (offset : Nat) (text : List Char) :
    offset ≤ (Cursor.dropWhileFrom keep offset text).offset := by
  induction text generalizing offset with
  | nil => exact Nat.le_refl _
  | cons c rest ih =>
      rw [Cursor.dropWhileFrom]
      split
      · have := ih (offset + c.utf8Size)
        omega
      · exact Nat.le_refl _

/-- The text before the first place where a test fails is as long as the test passes. -/
theorem takeBytes_dropWhileFrom (keep : Char → Bool) (offset : Nat) (text : List Char) :
    Text.takeBytes ((Cursor.dropWhileFrom keep offset text).offset - offset) text =
      text.takeWhile keep := by
  induction text generalizing offset with
  | nil => rfl
  | cons c rest ih =>
      have hpos := c.utf8Size_pos
      rw [Cursor.dropWhileFrom, Text.takeBytes]
      by_cases hkeep : keep c
      · have hle := le_dropWhileFrom keep (offset + c.utf8Size) rest
        rw [if_pos hkeep, if_pos (by omega), List.takeWhile_cons_of_pos hkeep, Nat.sub_sub, ih]
      · have hzero : offset - offset < c.utf8Size := by omega
        rw [if_neg hkeep, if_neg (Nat.not_le.2 hzero), List.takeWhile_cons_of_neg hkeep]

/-- A piece of a template is no string. -/
theorem not_isString_readQuasi {opens : Bool} {inside : Cursor} {codes? : Option (List Nat)} :
    ¬ (readQuasi opens start inside fuel cursor codes?).lexeme.isString := by
  induction fuel generalizing cursor codes? with
  | zero => exact Bool.false_ne_true
  | succ fuel ih =>
      unfold readQuasi
      dsimp only
      split
      · exact Bool.false_ne_true
      · exact Bool.false_ne_true
      · exact Bool.false_ne_true
      · exact ih
      · exact ih
      · split
        · exact ih
        · exact ih
        · exact Bool.false_ne_true
      · exact ih

/-- The text of an attribute lacks the quotes between which it stands. -/
theorem isQuotable_attributeText (hquote : quote = '"' ∨ quote = '\'') :
    (attributeText quote start).lexeme.IsQuotable := by
  unfold attributeText
  dsimp only
  split
  · exact .of_not_isString Bool.false_ne_true
  · rintro value raw lone hvalue
    cases hvalue
    refine Text.isQuotable_of_notMem hquote ?_
    rw [Cursor.stringTo, String.toList_ofList, Cursor.textTo, Cursor.dropWhile,
      takeBytes_dropWhileFrom]
    intro hmem
    have hkeep := List.mem_takeWhile_imp hmem
    simp at hkeep

/-- So each token that is read as the value of an attribute can be quoted. -/
theorem isQuotable_lexemeAt : (lexemeAt fuel true cursor).lexeme.IsQuotable := by
  have hno : ∀ {l : Lexeme}, l.isString = false → l.IsQuotable := fun h =>
    .of_not_isString (by simp [h])
  unfold lexemeAt
  split
  · exact hno rfl
  · unfold privateName
    split
    · exact hno rfl
    · split <;> exact hno rfl
  · exact .of_not_isString not_isString_readQuasi
  · split
    · split <;> exact hno rfl
    · exact hno rfl
  · extract_lets digitNext
    split
    · rename_i hquote
      rw [if_pos rfl]
      exact isQuotable_attributeText (by simpa using hquote)
    · split
      · exact .of_not_isString NumberToken.not_isString_read
      · split
        · exact .of_not_isString NumberToken.not_isString_fraction
        · split
          · exact hno rfl
          · split
            · rename_i result hsymbol
              obtain ⟨symbol, -, rfl⟩ := Option.map_eq_some_iff.1 hsymbol
              exact hno rfl
            · exact hno rfl

/-- A string that is read where the value of an attribute is expected can be written as one. -/
theorem isQuotable_next (log : CommentLog) :
    (next fuel true cursor log).token.lexeme.IsQuotable := by
  unfold next
  split
  · exact isQuotable_lexemeAt
  · exact .of_not_isString Bool.false_ne_true

end Lexer

end JsxTidy
