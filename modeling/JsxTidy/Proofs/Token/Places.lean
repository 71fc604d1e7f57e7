import JsxTidy.Proofs.Text.Place
import JsxTidy.Token.Lexer

/-!
# Where tokens stand

Reading a token leads from one place of a text to another: what is passed is the text between them,
and the offset counts its bytes. A word takes up text, and one without an escape is spelled by the
text that is passed, as far as it can be part of a name.
-/

namespace JsxTidy

open Text

variable {origin start cursor stop : Cursor} {c : Char} {digit keep : Char → Bool}

/-! ## Cursors -/

/-- Whether a cursor comes to stand at another one by passing a part of its text. -/
def Cursor.LeadsTo (start stop : Cursor) : Prop :=
  ∃ passed, start.rest = passed ++ stop.rest ∧ stop.offset = start.offset + byteLength passed

namespace Cursor.LeadsTo

/-- Nothing has to be passed. -/
theorem refl (cursor : Cursor) : cursor.LeadsTo cursor :=
  ⟨[], rfl, rfl⟩

/-- What is passed on the way to a place and from there on is passed one behind the other. -/
theorem trans (h : start.LeadsTo cursor) (h' : cursor.LeadsTo stop) : start.LeadsTo stop := by
  obtain ⟨front, hfront, hoffset⟩ := h
  obtain ⟨behind, hbehind, hoffset'⟩ := h'
  refine ⟨front ++ behind, by rw [hfront, hbehind, List.append_assoc], ?_⟩
  rw [hoffset', hoffset, byteLength_append, Nat.add_assoc]

/-- Reading never goes back. -/
theorem offset_le (h : start.LeadsTo stop) : start.offset ≤ stop.offset := by
  obtain ⟨passed, -, hoffset⟩ := h
  omega

/-- The text that is left never grows. -/
theorem length_le (h : start.LeadsTo stop) : stop.rest.length ≤ start.rest.length := by
  obtain ⟨passed, hrest, -⟩ := h
  rw [hrest, List.length_append]
  omega

/-- A character is passed. -/
theorem cons (offset : Nat) (c : Char) (rest : List Char) :
    (⟨offset, c :: rest⟩ : Cursor).LeadsTo ⟨offset + c.utf8Size, rest⟩ :=
  ⟨[c], rfl, rfl⟩

/-- A character of one byte is passed. -/
theorem cons_one (offset : Nat) (rest : List Char) (hc : c.utf8Size = 1) :
    (⟨offset, c :: rest⟩ : Cursor).LeadsTo ⟨offset + 1, rest⟩ :=
  hc ▸ cons offset c rest

/-- One character is passed, or none at the end of the text. -/
theorem next (cursor : Cursor) : cursor.LeadsTo cursor.next := by
  obtain ⟨offset, rest⟩ := cursor
  cases rest with
  | nil => exact refl _
  | cons c rest => exact cons offset c rest

/-- So it is with any number of characters. -/
theorem skip (count : Nat) (cursor : Cursor) : cursor.LeadsTo (cursor.skip count) := by
  induction count generalizing cursor with
  | zero => exact refl cursor
  | succ count ih => exact (next cursor).trans (ih cursor.next)

/-- Characters that are alike are passed one by one. -/
theorem dropWhile (keep : Char → Bool) (cursor : Cursor) :
    cursor.LeadsTo (cursor.dropWhile keep) := by
  obtain ⟨offset, rest⟩ := cursor
  rw [Cursor.dropWhile]
  induction rest generalizing offset with
  | nil => exact refl _
  | cons c rest ih =>
      rw [dropWhileFrom]
      split
      · exact (cons offset c rest).trans (ih _)
      · exact refl _

/-- A way past the next character passes at least one byte. -/
theorem offset_lt (hrest : start.rest ≠ []) (h : start.next.LeadsTo stop) :
    start.offset < stop.offset := by
  obtain ⟨offset, rest⟩ := start
  cases rest with
  | nil => exact absurd rfl hrest
  | cons c rest =>
      have hle : offset + c.utf8Size ≤ stop.offset := h.offset_le
      have hpos := c.utf8Size_pos
      show offset < stop.offset
      omega

/-- The text between two cursors takes up as many bytes as their offsets say. -/
theorem offset_eq (h : start.LeadsTo stop) :
    stop.offset = start.offset + byteLength (start.textTo stop) := by
  obtain ⟨passed, hrest, hoffset⟩ := h
  have hbytes : stop.offset - start.offset = byteLength passed := by omega
  rw [Cursor.textTo, hbytes, takeBytes_byteLength ⟨stop.rest, hrest.symm⟩]
  exact hoffset

/-- What a place of a text has before it and behind it. -/
theorem exists_eq {source : List Char} (h : (⟨0, source⟩ : Cursor).LeadsTo cursor) :
    ∃ passed, source = passed ++ cursor.rest ∧ cursor.offset = byteLength passed := by
  obtain ⟨passed, hrest, hoffset⟩ := h
  exact ⟨passed, hrest, by rw [hoffset, Nat.zero_add]⟩

end Cursor.LeadsTo

/-! ## Escapes -/

namespace Escape

/-- A hexadecimal digit takes up one byte. -/
theorem utf8Size_of_hexValue? {value : Nat} (h : hexValue? c = some value) : c.utf8Size = 1 := by
  rw [Char.utf8Size_eq_one_iff]
  unfold hexValue? at h
  split at h
  · rename_i hdigit
    simp only [Char.isDigit, Bool.and_eq_true, decide_eq_true_eq] at hdigit
    exact Nat.le_trans hdigit.2 (by decide)
  · split at h
    · rename_i hlower
      exact Nat.le_trans hlower.2 (by decide)
    · split at h
      · rename_i hupper
        exact Nat.le_trans hupper.2 (by decide)
      · cases h

/-- Each digit moves the place by one byte, which is what the reader adds up. -/
theorem leads_hexDigits (count value : Nat) (cursor : Cursor) :
    cursor.LeadsTo (hexDigits count value cursor).2 := by
  induction count generalizing value cursor with
  | zero => exact .refl cursor
  | succ count ih =>
      rw [hexDigits]
      split
      · exact (Cursor.LeadsTo.next cursor).trans (ih _ _)
      · exact .refl cursor

/-- The digits of an escape in braces are passed up to where the escape ends or fails. -/
theorem leads_codePointFrom (value offset : Nat) (text : List Char) :
    (⟨offset, text⟩ : Cursor).LeadsTo (codePointFrom value offset text).2 := by
  induction text generalizing value offset with
  | nil => exact .refl _
  | cons c rest ih =>
      rw [codePointFrom]
      split
      · rename_i digit hdigit
        have hpass := Cursor.LeadsTo.cons_one offset rest (utf8Size_of_hexValue? hdigit)
        split
        · exact hpass.trans (ih _ _)
        · exact hpass
      · exact .refl _

/-- An escape in braces begins behind its brace. -/
theorem leads_braced (cursor : Cursor) : cursor.LeadsTo (braced cursor).2 := by
  unfold braced
  split
  · exact .refl cursor
  · rename_i first _
    have hdigits := (Cursor.LeadsTo.next cursor).trans
      (leads_codePointFrom first cursor.next.offset cursor.next.rest)
    split
    · rename_i value stop hstop
      rw [hstop] at hdigits
      split
      · exact hdigits.trans (.next stop)
      · exact hdigits
    · rename_i stop hstop
      rw [hstop] at hdigits
      exact hdigits

/-- An escape of four digits may be one half of a pair, behind which the other half is passed. -/
theorem leads_quad (cursor : Cursor) : cursor.LeadsTo (quad cursor).2 := by
  unfold quad
  have hfirst := leads_hexDigits 4 0 cursor
  split
  · rename_i stop hstop
    rw [hstop] at hfirst
    exact hfirst
  · rename_i high stop hstop
    rw [hstop] at hfirst
    have hsecond := (hfirst.trans (.skip 2 stop)).trans (leads_hexDigits 4 0 (stop.skip 2))
    split
    · split
      · rename_i low last hlast
        rw [hlast] at hsecond
        split
        · exact hsecond
        · exact hfirst
      · rename_i last hlast
        rw [hlast] at hsecond
        exact hsecond
    · exact hfirst

/-- An escape of either form passes its own text. -/
theorem leads_unicode (cursor : Cursor) : cursor.LeadsTo (unicode cursor).2 := by
  unfold unicode
  split
  · exact (Cursor.LeadsTo.next cursor).trans (leads_braced _)
  · exact leads_quad cursor

/-- The octal digits of an escape take up one byte each. -/
theorem leads_octalDigits (count value : Nat) (cursor : Cursor) :
    cursor.LeadsTo (octalDigits count value cursor).2 := by
  induction count generalizing value cursor with
  | zero => exact .refl cursor
  | succ count ih =>
      rw [octalDigits]
      split
      · exact (Cursor.LeadsTo.next cursor).trans (ih _ _)
      · exact .refl cursor

/-- What an escape stands for makes no difference to where it ends. -/
theorem ofCode_snd (found : Option Nat × Cursor) : (ofCode found).2 = found.2 := by
  obtain ⟨code?, stop⟩ := found
  cases code? <;> rfl

/-- Whatever stands behind the backslash, an escape ends somewhere behind it. -/
theorem leads_read (inTemplate : Bool) (cursor : Cursor) :
    cursor.LeadsTo (read inTemplate cursor).2 := by
  have hnext := Cursor.LeadsTo.next cursor
  unfold read
  split
  · exact .refl cursor
  · extract_lets after isDigitNext
    split
    case h_4 =>
      show cursor.LeadsTo (if after.char? == some '\n' then after.next else after)
      split
      · exact hnext.trans (.next _)
      · exact hnext
    case h_11 =>
      rw [ofCode_snd]
      exact hnext.trans (leads_hexDigits 2 0 _)
    case h_12 =>
      rw [ofCode_snd]
      exact hnext.trans (leads_unicode _)
    case h_13 =>
      split
      · exact hnext
      · split
        · exact hnext
        · split
          · exact hnext.trans (leads_octalDigits _ _ _)
          · exact hnext
    all_goals exact hnext

end Escape

/-! ## Numbers -/

namespace NumberToken

variable {problems : List Diagnostic} {result : Result}

/-- Whether a number is read from a cursor on: it is no word, whatever is wrong with it. -/
structure Result.Fits (start : Cursor) (result : Result) : Prop where
  leads : start.LeadsTo result.stop
  notWord : ∀ name, result.lexeme ≠ .word name

/-- A decimal digit takes up one byte. -/
theorem utf8Size_of_isDigit (h : c.isDigit) : c.utf8Size = 1 := by
  simp only [Char.isDigit, Bool.and_eq_true, decide_eq_true_eq] at h
  exact Char.utf8Size_eq_one_iff.2 (Nat.le_trans h.2 (by decide))

/-- Digits are passed with the underscores between them, which take up one byte, too. -/
theorem leads_moreDigitsFrom (hdigit : ∀ c, digit c → c.utf8Size = 1) (offset : Nat)
    (text : List Char) :
    (⟨offset, text⟩ : Cursor).LeadsTo (moreDigitsFrom digit offset text).1 := by
  have hline : ∀ offset rest, (⟨offset, '_' :: rest⟩ : Cursor).LeadsTo ⟨offset + 1, rest⟩ :=
    fun offset rest => .cons_one offset rest rfl
  fun_induction moreDigitsFrom digit offset text with
  | case1 offset c rest hc ih =>
      exact ((hline offset (c :: rest)).trans (.cons_one (offset + 1) rest (hdigit c hc))).trans ih
  | case2 offset c rest hc => exact hline offset (c :: rest)
  | case3 offset => exact hline offset []
  | case4 offset c rest hpair hsingle hc ih =>
      exact (Cursor.LeadsTo.cons_one offset rest (hdigit c hc)).trans ih
  | case5 => exact .refl _
  | case6 => exact .refl _

/-- The same from a cursor on. -/
theorem leads_moreDigits (hdigit : ∀ c, digit c → c.utf8Size = 1) (cursor : Cursor) :
    cursor.LeadsTo (moreDigits digit cursor).1 :=
  leads_moreDigitsFrom hdigit cursor.offset cursor.rest

/-- One or more digits lead to their end. Where there is none, nothing is passed. -/
theorem leads_digits (hdigit : ∀ c, digit c → c.utf8Size = 1) (cursor : Cursor) :
    cursor.LeadsTo (digits digit cursor).1 := by
  unfold digits
  split
  · split
    · exact (Cursor.LeadsTo.next cursor).trans (leads_moreDigits hdigit _)
    · exact .refl cursor
  · exact .refl cursor

/-- There may be no digit at all. -/
theorem leads_anyDigits (hdigit : ∀ c, digit c → c.utf8Size = 1) (cursor : Cursor) :
    cursor.LeadsTo (anyDigits digit cursor).1 := by
  unfold anyDigits
  split
  · split
    · exact (Cursor.LeadsTo.next cursor).trans (leads_moreDigits hdigit _)
    · exact .refl cursor
  · exact .refl cursor

/-- An exponent has a letter, perhaps a sign, and digits. -/
theorem leads_exponent (cursor : Cursor) : cursor.LeadsTo (exponent cursor).2.1 := by
  have hdigits := leads_digits (fun _ => utf8Size_of_isDigit)
  unfold exponent
  split
  · exact (Cursor.LeadsTo.next cursor).trans (hdigits _)
  · exact (Cursor.LeadsTo.next cursor).trans (hdigits _)
  · exact hdigits cursor

/-- Where a number goes on with an exponent, it ends behind the exponent. -/
theorem leads_exponent? {form : NumberForm} (h : exponent? cursor = some (form, stop, problems)) :
    cursor.LeadsTo stop := by
  have hexponent := (Cursor.LeadsTo.next cursor).trans (leads_exponent cursor.next)
  unfold exponent? at h
  split at h
  · rw [Option.some_inj.1 h] at hexponent
    exact hexponent
  · rw [Option.some_inj.1 h] at hexponent
    exact hexponent
  · cases h

/-- A number ends where its digits do, or behind the name that it runs into. -/
theorem fits_finish {lexeme : String → Lexeme} (h : start.LeadsTo stop)
    (hword : ∀ raw name, lexeme raw ≠ .word name) :
    (finish start stop problems lexeme).Fits start := by
  unfold finish
  extract_lets runsOn
  split
  · exact ⟨(h.trans (.next stop)).trans (.dropWhile _ _), fun _ => Lexeme.noConfusion⟩
  · exact ⟨h, hword _⟩

/-- No number is a word. -/
theorem fits_number {form : NumberForm} (h : start.LeadsTo stop) :
    (finish start stop problems (.number form)).Fits start :=
  fits_finish h fun _ _ => Lexeme.noConfusion

/-- Nor is an integer of any size. -/
theorem fits_bigInt {form : NumberForm} (h : start.LeadsTo stop) :
    (finish start stop problems (.bigInt form)).Fits start :=
  fits_finish h fun _ _ => Lexeme.noConfusion

/-- The digits of another base stand behind two characters. -/
theorem fits_inBase (form : NumberForm) (hdigit : ∀ c, digit c → c.utf8Size = 1) (start : Cursor) :
    (inBase start form digit).Fits start := by
  have hdigits := (Cursor.LeadsTo.skip 2 start).trans (leads_digits hdigit (start.skip 2))
  unfold inBase
  dsimp only
  split
  · split
    · exact fits_bigInt (hdigits.trans (.next _))
    · exact fits_number hdigits
  · exact ⟨hdigits, fun _ => Lexeme.noConfusion⟩

/-- Behind its point, a number may have digits and an exponent. -/
theorem fits_afterPoint (h : start.LeadsTo cursor) :
    (afterPoint start cursor problems).Fits start := by
  unfold afterPoint
  split
  · rename_i heq
    exact fits_number (h.trans (leads_exponent? heq))
  · exact fits_number h

/-- A number may begin with its point. -/
theorem fits_fraction (start : Cursor) : (fraction start).Fits start :=
  fits_afterPoint ((Cursor.LeadsTo.next start).trans
    (leads_digits (fun _ => utf8Size_of_isDigit) start.next))

/-- Behind its whole part, it may have a point, an exponent, or the mark of an integer. -/
theorem fits_afterWhole (h : start.LeadsTo cursor) :
    (afterWhole start cursor problems).Fits start := by
  have hnext := h.trans (.next cursor)
  unfold afterWhole
  split
  · exact fits_afterPoint (hnext.trans (leads_anyDigits (fun _ => utf8Size_of_isDigit) _))
  · exact fits_bigInt hnext
  · split
    · rename_i heq
      exact fits_number (h.trans (leads_exponent? heq))
    · exact fits_number h

/-- Digits behind a zero are read in the same way. -/
theorem fits_afterZeros (h : start.LeadsTo cursor) : (afterZeros start cursor).Fits start := by
  have hzeros := h.trans (.dropWhile Char.isDigit cursor)
  have hnext := hzeros.trans (.next _)
  unfold afterZeros
  dsimp only
  split
  · exact fits_number hzeros
  · split
    · exact fits_afterPoint (hnext.trans (leads_anyDigits (fun _ => utf8Size_of_isDigit) _))
    · exact fits_number (hnext.trans (leads_exponent _))
    · exact fits_number hzeros

/-- A character up to a letter is written in one byte. -/
theorem utf8Size_of_le {last : Char} (hlast : last.val ≤ 127) (h : c ≤ last) : c.utf8Size = 1 :=
  Char.utf8Size_eq_one_iff.2 (Nat.le_trans h hlast)

/-- Behind a zero stands the letter of a base, or the number goes on. -/
theorem fits_zero (start : Cursor) : (zero start).Fits start := by
  have hnext := Cursor.LeadsTo.next start
  have hbinary : ∀ c : Char, (c == '0' || c == '1') → c.utf8Size = 1 := by
    intro c hc
    rcases Bool.or_eq_true_iff.1 hc with hc | hc <;> rw [beq_iff_eq.1 hc] <;> rfl
  have hoctal : ∀ c : Char, (decide ('0' ≤ c) && decide (c ≤ '7')) → c.utf8Size = 1 := by
    intro c hc
    simp only [Bool.and_eq_true, decide_eq_true_eq] at hc
    exact utf8Size_of_le (by decide) hc.2
  have hhexadecimal : ∀ c : Char, (c.isDigit || (decide ('a' ≤ c) && decide (c ≤ 'f')) ||
      (decide ('A' ≤ c) && decide (c ≤ 'F'))) → c.utf8Size = 1 := by
    intro c hc
    simp only [Bool.or_eq_true, Bool.and_eq_true, decide_eq_true_eq] at hc
    obtain (hc | hc) | hc := hc
    · exact utf8Size_of_isDigit hc
    · exact utf8Size_of_le (by decide) hc.2
    · exact utf8Size_of_le (by decide) hc.2
  unfold zero
  dsimp only
  split
  iterate 2 exact fits_inBase _ hbinary start
  iterate 2 exact fits_inBase _ hoctal start
  iterate 2 exact fits_inBase _ hhexadecimal start
  · split
    · exact fits_afterZeros hnext
    · split
      · exact fits_number hnext
      · exact fits_afterWhole hnext
  · exact fits_number hnext

/-- However a number begins, its text stands from its start on. -/
theorem fits_read (start : Cursor) : (read start).Fits start := by
  unfold read
  split
  · exact fits_zero start
  · exact fits_afterWhole ((Cursor.LeadsTo.next start).trans
      (leads_moreDigits (fun _ => utf8Size_of_isDigit) start.next))

end NumberToken

/-! ## Words -/

namespace Lexer

variable {fuel : Nat} {state : NameState} {result : Result} {reading : Reading} {log : CommentLog}

/-- Whether a word may begin with a character: as part of its name, or with an escape. -/
def opensWord (c : Char) : Bool :=
  isIdentifierStart c || c == '\\'

/-- What can begin a name can stand in it. -/
theorem isIdentifierPart_of_isIdentifierStart (h : isIdentifierStart c) : isIdentifierPart c := by
  unfold isIdentifierStart at h
  unfold isIdentifierPart
  split at h
  · rename_i hascii
    rw [if_pos hascii]
    simp only [Bool.or_eq_true] at h ⊢
    refine h.imp_left (Or.imp_left fun halpha => ?_)
    simp [Char.isAlphanum, halpha]
  · rename_i hascii
    rw [if_neg hascii]
    simp [h]

/-- An escape in a name leads behind itself, also where it stands for no part of a name. -/
theorem leads_nameEscape (isStart : Bool) (cursor : Cursor) :
    cursor.LeadsTo (nameEscape isStart cursor).2.1 := by
  have hnext := Cursor.LeadsTo.next cursor
  unfold nameEscape
  extract_lets wrong after
  split
  · exact hnext
  · have hstop : ∀ found : Option Nat × Cursor,
        (found = if after.char? == some '\x7b' then Escape.braced after.next
          else Escape.hexDigits 4 0 after) → cursor.LeadsTo found.2 := by
      rintro found rfl
      split
      · exact (hnext.trans (.next after)).trans (Escape.leads_braced _)
      · exact hnext.trans (Escape.leads_hexDigits 4 0 after)
    generalize hfound : (if after.char? == some '\x7b' then Escape.braced after.next
      else Escape.hexDigits 4 0 after) = found
    have hleads := hstop found hfound.symm
    obtain ⟨code?, stop⟩ := found
    dsimp only
    split
    · exact hleads
    · split
      · exact hleads
      · split
        · exact hleads
        · exact hleads

/-- One step of reading a name: it ends, reads an escape or takes a character over. -/
theorem readName_succ (fuel : Nat) (cursor : Cursor) (state : NameState) :
    ((∀ c ∈ cursor.char?, isIdentifierPart c = false ∧ c ≠ '\\') ∧
        readName (fuel + 1) cursor state = (cursor, state)) ∨
      (cursor.char? = some '\\' ∧ ∃ escape, escape.escaped = true ∧
        readName (fuel + 1) cursor state =
          readName fuel (nameEscape state.characters.isEmpty cursor.next).2.1 escape) ∨
      ∃ c, cursor.char? = some c ∧ isIdentifierPart c = true ∧
        readName (fuel + 1) cursor state =
          readName fuel cursor.next { state with characters := c :: state.characters } := by
  rw [readName]
  split
  · rename_i hnone
    refine .inl ⟨fun c hc => ?_, rfl⟩
    rw [hnone] at hc
    cases hc
  · rename_i hc
    exact .inr (.inl ⟨hc, _, rfl, rfl⟩)
  · rename_i c hescape hc
    split
    · rename_i hpart
      exact .inr (.inr ⟨c, hc, hpart, rfl⟩)
    · rename_i hpart
      refine .inl ⟨fun d hd => ?_, rfl⟩
      cases hc.symm.trans hd
      exact ⟨Bool.eq_false_iff.2 hpart, hescape⟩

/-- A name leads to where it ends, whichever of its characters are escapes. -/
theorem leads_readName (fuel : Nat) (cursor : Cursor) (state : NameState) :
    cursor.LeadsTo (readName fuel cursor state).1 := by
  induction fuel generalizing cursor state with
  | zero => exact .refl cursor
  | succ fuel ih =>
      have hnext := Cursor.LeadsTo.next cursor
      obtain ⟨-, hread⟩ | ⟨-, escape, -, hread⟩ | ⟨c, -, -, hread⟩ :=
        readName_succ fuel cursor state
      all_goals rw [hread]
      · exact .refl cursor
      · exact (hnext.trans (leads_nameEscape _ _)).trans (ih _ _)
      · exact hnext.trans (ih _ _)

/-- Reading a name passes the character that it begins with. -/
theorem passes_readName (h : cursor.char? = some c) (hopens : opensWord c) :
    cursor.next.LeadsTo (readName (fuel + 1) cursor state).1 := by
  obtain ⟨hstops, -⟩ | ⟨-, escape, -, hread⟩ | ⟨_, -, -, hread⟩ :=
    readName_succ fuel cursor state
  · obtain ⟨hpart, hescape⟩ := hstops c h
    rcases Bool.or_eq_true_iff.1 hopens with hstart | hbackslash
    · rw [isIdentifierPart_of_isIdentifierStart hstart] at hpart
      cases hpart
    · exact absurd (beq_iff_eq.1 hbackslash) hescape
  · rw [hread]
    exact (leads_nameEscape _ _).trans (leads_readName _ _ _)
  · rw [hread]
    exact leads_readName _ _ _

/-- A name with an escape keeps it. -/
theorem escaped_readName (h : state.escaped = true) :
    (readName fuel cursor state).2.escaped = true := by
  induction fuel generalizing cursor state with
  | zero => exact h
  | succ fuel ih =>
      obtain ⟨-, hread⟩ | ⟨-, escape, hescaped, hread⟩ | ⟨c, -, -, hread⟩ :=
        readName_succ fuel cursor state
      all_goals rw [hread]
      · exact h
      · exact ih hescaped
      · exact ih h

/-- A name without an escape is spelled by the text, and no part of a name follows it. -/
theorem plain_readName (hlength : cursor.rest.length ≤ fuel)
    (hplain : (readName fuel cursor state).2.escaped = false) :
    state.characters.reverse ++ cursor.rest =
        (readName fuel cursor state).2.characters.reverse ++ (readName fuel cursor state).1.rest ∧
      ∀ c ∈ (readName fuel cursor state).1.char?, isIdentifierPart c = false := by
  induction fuel generalizing cursor state with
  | zero =>
      refine ⟨rfl, fun c hc => ?_⟩
      rw [readName, Cursor.char?, List.length_eq_zero_iff.1 (Nat.le_zero.1 hlength)] at hc
      cases hc
  | succ fuel ih =>
      obtain ⟨hstops, hread⟩ | ⟨-, escape, hescaped, hread⟩ | ⟨c, hc, -, hread⟩ :=
        readName_succ fuel cursor state
      all_goals rw [hread] at hplain ⊢
      · exact ⟨rfl, fun c hc => (hstops c hc).1⟩
      · -- An escape shows at the end, wherever it is read.
        rw [escaped_readName hescaped] at hplain
        cases hplain
      · obtain ⟨offset, rest⟩ := cursor
        cases rest with
        | nil => cases hc
        | cons d rest =>
            cases hc
            obtain ⟨hspelled, hstops⟩ := ih (Nat.le_of_succ_le_succ hlength) hplain
            exact ⟨by rw [← hspelled]; simp [Cursor.next], hstops⟩

end Lexer

/-! ## Tokens -/

/-- Whether a lexeme can be read between two cursors, as far as words and symbols are concerned. -/
structure Lexeme.Fits (l : Lexeme) (escaped : Bool) (start stop : Cursor) : Prop where
  leads : start.LeadsTo stop
  symbol : ∀ text, l = .symbol text → start.rest ≠ []
  /-- A word begins as words do, -/
  opens : ∀ name, l = .word name → ∃ c ∈ start.char?, Lexer.opensWord c
  /-- it takes up text, -/
  passes : ∀ name, l = .word name → start.offset < stop.offset
  /-- and unless it has an escape it is what stands there, up to what is no part of a name. -/
  plain : ∀ name, l = .word name → escaped = false →
    start.rest = name.toList ++ stop.rest ∧ ∀ c ∈ stop.char?, isIdentifierPart c = false

/-- What is no word fits where there is text. -/
theorem Lexeme.Fits.of_not_word {l : Lexeme} {escaped : Bool} (h : start.LeadsTo stop)
    (hrest : start.rest ≠ []) (hword : ∀ name, l ≠ .word name) : l.Fits escaped start stop where
  leads := h
  symbol _ _ := hrest
  opens name hl := absurd hl (hword name)
  passes name hl := absurd hl (hword name)
  plain name hl := absurd hl (hword name)

/-- What is neither a word nor a symbol fits everywhere. -/
theorem Lexeme.Fits.of_neither {l : Lexeme} {escaped : Bool} (h : start.LeadsTo stop)
    (hword : ∀ name, l ≠ .word name) (hsymbol : ∀ text, l ≠ .symbol text) :
    l.Fits escaped start stop where
  leads := h
  symbol text hl := absurd hl (hsymbol text)
  opens name hl := absurd hl (hword name)
  passes name hl := absurd hl (hword name)
  plain name hl := absurd hl (hword name)

/-- The end of the text takes up no text. -/
theorem Lexeme.Fits.endOfText {escaped : Bool} (cursor : Cursor) :
    Lexeme.endOfText.Fits escaped cursor cursor :=
  .of_neither (.refl cursor) (fun _ => Lexeme.noConfusion) fun _ => Lexeme.noConfusion

namespace Lexer

variable {fuel : Nat} {result : Result}

/-- Whether a lexeme is read from a cursor on. -/
def Result.Fits (start : Cursor) (result : Result) : Prop :=
  result.lexeme.Fits result.escaped start result.stop

/-- A word takes up text, since its first character can begin a name. -/
theorem fits_word (hlength : start.rest.length ≤ fuel) (hc : start.char? = some c)
    (hopens : opensWord c) : (name fuel start .word).Fits start := by
  have hrest : start.rest ≠ [] := by
    intro hnil
    rw [Cursor.char?, hnil] at hc
    cases hc
  obtain ⟨fuel, rfl⟩ : ∃ more, fuel = more + 1 :=
    Nat.exists_eq_succ_of_ne_zero fun hzero =>
      hrest (List.length_eq_zero_iff.1 (Nat.le_zero.1 (hzero ▸ hlength)))
  refine ⟨leads_readName (fuel + 1) start ⟨[], false, []⟩, fun _ _ => hrest,
    fun _ _ => ⟨c, hc, hopens⟩, fun _ _ => ?_, ?_⟩
  · exact (passes_readName hc hopens).offset_lt hrest
  · intro word hword hplain
    obtain ⟨hspelled, hstops⟩ := plain_readName hlength hplain
    cases hword
    refine ⟨?_, hstops⟩
    rw [String.toList_ofList]
    exact hspelled

/-- A private name takes up its sign at least, and is no word. -/
theorem fits_privateName (hrest : start.rest ≠ []) (h : start.LeadsTo cursor) :
    (privateName fuel cursor).Fits start := by
  unfold privateName
  split
  · exact .of_not_word h hrest fun _ => Lexeme.noConfusion
  · split
    · exact .of_not_word (h.trans (leads_readName _ _ _)) hrest fun _ => Lexeme.noConfusion
    · exact .of_not_word (h.trans (.next cursor)) hrest fun _ => Lexeme.noConfusion

/-- A string goes on up to its quote, or to the end of the line. -/
theorem fits_readString {quote : Char} {codes : List Nat} {problems : List Diagnostic}
    (hrest : start.rest ≠ []) (h : start.LeadsTo cursor) :
    (readString quote start fuel cursor codes problems).Fits start := by
  have hother : ∀ {l : Lexeme} {stop : Cursor}, start.LeadsTo stop → (∀ name, l ≠ .word name) →
      l.Fits false start stop := fun h hword => .of_not_word h hrest hword
  induction fuel generalizing cursor codes problems with
  | zero => exact hother h fun _ => Lexeme.noConfusion
  | succ fuel ih =>
      have hnext := h.trans (.next cursor)
      have hescape := hnext.trans (Escape.leads_read false cursor.next)
      unfold readString
      split
      · exact hother h fun _ => Lexeme.noConfusion
      · split
        · rename_i heq
          rw [heq] at hescape
          exact ih hescape
        · rename_i heq
          rw [heq] at hescape
          exact ih hescape
        · rename_i heq
          rw [heq] at hescape
          exact hother hescape fun _ => Lexeme.noConfusion
      · split
        · exact hother hnext fun _ => Lexeme.noConfusion
        · split
          · exact hother h fun _ => Lexeme.noConfusion
          · exact ih hnext

/-- A piece of a template goes on up to an expression or the end of the template. -/
theorem fits_readQuasi {opens : Bool} {inside : Cursor} {codes? : Option (List Nat)}
    (hrest : start.rest ≠ []) (h : start.LeadsTo cursor) :
    (readQuasi opens start inside fuel cursor codes?).Fits start := by
  have hother : ∀ {l : Lexeme} {stop : Cursor}, start.LeadsTo stop → (∀ name, l ≠ .word name) →
      l.Fits false start stop := fun h hword => .of_not_word h hrest hword
  induction fuel generalizing cursor codes? with
  | zero => exact hother h fun _ => Lexeme.noConfusion
  | succ fuel ih =>
      have hnext := h.trans (.next cursor)
      have hskip := h.trans (.skip 2 cursor)
      have hescape := hnext.trans (Escape.leads_read true cursor.next)
      unfold readQuasi
      dsimp only
      split
      · exact hother h fun _ => Lexeme.noConfusion
      · exact hother hnext fun _ => Lexeme.noConfusion
      · exact hother hskip fun _ => Lexeme.noConfusion
      · exact ih hskip
      · exact ih hnext
      · split
        · rename_i heq
          rw [heq] at hescape
          exact ih hescape
        · rename_i heq
          rw [heq] at hescape
          exact ih hescape
        · rename_i heq
          rw [heq] at hescape
          exact hother hescape fun _ => Lexeme.noConfusion
      · exact ih hnext

/-- A symbol takes up its own text. -/
theorem fits_symbolAmong? {symbols : List String} (hrest : start.rest ≠ [])
    (h : symbolAmong? symbols start = some result) (escaped : Bool) :
    result.lexeme.Fits escaped start result.stop := by
  obtain ⟨symbol, -, rfl⟩ := Option.map_eq_some_iff.1 h
  exact .of_not_word (.skip _ start) hrest fun _ => Lexeme.noConfusion

/-- The text of an attribute goes on up to the next quote of its kind. -/
theorem fits_attributeText {quote : Char} (hrest : start.rest ≠ []) :
    (attributeText quote start).Fits start := by
  have hstop : start.LeadsTo (start.next.dropWhile (· != quote)) :=
    (Cursor.LeadsTo.next start).trans (.dropWhile _ _)
  unfold attributeText
  dsimp only
  split
  · exact .of_not_word hstop hrest fun _ => Lexeme.noConfusion
  · exact .of_not_word (hstop.trans (.next _)) hrest fun _ => Lexeme.noConfusion

/-- Whatever a token begins with, it fits its place. -/
theorem fits_lexemeAt (inAttribute : Bool) (hlength : cursor.rest.length ≤ fuel) :
    (lexemeAt fuel inAttribute cursor).Fits cursor := by
  obtain ⟨offset, text⟩ := cursor
  cases text with
  | nil => exact .endOfText _
  | cons c rest =>
      have hrest : (⟨offset, c :: rest⟩ : Cursor).rest ≠ [] := List.cons_ne_nil c rest
      have hnext := Cursor.LeadsTo.next ⟨offset, c :: rest⟩
      -- A lexeme that is no word only has to lead on.
      have hother : ∀ {l : Lexeme} {stop : Cursor}, (⟨offset, c :: rest⟩ : Cursor).LeadsTo stop →
          (∀ name, l ≠ .word name) → l.Fits false ⟨offset, c :: rest⟩ stop :=
        fun h hword => .of_not_word h hrest hword
      unfold lexemeAt
      split
      · exact .endOfText _
      · exact fits_privateName hrest hnext
      · exact fits_readQuasi hrest hnext
      · split
        · split
          · exact hother hnext fun _ => Lexeme.noConfusion
          · exact hother (.skip 2 _) fun _ => Lexeme.noConfusion
        · exact hother (.skip 2 _) fun _ => Lexeme.noConfusion
      · rename_i heq
        cases heq
        extract_lets digitNext
        split
        · split
          · exact fits_attributeText hrest
          · exact fits_readString hrest hnext
        · split
          · have hnumber := NumberToken.fits_read ⟨offset, c :: rest⟩
            exact hother hnumber.leads hnumber.notWord
          · split
            · have hnumber := NumberToken.fits_fraction ⟨offset, c :: rest⟩
              exact hother hnumber.leads hnumber.notWord
            · split
              · rename_i hopens
                exact fits_word hlength rfl hopens
              · split
                · rename_i heq
                  exact fits_symbolAmong? hrest heq _
                · exact hother hnext fun _ => Lexeme.noConfusion

/-! ## Gaps -/

/-- A comment leads to where it ends. -/
theorem leads_commentEndFrom {offset : Nat} {text : List Char}
    (h : commentEndFrom offset text = some stop) : (⟨offset, text⟩ : Cursor).LeadsTo stop := by
  fun_induction commentEndFrom offset text with
  | case1 offset rest =>
      cases h
      exact (Cursor.LeadsTo.cons_one offset ('/' :: rest) rfl).trans
        (.cons_one (offset + 1) rest rfl)
  | case2 offset c rest _ ih => exact (Cursor.LeadsTo.cons offset c rest).trans (ih h)
  | case3 => cases h

/-- Blanks and comments in front of a token are passed. -/
theorem leads_skipGap {gap gap' : Gap} (h : skipGap fuel cursor gap = (some stop, gap')) :
    cursor.LeadsTo stop := by
  have hdone : ∀ {gap₁ : Gap}, (some cursor, gap₁) = (some stop, gap') → cursor.LeadsTo stop := by
    intro gap₁ heq
    cases heq
    exact .refl cursor
  induction fuel generalizing cursor gap with
  | zero => exact hdone h
  | succ fuel ih =>
      have hnext := Cursor.LeadsTo.next cursor
      have hmore : ∀ {more : Cursor} {gap : Gap}, cursor.LeadsTo more →
          skipGap fuel more gap = (some stop, gap') → cursor.LeadsTo stop := by
        intro more gap hleads heq
        refine hleads.trans (ih heq fun hsame => ?_)
        cases hsame
        exact .refl _
      unfold skipGap at h
      split at h
      · exact hdone h
      · exact hmore ((Cursor.LeadsTo.dropWhile _ cursor).trans (.next _)) h
      · rename_i inside heq
        split at h
        · rename_i close hclose
          refine hmore ?_ h
          obtain ⟨offset, rest⟩ := cursor
          cases heq
          exact ((Cursor.LeadsTo.cons_one offset ('*' :: inside) rfl).trans
            (.cons_one (offset + 1) inside rfl)).trans (leads_commentEndFrom hclose)
        · cases h
      · split at h
        · exact hmore hnext h
        · split at h
          · exact hmore hnext h
          · split at h
            · exact hmore hnext h
            · exact hdone h

/-- Whether a token with its cursors is read from a cursor on. -/
structure Reading.Fits (cursor : Cursor) (reading : Reading) : Prop where
  leads : cursor.LeadsTo reading.start
  lexeme : reading.token.lexeme.Fits reading.token.escaped reading.start reading.stop
  span_eq : reading.token.span = ⟨reading.start.offset, reading.stop.offset⟩

/-- A token stands behind the gap in front of it. -/
theorem Result.Fits.finish (gap : Gap) (hleads : cursor.LeadsTo start) (h : result.Fits start) :
    (finish start result gap).Fits cursor :=
  ⟨hleads, h, rfl⟩

/-- The next token fits its place, if there is fuel for the text that is left. -/
theorem fits_next (inAttribute : Bool) (log : CommentLog) (hlength : cursor.rest.length ≤ fuel) :
    (next fuel inAttribute cursor log).Fits cursor := by
  unfold next
  split
  · rename_i start gap heq
    have hleads := leads_skipGap heq
    have hrest := Nat.le_trans hleads.length_le hlength
    exact Result.Fits.finish gap hleads (fits_lexemeAt inAttribute hrest)
  · have hleads := Cursor.LeadsTo.dropWhile (fun _ => true) cursor
    exact Result.Fits.finish _ hleads (.endOfText _)

/-- A word stands behind a backslash, whatever is wrong with it. -/
theorem next_backslash (inAttribute : Bool) (log : CommentLog) (hfuel : fuel ≠ 0)
    (h : cursor.char? = some '\\') :
    ∃ word, (next fuel inAttribute cursor log).token.lexeme = .word word := by
  obtain ⟨fuel, rfl⟩ := Nat.exists_eq_succ_of_ne_zero hfuel
  obtain ⟨offset, text⟩ := cursor
  cases text with
  | nil => cases h
  | cons c rest =>
      cases h
      have hgap : skipGap (fuel + 1) ⟨offset, '\\' :: rest⟩ ⟨log, false, false, false, []⟩ =
          (some ⟨offset, '\\' :: rest⟩, ⟨log, false, false, false, []⟩) := rfl
      unfold next
      rw [hgap]
      exact ⟨_, rfl⟩

/-! ## Tokens that are read again -/

/-- The body of a regular expression leads to its closing slash. -/
theorem leads_regExpEnd {inEscape inClass : Bool} {offset : Nat} {text : List Char}
    (h : regExpEnd start inEscape inClass offset text = some stop) :
    (⟨offset, text⟩ : Cursor).LeadsTo stop := by
  induction text generalizing inEscape inClass offset with
  | nil => cases h
  | cons c rest ih =>
      have hcons := Cursor.LeadsTo.cons offset c rest
      have hone : ∀ {d : Char}, (c == d) = true → d.utf8Size = 1 →
          (⟨offset, c :: rest⟩ : Cursor).LeadsTo ⟨offset + 1, rest⟩ := by
        intro d hd hsize
        rw [beq_iff_eq.1 hd]
        exact .cons_one offset rest hsize
      unfold regExpEnd at h
      split at h
      · cases h
      · split at h
        · exact hcons.trans (ih h)
        · split at h
          · cases h
            exact .refl _
          · split at h
            · exact (hone ‹_› rfl).trans (ih h)
            · split at h
              · exact (hone ‹_› rfl).trans (ih h)
              · split at h
                · exact (hone ‹_› rfl).trans (ih h)
                · exact hcons.trans (ih h)

/-- A regular expression is read again from its first slash on. -/
theorem fits_regExp (start : Cursor) (escaped : Bool) :
    (regExp start).lexeme.Fits escaped start (regExp start).stop := by
  unfold regExp
  split
  · exact .of_neither (.dropWhile _ start) (fun _ => Lexeme.noConfusion) fun _ => Lexeme.noConfusion
  · rename_i patternEnd heq
    have hpattern := (Cursor.LeadsTo.next start).trans (leads_regExpEnd heq)
    exact .of_neither ((hpattern.trans (.next _)).trans (.dropWhile _ _))
      (fun _ => Lexeme.noConfusion) fun _ => Lexeme.noConfusion

/-- An operator that begins with a closing angle bracket takes up that bracket at least. -/
theorem fits_closingAngle (hrest : start.rest ≠ []) (escaped : Bool) :
    (closingAngle start).lexeme.Fits escaped start (closingAngle start).stop := by
  unfold closingAngle
  cases hsymbol : symbolAmong? [">>>=", ">>>", ">>=", ">>", ">=", ">"] start with
  | none => exact .of_not_word (.next start) hrest fun _ => Lexeme.noConfusion
  | some result => exact fits_symbolAmong? hrest hsymbol escaped

/-- The text of an element goes on up to a brace or a tag. -/
theorem fits_markupChild (start : Cursor) : (markupChild start).Fits start := by
  obtain ⟨offset, text⟩ := start
  cases text with
  | nil => exact .endOfText _
  | cons c rest =>
      have hrest : (⟨offset, c :: rest⟩ : Cursor).rest ≠ [] := List.cons_ne_nil c rest
      have hnext := Cursor.LeadsTo.next ⟨offset, c :: rest⟩
      unfold markupChild
      split
      · exact .endOfText _
      · exact .of_not_word hnext hrest fun _ => Lexeme.noConfusion
      · exact .of_not_word hnext hrest fun _ => Lexeme.noConfusion
      · have hstop := Cursor.LeadsTo.dropWhile
          (fun c => c != '<' && c != '\x7b' && c != '>' && c != '\x7d') ⟨offset, c :: rest⟩
        dsimp only
        split
        · exact .of_not_word (hstop.trans (.next _)) hrest fun _ => Lexeme.noConfusion
        · exact .of_not_word (hstop.trans (.next _)) hrest fun _ => Lexeme.noConfusion
        · exact .of_not_word hstop hrest fun _ => Lexeme.noConfusion

/-- Where a word stands, the name of an element takes up text, unless the word begins with an
escape: then that name is empty. -/
theorem markupName_cases (h : start.char? = some c) (hopens : opensWord c) :
    start.offset < (markupName start).stop.offset ∨
      c = '\\' ∧ markupName start = .plain (.word "") start := by
  obtain ⟨offset, text⟩ := start
  cases text with
  | nil => cases h
  | cons d rest =>
      cases h
      rcases Bool.or_eq_true_iff.1 hopens with hstart | hbackslash
      · refine .inl (Cursor.LeadsTo.offset_lt (List.cons_ne_nil c rest) ?_)
        have hpart : (c == '-' || isIdentifierPart c) = true := by
          rw [isIdentifierPart_of_isIdentifierStart hstart, Bool.or_true]
        show (Cursor.next ⟨offset, c :: rest⟩).LeadsTo (Cursor.dropWhileFrom _ offset (c :: rest))
        rw [Cursor.dropWhileFrom, if_pos hpart]
        exact .dropWhile _ ⟨offset + c.utf8Size, rest⟩
      · obtain rfl := beq_iff_eq.1 hbackslash
        refine .inr ⟨rfl, ?_⟩
        have hstop : Cursor.dropWhile (fun c => c == '-' || isIdentifierPart c)
            ⟨offset, '\\' :: rest⟩ = ⟨offset, '\\' :: rest⟩ := rfl
        unfold markupName
        dsimp only
        rw [hstop, Cursor.stringTo, Cursor.textTo, Nat.sub_self]
        rfl

end Lexer

end JsxTidy
