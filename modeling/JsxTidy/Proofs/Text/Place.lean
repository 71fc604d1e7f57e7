import JsxTidy.Failure
import JsxTidy.Proofs.Text.Find
import Mathlib.Algebra.Group.Nat.Defs
import Mathlib.Data.List.DropRight
import Mathlib.Data.Nat.Find
import Mathlib.Data.Prod.Lex
import Mathlib.Order.Bounds.Defs

/-!
# Places in a text

A failure names the last boundary between characters that is not behind its byte offset: by the
lines before it and the characters of its own line before it. Each character leads to a later place,
and so a place of a text belongs to one boundary, which can be found again: `offset?_eq_some_iff`.
Lines and columns are words. In a text of up to `2 ^ 32 - 2` bytes each boundary has both, and
`atOffset_names_boundary` says which; `2 ^ 32 - 1` line ends leave no number for the line behind
them.
-/

namespace JsxTidy.Text

variable {c : Char} {cs front text : List Char} {bytes : Nat}

/-! ## Boundaries -/

@[simp] theorem byteLength_append (front behind : List Char) :
    byteLength (front ++ behind) = byteLength front + byteLength behind := by
  induction front with
  | nil => simp [byteLength]
  | cons c front ih => simp [byteLength, ih, Nat.add_assoc]

theorem utf8ByteSize_ofList (cs : List Char) : (String.ofList cs).utf8ByteSize = byteLength cs := by
  induction cs with
  | nil => rfl
  | cons c cs ih =>
      rw [byteLength, ← ih, String.ofList_cons, String.utf8ByteSize_append,
        String.utf8ByteSize_singleton]

theorem utf8ByteSize_eq (source : String) : source.utf8ByteSize = byteLength source.toList := by
  rw [← utf8ByteSize_ofList, String.ofList_toList]

/-- A line end takes up one byte. -/
theorem byteLength_line_ends (n : Nat) : byteLength (List.replicate n '\n') = n := by
  induction n with
  | zero => rfl
  | succ n ih =>
      rw [List.replicate_succ, byteLength, ih, Nat.add_comm]
      rfl

theorem byteLength_le_of_isPrefix (h : front <+: text) : byteLength front ≤ byteLength text := by
  obtain ⟨behind, rfl⟩ := h
  rw [byteLength_append]
  exact Nat.le_add_right _ _

/-- The characters that end before an offset take up no more bytes than it says. -/
theorem byteLength_takeBytes_le (bytes : Nat) (text : List Char) :
    byteLength (takeBytes bytes text) ≤ bytes := by
  fun_induction takeBytes bytes text with
  | case1 => exact Nat.zero_le _
  | case2 bytes c cs hle ih =>
      rw [byteLength]
      omega
  | case3 => exact Nat.zero_le _

/-- All characters that end before an offset are taken. -/
theorem isPrefix_takeBytes (h : front <+: text) (hle : byteLength front ≤ bytes) :
    front <+: takeBytes bytes text := by
  fun_induction takeBytes bytes text generalizing front with
  | case1 => exact h
  | case2 bytes c cs hc ih =>
      cases front with
      | nil => exact List.nil_prefix
      | cons d front =>
          obtain ⟨rfl, hfront⟩ := List.cons_prefix_cons.1 h
          rw [byteLength] at hle
          exact List.cons_prefix_cons.2 ⟨rfl, ih hfront (by omega)⟩
  | case3 bytes c cs hc =>
      cases front with
      | nil => exact List.nil_prefix
      | cons d front =>
          obtain ⟨rfl, -⟩ := List.cons_prefix_cons.1 h
          rw [byteLength] at hle
          omega

/-- The characters before a boundary are those that end before its offset. -/
theorem takeBytes_byteLength (h : front <+: text) : takeBytes (byteLength front) text = front := by
  have hall := isPrefix_takeBytes h (Nat.le_refl _)
  obtain ⟨more, hmore⟩ := hall
  have hle := byteLength_takeBytes_le (byteLength front) text
  rw [← hmore, byteLength_append] at hle
  cases more with
  | nil => rw [← hmore, List.append_nil]
  | cons c more =>
      have := c.utf8Size_pos
      rw [byteLength] at hle
      omega

/-- An offset is a boundary when some characters at the front of the text take up its bytes. -/
theorem isValid_iff {source : String} {b : Nat} : (⟨b⟩ : String.Pos.Raw).IsValid source ↔
    ∃ front, front <+: source.toList ∧ byteLength front = b := by
  rw [String.Pos.Raw.isValid_iff_exists_append]
  constructor
  · rintro ⟨before, behind, rfl, hb⟩
    refine ⟨before.toList, ⟨behind.toList, String.toList_append.symm⟩, ?_⟩
    rw [← utf8ByteSize_eq]
    exact (congrArg String.Pos.Raw.byteIdx hb).symm
  · rintro ⟨front, ⟨behind, hsource⟩, rfl⟩
    refine ⟨.ofList front, .ofList behind, ?_, ?_⟩
    · rw [← String.ofList_append, hsource, String.ofList_toList]
    · exact congrArg String.Pos.Raw.mk (utf8ByteSize_ofList front).symm

namespace Passed

variable {here goal : Passed} {b : Nat}

/-! ## What has been passed -/

theorem through_append (cs more : List Char) :
    through (cs ++ more) = more.foldl step (through cs) :=
  List.foldl_append

/-- Behind a text all its line ends have been passed, and the characters that follow the last of
these. -/
theorem through_eq (cs : List Char) : through cs =
    ⟨cs.count '\n', (cs.rtakeWhile (· != '\n')).length⟩ := by
  induction cs using List.reverseRecOn with
  | nil => rfl
  | append_singleton cs c ih =>
      rw [through_append, List.foldl_cons, List.foldl_nil, ih, step]
      split
      · subst c
        simp
      · simp [*]

/-- What has been passed as a pair, ordered by lines and within a line by characters. -/
def key (passed : Passed) : ℕ ×ₗ ℕ :=
  toLex (passed.lines, passed.chars)

/-- A character leads on. -/
theorem key_lt_key_step (here : Passed) (c : Char) : here.key < (here.step c).key := by
  rw [key, key, Prod.Lex.toLex_lt_toLex, step]
  split
  · exact .inl (Nat.lt_succ_self _)
  · exact .inr ⟨rfl, Nat.lt_succ_self _⟩

theorem key_le_key_foldl (here : Passed) (cs : List Char) :
    here.key ≤ (cs.foldl step here).key := by
  induction cs generalizing here with
  | nil => exact le_refl _
  | cons c cs ih => exact (key_lt_key_step here c).le.trans (ih (here.step c))

/-- Text leads on, unless there is none. -/
theorem key_lt_key_foldl (here : Passed) (hne : cs ≠ []) :
    here.key < (cs.foldl step here).key := by
  obtain ⟨c, cs, rfl⟩ := List.exists_cons_of_ne_nil hne
  exact (key_lt_key_step here c).trans_le (key_le_key_foldl (here.step c) cs)

/-- More has been passed before a later boundary. -/
theorem strictMonoOn_key_through (source : String) :
    StrictMonoOn (fun b => (through (takeBytes b source.toList)).key)
      {b | (⟨b⟩ : String.Pos.Raw).IsValid source} := by
  intro b hb b' hb' hlt
  obtain ⟨front, hfront, rfl⟩ := isValid_iff.1 hb
  obtain ⟨front', hfront', rfl⟩ := isValid_iff.1 hb'
  obtain ⟨between, rfl⟩ : front <+: front' := by
    have hprefix := isPrefix_takeBytes hfront hlt.le
    rwa [takeBytes_byteLength hfront'] at hprefix
  have hne : between ≠ [] := by
    rintro rfl
    simp at hlt
  simp only [takeBytes_byteLength hfront, takeBytes_byteLength hfront', through_append]
  exact key_lt_key_foldl _ hne

/-- No more line ends and characters are passed than there are bytes. -/
theorem lines_add_chars_le (cs : List Char) :
    (through cs).lines + (through cs).chars ≤ byteLength cs := by
  induction cs using List.reverseRecOn with
  | nil => exact Nat.le_refl _
  | append_singleton cs c ih =>
      have hsize := c.utf8Size_pos
      have hbytes : byteLength (cs ++ [c]) = byteLength cs + c.utf8Size := by simp [byteLength]
      rw [through_append, List.foldl_cons, List.foldl_nil, step, hbytes]
      split
      · dsimp only
        omega
      · dsimp only
        omega

/-! ## Finding a place again -/

/-- The number of bytes to be passed from here until all that a goal asks for has been passed. -/
def offsetFrom? (goal here : Passed) : List Char → Option Nat
  | [] => if here = goal then some 0 else none
  | c :: cs =>
    if here = goal then some 0
    else (offsetFrom? goal (here.step c) cs).map (c.utf8Size + ·)

/-- A text that leads from somewhere to the same place is none. -/
theorem eq_nil_of_foldl_eq (h : front.foldl step here = here) : front = [] := by
  by_contra hne
  have hlt := key_lt_key_foldl here hne
  rw [h] at hlt
  exact lt_irrefl _ hlt

theorem offsetFrom?_eq_some_iff : offsetFrom? goal here cs = some b ↔
    ∃ front, front <+: cs ∧ byteLength front = b ∧ front.foldl step here = goal := by
  induction cs generalizing here b with
  | nil =>
      rw [offsetFrom?]
      constructor
      · intro h
        split at h
        · cases h
          exact ⟨[], List.prefix_refl [], rfl, ‹_›⟩
        · cases h
      · rintro ⟨front, hfront, rfl, hgoal⟩
        rw [List.prefix_nil.1 hfront] at hgoal ⊢
        exact if_pos hgoal
  | cons c cs ih =>
      rw [offsetFrom?]
      by_cases hhere : here = goal
      · subst hhere
        rw [if_pos rfl]
        constructor
        · intro h
          cases h
          exact ⟨[], List.nil_prefix, rfl, rfl⟩
        · rintro ⟨front, -, rfl, hgoal⟩
          -- Every character leads on, and nothing leads back.
          rw [eq_nil_of_foldl_eq hgoal]
          rfl
      · rw [if_neg hhere, Option.map_eq_some_iff]
        constructor
        · rintro ⟨rest, hrest, rfl⟩
          obtain ⟨front, hfront, rfl, hgoal⟩ := ih.1 hrest
          exact ⟨c :: front, List.cons_prefix_cons.2 ⟨rfl, hfront⟩, rfl, hgoal⟩
        · rintro ⟨front, hfront, rfl, hgoal⟩
          cases front with
          | nil => exact absurd hgoal hhere
          | cons d front =>
              obtain ⟨rfl, hrest⟩ := List.cons_prefix_cons.1 hfront
              exact ⟨byteLength front, ih.2 ⟨front, hrest, rfl, hgoal⟩, rfl⟩

/-- What is found is the boundary before which the goal has been passed. -/
theorem offsetFrom?_start_eq_some_iff {source : String} :
    offsetFrom? goal start source.toList = some b ↔
      (⟨b⟩ : String.Pos.Raw).IsValid source ∧ through (takeBytes b source.toList) = goal := by
  rw [offsetFrom?_eq_some_iff, isValid_iff]
  constructor
  · rintro ⟨front, hfront, rfl, hgoal⟩
    exact ⟨⟨front, hfront, rfl⟩, by rw [takeBytes_byteLength hfront]; exact hgoal⟩
  · rintro ⟨⟨front, hfront, rfl⟩, hgoal⟩
    rw [takeBytes_byteLength hfront] at hgoal
    exact ⟨front, hfront, rfl, hgoal⟩

end Passed

namespace LineColumn

variable {passed : Passed} {place : LineColumn} {b : Nat}

/-! ## Lines and columns -/

/-- A line and a column count, modulo the words, what has been passed. -/
theorem behind?_eq_some_iff : behind? passed = some place ↔
    passed.lines % UInt32.size + 1 = place.line.toNat ∧
      passed.chars % UInt32.size + 1 = place.column.toNat := by
  rw [← Word.ordinal?_eq_some_iff, ← Word.ordinal?_eq_some_iff, behind?]
  constructor
  · intro h
    obtain ⟨line, hline, h⟩ := Option.bind_eq_some_iff.1 h
    obtain ⟨column, hcolumn, h⟩ := Option.bind_eq_some_iff.1 h
    cases h
    exact ⟨hline, hcolumn⟩
  · rintro ⟨hline, hcolumn⟩
    exact Option.bind_eq_some_iff.2
      ⟨_, hline, Option.bind_eq_some_iff.2 ⟨_, hcolumn, rfl⟩⟩

/-- There is no place where a word has no number for the line or for the column. -/
theorem behind?_eq_none_iff : behind? passed = none ↔
    passed.lines % UInt32.size + 1 = UInt32.size ∨
      passed.chars % UInt32.size + 1 = UInt32.size := by
  rw [← Word.ordinal?_eq_none_iff, ← Word.ordinal?_eq_none_iff, behind?]
  cases Word.ordinal? passed.lines <;> cases Word.ordinal? passed.chars <;> simp

/-- Where words suffice, a line and a column count all that has been passed. -/
theorem behind?_eq_some_iff_of_lt (hlt : passed.lines + passed.chars + 1 < UInt32.size) :
    behind? passed = some place ↔
      passed.lines + 1 = place.line.toNat ∧ passed.chars + 1 = place.column.toNat := by
  rw [behind?_eq_some_iff, Nat.mod_eq_of_lt (by omega), Nat.mod_eq_of_lt (by omega)]

/-- Where words suffice, there is a place. -/
theorem exists_behind?_eq_some (hlt : passed.lines + passed.chars + 1 < UInt32.size) :
    ∃ place, behind? passed = some place := by
  have hplace : behind? passed ≠ none := by
    rw [Ne, behind?_eq_none_iff, Nat.mod_eq_of_lt (by omega), Nat.mod_eq_of_lt (by omega)]
    omega
  exact Option.ne_none_iff_exists'.1 hplace

/-- A place as a pair, ordered by lines and within a line by columns. -/
def key (place : LineColumn) : ℕ ×ₗ ℕ :=
  toLex (place.line.toNat, place.column.toNat)

/-- More that has been passed makes a later place. -/
theorem key_lt_key_of_behind? {passed' : Passed} {place' : LineColumn}
    (hlt : passed.lines + passed.chars + 1 < UInt32.size)
    (hlt' : passed'.lines + passed'.chars + 1 < UInt32.size)
    (hplace : behind? passed = some place) (hplace' : behind? passed' = some place')
    (hkey : passed.key < passed'.key) : place.key < place'.key := by
  obtain ⟨hline, hcolumn⟩ := (behind?_eq_some_iff_of_lt hlt).1 hplace
  obtain ⟨hline', hcolumn'⟩ := (behind?_eq_some_iff_of_lt hlt').1 hplace'
  rw [Passed.key, Passed.key, Prod.Lex.toLex_lt_toLex] at hkey
  rw [key, key, Prod.Lex.toLex_lt_toLex]
  dsimp only at hkey ⊢
  omega

/-- The byte offset of a place in a text, if the text has it. -/
def offset? (source : List Char) (place : LineColumn) : Option Nat :=
  if place.line = 0 ∨ place.column = 0 then none
  else Passed.offsetFrom? ⟨place.line.toNat - 1, place.column.toNat - 1⟩ .start source

variable {source : String}

/-- Words suffice in a text with as many bytes as the greatest word but one. -/
theorem lines_add_chars_lt (hsize : source.utf8ByteSize ≤ 2 ^ 32 - 2) (offset : Nat) :
    (Passed.through (takeBytes offset source.toList)).lines +
      (Passed.through (takeBytes offset source.toList)).chars + 1 < UInt32.size := by
  have hpassed := Passed.lines_add_chars_le (takeBytes offset source.toList)
  have hbytes := byteLength_le_of_isPrefix (takeBytes_isPrefix offset source.toList)
  have hsource := utf8ByteSize_eq source
  have hwords : UInt32.size = 2 ^ 32 := rfl
  omega

/-- What is found for a place is the boundary that the place is the place of. -/
theorem offset?_eq_some_iff (hsize : source.utf8ByteSize ≤ 2 ^ 32 - 2) :
    offset? source.toList place = some b ↔
      (⟨b⟩ : String.Pos.Raw).IsValid source ∧ ofOffset? source.toList b = some place := by
  rw [ofOffset?, behind?_eq_some_iff_of_lt (lines_add_chars_lt hsize b), offset?]
  split
  · rename_i hzero
    simp only [reduceCtorEq, false_iff, not_and]
    rintro - hline
    rw [← UInt32.toNat_inj, ← UInt32.toNat_inj] at hzero
    have : (0 : UInt32).toNat = 0 := rfl
    omega
  · rename_i hzero
    rw [← UInt32.toNat_inj, ← UInt32.toNat_inj, not_or] at hzero
    have hline : place.line.toNat ≠ 0 := hzero.1
    have hcolumn : place.column.toNat ≠ 0 := hzero.2
    rw [Passed.offsetFrom?_start_eq_some_iff, Passed.ext_iff]
    refine and_congr_right fun _ => and_congr ?_ ?_
    · dsimp only
      omega
    · dsimp only
      omega

end LineColumn

/-! ## The boundary that an offset stands for -/

/-- The boundary not behind an offset: from the offset, or the end of the text if that comes first,
back byte by byte until a character begins. -/
def boundaryBefore (source : String) (offset : Nat) : Nat :=
  Nat.findGreatest (fun b => (⟨b⟩ : String.Pos.Raw).IsValid source) (min offset source.utf8ByteSize)

/-- The characters that end before an offset reach to the last boundary not behind it. -/
theorem isGreatest_takeBytes (source : String) (offset : Nat) :
    IsGreatest {b | (⟨b⟩ : String.Pos.Raw).IsValid source ∧ b ≤ min offset source.utf8ByteSize}
      (byteLength (takeBytes offset source.toList)) := by
  have hprefix := takeBytes_isPrefix offset source.toList
  refine ⟨⟨isValid_iff.2 ⟨_, hprefix, rfl⟩, ?_⟩, ?_⟩
  · rw [utf8ByteSize_eq]
    exact Nat.le_min.2 ⟨byteLength_takeBytes_le _ _, byteLength_le_of_isPrefix hprefix⟩
  · rintro b ⟨hvalid, hle⟩
    obtain ⟨front, hfront, rfl⟩ := isValid_iff.1 hvalid
    exact byteLength_le_of_isPrefix (isPrefix_takeBytes hfront (hle.trans (Nat.min_le_left _ _)))

/-- Going back from an offset ends at the last boundary not behind it. -/
theorem boundaryBefore_eq (source : String) (offset : Nat) :
    boundaryBefore source offset = byteLength (takeBytes offset source.toList) := by
  obtain ⟨⟨hvalid, hle⟩, hgreatest⟩ := isGreatest_takeBytes source offset
  refine Nat.findGreatest_eq_iff.2 ⟨hle, fun _ => hvalid, fun b hlt hb hvalid' => ?_⟩
  have := hgreatest ⟨hvalid', hb⟩
  omega

end JsxTidy.Text

namespace JsxTidy

open Text

namespace ParseFailure

variable {e failure : ParseFailure} {source : String} {offset : Nat}

/-- A failure gets the place of its offset, and the offset as a word. -/
theorem atOffset?_eq_some_iff : e.atOffset? source offset = some failure ↔
    ∃ place, LineColumn.ofOffset? source.toList offset = some place ∧
      failure = { e with place? := some ⟨offset.toUInt32, place⟩ } := by
  rw [atOffset?]
  constructor
  · intro h
    obtain ⟨place, hplace, h⟩ := Option.bind_eq_some_iff.1 h
    cases h
    exact ⟨place, hplace, rfl⟩
  · rintro ⟨place, hplace, rfl⟩
    exact Option.bind_eq_some_iff.2 ⟨place, hplace, rfl⟩

/-- A failure gets a place unless there is no line or no column for it, in a text of any size. -/
theorem atOffset?_eq_none_iff : e.atOffset? source offset = none ↔
    (takeBytes offset source.toList).count '\n' % 2 ^ 32 + 1 = 2 ^ 32 ∨
      ((takeBytes offset source.toList).rtakeWhile (· != '\n')).length % 2 ^ 32 + 1 = 2 ^ 32 := by
  have hpassed := Passed.through_eq (takeBytes offset source.toList)
  have hnone : e.atOffset? source offset = none ↔
      LineColumn.ofOffset? source.toList offset = none := by
    rw [atOffset?]
    cases LineColumn.ofOffset? source.toList offset <;> simp
  have hcounts : LineColumn.behind? (.through (takeBytes offset source.toList)) = none ↔ _ :=
    LineColumn.behind?_eq_none_iff
  rw [hpassed] at hcounts
  rw [hnone, LineColumn.ofOffset?, hpassed]
  exact hcounts

/-- A complaint about a text of up to `2 ^ 32 - 2` bytes has a place. -/
theorem atOffset?_ofDiagnostic (d : Diagnostic) (hsize : source.utf8ByteSize ≤ 2 ^ 32 - 2) :
    (new d.complaint.message).atOffset? source d.offset = some (ofDiagnostic source d) := by
  obtain ⟨place, hplace⟩ :=
    LineColumn.exists_behind?_eq_some (LineColumn.lines_add_chars_lt hsize d.offset)
  have hfailure := atOffset?_eq_some_iff (e := new d.complaint.message).2 ⟨place, hplace, rfl⟩
  rw [ofDiagnostic, hfailure]
  rfl

/-- In a text of up to `2 ^ 32 - 2` bytes, the failure at a byte offset names the last boundary that
is neither behind the offset nor behind the end of the text, to which going back byte by byte leads:
its line is the one behind all line ends before it, and its column the one behind the characters
since the last of these. A later boundary has a later place, and the boundary can be found again
from the text and its place. -/
theorem atOffset_names_boundary (e : ParseFailure) (source : String)
    (hsize : source.utf8ByteSize ≤ 2 ^ 32 - 2) :
    (∀ offset, ∃ before behind : String, ∃ place : LineColumn, source = before ++ behind ∧
      before.utf8ByteSize = boundaryBefore source offset ∧
      IsGreatest {b | (⟨b⟩ : String.Pos.Raw).IsValid source ∧ b ≤ min offset source.utf8ByteSize}
        before.utf8ByteSize ∧
      e.atOffset? source offset = some { e with place? := some ⟨offset.toUInt32, place⟩ } ∧
      LineColumn.ofOffset? source.toList offset = some place ∧
      place.line.toNat = 1 + before.toList.count '\n' ∧
      place.column.toNat = 1 + (before.toList.rtakeWhile (· != '\n')).length) ∧
    (∀ b b', (⟨b⟩ : String.Pos.Raw).IsValid source → (⟨b'⟩ : String.Pos.Raw).IsValid source →
      b < b' → ∃ place place' : LineColumn, LineColumn.ofOffset? source.toList b = some place ∧
        LineColumn.ofOffset? source.toList b' = some place' ∧ place.key < place'.key) ∧
    ∀ place b, LineColumn.offset? source.toList place = some b ↔
      (⟨b⟩ : String.Pos.Raw).IsValid source ∧
        LineColumn.ofOffset? source.toList b = some place := by
  have hlt := LineColumn.lines_add_chars_lt hsize
  refine ⟨fun offset => ?_, fun b b' hb hb' hbb' => ?_,
    fun place b => LineColumn.offset?_eq_some_iff hsize⟩
  · obtain ⟨behind, hbehind⟩ := takeBytes_isPrefix offset source.toList
    obtain ⟨place, hplace⟩ := LineColumn.exists_behind?_eq_some (hlt offset)
    obtain ⟨hline, hcolumn⟩ := (LineColumn.behind?_eq_some_iff_of_lt (hlt offset)).1 hplace
    rw [Passed.through_eq] at hline hcolumn
    refine ⟨.ofList (takeBytes offset source.toList), .ofList behind, place, ?_, ?_, ?_,
      atOffset?_eq_some_iff.2 ⟨place, hplace, rfl⟩, hplace, ?_, ?_⟩
    · rw [← String.ofList_append, hbehind, String.ofList_toList]
    · rw [utf8ByteSize_ofList, boundaryBefore_eq]
    · rw [utf8ByteSize_ofList]
      exact isGreatest_takeBytes source offset
    · rw [String.toList_ofList, ← hline, Nat.add_comm]
    · rw [String.toList_ofList, ← hcolumn, Nat.add_comm]
  · obtain ⟨place, hplace⟩ := LineColumn.exists_behind?_eq_some (hlt b)
    obtain ⟨place', hplace'⟩ := LineColumn.exists_behind?_eq_some (hlt b')
    have hkey := Passed.strictMonoOn_key_through source hb hb' hbb'
    exact ⟨place, place', hplace, hplace',
      LineColumn.key_lt_key_of_behind? (hlt b) (hlt b') hplace hplace' hkey⟩

/-- The offset lies inside the first character of the second line. -/
theorem atOffset_names_second_line : "é\n日x".utf8ByteSize ≤ 2 ^ 32 - 2 ∧
    (new "m").atOffset? "é\n日x" 5 = some ⟨"m", some ⟨5, 2, 1⟩⟩ ∧
    LineColumn.offset? "é\n日x".toList ⟨2, 2⟩ = some 6 := by
  have hsize : "é\n日x".utf8ByteSize ≤ 2 ^ 32 - 2 := by decide
  obtain ⟨-, -, hfind⟩ := atOffset_names_boundary (new "m") "é\n日x" hsize
  have hvalid : (⟨6⟩ : String.Pos.Raw).IsValid "é\n日x" :=
    isValid_iff.2 ⟨['é', '\n', '日'], by decide, by decide⟩
  exact ⟨hsize, by decide, (hfind ⟨2, 2⟩ 6).2 ⟨hvalid, by decide⟩⟩

/-- Behind as many line ends as the greatest word there is no number for a line. -/
theorem atOffset?_line_ends (e : ParseFailure) {n : Nat} (hn : n % 2 ^ 32 + 1 = 2 ^ 32) :
    e.atOffset? (.ofList (List.replicate n '\n')) n = none := by
  have htake : takeBytes n (List.replicate n '\n') = List.replicate n '\n' := by
    have hall := takeBytes_byteLength (List.prefix_refl (List.replicate n '\n'))
    rwa [byteLength_line_ends] at hall
  rw [atOffset?_eq_none_iff, String.toList_ofList, htake, List.count_replicate_self]
  exact .inl hn

/-- A text of `2 ^ 32 - 1` line ends has fewer than `2 ^ 32` bytes, and its end has no place. In a
short text an offset far beyond the end names the end, and is kept as another number. -/
theorem atOffset_misses_last_line :
    (String.ofList (List.replicate (2 ^ 32 - 1) '\n')).utf8ByteSize < 2 ^ 32 ∧
    (new "m").atOffset? (.ofList (List.replicate (2 ^ 32 - 1) '\n')) (2 ^ 32 - 1) = none ∧
    boundaryBefore "ab" (2 ^ 32 + 1) = 2 ∧
    (new "m").atOffset? "ab" (2 ^ 32 + 1) = some ⟨"m", some ⟨1, 1, 3⟩⟩ := by
  refine ⟨?_, atOffset?_line_ends (new "m") (by decide), ?_, by decide⟩
  · rw [utf8ByteSize_ofList, byteLength_line_ends]
    decide
  · rw [boundaryBefore_eq]
    decide

end ParseFailure

end JsxTidy
