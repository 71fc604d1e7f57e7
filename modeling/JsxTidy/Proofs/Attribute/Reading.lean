import JsxTidy.Attribute.Class
import JsxTidy.Parser.Program
import JsxTidy.Proofs.Printer.Import
import JsxTidy.Proofs.Token.Attribute

/-!
# Texts of attributes, written and read

The text of an attribute is written as it is, in quotes that do not occur in it if there are such.
Where the value of an attribute is expected, it is read up to the first quote of this kind. So an
attribute that is written (`puts_attribute`) is read as one of the same name
(`markupAttribute_written`), and its text is the same exactly when it lacks quotes of one kind
(`readBack_eq_iff`).
-/

namespace JsxTidy

open Syntax

namespace Text

/-- The quotes in which the text of an attribute is written. -/
def quoteFor (text : List Char) : Char :=
  if text.contains '"' then '\'' else '"'

/-- An attribute with a text, as it is written. -/
def writtenAttribute (name text : List Char) : List Char :=
  name ++ '=' :: quoteFor text :: (text ++ [quoteFor text])

/-- The text of an attribute, as it is read where it was written. -/
def readBack (text : List Char) : List Char :=
  text.takeWhile (· != quoteFor text)

variable {text : List Char}

theorem quoteFor_eq (text : List Char) : quoteFor text = '"' ∨ quoteFor text = '\'' := by
  unfold quoteFor
  split
  · exact .inr rfl
  · exact .inl rfl

theorem quoteFor_notMem_iff : quoteFor text ∉ text ↔ isQuotable text := by
  unfold quoteFor isQuotable
  by_cases hdouble : '"' ∈ text <;> simp [hdouble]

/-- A text is read as it was written exactly when it lacks quotes of one kind. -/
theorem readBack_eq_iff : readBack text = text ↔ isQuotable text := by
  rw [readBack, List.takeWhile_eq_self_iff, ← quoteFor_notMem_iff]
  simp only [bne_iff_ne]
  exact ⟨fun h hmem => h _ hmem rfl, fun h c hmem heq => h (heq ▸ hmem)⟩

/-- Whether a character can stand in the name of an attribute. -/
def isNamePart (c : Char) : Bool :=
  c == '-' || isIdentifierPart c

end Text

/-! ## Writing -/

namespace Printer

/-- The text of an attribute is written as it is, between quotes. -/
theorem puts_attributeText (env : PrinterEnv) (text : String) : Puts env (attributeText text)
    (Text.quoteFor text.toList :: (text.toList ++ [Text.quoteFor text.toList])) :=
  (puts_putChar _).bind ((puts_put text).bind (puts_putChar _))

/-- An attribute with a string is written as its name, an equals sign and the text. -/
theorem puts_attribute (depth : Nat) (place : Place) (span nameSpan valueSpan : Span)
    (name text : String) (lone : Bool) (s : PrinterState) :
    write (depth + 2) place (.mk .markupAttribute span
      [.mk (.word name) nameSpan [], .mk (.string text lone) valueSpan []]) s =
        ((), s.append (Text.writtenAttribute name.toList text.toList)) := by
  have hname : Puts ⟨write (depth + 1)⟩ (part (.mk (.word name) nameSpan [])) name.toList :=
    fun _ => rfl
  exact hname.bind ((puts_putChar '=').bind (puts_attributeText _ text)) s

end Printer

/-! ## Reading tokens -/

namespace Lexer

variable {c quote : Char} {fuel : Nat} {name text rest : List Char} {cursor : Cursor}
  {log : CommentLog} {inAttribute : Bool}

theorem rest_dropWhile (keep : Char → Bool) (cursor : Cursor) :
    (cursor.dropWhile keep).rest = cursor.rest.dropWhile keep := by
  obtain ⟨offset, text⟩ := cursor
  show (Cursor.dropWhileFrom keep offset text).rest = text.dropWhile keep
  induction text generalizing offset with
  | nil => rfl
  | cons c text ih =>
      rw [Cursor.dropWhileFrom, List.dropWhile_cons]
      split
      · exact ih _
      · rfl

/-- The text before the first character that fails a test. -/
theorem stringTo_dropWhile (keep : Char → Bool) (cursor : Cursor) :
    cursor.stringTo (cursor.dropWhile keep) = String.ofList (cursor.rest.takeWhile keep) :=
  congrArg String.ofList (takeBytes_dropWhileFrom keep cursor.offset cursor.rest)

/-- The name of an attribute is read up to the first character that cannot stand in it. -/
theorem markupName_append (hcursor : cursor.rest = name ++ c :: rest)
    (hname : ∀ d ∈ name, Text.isNamePart d) (hc : ¬ Text.isNamePart c) :
    (markupName cursor).lexeme = .word (String.ofList name) ∧
      (markupName cursor).stop.rest = c :: rest := by
  constructor
  · show Lexeme.word (cursor.stringTo (cursor.dropWhile Text.isNamePart)) = _
    rw [stringTo_dropWhile, hcursor, List.takeWhile_append_of_pos hname,
      List.takeWhile_cons_of_neg hc, List.append_nil]
  · show (cursor.dropWhile Text.isNamePart).rest = _
    rw [rest_dropWhile, hcursor, List.dropWhile_append_of_pos hname, List.dropWhile_cons_of_neg hc]

theorem takeWhile_ne_append (text rest : List Char) (quote : Char) :
    (text ++ quote :: rest).takeWhile (· != quote) = text.takeWhile (· != quote) := by
  induction text with
  | nil => simp
  | cons d text ih => rw [List.cons_append, List.takeWhile_cons, List.takeWhile_cons, ih]

/-- The text of an attribute is read up to the first quote of its kind. -/
theorem attributeText_append (hcursor : cursor.rest = quote :: (text ++ quote :: rest)) :
    ∃ raw, (attributeText quote cursor).lexeme =
      .string (String.ofList (text.takeWhile (· != quote))) raw false := by
  have hnext : cursor.next.rest = text ++ quote :: rest := by
    rw [Cursor.next, hcursor]
  have hstop : (cursor.next.dropWhile (· != quote)).rest ≠ [] := by
    rw [rest_dropWhile, hnext]
    intro hnil
    have hall := List.dropWhile_eq_nil_iff.1 hnil quote (by simp)
    simp at hall
  refine ⟨cursor.next.stringTo (cursor.next.dropWhile (· != quote)), ?_⟩
  rw [attributeText]
  dsimp only
  rw [if_neg (by simpa using hstop), Result.plain, stringTo_dropWhile, hnext, takeWhile_ne_append]

/-- No gap stands before an equals sign or a quote. -/
theorem next_of_char (hcursor : cursor.rest = c :: rest) (hc : c = '=' ∨ c = '"' ∨ c = '\'') :
    next (fuel + 1) inAttribute cursor log =
      finish cursor (lexemeAt (fuel + 1) inAttribute cursor) ⟨log, false, false, false, []⟩ := by
  have hgap : skipGap (fuel + 1) cursor ⟨log, false, false, false, []⟩ =
      (some cursor, ⟨log, false, false, false, []⟩) := by
    obtain ⟨offset, text⟩ := cursor
    cases hcursor
    rcases hc with rfl | rfl | rfl <;> rfl
  rw [next, hgap]

/-- An equals sign before a quote is a symbol of its own. -/
theorem next_equals (hcursor : cursor.rest = '=' :: quote :: rest)
    (hquote : quote = '"' ∨ quote = '\'') :
    (next (fuel + 1) inAttribute cursor log).token.lexeme = .symbol "=" ∧
      (next (fuel + 1) inAttribute cursor log).stop.rest = quote :: rest := by
  rw [next_of_char hcursor (.inl rfl)]
  obtain ⟨offset, text⟩ := cursor
  cases hcursor
  rcases hquote with rfl | rfl <;> exact ⟨rfl, rfl⟩

/-- Where the value of an attribute is expected, the text in quotes is read as one. -/
theorem next_attributeText (hcursor : cursor.rest = quote :: (text ++ quote :: rest))
    (hquote : quote = '"' ∨ quote = '\'') :
    ∃ raw, (next (fuel + 1) true cursor log).token.lexeme =
      .string (String.ofList (text.takeWhile (· != quote))) raw false := by
  obtain ⟨raw, hlexeme⟩ := attributeText_append hcursor
  have hat : lexemeAt (fuel + 1) true cursor = attributeText quote cursor := by
    obtain ⟨offset, text⟩ := cursor
    cases hcursor
    rcases hquote with rfl | rfl <;> rfl
  refine ⟨raw, ?_⟩
  rw [next_of_char hcursor (.inr hquote), hat]
  exact hlexeme

end Lexer

/-! ## Reading attributes -/

namespace Parser

variable {α β : Type} {p : Parser α} {f : α → Parser β} {env : ParserEnv} {s s' : ParserState}

theorem bind_of_eq_ok {a : α} (h : p env s = .ok a s') : (p >>= f) env s = f a env s' := by
  show EStateM.bind (p env) (fun a => f a env) s = _
  rw [EStateM.bind, h]

/-- The state behind the current token. -/
def skipped (inAttribute : Bool) (s : ParserState) : ParserState :=
  let reading := Lexer.next (stepsLeft s) inAttribute s.stop s.log
  { s with
    token := reading.token
    start := reading.start
    stop := reading.stop
    prevEnd := s.token.span.stop
    log := reading.log
    tokenProblems := reading.problems.reverse ++ s.tokenProblems }

theorem skipToken_eq (inAttribute : Bool) (env : ParserEnv) (s : ParserState) :
    skipToken inAttribute env s = .ok () (skipped inAttribute s) := rfl

theorem startOffset_eq (env : ParserEnv) (s : ParserState) :
    startOffset env s = .ok s.token.span.start s := rfl

theorem lexeme_eq (env : ParserEnv) {l : Lexeme} (h : s.token.lexeme = l) :
    lexeme env s = .ok l s :=
  congrArg (EStateM.Result.ok · s) h

theorem atSymbol_eq (text : String) (env : ParserEnv) (s : ParserState) :
    atSymbol text env s = .ok (s.token.lexeme.isSymbol text) s := rfl

theorem eatSymbol_of_not (env : ParserEnv) {text : String}
    (h : ¬ s.token.lexeme.isSymbol text) : eatSymbol text env s = .ok false s := by
  rw [eatSymbol, bind_of_eq_ok (atSymbol_eq text env s), if_neg h]
  rfl

/-- A name in a tag is read as a word. -/
theorem markupWord_append (env : ParserEnv) {c : Char} {name : String} {rest : List Char}
    (hword : isAnyWord s.token.lexeme) (hstart : s.start.rest = name.toList ++ c :: rest)
    (hname : name.toList.all Text.isNamePart) (hc : ¬ Text.isNamePart c) :
    ∃ span s₁, s₁.stop.rest = c :: rest ∧
      markupWord env s = .ok (.mk (.word name) span []) (skipped false s₁) := by
  obtain ⟨hlexeme, hstop⟩ := Lexer.markupName_append hstart (List.all_eq_true.1 hname) hc
  rw [String.ofList_toList] at hlexeme
  let s₁ : ParserState :=
    { s with
      token := { s.token with
        lexeme := (Lexer.markupName s.start).lexeme
        span := ⟨s.start.offset, (Lexer.markupName s.start).stop.offset⟩ }
      stop := (Lexer.markupName s.start).stop }
  refine ⟨⟨s.start.offset, s₁.stop.offset⟩, s₁, hstop, ?_⟩
  have hread : wordName env s₁ =
      .ok (.mk (.word name) ⟨s.start.offset, s₁.stop.offset⟩ []) (skipped false s₁) := by
    rw [wordName, anyWord, bind_of_eq_ok (lexeme_eq env hlexeme)]
    rfl
  rw [← hread, markupWord, bind_of_eq_ok (lexeme_eq env rfl)]
  simp only [hword]
  rfl

/-- A string in the place of a value is read as it is. -/
theorem attributeValue_string (env : ParserEnv) {value raw : String} {lone : Bool}
    (hlexeme : s.token.lexeme = .string value raw lone) :
    ∃ span, attributeValue env s = .ok (.mk (.string value lone) span []) (skipped false s) := by
  have hadvance : advance env s = .ok () (skipped false s) := by
    rw [advance, bind_of_eq_ok (a := s.token) rfl]
    simp only [hlexeme]
    rfl
  refine ⟨⟨s.token.span.start, s.token.span.stop⟩, ?_⟩
  rw [attributeValue, bind_of_eq_ok (startOffset_eq env s), bind_of_eq_ok (lexeme_eq env hlexeme)]
  simp only
  rw [literal, bind_of_eq_ok (lexeme_eq env hlexeme)]
  simp only [literalKind?]
  rw [bind_of_eq_ok (startOffset_eq env s), bind_of_eq_ok hadvance]
  rfl

/-- An attribute that was written with a text is read as one of the same name, with the text up to
the first quote of the kind in which it was written. -/
theorem markupAttribute_written (env : ParserEnv) {name text : String} {rest : List Char}
    (hword : isAnyWord s.token.lexeme)
    (hstart : s.start.rest = Text.writtenAttribute name.toList text.toList ++ rest)
    (hname : name.toList.all Text.isNamePart) :
    ∃ span nameSpan valueSpan s', markupAttribute env s =
      .ok (.mk .markupAttribute span [.mk (.word name) nameSpan [],
        .mk (.string (String.ofList (Text.readBack text.toList)) false) valueSpan []]) s' := by
  have hquote := Text.quoteFor_eq text.toList
  have hstart' : s.start.rest = name.toList ++ '=' :: Text.quoteFor text.toList ::
      (text.toList ++ Text.quoteFor text.toList :: rest) := by
    rw [hstart, Text.writtenAttribute]
    simp
  -- Behind the name stand the equals sign and the text.
  obtain ⟨nameSpan, s₁, hbehind, hread⟩ := markupWord_append env hword hstart' hname (by decide)
  obtain ⟨hequals, hbehind⟩ : (skipped false s₁).token.lexeme = .symbol "=" ∧
      (skipped false s₁).stop.rest = _ := Lexer.next_equals hbehind hquote
  obtain ⟨raw, htext⟩ : ∃ raw, (skipped true (skipped false s₁)).token.lexeme =
      .string (String.ofList (Text.readBack text.toList)) raw false :=
    Lexer.next_attributeText hbehind hquote
  obtain ⟨valueSpan, hvalue⟩ := attributeValue_string env htext
  have hbrace : ¬ s.token.lexeme.isSymbol "\x7b" := by
    cases hlexeme : s.token.lexeme <;> simp [hlexeme, isAnyWord, Lexeme.isSymbol] at hword ⊢
  have hcolon : ¬ (skipped false s₁).token.lexeme.isSymbol ":" := by
    rw [hequals]
    decide
  have hsign : (skipped false s₁).token.lexeme.isSymbol "=" := by
    rw [hequals]
    decide
  let s₂ := skipped false (skipped true (skipped false s₁))
  refine ⟨⟨s.token.span.start, s₂.prevEnd⟩, nameSpan, valueSpan, s₂, ?_⟩
  have hfirst : attributeName s.token.span.start env s =
      .ok (.mk (.word name) nameSpan []) (skipped false s₁) := by
    rw [attributeName, bind_of_eq_ok hread, bind_of_eq_ok (eatSymbol_of_not env hcolon)]
    rfl
  have hsecond : attributeRest env (skipped false s₁) =
      .ok (.mk (.string (String.ofList (Text.readBack text.toList)) false) valueSpan []) s₂ := by
    rw [attributeRest, bind_of_eq_ok (atSymbol_eq "=" env _), if_pos hsign,
      bind_of_eq_ok (skipToken_eq true env _), hvalue]
  rw [markupAttribute, bind_of_eq_ok (startOffset_eq env s),
    bind_of_eq_ok (eatSymbol_of_not env hbrace)]
  simp only [Bool.false_eq_true, if_false]
  rw [namedAttribute, bind_of_eq_ok hfirst, bind_of_eq_ok hsecond]
  rfl

end Parser

/-- Whether a text is read as an attribute about which something is known, whatever stands behind
it, where the token in front is a word. -/
def ReadsAs (written : List Char) (report : ClassReport) : Prop :=
  ∀ (env : ParserEnv) (s : ParserState) (rest : List Char), Parser.isAnyWord s.token.lexeme →
    s.start.rest = written ++ rest → ∃ node s', Parser.markupAttribute env s = .ok node s' ∧
      ClassReport.ofNode? node = some report

/-- The state in front of a word, at the start of a text. -/
def ParserState.atWord (name : String) (text : List Char) : ParserState :=
  let s := Parser.start []
  { s with token := { s.token with lexeme := .word name }, start := ⟨0, text⟩ }

/-- An attribute that was written with a text is read as one with this text exactly when it lacks
quotes of one kind. -/
theorem readsAs_written_iff (text : String) {name : String}
    (hname : name.toList.all Text.isNamePart) :
    ReadsAs (Text.writtenAttribute name.toList text.toList)
      ⟨name, isClassName (.mk (.word name) ⟨0, 0⟩ []), some text⟩ ↔
        Text.isQuotable text.toList := by
  rw [← Text.readBack_eq_iff]
  constructor
  · intro h
    let env : ParserEnv := ⟨.program, Parser.run 0⟩
    let written := Text.writtenAttribute name.toList text.toList
    have hstart : (ParserState.atWord name written).start.rest = written ++ [] :=
      (List.append_nil _).symm
    obtain ⟨node, s', hread, hreport⟩ := h env (.atWord name written) [] rfl hstart
    obtain ⟨_, _, _, _, hsame⟩ := Parser.markupAttribute_written env rfl hstart hname
    rw [hsame] at hread
    cases hread
    have htext : String.ofList (Text.readBack text.toList) = text :=
      Option.some.inj (ClassReport.mk.inj (Option.some.inj hreport)).2.2
    exact String.toList_ofList.symm.trans (congrArg String.toList htext)
  · intro h env s rest hword hstart
    obtain ⟨span, nameSpan, valueSpan, s', hread⟩ :=
      Parser.markupAttribute_written env hword hstart hname
    rw [h, String.ofList_toList] at hread
    exact ⟨_, s', hread, rfl⟩

end JsxTidy
