import JsxTidy.Proofs.Import.Piece
import JsxTidy.Proofs.Printer.Import
import JsxTidy.Proofs.Printer.Shallow

/-!
# Writing imports as they were read

A program with markers in its imports is written like one with the original texts of the imports in
the same places: the two are written as the same pieces. Between the imports both are written by
the same printers, which write the same on the different grounds that the imports leave.
-/

namespace JsxTidy

open Syntax

namespace Printer

open VerbatimImport

/-- Writes an import as it was read, with a semicolon at its end. -/
def keptImport (source : List Char) (span : Span) : Printer Unit := do
  commentsAt span.start
  indentation
  putChars (closed (Text.sliceBytes span.start span.stop source))
  newline

/-- Writes a statement, an import without specifiers as it was read. -/
def keptStatement (source : List Char) (statement : Node) : Printer Unit :=
  if isBare statement then keptImport source statement.span else part statement

/-- Whether two actions write the same pieces on all grounds, the first one with the markers of some
imports and the second one with their original texts. -/
def WritePieces (imports : List VerbatimImport) (a₁ a₂ : StateM PrinterState Unit) : Prop :=
  ∀ (g : Ground) (s₁ s₂ : PrinterState), g.Level s₁ s₂ → ∃ (pieces : List Piece) (g' : Ground),
    Piece.imports pieces = imports ∧
    (a₁ s₁).2.text = s₁.text ++ Piece.markedText pieces ∧
    (a₂ s₂).2.text = s₂.text ++ Piece.keptText pieces ∧
    g'.Level (a₁ s₁).2 (a₂ s₂).2

section WritePieces

variable {imports later : List VerbatimImport} {a₁ a₂ b₁ b₂ : StateM PrinterState Unit}

theorem WritePieces.bind (h : WritePieces imports a₁ a₂) (h' : WritePieces later b₁ b₂) :
    WritePieces (imports ++ later) (a₁ >>= fun _ => b₁) (a₂ >>= fun _ => b₂) := by
  intro g s₁ s₂ hlevel
  obtain ⟨pieces, g', himports, h₁, h₂, hlevel'⟩ := h g s₁ s₂ hlevel
  obtain ⟨pieces', g'', himports', h₁', h₂', hlevel''⟩ := h' g' _ _ hlevel'
  refine ⟨pieces ++ pieces', g'', ?_, ?_, ?_, hlevel''⟩
  · rw [Piece.imports_append, himports, himports']
  · show (b₁ (a₁ s₁).2).2.text = _
    rw [h₁', h₁, Piece.markedText_append, List.append_assoc]
  · show (b₂ (a₂ s₂).2).2.text = _
    rw [h₂', h₂, Piece.keptText_append, List.append_assoc]

/-- A uniform printer writes text that stays. -/
theorem writePieces_of_uniform {env : PrinterEnv} (henv : env.KeepsLevel) (p : Printer Unit)
    [hp : Uniform p] : WritePieces [] (p env) (p env) := by
  intro g s₁ s₂ hlevel
  have hafter := (hp.keepsLevel env henv _ s₁ s₂ hlevel.restart).2
  obtain ⟨written, h₁, h₂⟩ := hafter.text
  refine ⟨[.plain written.reverse], _, rfl, ?_, ?_, hafter⟩
  · simp [PrinterState.text, h₁, Piece.markedText, Piece.marked]
  · simp [PrinterState.text, h₂, Piece.keptText, Piece.kept]

/-- A line with the marker of an import and a line with its original text are an import. -/
theorem writePieces_of_puts {env env' : PrinterEnv} {p q : Printer Unit} {opening : ImportOpening}
    {import' : VerbatimImport} (hp : Puts env p (markedStatement opening import' ++ ['\n']))
    (hq : Puts env' q (closed import'.original ++ ['\n'])) :
    WritePieces [import'] (p env) (q env') := by
  intro g s₁ s₂ hlevel
  have hlast : ∀ cs : List Char, (cs ++ ['\n']).getLast? = some '\n' := fun _ => by simp
  obtain ⟨g', hlevel'⟩ := hlevel.diverge (hlast (markedStatement opening import'))
    (hlast (closed import'.original))
  refine ⟨[.bare opening import', .plain ['\n']], g', rfl, ?_, ?_, ?_⟩
  · rw [hp, PrinterState.text_append]
    simp [Piece.markedText, Piece.marked]
  · rw [hq, PrinterState.text_append]
    simp [Piece.keptText, Piece.kept]
  · rw [hp, hq]
    exact hlevel'

end WritePieces

/-! ## One statement -/

/-- Writes what comes before an import on its line. -/
def importFront (start : Nat) : Printer Unit := do
  commentsAt start
  indentation

instance importFront_uniform (start : Nat) : Uniform (importFront start) := by
  unfold importFront
  infer_instance

instance importFront_shallow (start : Nat) : Shallow (importFront start) := by
  unfold importFront
  infer_instance

/-- An import without specifiers is written in the same place with its marker and with its own
text. -/
theorem writePieces_bare {statement : Node} (h : isBare statement) (source : List Char)
    (depth salt index : Nat) :
    WritePieces
      [⟨markerOf salt index, Text.sliceBytes statement.span.start statement.span.stop source⟩]
      (part (mark (markerOf salt index) statement) ⟨write (depth + 2)⟩)
      (keptStatement source statement ⟨write (depth + 2)⟩) := by
  have hkept : keptStatement source statement = keptImport source statement.span := if_pos h
  rw [hkept]
  obtain ⟨isType, phase, span, clause, old, attributes, rfl, hclause⟩ := exists_of_isBare h
  have hfront := writePieces_of_uniform (write_keepsLevel (depth + 1)) (importFront span.start)
  have hmarked := puts_markedImport depth salt index (Text.sliceBytes span.start span.stop source)
    hclause isType phase old.span
  have horiginal : Puts ⟨write (depth + 2)⟩
      (putChars (closed (Text.sliceBytes span.start span.stop source)) >>= fun _ => newline) _ :=
    (puts_putChars _).bind (puts_putChar '\n')
  -- The comments in front of the import are written from different depths.
  have hsplit : keptImport source span ⟨write (depth + 2)⟩ =
      (importFront span.start ⟨write (depth + 2)⟩ >>= fun _ =>
        (putChars (closed (Text.sliceBytes span.start span.stop source)) >>= fun _ => newline)
          ⟨write (depth + 2)⟩) := rfl
  rw [(importFront_shallow span.start).run_eq _ ⟨write (depth + 1)⟩] at hsplit
  show WritePieces _ _ (keptImport source span ⟨write (depth + 2)⟩)
  rw [hsplit]
  exact hfront.bind (writePieces_of_puts hmarked horiginal)

/-! ## All statements -/

theorem height_le_heights {node : Node} {nodes : List Node} (h : node ∈ nodes) :
    height node ≤ heights nodes := by
  induction nodes with
  | nil => cases h
  | cons first rest ih =>
      rw [heights]
      rcases List.mem_cons.1 h with rfl | hrest
      · exact Nat.le_max_left _ _
      · exact Nat.le_trans (ih hrest) (Nat.le_max_right _ _)

/-- An import with a marker has its source inside. -/
theorem two_le_height_mark {statement : Node} (h : isBare statement) (marker : List Char) :
    2 ≤ height (mark marker statement) := by
  obtain ⟨isType, phase, span, clause, old, attributes, rfl, _⟩ := exists_of_isBare h
  have hsource : Node.mk (.string (String.ofList marker) false) old.span [] ∈
      [clause, .mk (.string (String.ofList marker) false) old.span [], .none] := by simp
  have hle := height_le_heights hsource
  simp only [mark, height, heights] at hle ⊢
  omega

variable {source : List Char} {salt depth : Nat}

theorem writePieces_statements (index : Nat) (body : List Node)
    (hdepth : ∀ statement ∈ (captureFrom source salt index body).1, height statement < depth) :
    WritePieces (captureFrom source salt index body).2
      ((captureFrom source salt index body).1.forM part ⟨write depth⟩)
      (body.forM (keptStatement source) ⟨write depth⟩) := by
  induction body generalizing index with
  | nil => exact writePieces_of_uniform (write_keepsLevel depth) (pure ())
  | cons statement rest ih =>
      by_cases hbare : isBare statement
      · rw [captureFrom, if_pos hbare] at hdepth ⊢
        have hheight := hdepth _ List.mem_cons_self
        have hle := two_le_height_mark hbare (markerOf salt index)
        obtain ⟨d, rfl⟩ : ∃ d, depth = d + 2 := ⟨depth - 2, by omega⟩
        have hrest := ih (index + 1) fun later hlater =>
          hdepth later (List.mem_cons_of_mem _ hlater)
        exact (writePieces_bare hbare source d salt index).bind hrest
      · rw [captureFrom, if_neg hbare] at hdepth ⊢
        have hrest := ih index fun later hlater => hdepth later (List.mem_cons_of_mem _ hlater)
        have hkept : keptStatement source statement = part statement := if_neg hbare
        have hstatement : WritePieces [] (part statement ⟨write depth⟩)
            (keptStatement source statement ⟨write depth⟩) := by
          rw [hkept]
          exact writePieces_of_uniform (write_keepsLevel depth) (part statement)
        exact hstatement.bind hrest

/-- A string that stands as the first statement is no import, and what follows it does not
matter. -/
theorem firstString?_spec {directives body rest : List Node} {text : Node}
    (h : firstString? directives body = some (text, rest)) :
    ∃ statement, body = statement :: rest ∧ ¬ isBare statement ∧
      ∀ others, firstString? directives (statement :: others) = some (text, others) := by
  unfold firstString? at h
  split at h
  · split at h
    · cases h
      rename_i hstring
      refine ⟨_, rfl, by simp [isBare], fun others => ?_⟩
      simp [firstString?, hstring]
    · cases h
  · cases h

theorem isBare_mark {statement : Node} (h : isBare statement) (marker : List Char) :
    isBare (mark marker statement) := by
  obtain ⟨isType, phase, span, clause, old, attributes, rfl, hclause⟩ := exists_of_isBare h
  simp [isBare, mark, hclause]

/-- Markers bring no string to the front. -/
theorem firstString?_captureFrom_eq_none {directives body : List Node}
    (h : firstString? directives body = none) (source : List Char) (salt index : Nat) :
    firstString? directives (captureFrom source salt index body).1 = none := by
  rw [Option.eq_none_iff_forall_ne_some]
  rintro ⟨text, others⟩ hfound
  obtain ⟨first, hmarked, hfirst, hany⟩ := firstString?_spec hfound
  cases body with
  | nil => cases hmarked
  | cons statement rest =>
      by_cases hbare : isBare statement
      · rw [captureFrom, if_pos hbare] at hmarked
        obtain ⟨rfl, _⟩ := List.cons.inj hmarked
        exact hfirst (isBare_mark hbare _)
      · rw [captureFrom, if_neg hbare] at hmarked
        obtain ⟨rfl, _⟩ := List.cons.inj hmarked
        rw [hany] at h
        cases h

theorem writePieces_statementList (directives body : List Node)
    (hdepth : ∀ statement ∈ (captureFrom source salt 0 body).1, height statement < depth) :
    WritePieces (captureFrom source salt 0 body).2
      (statementList part directives (captureFrom source salt 0 body).1 ⟨write depth⟩)
      (statementList (keptStatement source) directives body ⟨write depth⟩) := by
  have hdirectives := writePieces_of_uniform (write_keepsLevel depth) (directives.forM part)
  cases hfirst : firstString? directives body with
  | none =>
      have hmarked := firstString?_captureFrom_eq_none hfirst source salt 0
      unfold statementList
      rw [hfirst, hmarked]
      exact hdirectives.bind (writePieces_statements 0 body hdepth)
  | some found =>
      obtain ⟨text, rest⟩ := found
      obtain ⟨statement, rfl, hbare, hany⟩ := firstString?_spec hfirst
      have hmarked : captureFrom source salt 0 (statement :: rest) =
          (statement :: (captureFrom source salt 0 rest).1,
            (captureFrom source salt 0 rest).2) := by
        rw [captureFrom, if_neg hbare]
      rw [hmarked] at hdepth ⊢
      have hrest := writePieces_statements 0 rest fun later hlater =>
        hdepth later (List.mem_cons_of_mem _ hlater)
      have hstring := writePieces_of_uniform (write_keepsLevel depth) (wrapped true (part text))
      have hend := writePieces_of_uniform (write_keepsLevel depth) endStatement
      unfold statementList
      rw [hany, hfirst]
      exact hdirectives.bind (hstring.bind (hend.bind hrest))

/-! ## Programs -/

theorem start_level (comments : List Comment) :
    Ground.Level ⟨[], [], rfl⟩ (start comments) (start comments) := by
  have hmarks : ∀ {α : Type} (g : Ground) (mark : Nat → α), g.Marks 0 mark none none :=
    fun _ _ => ⟨by simp, by simp⟩
  exact {
    text := ⟨[], rfl, rfl⟩
    length₁ := rfl
    length₂ := rfl
    depth := rfl
    indentAsSpace := rfl
    comments := rfl
    statementMark := hmarks _ _
    arrowMark := hmarks _ _
    exportMark := hmarks _ _
    regExpMark := hmarks _ _
    integerMark := hmarks _ _
    signMark := fun _ => hmarks _ _ }

/-- The number of pieces that the writer of a program descends at most. -/
def depthOf (p : Program) : Nat :=
  heights (p.directives ++ p.body) + 1

theorem toList_print (p : Program) (comments : List Comment) :
    (print p comments).toList =
      (programText part p ⟨write (depthOf p)⟩ (start comments)).2.text :=
  String.toList_ofList

theorem writePieces_programText (source : List Char) (p : Program) :
    WritePieces (capture source p).2
      (programText part (capture source p).1 ⟨write (depthOf (capture source p).1)⟩)
      (programText (keptStatement source) p ⟨write (depthOf (capture source p).1)⟩) := by
  have henv := write_keepsLevel (depthOf (capture source p).1)
  have hfirst := writePieces_of_uniform henv (commentsAt 0)
  have hdepth : ∀ statement ∈ (captureFrom source (VerbatimImport.salt source) 0 p.body).1,
      height statement < depthOf (capture source p).1 := fun statement hmem =>
    Nat.lt_succ_of_le (height_le_heights (List.mem_append_right p.directives hmem))
  have hbody := (writePieces_statementList p.directives p.body hdepth).bind
    (writePieces_of_uniform henv (commentsAt p.size))
  rw [List.append_nil] at hbody
  unfold programText
  have hsame : (capture source p).1.hashbang = p.hashbang := rfl
  rw [hsame]
  cases p.hashbang with
  | none =>
      have hpure := writePieces_of_uniform henv (pure ())
      exact hfirst.bind (hpure.bind hbody)
  | some text =>
      have hline := writePieces_of_uniform henv (hashbangLine text)
      exact hfirst.bind (hline.bind hbody)

end Printer

end JsxTidy
