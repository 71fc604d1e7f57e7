import JsxTidy.Proofs.Attribute.Quotable
import JsxTidy.Proofs.Import.Layout
import JsxTidy.Proofs.Parser.Programs

/-!
# Whether the output can be read

A program that was read is legible, and it stays legible when it is tidied unless a class value
becomes a text with quotes of both kinds. Then the output can be read, provided that a legible
program is written so that it can be, and that no import is taken for another one. A program with
such a class value is not what any text is read as.
-/

namespace JsxTidy

open Syntax

/-- Whether a text can be read as a program. -/
def IsProgram (text : String) : Prop :=
  ∃ parsed, parse text = .ok parsed

/-- A run on a text that is a program comes to one, too, when no marker occurs before its import,
all class values that change become texts that can be written, and the tidied program, if it is
legible, is written as a program. When some class value does not become such a text, no text is read
as a program with the attributes that the tidied one has. -/
theorem Pipeline.run_readable (pipeline : Pipeline) {source : String} {parsed : Parsed}
    (hparsed : parse source = .ok parsed)
    (layout : Layout source (parsed.tidied pipeline.options)) :
    (Piece.Unmistakable layout.pieces →
      Node.everyOf (Kind.rewritesLegibly pipeline.options.normalizer) parsed.program.body →
      ((parsed.tidied pipeline.options).program.legible →
        IsProgram (printKept source (parsed.tidied pipeline.options))) →
      ∃ tidied, (pipeline.run source).1 = .ok tidied ∧ IsProgram tidied.code) ∧
    (¬ Node.everyOf (Kind.rewritesLegibly pipeline.options.normalizer) parsed.program.body →
      ∀ text reread, parse text = .ok reread → reread.program.attributeTexts ≠
        (parsed.tidied pipeline.options).program.attributeTexts) := by
  have hlegible := legible_of_parse hparsed
  have hiff : (parsed.tidied pipeline.options).program.legible ↔ _ :=
    legible_tidy_iff (ScopeTree.build parsed.program) pipeline.options hlegible
  constructor
  · intro hlayout hvalues hprinter
    refine ⟨_, pipeline.run_of_parse hparsed, ?_⟩
    rw [layout.printVerbatim_eq_iff.2 hlayout]
    exact hprinter (hiff.2 hvalues)
  · intro hvalues text reread hreread hsame
    have hwell : (parsed.tidied pipeline.options).program.wellFormed :=
      wellFormed_tidy _ _ (Program.wellFormed_of_legible hlegible)
    have htexts := (Program.legible_iff.1 (legible_of_parse hreread)).2
    rw [hsame] at htexts
    exact hvalues (hiff.1 (Program.legible_iff.2 ⟨hwell, htexts⟩))

/-- A program with a class value in which quotes of one kind stand, and an import without
specifiers. -/
def quotedClassSource : String :=
  "import \"s\"\nconst a = <div className=\x7b\" a  'b'\"\x7d />;\n"

/-- Its class value becomes a text that can be written, and the output is a program. -/
theorem quoted_class_readable : ∃ parsed, parse quotedClassSource = .ok parsed ∧
    ∃ layout : Layout quotedClassSource (parsed.tidied ⟨.barrier, .collapse⟩),
      Piece.Unmistakable layout.pieces ∧
      Node.everyOf (Kind.rewritesLegibly .collapse) parsed.program.body ∧
      IsProgram (printKept quotedClassSource (parsed.tidied ⟨.barrier, .collapse⟩)) ∧
      ∃ tidied, ((Pipeline.new ⟨.barrier, .collapse⟩).run quotedClassSource).1 = .ok tidied ∧
        IsProgram tidied.code := by
  have hread : ∃ parsed, (parse quotedClassSource).toOption = some parsed ∧
      Node.everyOf (Kind.rewritesLegibly .collapse) parsed.program.body ∧
      printKept quotedClassSource (parsed.tidied ⟨.barrier, .collapse⟩) =
        "import \"s\";\nconst a = <div className=\"a 'b'\" />;\n" ∧
      printVerbatim quotedClassSource (parsed.tidied ⟨.barrier, .collapse⟩) =
        printKept quotedClassSource (parsed.tidied ⟨.barrier, .collapse⟩) :=
    exists_parsed_of_any (by decide +kernel)
  obtain ⟨parsed, hoption, hvalues, hkept, hverbatim⟩ := hread
  have hparsed := eq_ok_of_toOption hoption
  obtain ⟨layout⟩ := exists_layout quotedClassSource (parsed.tidied ⟨.barrier, .collapse⟩)
  have hlayout := layout.printVerbatim_eq_iff.1 hverbatim
  have hprogram :
      IsProgram (printKept quotedClassSource (parsed.tidied ⟨.barrier, .collapse⟩)) := by
    rw [hkept]
    obtain ⟨reread, hreread⟩ := Option.isSome_iff_exists.1 (show (parse
      "import \"s\";\nconst a = <div className=\"a 'b'\" />;\n").toOption.isSome by decide +kernel)
    exact ⟨reread, eq_ok_of_toOption hreread⟩
  exact ⟨parsed, hparsed, layout, hlayout, hvalues, hprogram,
    ((Pipeline.new ⟨.barrier, .collapse⟩).run_readable hparsed layout).1 hlayout hvalues
      fun _ => hprogram⟩

/-- A program with a class value in which quotes of both kinds stand. -/
def bothQuotesSource : String :=
  "const a = <div className=\x7b\"a\\\"  'b'\"\x7d />;\n"

/-- The value is written in quotes that occur in it, and the output is no program. -/
theorem both_quotes_unreadable :
    (parse bothQuotesSource).toOption.isSome ∧
      ((Pipeline.new ⟨.barrier, .collapse⟩).run bothQuotesSource).1.toOption =
        some ⟨"const a = <div className='a\" 'b'' />;\n", ⟨0, 0, 1⟩⟩ ∧
      (parse "const a = <div className='a\" 'b'' />;\n").toOption.isNone := by
  exact ⟨by decide +kernel, by decide +kernel, by decide +kernel⟩

end JsxTidy
