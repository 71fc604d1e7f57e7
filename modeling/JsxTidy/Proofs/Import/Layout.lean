import JsxTidy.Proofs.Import.Liveness
import JsxTidy.Proofs.Printer.Kept

/-!
# Imports without specifiers

Such imports should come out as they were read, and everything else as if they were not there. So
they do when no marker occurs in what is written before its import: a literal or a name may hold a
marker once it is written, even though the text that was read does not hold one.
-/

namespace JsxTidy

open VerbatimImport

/-- The text of a program whose imports without specifiers are written as they were read. Its other
statements are written as in the program with markers. -/
def printKept (source : String) (parsed : Parsed) : String :=
  let (marked, _) := capture source.toList parsed.program
  let (_, s) := Printer.programText (Printer.keptStatement source.toList) parsed.program
    ⟨Printer.write (Printer.depthOf marked)⟩ (Printer.start parsed.comments)
  String.ofList s.text

/-- A program that was read, tidied. -/
def Parsed.tidied (parsed : Parsed) (o : TidyOptions) : Parsed :=
  { parsed with program := (parsed.program.tidy (ScopeTree.build parsed.program) o).1 }

/-- The pieces of the text of a program: with the markers of its imports they are the text that the
imports are restored in, and with the original texts the text that should come out. -/
structure Layout (source : String) (parsed : Parsed) where
  pieces : List Piece
  imports_eq : Piece.imports pieces = (capture source.toList parsed.program).2
  marked_eq : Piece.markedText pieces =
    (print (capture source.toList parsed.program).1 parsed.comments).toList
  kept_eq : Piece.keptText pieces = (printKept source parsed).toList

/-- Every program has a layout. -/
theorem exists_layout (source : String) (parsed : Parsed) : Nonempty (Layout source parsed) := by
  obtain ⟨pieces, _, himports, hmarked, hkept, _⟩ :=
    Printer.writePieces_programText source.toList parsed.program _ _ _
      (Printer.start_level parsed.comments)
  refine ⟨⟨pieces, himports, ?_, ?_⟩⟩
  · rw [Printer.toList_print]
    exact hmarked.symm
  · refine Eq.trans hkept.symm ?_
    exact String.toList_ofList.symm

/-- The imports of a program come out as they were read exactly when no marker occurs before its
import. -/
theorem Layout.printVerbatim_eq_iff {source : String} {parsed : Parsed}
    (layout : Layout source parsed) :
    printVerbatim source parsed = printKept source parsed ↔ Piece.Unmistakable layout.pieces := by
  have hfit : Fit (Piece.imports layout.pieces) :=
    layout.imports_eq ▸ capture_fit source.toList parsed.program
  have hprint : (printVerbatim source parsed).toList =
      restore (Piece.imports layout.pieces) (Piece.markedText layout.pieces) := by
    rw [layout.imports_eq, layout.marked_eq]
    exact String.toList_ofList
  rw [← Piece.restore_eq_iff hfit, ← hprint, layout.kept_eq, String.toList_inj]

/-- A run comes to what tidying with its options comes to. -/
theorem Pipeline.fst_run (pipeline : Pipeline) (source : String) :
    (pipeline.run source).1 = tidy pipeline.options source := by
  rw [Pipeline.run]
  split <;> exact Eq.symm ‹_›

/-- A run does not change the options. -/
theorem Pipeline.options_run (pipeline : Pipeline) (source : String) :
    (pipeline.run source).2.options = pipeline.options := by
  rw [Pipeline.run]
  split <;> rfl

/-- A run on a text that is a program gives the text of the program tidied. -/
theorem Pipeline.run_of_parse (pipeline : Pipeline) {source : String} {parsed : Parsed}
    (hparsed : parse source = .ok parsed) : (pipeline.run source).1 = .ok
      ⟨printVerbatim source (parsed.tidied pipeline.options), .ofChanges
        (parsed.program.tidy (ScopeTree.build parsed.program) pipeline.options).2⟩ := by
  rw [pipeline.fst_run, tidy, hparsed]
  rfl

/-- A run on a text that is a program gives the text in which each import without specifiers stands
as it was read, and the other statements as they are written, exactly when no marker occurs in what
stands before its import. -/
theorem Pipeline.run_keeps_imports_iff (pipeline : Pipeline) {source : String} {parsed : Parsed}
    (hparsed : parse source = .ok parsed) :
    Nonempty (Layout source (parsed.tidied pipeline.options)) ∧
      ∃ tidied, (pipeline.run source).1 = .ok tidied ∧
        ∀ layout : Layout source (parsed.tidied pipeline.options),
          tidied.code = printKept source (parsed.tidied pipeline.options) ↔
            Piece.Unmistakable layout.pieces := by
  refine ⟨exists_layout source _, _, pipeline.run_of_parse hparsed, fun layout => ?_⟩
  exact layout.printVerbatim_eq_iff

/-- A program with a string before an import without specifiers. -/
def plainStringSource : String :=
  "f(\"a\");\nimport \"a\"\n"

/-- Nothing before the import looks like a marker, and so it comes out as it was read. -/
theorem plain_string_keeps_import : ∃ parsed, parse plainStringSource = .ok parsed ∧
    ∃ layout : Layout plainStringSource (parsed.tidied .default),
      Piece.Unmistakable layout.pieces := by
  have hread : ∃ parsed, (parse plainStringSource).toOption = some parsed ∧
      printKept plainStringSource (parsed.tidied .default) = "f(\"a\");\nimport \"a\";\n" :=
    exists_parsed_of_any (by decide +kernel)
  have htidied : ((Pipeline.new .default).run plainStringSource).1.toOption =
      some ⟨"f(\"a\");\nimport \"a\";\n", ⟨0, 0, 0⟩⟩ := by decide +kernel
  obtain ⟨parsed, hoption, hkept⟩ := hread
  have hparsed := eq_ok_of_toOption hoption
  obtain ⟨⟨layout⟩, tidied, hrun, hiff⟩ :=
    Pipeline.run_keeps_imports_iff (Pipeline.new .default) hparsed
  rw [hrun] at htidied
  refine ⟨parsed, hparsed, layout, (hiff layout).1 ?_⟩
  cases htidied
  exact hkept.symm

/-- A program that writes a marker before an import without specifiers. Its text holds no marker,
since an escape stands in the place of the first character. -/
def escapedMarkerSource : String :=
  "f(\"\\x5f_cleanup_verbatim_import_0__\");\nimport \"a\";\n"

/-- The import is not restored to its place, and its marker is left over. -/
theorem escaped_marker_import_lost :
    (∃ parsed, (parse escapedMarkerSource).toOption = some parsed ∧
      printKept escapedMarkerSource (parsed.tidied .default) =
        "f(\"__cleanup_verbatim_import_0__\");\nimport \"a\";\n") ∧
      ((Pipeline.new .default).run escapedMarkerSource).1.toOption =
        some ⟨"f(\"__cleanup_verbatim_import_0__\");\nimport \"__cleanup_verbatim_import_0__\";\n",
          ⟨0, 0, 0⟩⟩ := by
  exact ⟨exists_parsed_of_any (by decide +kernel), by decide +kernel⟩

end JsxTidy
