import JsxTidy.Proofs.Import.Layout
import JsxTidy.Proofs.Parser.Programs
import JsxTidy.Proofs.Tidy.Readable
import JsxTidy.Proofs.Tidy.Tidied

/-!
# Running twice

A program is settled when all its imports are used and the attributes of all its tags are in order.
Tidying settles a program (`settled_tidied`) and leaves a settled one as it is (`tidy_settled`) when
class values are kept. Being settled shows in stripped syntax: `Settled.congr`. So a program that
was tidied, written and read again has nothing left to tidy.

What a run has come to is then not changed by a second run, if what is written is read as the same
program, and no import is taken for another one in the first run. The second run finds a settled
program, and its markers do not occur in what it writes, since that is the text that it has read.
-/

namespace JsxTidy

open Syntax VerbatimImport

/-! ## Programs in which nothing is left to tidy -/

section Settled

/-- Whether nothing is left to tidy in a program when class values are kept. -/
structure Syntax.Program.Settled (policy : SpreadPolicy) (p : Program) : Prop where
  imports : removedImports (ScopeTree.build p) p.body = 0
  tags : Node.everyOf (Kind.inOrder policy) p.body

variable {policy : SpreadPolicy} {name : String} {kind : Kind} {r : Rewriting} {p q : Program}

/-! ## What names do -/

/-- Parentheses do nothing with names. -/
theorem NameProfile.root_enclosing (hkind : kind.isEnclosing) {inner : NameProfile}
    (hdeclared : inner.declared? = none) (hpresent : inner.isPresent) :
    root name kind [inner] = inner := by
  obtain ⟨declared?, isPresent, namesFunction, reach⟩ := inner
  cases hdeclared
  cases hpresent
  have hreach : ∀ context, (reachOf context [⟨none, true, namesFunction, reach⟩]) = reach context :=
    fun context => Reach.union_empty _
  cases kind <;> cases hkind <;>
    simp [root, rootReach, rootNamesFunction, declaredBy?, isPart, Reach.inScope,
      NameEvent.scopeOf?, NameEvent.contextIn, hreach]

/-- A piece of syntax does the same with names in parentheses and without them. -/
theorem Syntax.Node.profile_stripRoot (node : Node) :
    node.stripRoot.profile name = node.profile name := by
  obtain ⟨kind, span, parts⟩ := node
  rcases stripRoot_mk kind span parts with
    heq | ⟨⟨kind', span', parts'⟩, rfl, hkind, hinner, heq⟩
  · rw [heq, profile_mk, profile_mk]
    cases kind <;> rfl
  · rw [heq]
    refine ((profile_mk.trans (NameProfile.root_enclosing hkind ?_ ?_))).symm <;> rw [profile_mk]
    · cases kind' <;> first | rfl | cases hinner
    · cases kind' <;> first | rfl | cases hinner

theorem Syntax.Node.profile_stripped (node : Node) :
    node.stripped.profile name = node.profile name :=
  Rewriting.profile_result profile_stripRoot node

theorem Syntax.Program.reach_stripped (p : Program) : p.stripped.reach name = p.reach name := by
  have hmap : ∀ nodes : List Node, Node.reachOf name .lexical (nodes.map Node.stripped) =
      Node.reachOf name .lexical nodes := fun nodes =>
    Node.reachOf_map (fun node _ => node.profile_stripped) .lexical
  rw [reach, reach, stripped, hmap, hmap]

/-! ## Settled programs -/

namespace Syntax.Program

/-- Being settled shows in stripped syntax. -/
theorem settled_stripped_iff : p.stripped.Settled policy ↔ p.Settled policy := by
  have himports : removedImports (ScopeTree.build p.stripped) p.stripped.body =
      removedImports (ScopeTree.build p) p.body := by
    rw [removedImports_congr (isLiveSpecifier_congr fun _ => p.reach_stripped)]
    exact removedImports_stripped _ _
  have htags : Node.everyOf (Kind.inOrder policy) p.stripped.body ↔
      Node.everyOf (Kind.inOrder policy) p.body := by
    rw [Node.everyOf_iff, Node.everyOf_iff, stripped, List.forall_mem_map]
    exact forall₂_congr fun statement _ => Node.every_inOrder_stripped statement
  exact ⟨fun h => ⟨himports ▸ h.imports, htags.1 h.tags⟩,
    fun h => ⟨himports.symm ▸ h.imports, htags.2 h.tags⟩⟩

/-- Programs with the same stripped syntax are both settled or neither is. -/
theorem Settled.congr (h : p.Settled policy) (hsame : q.stripped = p.stripped) :
    q.Settled policy := by
  rw [← settled_stripped_iff, hsame]
  exact settled_stripped_iff.2 h

/-- A settled program is tidied if class values are kept. -/
theorem settled_iff_isTidied : p.Settled policy ↔ p.IsTidied ⟨policy, .keep⟩ := by
  refine ⟨fun h => ⟨h.imports, h.tags, ?_⟩, fun h => ⟨h.imports, h.tags⟩⟩
  rw [Node.everyOf_iff]
  exact fun statement _ => Node.every_isNormal_keep statement

/-- Tidying leaves a settled program as it is. -/
theorem tidy_settled (h : p.Settled policy) :
    p.tidy (ScopeTree.build p) ⟨policy, .keep⟩ = (p, 0) :=
  tidy_of_isTidied (settled_iff_isTidied.1 h)

/-- Tidying settles a program. -/
theorem settled_tidied (h : p.wellFormed) :
    (p.tidy (ScopeTree.build p) ⟨policy, .keep⟩).1.Settled policy :=
  settled_iff_isTidied.2 (isTidied_tidy h fun _ => rfl)

end Syntax.Program

end Settled

/-! ## A second run -/

/-- Whether the text of a program is read as the same program again, apart from places, parentheses
and spellings, and this program has the same text. -/
structure ReadsBack (source : String) (parsed reread : Parsed) : Prop where
  parse_eq : parse (printKept source parsed) = .ok reread
  stripped_eq : reread.program.stripped = parsed.program.stripped
  print_eq : printKept (printKept source parsed) reread = printKept source parsed

/-- A text that is written as it was read holds no marker before an import. -/
theorem Layout.unmistakable_of_printKept {text : String} {parsed : Parsed}
    (layout : Layout text parsed) (h : printKept text parsed = text) :
    Piece.Unmistakable layout.pieces := by
  intro front opening import' back hpieces hoccurs
  have himport : import' ∈ (capture text.toList parsed.program).2 := by
    rw [← layout.imports_eq, hpieces, Piece.imports_append]
    simp
  obtain ⟨⟨number, hmarker⟩, -⟩ := mem_capture himport
  have hfront : Piece.keptText front <:+: text.toList := by
    rw [← h, ← layout.kept_eq, hpieces, Piece.keptText_append]
    exact (List.prefix_append _ _).isInfix
  rw [hmarker] at hoccurs
  exact markerOf_not_infix text.toList number (hoccurs.trans hfront)

/-- A run on a settled program that is written as it was read changes nothing. -/
theorem Pipeline.run_settled (pipeline : Pipeline) (hkeep : pipeline.options.normalizer = .keep)
    {text : String} {parsed : Parsed} (hparsed : parse text = .ok parsed)
    (hsettled : parsed.program.Settled pipeline.options.spreadPolicy)
    (hprint : printKept text parsed = text) :
    (pipeline.run text).1 = .ok ⟨text, ⟨0, 0, 0⟩⟩ := by
  have htidy : parsed.program.tidy (ScopeTree.build parsed.program) pipeline.options =
      (parsed.program, 0) := by
    have hsame := Program.tidy_settled hsettled
    rwa [← hkeep] at hsame
  have htidied : parsed.tidied pipeline.options = parsed := by
    rw [Parsed.tidied, htidy]
  obtain ⟨layout⟩ := exists_layout text parsed
  rw [pipeline.run_of_parse hparsed, htidied, htidy,
    layout.printVerbatim_eq_iff.2 (layout.unmistakable_of_printKept hprint), hprint]
  rfl

/-- A second run on what a run has come to gives it again and changes nothing, when class values are
kept, no marker occurs before its import in the first run, and the tidied program is written as a
text that is read back as it. -/
theorem Pipeline.run_idempotent (pipeline : Pipeline)
    (hkeep : pipeline.options.normalizer = .keep) {source : String} {parsed reread : Parsed}
    (hparsed : parse source = .ok parsed)
    (layout : Layout source (parsed.tidied pipeline.options))
    (hlayout : Piece.Unmistakable layout.pieces)
    (hprinter : ReadsBack source (parsed.tidied pipeline.options) reread) :
    ∃ tidied, (pipeline.run source).1 = .ok tidied ∧
      ((pipeline.run source).2.run tidied.code).1 = .ok ⟨tidied.code, ⟨0, 0, 0⟩⟩ := by
  have hfirst := pipeline.run_of_parse hparsed
  rw [layout.printVerbatim_eq_iff.2 hlayout] at hfirst
  have hwell := Program.wellFormed_of_legible (legible_of_parse hparsed)
  have hsettled : reread.program.Settled pipeline.options.spreadPolicy := by
    refine Program.Settled.congr ?_ hprinter.stripped_eq
    have htidied : (parsed.program.tidy (ScopeTree.build parsed.program)
        ⟨pipeline.options.spreadPolicy, .keep⟩).1.Settled pipeline.options.spreadPolicy :=
      Program.settled_tidied hwell
    rwa [← hkeep] at htidied
  refine ⟨_, hfirst, ?_⟩
  refine (pipeline.run source).2.run_settled ?_ hprinter.parse_eq ?_ hprinter.print_eq
  · rw [pipeline.options_run, hkeep]
  · rwa [pipeline.options_run]

/-- Whether a given text is read back as a program is found by reading it. -/
theorem exists_readsBack {source text : String} {parsed : Parsed}
    (hkept : printKept source parsed = text)
    (h : (parse text).toOption.any fun reread =>
      decide (reread.program.stripped = parsed.program.stripped ∧ printKept text reread = text)) :
    ∃ reread, ReadsBack source parsed reread := by
  subst hkept
  obtain ⟨reread, hoption, hstripped, hprint⟩ := exists_parsed_of_any h
  exact ⟨reread, eq_ok_of_toOption hoption, hstripped, hprint⟩

/-- A program with an import without specifiers, an unused import, parentheses and a tag. -/
def unusedImportSource : String :=
  "import 's'\nimport \x7b a, b \x7d from 'm';\nconst c = <div \x7b...a\x7d d=\x7b(1.0)\x7d />;\n"

/-- What the program with the unused import is tidied to. -/
def usedImportText : String :=
  "import 's';\nimport \x7b a \x7d from \"m\";\nconst c = <div \x7b...a\x7d d=\x7b1\x7d />;\n"

/-- The second run finds nothing to do. -/
theorem unused_import_removed_once : ∃ parsed reread,
    parse unusedImportSource = .ok parsed ∧
    ∃ layout : Layout unusedImportSource (parsed.tidied .default),
      Piece.Unmistakable layout.pieces ∧
      ReadsBack unusedImportSource (parsed.tidied .default) reread ∧
      ∃ tidied, ((Pipeline.new .default).run unusedImportSource).1 = .ok tidied ∧
        (((Pipeline.new .default).run unusedImportSource).2.run tidied.code).1 =
          .ok ⟨tidied.code, ⟨0, 0, 0⟩⟩ := by
  have hread : ∃ parsed, (parse unusedImportSource).toOption = some parsed ∧
      printKept unusedImportSource (parsed.tidied .default) = usedImportText ∧
      printVerbatim unusedImportSource (parsed.tidied .default) = usedImportText ∧
      ((parse usedImportText).toOption.any fun reread =>
        decide (reread.program.stripped = (parsed.tidied .default).program.stripped ∧
          printKept usedImportText reread = usedImportText)) :=
    exists_parsed_of_any (by decide +kernel)
  obtain ⟨parsed, hoption, hkept, hverbatim, hany⟩ := hread
  have hparsed := eq_ok_of_toOption hoption
  obtain ⟨reread, hprinter⟩ := exists_readsBack hkept hany
  obtain ⟨layout⟩ := exists_layout unusedImportSource (parsed.tidied .default)
  have hlayout := layout.printVerbatim_eq_iff.1 (hverbatim.trans hkept.symm)
  exact ⟨parsed, reread, hparsed, layout, hlayout, hprinter,
    (Pipeline.new .default).run_idempotent rfl hparsed layout hlayout hprinter⟩

/-- A program that writes a marker between two used imports and one without specifiers. Its text
holds no marker, since an escape stands in the place of the first character. -/
def escapedMarkerCallSource : String :=
  "import a from 'm';\nimport b from 'n';\nb(a, '\\x5f_cleanup_verbatim_import_0__')\nimport 't';"

/-- What the program with the marker should be tidied to. -/
def keptMarkerCallText : String :=
  "import a from \"m\";\nimport b from \"n\";\nb(a, \"__cleanup_verbatim_import_0__\");\nimport 't';\n"

/-- What the program with the marker is tidied to: an import and the call have gone. -/
def markerCallText : String :=
  "import a from \"m\";\nimport 't';\nimport \"__cleanup_verbatim_import_0__\";\n"

/-- The tidied program would be read back, but the first run takes the call for the import without
specifiers, and the second run removes the import that the call used. -/
theorem escaped_marker_run_twice :
    (∃ parsed reread, parse escapedMarkerCallSource = .ok parsed ∧
      ReadsBack escapedMarkerCallSource (parsed.tidied .default) reread) ∧
    ((Pipeline.new .default).run escapedMarkerCallSource).1.toOption =
      some ⟨markerCallText, ⟨0, 0, 0⟩⟩ ∧
    (((Pipeline.new .default).run escapedMarkerCallSource).2.run markerCallText).1.toOption =
      some ⟨"import 't';\nimport \"__cleanup_verbatim_import_0__\";\n", ⟨1, 0, 0⟩⟩ := by
  have hfirst : ((Pipeline.new .default).run escapedMarkerCallSource).1.toOption =
      some ⟨markerCallText, ⟨0, 0, 0⟩⟩ := by decide +kernel
  have hsecond : (((Pipeline.new .default).run escapedMarkerCallSource).2.run
      markerCallText).1.toOption =
        some ⟨"import 't';\nimport \"__cleanup_verbatim_import_0__\";\n", ⟨1, 0, 0⟩⟩ := by
    decide +kernel
  have hread : ∃ parsed, (parse escapedMarkerCallSource).toOption = some parsed ∧
      printKept escapedMarkerCallSource (parsed.tidied .default) = keptMarkerCallText ∧
      ((parse keptMarkerCallText).toOption.any fun reread =>
        decide (reread.program.stripped = (parsed.tidied .default).program.stripped ∧
          printKept keptMarkerCallText reread = keptMarkerCallText)) :=
    exists_parsed_of_any (by decide +kernel)
  obtain ⟨parsed, hoption, hkept, hany⟩ := hread
  obtain ⟨reread, hprinter⟩ := exists_readsBack hkept hany
  exact ⟨⟨parsed, reread, eq_ok_of_toOption hoption, hprinter⟩, hfirst, hsecond⟩

end JsxTidy
