import JsxTidy.Proofs.Attribute.KnownValue
import JsxTidy.Proofs.Attribute.Reading
import JsxTidy.Proofs.Tidy.Readable

/-!
# What becomes of class values

A class value that is rewritten is written as the text of an attribute, which has no escapes. It is
read back exactly when it lacks quotes of one kind. If all values that are rewritten do, a run keeps
them: `run_class_values`. With a text between quotes of which one occurs in it, even a program can
come out, but the attribute has lost a part of its text: `both_quotes_split`.
-/

namespace JsxTidy

open Syntax

variable {span nameSpan valueSpan : Span} {node found : Node} {name value text : String}
  {lone : Bool} {p q : Program}

/-- Whether the text of a program is read as the same program, apart from places, parentheses and
spellings. -/
structure IsReadAs (source : String) (parsed reread : Parsed) : Prop where
  parse_eq : parse (printKept source parsed) = .ok reread
  stripped_eq : reread.program.stripped = parsed.program.stripped

/-! ## Attributes with a class value -/

/-- A class attribute has a word as its name. -/
theorem exists_of_classReport (hwell : node.wellFormed)
    (h : ClassReport.ofNode? node = some ⟨name, true, some value⟩) :
    ∃ span nameSpan part, node = .mk .markupAttribute span [.mk (.word name) nameSpan [], part] ∧
      staticValue? part = some value ∧ (name = "className" ∨ name = "class") := by
  unfold ClassReport.ofNode? at h
  split at h
  · rename_i span first part
    obtain ⟨hname, hclass, hvalue⟩ := ClassReport.mk.inj (Option.some.inj h)
    have hfirst := (Node.wellFormed_mk.1 hwell).2 first List.mem_cons_self
    unfold isClassName at hclass
    split at hclass
    · rename_i word nameSpan inner
      obtain rfl : word = name := hname
      obtain rfl := List.isEmpty_iff.1 (Node.wellFormed_mk.1 hfirst).1
      exact ⟨span, nameSpan, part, rfl, hvalue, by simpa using hclass⟩
    · cases hclass
  · cases h

theorem isClassName_word (hname : name = "className" ∨ name = "class") (span : Span) :
    isClassName (.mk (.word name) span []) := by
  rcases hname with rfl | rfl <;> rfl

theorem isNamePart_of_className (hname : name = "className" ∨ name = "class") :
    name.toList.all Text.isNamePart := by
  rcases hname with rfl | rfl <;> decide

/-- A class attribute whose value changes is tidied to one of the same name with the new value. -/
theorem TidyOptions.result_class (o : TidyOptions) (span nameSpan : Span) {part : Node}
    (hwell : part.wellFormed) (hvalue : staticValue? part = some value)
    (hname : name = "className" ∨ name = "class") (hchange : o.normalizer value ≠ value) :
    ∃ valueSpan, o.rewriting.result
      (.mk .markupAttribute span [.mk (.word name) nameSpan [], part]) =
        .mk .markupAttribute span [.mk (.word name) nameSpan [],
          .mk (.string (o.normalizer value) false) valueSpan []] := by
  have hword : o.rewriting.result (.mk (.word name) nameSpan []) = .mk (.word name) nameSpan [] :=
    o.rewriting_onMarkup.result_other Bool.false_ne_true
  have hknown := (o.rewriting_onMarkup.staticValue?_result hwell).trans hvalue
  refine ⟨(o.rewriting.result part).span, ?_⟩
  rw [o.result_attribute, List.map_cons, List.map_singleton, hword,
    Rewriting.normalizing_class (isClassName_word hname nameSpan) hknown hchange]

/-- An attribute that is the same as one with a text, apart from places, has this text. -/
theorem ofNode?_of_stripped_eq (hwell : found.wellFormed) (heq : found.stripped =
    (Node.mk .markupAttribute span [.mk (.word name) nameSpan [],
      .mk (.string text lone) valueSpan []]).stripped) :
    ClassReport.ofNode? found =
      some ⟨name, isClassName (.mk (.word name) nameSpan []), some text⟩ := by
  have hattribute : ¬ Kind.isEnclosable .markupAttribute := Bool.false_ne_true
  have hword : ¬ (Kind.word name).isEnclosable := Bool.false_ne_true
  rw [Node.stripped_of_not_isEnclosable hattribute, List.map_cons, List.map_singleton,
    Node.stripped_of_not_isEnclosable hword, Node.stripped_string] at heq
  obtain ⟨_, before, rfl, hparts⟩ := Node.exists_of_stripped_eq heq hattribute
  obtain ⟨first, rest, rfl, hfirst, hrest⟩ := List.map_eq_cons_iff.1 hparts
  obtain ⟨second, rfl, hsecond⟩ := List.map_eq_singleton_iff.1 hrest
  obtain ⟨_, _, rfl, -⟩ := Node.exists_of_stripped_eq hfirst hword
  -- The value of an attribute is not in parentheses.
  obtain ⟨kind, span, parts⟩ := second
  have hadmits : Kind.isAttributeName (.word name) && kind.isAttributeValue :=
    (Node.wellFormed_mk.1 hwell).1
  have hkind := (Bool.and_eq_true_iff.1 hadmits).2
  have hopen : ¬ kind.isEnclosing := by
    cases kind <;> first | exact Bool.false_ne_true | cases hkind
  rw [Node.stripped_of_not_isEnclosing hopen] at hsecond
  have hstring := (Node.mk.inj hsecond).1
  cases kind <;> cases hkind <;> cases hstring
  rfl

namespace Syntax.Program

/-- A class attribute whose value changes has a place among those of the tidied program. -/
theorem exists_place (t : ScopeTree) (o : TidyOptions) (h : p.wellFormed)
    (hnode : node ∈ p.classAttributes) :
    ∃ place : Nat, (p.tidy t o).1.classAttributes[place]? = some (o.rewriting.result node) := by
  have hperm := (p.tidy_counts t o h).classes
  exact List.mem_iff_getElem?.1 (hperm.mem_iff.2 (List.mem_map_of_mem hnode))

/-- What has the same stripped syntax has the same class attributes, stripped, in the same order. -/
theorem exists_class_of_stripped_eq (hsame : q.stripped = p.stripped) {place : Nat}
    (hnode : p.classAttributes[place]? = some node) :
    ∃ found, q.classAttributes[place]? = some found ∧ found.stripped = node.stripped := by
  have hmap := congrArg classAttributes hsame
  rw [classAttributes_stripped, classAttributes_stripped] at hmap
  have hplace : (q.classAttributes.map Node.stripped)[place]? = some node.stripped := by
    rw [hmap, List.getElem?_map, hnode, Option.map_some]
  rw [List.getElem?_map, Option.map_eq_some_iff] at hplace
  exact hplace

theorem wellFormed_of_mem_classAttributes (h : p.wellFormed) (hnode : node ∈ p.classAttributes) :
    node.wellFormed :=
  wellFormed_of_mem_allOf h node (List.mem_of_mem_filter hnode)

end Syntax.Program

/-! ## Runs -/

/-- What becomes of a class attribute that gets another value. -/
structure IsRewritten (pipeline : Pipeline) (source : String) (parsed : Parsed) (node : Node)
    (name value : String) (place : Nat) : Prop where
  /-- It has a place in the tidied program. -/
  tidied : (parsed.tidied pipeline.options).program.classAttributes[place]? =
    some (pipeline.options.rewriting.result node)
  /-- It is written there as its name, an equals sign and the value in quotes. -/
  written : ∀ depth at' s,
    Printer.write (depth + 2) at' (pipeline.options.rewriting.result node) s =
      ((), s.append (Text.writtenAttribute name.toList value.toList))
  /-- This is read as an attribute with the value exactly if the value lacks quotes of one kind. -/
  readsAs_iff : ReadsAs (Text.writtenAttribute name.toList value.toList) ⟨name, true, some value⟩ ↔
    Text.isQuotable value.toList
  /-- The value is read at the place of the attribute in what a run comes to. -/
  kept : ∀ layout : Layout source (parsed.tidied pipeline.options),
    Piece.Unmistakable layout.pieces →
    Node.everyOf (Kind.rewritesLegibly pipeline.options.normalizer) parsed.program.body →
    ((parsed.tidied pipeline.options).program.legible →
      ∃ reread, IsReadAs source (parsed.tidied pipeline.options) reread) →
    ∃ tidied reread found, (pipeline.run source).1 = .ok tidied ∧
      parse tidied.code = .ok reread ∧ reread.program.classAttributes[place]? = some found ∧
      ClassReport.ofNode? found = some ⟨name, true, some value⟩
  /-- A value with quotes of both kinds is not what any attribute in any text is read with. -/
  lost : ¬ Text.isQuotable value.toList → ∀ text reread, parse text = .ok reread →
    value ∉ reread.program.attributeTexts

/-- Each class attribute whose known value changes gets the new value, which is kept when it is
written and read exactly as far as it lacks quotes of one kind. -/
theorem Pipeline.run_class_values (pipeline : Pipeline) {source : String} {parsed : Parsed}
    (hparsed : parse source = .ok parsed) (hnode : node ∈ parsed.program.classAttributes)
    (hvalue : ClassReport.ofNode? node = some ⟨name, true, some value⟩)
    (hchange : pipeline.options.normalizer value ≠ value) :
    ∃ place, IsRewritten pipeline source parsed node name
      (pipeline.options.normalizer value) place := by
  have hlegible := legible_of_parse hparsed
  have hwell := Program.wellFormed_of_legible hlegible
  obtain ⟨place, hplace⟩ :=
    Program.exists_place (ScopeTree.build parsed.program) pipeline.options hwell hnode
  have hnodeWell := Program.wellFormed_of_mem_classAttributes hwell hnode
  obtain ⟨span, nameSpan, part, rfl, hpart, hname⟩ := exists_of_classReport hnodeWell hvalue
  have hpartWell := (Node.wellFormed_mk.1 hnodeWell).2 part (by simp)
  obtain ⟨valueSpan, hresult⟩ :=
    pipeline.options.result_class span nameSpan hpartWell hpart hname hchange
  have hclass := isClassName_word hname
  refine ⟨place, hplace, ?_, ?_, ?_, ?_⟩
  · intro depth at' s
    rw [hresult]
    exact Printer.puts_attribute ..
  · have hiff := readsAs_written_iff (pipeline.options.normalizer value)
      (isNamePart_of_className hname)
    rwa [hclass] at hiff
  · -- The value is kept: the tidied program is read again and the place leads to the attribute.
    intro layout hlayout hvalues hprinter
    obtain ⟨reread, hreread⟩ :=
      hprinter ((legible_tidy_iff (ScopeTree.build parsed.program) _ hlegible).2 hvalues)
    obtain ⟨found, hfound, hsame⟩ := Program.exists_class_of_stripped_eq hreread.stripped_eq hplace
    have hrereadWell := Program.wellFormed_of_legible (legible_of_parse hreread.parse_eq)
    refine ⟨_, reread, found, pipeline.run_of_parse hparsed, ?_, hfound, ?_⟩
    · rw [layout.printVerbatim_eq_iff.2 hlayout]
      exact hreread.parse_eq
    · rw [hresult] at hsame
      rw [ofNode?_of_stripped_eq (Program.wellFormed_of_mem_classAttributes hrereadWell
        (List.mem_of_getElem? hfound)) hsame, hclass]
  · -- The value is lost: nothing that is read has an attribute with quotes of both kinds.
    intro hquotes text reread hread hmem
    exact hquotes ((Program.legible_iff.1 (legible_of_parse hread)).2 _ hmem)

/-- The value with quotes of one kind is read again where the attribute stands in the output. -/
theorem quoted_class_kept : ∃ parsed node, parse quotedClassSource = .ok parsed ∧
    node ∈ parsed.program.classAttributes ∧
    ClassReport.ofNode? node = some ⟨"className", true, some " a  'b'"⟩ ∧
    ClassNormalizer.collapse " a  'b'" = "a 'b'" ∧
    ∃ place, IsRewritten (.new ⟨.barrier, .collapse⟩) quotedClassSource parsed node "className"
      "a 'b'" place ∧
      ∃ tidied reread found,
        ((Pipeline.new ⟨.barrier, .collapse⟩).run quotedClassSource).1 = .ok tidied ∧
        parse tidied.code = .ok reread ∧ reread.program.classAttributes[place]? = some found ∧
        ClassReport.ofNode? found = some ⟨"className", true, some "a 'b'"⟩ := by
  have hcollapse : ClassNormalizer.collapse " a  'b'" = "a 'b'" := by decide +kernel
  have hread : ∃ parsed, (parse quotedClassSource).toOption = some parsed ∧
      (parsed.program.classAttributes.any fun node =>
        ClassReport.ofNode? node = some ⟨"className", true, some " a  'b'"⟩) ∧
      Node.everyOf (Kind.rewritesLegibly .collapse) parsed.program.body ∧
      printVerbatim quotedClassSource (parsed.tidied ⟨.barrier, .collapse⟩) =
        printKept quotedClassSource (parsed.tidied ⟨.barrier, .collapse⟩) ∧
      ((parse (printKept quotedClassSource (parsed.tidied ⟨.barrier, .collapse⟩))).toOption.any
        fun reread => reread.program.stripped =
          (parsed.tidied ⟨.barrier, .collapse⟩).program.stripped) :=
    exists_parsed_of_any (by decide +kernel)
  obtain ⟨parsed, hoption, hnode, hvalues, hverbatim, hany⟩ := hread
  obtain ⟨node, hmem, hreport⟩ := List.any_eq_true.1 hnode
  have hreport := of_decide_eq_true hreport
  have hparsed := eq_ok_of_toOption hoption
  obtain ⟨reread, hreread, hstripped⟩ := exists_parsed_of_any hany
  obtain ⟨layout⟩ := exists_layout quotedClassSource (parsed.tidied ⟨.barrier, .collapse⟩)
  obtain ⟨place, hrewritten⟩ := (Pipeline.new ⟨.barrier, .collapse⟩).run_class_values hparsed hmem
    hreport (by decide +kernel)
  rw [show (Pipeline.new ⟨.barrier, .collapse⟩).options.normalizer " a  'b'" = "a 'b'" from
    hcollapse] at hrewritten
  exact ⟨parsed, node, hparsed, hmem, hreport, hcollapse, place, hrewritten,
    hrewritten.kept layout (layout.printVerbatim_eq_iff.1 hverbatim) hvalues
      fun _ => ⟨reread, eq_ok_of_toOption hreread, hstripped⟩⟩

/-- A program with a class value that holds what another attribute looks like. -/
def strayAttributeSource : String :=
  "const a = <div className=\x7b\"\\\"  ' id='x\"\x7d />;\n"

/-- What the program with the class value is tidied to: a part of the value is an attribute. -/
def strayAttributeText : String :=
  "const a = <div className='\" ' id='x' />;\n"

/-- The value with quotes of both kinds loses its end, although the output is a program. -/
theorem both_quotes_split :
    (parse strayAttributeSource).toOption.map
      (fun parsed => parsed.program.classAttributes.map ClassReport.ofNode?) =
        some [some ⟨"className", true, some "\"  ' id='x"⟩] ∧
    ClassNormalizer.collapse "\"  ' id='x" = "\" ' id='x" ∧
    ((Pipeline.new ⟨.barrier, .collapse⟩).run strayAttributeSource).1.toOption =
      some ⟨strayAttributeText, ⟨0, 0, 1⟩⟩ ∧
    (parse strayAttributeText).toOption.map
      (fun parsed => parsed.program.classAttributes.map ClassReport.ofNode?) =
        some [some ⟨"className", true, some "\" "⟩] := by
  exact ⟨by decide +kernel, by decide +kernel, by decide +kernel, by decide +kernel⟩

end JsxTidy
