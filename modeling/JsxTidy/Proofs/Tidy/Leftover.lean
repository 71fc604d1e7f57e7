import JsxTidy.Proofs.Text.Collapse
import JsxTidy.Proofs.Tidy.ClassValues

/-!
# What one run leaves to normalize

A run brings all known class values into normal form. A value that parentheses keep from being known
is not rewritten, but the parentheses are not written either, and so a second run finds it:
`run_leftover` counts these values. If there are none, a second run has nothing to normalize.
-/

namespace JsxTidy

open Syntax

variable {normalize : ClassNormalizer} {o : TidyOptions} {t : ScopeTree} {node : Node}
  {p q : Program} {value : String}

/-- Whether the value of an attribute is known and not in normal form. -/
def Syntax.Node.isAbnormal (normalize : ClassNormalizer) (node : Node) : Bool :=
  node.knownValue?.any fun value => normalize value != value

theorem Syntax.Node.isAbnormal_iff : node.isAbnormal normalize ↔
    ∃ value, node.knownValue? = some value ∧ normalize value ≠ value := by
  rw [isAbnormal, Option.any_eq_true]
  simp only [bne_iff_ne]

/-- Whether only parentheses keep the value of an attribute from being known, and it is not in
normal form. -/
def Syntax.Node.isHidden (normalize : ClassNormalizer) (node : Node) : Bool :=
  node.knownValue?.isNone && node.stripped.isAbnormal normalize

/-! ## Counting values that are not in normal form -/

theorem isNormal_iff_not_isAbnormal (normalize : ClassNormalizer)
    (hclass : node.isClassAttribute) (h : node.wellFormed) :
    node.kind.isNormal normalize node.parts ↔ ¬ node.isAbnormal normalize := by
  obtain ⟨span, name, value, rfl, hname⟩ := Node.exists_of_isClassAttribute hclass h
  show Kind.isNormal normalize .markupAttribute [name, value] ↔ _
  cases hvalue : staticValue? value <;>
    simp [Kind.isNormal, Node.isAbnormal, Node.knownValue?, hname, hvalue]

namespace Syntax.Program

/-- A run counts the class values that are known and not in normal form. -/
theorem normalizedClasses_tidy (t : ScopeTree) (o : TidyOptions) (h : p.wellFormed) :
    (p.tidy t o).2.normalizedClasses = p.classAttributes.countP (Node.isAbnormal o.normalizer) := by
  rw [snd_tidy t o h]
  refine (sum_misfits p _).trans (countP_misfits ?_ fun node hmem hclass => ?_)
  · exact fun piece _ => Node.isNormal_of_not_isClassAttribute
  · exact isNormal_iff_not_isAbnormal _ hclass (wellFormed_of_mem_allOf h node hmem)

end Syntax.Program

/-! ## Parentheses -/

/-- The value of an attribute is stripped with it. -/
theorem knownValue?_stripped {span : Span} {name part : Node} :
    (Node.mk .markupAttribute span [name, part]).stripped.knownValue? =
      staticValue? part.stripped := by
  have hattribute : ¬ Kind.isEnclosable .markupAttribute := Bool.false_ne_true
  rw [Node.stripped_of_not_isEnclosable hattribute]
  rfl

/-- A known value stays known without parentheses. -/
theorem knownValue?_stripped_of_eq_some (hclass : node.isClassAttribute) (h : node.wellFormed)
    (hvalue : node.knownValue? = some value) : node.stripped.knownValue? = some value := by
  obtain ⟨span, name, part, rfl, -⟩ := Node.exists_of_isClassAttribute hclass h
  rw [knownValue?_stripped]
  exact staticValue?_stripped ((Node.wellFormed_mk.1 h).2 part (by simp)) hvalue

theorem isAbnormal_stripped (hclass : node.isClassAttribute) (h : node.wellFormed)
    (habnormal : node.isAbnormal normalize) : node.stripped.isAbnormal normalize := by
  obtain ⟨value, hvalue, hchange⟩ := Node.isAbnormal_iff.1 habnormal
  exact Node.isAbnormal_iff.2 ⟨value, knownValue?_stripped_of_eq_some hclass h hvalue, hchange⟩

/-- Tidying makes class attributes of class attributes only. -/
theorem TidyOptions.isClassAttribute_result (o : TidyOptions) (node : Node) :
    (o.rewriting.result node).isClassAttribute = node.isClassAttribute := by
  rw [Bool.eq_iff_iff, Node.isClassAttribute_iff, Node.isClassAttribute_iff, o.ofNode_result]

/-- A known value is tidied to its normal form. -/
theorem TidyOptions.knownValue?_result (o : TidyOptions) (hclass : node.isClassAttribute)
    (h : node.wellFormed) (hvalue : node.knownValue? = some value) :
    (o.rewriting.result node).knownValue? = some (o.normalizer value) := by
  by_cases hchange : o.normalizer value = value
  · have hnormal := (isNormal_iff_not_isAbnormal o.normalizer hclass h).2 (by
      simp [Node.isAbnormal, hvalue, hchange])
    rw [(o.isNormal_iff hclass h).1.1 hnormal, hvalue, hchange]
  · obtain ⟨span, name, part, rfl, hname⟩ := Node.exists_of_isClassAttribute hclass h
    have hpart := (Node.wellFormed_mk.1 h).2 part (by simp)
    have hname' : isClassName (o.rewriting.result name) := by
      rwa [isClassName_congr (o.rewriting_onMarkup.result_kind name)]
    rw [o.result_attribute, List.map_cons, List.map_singleton, Rewriting.normalizing_class hname'
      ((o.rewriting_onMarkup.staticValue?_result hpart).trans hvalue) hchange]
    rfl

/-- A value that is not known becomes the same value without parentheses, whether or not it was
tidied. -/
theorem TidyOptions.knownValue?_stripped_result (o : TidyOptions) (hclass : node.isClassAttribute)
    (h : node.wellFormed) (hvalue : node.knownValue? = none) :
    (o.rewriting.result node).stripped.knownValue? = node.stripped.knownValue? := by
  have hnormal := (isNormal_iff_not_isAbnormal o.normalizer hclass h).2 (by
    simp [Node.isAbnormal, hvalue])
  have hsame := (o.isNormal_iff hclass h).2 hnormal
  obtain ⟨span, name, part, rfl, -⟩ := Node.exists_of_isClassAttribute hclass h
  have hpart := (Node.wellFormed_mk.1 h).2 part (by simp)
  rw [hsame]
  refine knownValue?_stripped.trans (Eq.trans ?_ knownValue?_stripped.symm)
  exact o.rewriting_onMarkup.staticValue?_stripped_result hpart (o.wellFormed_result hpart)

/-- What is not in normal form in a tidied attribute without its parentheses is what parentheses
hid before. -/
theorem isAbnormal_stripped_result
    (hnormalize : ∀ text, o.normalizer (o.normalizer text) = o.normalizer text)
    (hclass : node.isClassAttribute) (h : node.wellFormed) :
    (o.rewriting.result node).stripped.isAbnormal o.normalizer = node.isHidden o.normalizer := by
  cases hvalue : node.knownValue? with
  | some value =>
      have hclass' := (o.isClassAttribute_result node).trans hclass
      have hknown := knownValue?_stripped_of_eq_some hclass' (o.wellFormed_result h)
        (o.knownValue?_result hclass h hvalue)
      simp [Node.isHidden, Node.isAbnormal, hknown, hvalue, hnormalize]
  | none =>
      have hsame := o.knownValue?_stripped_result hclass h hvalue
      simp [Node.isHidden, Node.isAbnormal, hsame, hvalue]

/-! ## A program that is tidied, written and read -/

/-- What only parentheses kept from being normalized in a program is not in normal form in the
tidied program without parentheses. -/
theorem Syntax.Program.countP_isHidden (t : ScopeTree)
    (hnormalize : ∀ text, o.normalizer (o.normalizer text) = o.normalizer text)
    (h : p.wellFormed) :
    (p.tidy t o).1.stripped.classAttributes.countP (Node.isAbnormal o.normalizer) =
      p.classAttributes.countP (Node.isHidden o.normalizer) := by
  have hperm := ((p.tidy_counts t o h).classes).map Node.stripped
  rw [classAttributes_stripped, hperm.countP_eq, List.map_map, List.countP_map]
  refine List.countP_congr fun node hnode => ?_
  have hclass : node.isClassAttribute := (List.mem_filter.1 hnode).2
  rw [← isAbnormal_stripped_result hnormalize hclass (wellFormed_of_mem_classAttributes h hnode)]
  rfl

/-- What is left to normalize in a program that is read where a tidied program was written. -/
structure IsLeftover (normalize : ClassNormalizer) (p tidied reread : Program) (count : Nat) :
    Prop where
  /-- It is at most what only parentheses hid in the program. -/
  le_hidden : count ≤ p.classAttributes.countP (Node.isHidden normalize)
  /-- It is all of it, if no parentheses hide a value any more. -/
  eq_hidden : (∀ node ∈ reread.classAttributes, node.stripped.knownValue? = node.knownValue?) →
    count = p.classAttributes.countP (Node.isHidden normalize)
  /-- A value is known only if it was known before, or was hidden by parentheses. -/
  known : ∀ (place : Nat) (before after : Node) (value : String),
    tidied.classAttributes[place]? = some before → reread.classAttributes[place]? = some after →
    after.knownValue? = some value → before.knownValue? = some value ∨
      before.knownValue? = none ∧ before.stripped.knownValue? = some value

/-- A value that is known in a program is known in one with the same stripped syntax, unless
parentheses hide it there. -/
theorem Syntax.Program.knownValue?_reread (hp : p.wellFormed) (hq : q.wellFormed)
    (hsame : q.stripped = p.stripped) {place : Nat} {before after : Node}
    (hbefore : p.classAttributes[place]? = some before)
    (hafter : q.classAttributes[place]? = some after) (hvalue : after.knownValue? = some value) :
    before.knownValue? = some value ∨
      before.knownValue? = none ∧ before.stripped.knownValue? = some value := by
  obtain ⟨found, hfound, hstripped⟩ := exists_class_of_stripped_eq hsame hbefore
  obtain rfl : found = after := Option.some.inj (hfound.symm.trans hafter)
  have hmem := List.mem_of_getElem? hafter
  have hmem' := List.mem_of_getElem? hbefore
  have hknown := knownValue?_stripped_of_eq_some (List.mem_filter.1 hmem).2
    (wellFormed_of_mem_classAttributes hq hmem) hvalue
  rw [hstripped] at hknown
  cases hold : before.knownValue? with
  | none => exact .inr ⟨rfl, hknown⟩
  | some old =>
      have hold' := knownValue?_stripped_of_eq_some (List.mem_filter.1 hmem').2
        (wellFormed_of_mem_classAttributes hp hmem') hold
      exact .inl (hold'.symm.trans hknown)

/-- Tidying a program that is read where a tidied program was written normalizes what was left. -/
theorem Syntax.Program.isLeftover (t : ScopeTree)
    (hnormalize : ∀ text, o.normalizer (o.normalizer text) = o.normalizer text)
    (h : p.wellFormed) (hq : q.wellFormed) (hsame : q.stripped = (p.tidy t o).1.stripped) :
    IsLeftover o.normalizer p (p.tidy t o).1 q
      (q.tidy (ScopeTree.build q) o).2.normalizedClasses := by
  have hwell : ∀ node ∈ q.classAttributes, node.wellFormed :=
    fun node hnode => wellFormed_of_mem_classAttributes hq hnode
  have hcount : p.classAttributes.countP (Node.isHidden o.normalizer) =
      q.classAttributes.countP (Node.isAbnormal o.normalizer ∘ Node.stripped) := by
    rw [← countP_isHidden t hnormalize h, ← hsame, classAttributes_stripped, List.countP_map]
  constructor
  · rw [normalizedClasses_tidy _ o hq, hcount]
    refine List.countP_mono_left fun node hnode habnormal => ?_
    exact isAbnormal_stripped (List.mem_filter.1 hnode).2 (hwell node hnode) habnormal
  · intro hopen
    rw [normalizedClasses_tidy _ o hq, hcount]
    refine List.countP_congr fun node hnode => ?_
    rw [Function.comp_apply, Node.isAbnormal, Node.isAbnormal, hopen node hnode]
  · intro place before after value hbefore hafter hvalue
    exact knownValue?_reread (wellFormed_tidy t o h) hq hsame hbefore hafter hvalue

/-! ## Runs -/

theorem ClassNormalizer.collapse_collapse (text : String) :
    collapse (collapse text) = collapse text := by
  rw [collapse, collapse, String.toList_ofList, Text.collapse_collapse]

/-- A run that collapses class values, repeated on what it has come to, finds nothing to normalize
but values that stood in parentheses. -/
theorem Pipeline.run_leftover (pipeline : Pipeline)
    (hcollapse : pipeline.options.normalizer = .collapse) {source : String}
    {parsed reread : Parsed} (hparsed : parse source = .ok parsed)
    (layout : Layout source (parsed.tidied pipeline.options))
    (hlayout : Piece.Unmistakable layout.pieces)
    (hprinter : IsReadAs source (parsed.tidied pipeline.options) reread) :
    ∃ first second changes, (pipeline.run source).1 = .ok first ∧
      ((pipeline.run source).2.run first.code).1 = .ok second ∧
      second.diagnostics = .ofChanges changes ∧
      IsLeftover .collapse parsed.program (parsed.tidied pipeline.options).program reread.program
        changes.normalizedClasses := by
  have hfirst := pipeline.run_of_parse hparsed
  rw [layout.printVerbatim_eq_iff.2 hlayout] at hfirst
  have hsecond := (pipeline.run source).2.run_of_parse hprinter.parse_eq
  rw [pipeline.options_run] at hsecond
  refine ⟨_, _, _, hfirst, hsecond, rfl, ?_⟩
  have hnormalize : ∀ text, pipeline.options.normalizer (pipeline.options.normalizer text) =
      pipeline.options.normalizer text := by
    rw [hcollapse]
    exact ClassNormalizer.collapse_collapse
  rw [← hcollapse]
  exact Program.isLeftover _ hnormalize (Program.wellFormed_of_legible (legible_of_parse hparsed))
    (Program.wellFormed_of_legible (legible_of_parse hprinter.parse_eq)) hprinter.stripped_eq

/-- A program with a class value in parentheses and one without them. -/
def hiddenClassSource : String :=
  "const a = <div className=\x7b(\"a  b\")\x7d><i class=\x7b\" c\"\x7d /></div>;\n"

/-- The value in parentheses is left, and the other one is not. -/
theorem hidden_class_left : ∃ parsed reread, parse hiddenClassSource = .ok parsed ∧
    ∃ layout : Layout hiddenClassSource (parsed.tidied ⟨.barrier, .collapse⟩),
      Piece.Unmistakable layout.pieces ∧
      IsReadAs hiddenClassSource (parsed.tidied ⟨.barrier, .collapse⟩) reread ∧
      ∃ first second changes,
        ((Pipeline.new ⟨.barrier, .collapse⟩).run hiddenClassSource).1 = .ok first ∧
        (((Pipeline.new ⟨.barrier, .collapse⟩).run hiddenClassSource).2.run first.code).1 =
          .ok second ∧
        second.diagnostics = .ofChanges changes ∧ changes.normalizedClasses = 1 := by
  have hread : ∃ parsed, (parse hiddenClassSource).toOption = some parsed ∧
      parsed.program.classAttributes.countP (Node.isHidden .collapse) = 1 ∧
      printVerbatim hiddenClassSource (parsed.tidied ⟨.barrier, .collapse⟩) =
        printKept hiddenClassSource (parsed.tidied ⟨.barrier, .collapse⟩) ∧
      ((parse (printKept hiddenClassSource (parsed.tidied ⟨.barrier, .collapse⟩))).toOption.any
        fun reread => reread.program.stripped =
            (parsed.tidied ⟨.barrier, .collapse⟩).program.stripped ∧
          ∀ node ∈ reread.program.classAttributes, node.stripped.knownValue? = node.knownValue?) :=
    exists_parsed_of_any (by decide +kernel)
  obtain ⟨parsed, hoption, hcount, hverbatim, hany⟩ := hread
  have hparsed := eq_ok_of_toOption hoption
  obtain ⟨reread, hreread, hstripped, hopen⟩ := exists_parsed_of_any hany
  have hprinter : IsReadAs hiddenClassSource (parsed.tidied ⟨.barrier, .collapse⟩) reread :=
    ⟨eq_ok_of_toOption hreread, hstripped⟩
  obtain ⟨layout⟩ := exists_layout hiddenClassSource (parsed.tidied ⟨.barrier, .collapse⟩)
  have hlayout := layout.printVerbatim_eq_iff.1 hverbatim
  obtain ⟨first, second, changes, hfirst, hsecond, hchanges, hleft⟩ :=
    (Pipeline.new ⟨.barrier, .collapse⟩).run_leftover rfl hparsed layout hlayout hprinter
  exact ⟨parsed, reread, hparsed, layout, hlayout, hprinter, first, second, changes, hfirst,
    hsecond, hchanges, (hleft.eq_hidden hopen).trans hcount⟩

/-- A program with a class value in parentheses. -/
def enclosedClassSource : String :=
  "const a = <div className=\x7b(\"a  b\")\x7d />;\n"

/-- What the program with the value in parentheses is tidied to: the parentheses have gone. -/
def openClassText : String :=
  "const a = <div className=\x7b\"a  b\"\x7d />;\n"

/-- The first run normalizes nothing, and the second run does. -/
theorem enclosed_class_normalized_late :
    ((Pipeline.new ⟨.barrier, .collapse⟩).run enclosedClassSource).1.toOption =
      some ⟨openClassText, ⟨0, 0, 0⟩⟩ ∧
    (((Pipeline.new ⟨.barrier, .collapse⟩).run enclosedClassSource).2.run
      openClassText).1.toOption = some ⟨"const a = <div className=\"a b\" />;\n", ⟨0, 0, 1⟩⟩ := by
  exact ⟨by decide +kernel, by decide +kernel⟩

end JsxTidy
