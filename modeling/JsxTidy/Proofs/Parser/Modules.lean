import Mathlib.Data.List.Flatten
import JsxTidy.Parser.ModuleItem
import JsxTidy.Proofs.Parser.Statements

/-!
# Reading imports and exports

Imports and exports are legible. The specifiers of an import each declare one local name, and its
attributes have words or strings as keys and strings as values. The keyword of an import stands
where the import starts. A name that is exported is used where it stands first.
-/

namespace JsxTidy

open Syntax Text

/-- The landmarks of a specifier whose first name counts as a use. -/
def Syntax.Node.landmarksAsExported : Node → List Landmark
  | .mk kind span [first, second] =>
    kind.landmarks span ++ (first.landmarksAsUse ++ second.landmarks)
  | node => node.landmarks

/-- They are not fewer than those it has anyway. -/
theorem Syntax.Node.landmarks_sublist_asExported (node : Node) :
    node.landmarks.Sublist node.landmarksAsExported := by
  unfold landmarksAsExported
  split
  · rename_i kind span first second
    have hfirst := first.landmarks_sublist_asUse
    simpa using hfirst.append_right second.landmarks
  · exact List.Sublist.refl _

namespace Parser

/-! ## Specifiers -/

/-- What can be the name of something that a module exports. -/
structure ExportedName (name : Node) : Prop where
  legible : name.legible
  isWord_or_isString : name.kind.isWord ∨ name.kind.isString

/-- A word can be one. -/
theorem yields_exportedWord : Yields wordName ExportedName :=
  yields_wordName.mono fun _ h => ⟨h.1, .inl h.2⟩

/-- Such a name is a word or a string, also where a lone surrogate is complained about. -/
theorem yields_exportName : Yields exportName ExportedName := by
  refine .lexeme fun l => ?_
  split
  · rename_i value raw lone
    have hliteral : YieldsAt (· = Lexeme.string value raw lone) literal ExportedName := by
      intro env henv s hlexeme node s' hrun
      obtain ⟨span, rfl⟩ := yieldsAt_literal env henv s hlexeme node s' hrun
      exact ⟨rfl, .inr rfl⟩
    dsimp only
    split
    · exact .startOffset fun _ => .complain hliteral
    · exact hliteral
  · exact yields_exportedWord.at _

/-- The names of a specifier. -/
structure SpecifierNames.Legible (names : SpecifierNames) : Prop where
  first : ExportedName names.first
  second : ∀ name ∈ names.second, ExportedName name

/-- One name is enough for a specifier. -/
theorem SpecifierNames.Legible.one {first : Node} (isType : Bool) (h : ExportedName first) :
    SpecifierNames.Legible ⟨first, none, isType⟩ :=
  ⟨h, by simp⟩

/-- It may have two. -/
theorem SpecifierNames.Legible.two {first second : Node} (isType : Bool) (h : ExportedName first)
    (h' : ExportedName second) : SpecifierNames.Legible ⟨first, some second, isType⟩ :=
  ⟨h, by simpa using h'⟩

/-- The name that goes without saying is the first one. -/
theorem SpecifierNames.Legible.inner {names : SpecifierNames} (h : names.Legible) :
    (names.second.getD names.first).legible := by
  cases hcase : names.second with
  | none => exact h.first.legible
  | some second => exact (h.second second hcase).legible

/-- Behind `as` stands another name. -/
theorem yields_renamed {first : Node} (isType : Bool) (h : ExportedName first) :
    Yields (renamed first isType) SpecifierNames.Legible := by
  refine .skip fun hasOther => .ite ?_ (.pure (.one isType h))
  exact .bind yields_exportName fun second hsecond => .pure (.two isType h hsecond)

/-- Whichever of `type` and `as` are names, all names of the specifier can be exported. -/
theorem yields_namesBehindAs {name firstAs : Node} (h : ExportedName name)
    (h' : ExportedName firstAs) : Yields (namesBehindAs name firstAs) SpecifierNames.Legible := by
  refine .skip fun isAs => .ite ?_ ?_
  · refine .bind yields_exportedWord fun secondAs hsecond => .skip fun hasLast => .ite ?_ ?_
    · exact .bind yields_exportName fun last hlast => .pure (.two true h' hlast)
    · exact .pure (.two false h hsecond)
  · refine .skip fun hasLast => .ite ?_ (.pure (.one true h'))
    exact .bind yields_exportName fun last hlast => .pure (.two false h hlast)

/-- The same holds of those behind `type`. -/
theorem yields_namesBehindType {name : Node} (h : ExportedName name) :
    Yields (namesBehindType name) SpecifierNames.Legible := by
  refine .skip fun isAs => .ite ?_ ?_
  · exact .bind yields_exportedWord fun firstAs hfirst => yields_namesBehindAs h hfirst
  · refine .skip fun hasInner => .ite ?_ (.pure (.one false h))
    exact .bind yields_exportName fun inner hinner => yields_renamed true hinner

/-- All names of a specifier can be exported. -/
theorem yields_specifierNames : Yields specifierNames SpecifierNames.Legible :=
  .skip fun _ => .bind yields_exportName fun _ h =>
    .ite (yields_namesBehindType h) (yields_renamed false h)

/-- The local name of an import is declared there. -/
theorem yields_asBinding (name : Node) :
    Yields (asBinding name) fun inner => inner.legible ∧ inner.kind.isBinding := by
  unfold asBinding
  split
  · exact .ite .fail (.pure ⟨rfl, rfl⟩)
  · exact yields_failAt _ _

/-- What can stand in the braces of an import. -/
structure ImportPiece (node : Node) : Prop where
  legible : node.legible
  isImportSpecifier : node.kind.isImportSpecifier

/-- A specifier of an import has an outer name and a local one. -/
theorem fits_importSpecifier {first inner : Node} (isType : Bool) (hfirst : ExportedName first)
    (hinner : inner.kind.isBinding) : (Kind.importSpecifier isType).fits [first, inner] := by
  simp [Kind.fits, Kind.admits, Kind.isQuotable, hfirst.isWord_or_isString, hinner]

/-- What stands between commas in an import is a specifier. -/
theorem yields_importSpecifier (ofType : Bool) : Yields (importSpecifier ofType) ImportPiece := by
  refine .skip fun start => .bind yields_specifierNames fun names hnames => .check ?_
  refine .bind (yields_asBinding _) fun inner ⟨hinner, hbinding⟩ => ?_
  have hparts : ∀ part ∈ [names.first, inner], part.legible := by
    simp [hnames.first.legible, hinner]
  have hfits := fits_importSpecifier names.isType hnames.first hbinding
  refine (yields_node start hfits hparts).mono fun node h => ⟨h.1, ?_⟩
  rw [h.2]
  rfl

/-! ## Attributes -/

/-- What can stand behind the source of an import. -/
structure ImportEnd (node : Node) : Prop where
  legible : node.legible
  isImportAttributes : node.kind.isImportAttributes

/-- An attribute has a key and a string. -/
theorem yields_importAttribute :
    Yields importAttribute fun entry => entry.legible ∧ entry.kind = .attribute := by
  refine .skip fun start => .bind yields_exportName fun key hkey => .skip fun _ => ?_
  refine .bind yields_stringLiteral fun value hvalue => yields_node start ?_ ?_
  · simp [Kind.fits, Kind.admits, Kind.isQuotable, hkey.isWord_or_isString, hvalue.2]
  · simp [hkey.legible, hvalue.1]

/-- The attributes of an import are all of that kind. -/
theorem yields_attributesFrom (start : Nat) (keyword : String) :
    Yields (attributesFrom start keyword) ImportEnd := by
  refine .skip fun _ => .skip fun _ => ?_
  refine .bind (yields_commaList _ yields_importAttribute) fun ⟨entries, _⟩ hentries => ?_
  refine .skip fun _ => .skip fun _ => ?_
  have hall : entries.all (·.kind.isImportAttribute) :=
    List.all_eq_true.2 fun entry h => by rw [(hentries entry h).2]; rfl
  have hfits : (Kind.attributes keyword).fits entries := Bool.and_eq_true_iff.2 ⟨hall, rfl⟩
  have hnode := yields_node start hfits fun entry h => (hentries entry h).1
  exact hnode.mono fun node h => ⟨h.1, by rw [h.2]; rfl⟩

/-- An import may have no attributes. -/
theorem yields_importAttributes : Yields importAttributes ImportEnd := by
  refine .skip fun t => ?_
  split
  · exact yields_attributesFrom _ _
  · exact .pure ⟨rfl, rfl⟩

/-! ## Imports -/

/-- What can stand between the keyword of an import and its source. -/
def ImportPieces (specifiers : Node) : Prop :=
  specifiers = .none ∨ ∃ nodes, specifiers = .list nodes ∧ ∀ node ∈ nodes, ImportPiece node

/-- An import has specifiers, a source and attributes. -/
theorem yields_importRest {specifiers : Node} (start : Nat) (isType : Bool) (phase : ImportPhase)
    (h : ImportPieces specifiers) :
    Yields (importRest start isType phase specifiers) (·.legible) := by
  refine .bind yields_stringLiteral fun source hsource => ?_
  refine .bind yields_importAttributes fun attributes hattributes => .skip fun _ => ?_
  rcases h with rfl | ⟨nodes, rfl, hnodes⟩
  · refine yields_piece start ?_ (by simp [hsource.1, hattributes.legible])
    have hadmits : (Kind.importDeclaration isType phase).admits [.none, source, attributes] :=
      Bool.and_eq_true_iff.2 ⟨hsource.2, hattributes.isImportAttributes⟩
    exact Bool.and_eq_true_iff.2 ⟨hadmits, rfl⟩
  · refine yields_piece start (Bool.and_eq_true_iff.2 ⟨?_, rfl⟩) ?_
    · exact Node.admits_import.2 ⟨fun node hnode => (hnodes node hnode).isImportSpecifier,
        hsource.2, hattributes.isImportAttributes⟩
    · simpa [hsource.1, hattributes.legible] using fun node hnode => (hnodes node hnode).legible

/-- A default and a namespace have their local name as their part. -/
theorem importPiece_whole {kind : Kind} {span : Span} {name : Node} (h : name.legible)
    (hname : name.kind.isBinding) (hkind : kind = .importDefault ∨ kind = .importNamespace) :
    ImportPiece (.mk kind span [name]) := by
  have hparts : ∀ part ∈ [name], part.legible := by simpa using h
  rcases hkind with rfl | rfl
  · exact ⟨Node.legible_mk.2 ⟨Bool.and_eq_true_iff.2 ⟨hname, rfl⟩, hparts⟩, rfl⟩
  · exact ⟨Node.legible_mk.2 ⟨Bool.and_eq_true_iff.2 ⟨hname, rfl⟩, hparts⟩, rfl⟩

/-- A namespace can stand in an import. -/
theorem yields_importNamespace : Yields importNamespace ImportPiece :=
  .fromWord fun _ => .skip fun _ => .bind yields_bindingName fun _ hname => .skip fun _ =>
    .pure (importPiece_whole hname.1 hname.2 (.inr rfl))

/-- So can what its braces hold. -/
theorem yields_importSpecifiers (isType : Bool) :
    Yields (importSpecifiers isType) fun nodes => ∀ node ∈ nodes, ImportPiece node := by
  refine .skip fun _ => ?_
  refine .bind (yields_commaList _ (yields_importSpecifier isType)) fun ⟨specifiers, _⟩ h => ?_
  exact .skip fun _ => .pure h

/-- Whatever an import has beside a default can stand in it. -/
theorem yields_importBindings (isType : Bool) :
    Yields (importBindings isType) fun nodes => ∀ node ∈ nodes, ImportPiece node := by
  refine .skip fun isNamespace => .ite ?_ (yields_importSpecifiers isType)
  exact .bind yields_importNamespace fun whole h => .pure (by simpa using h)

/-- A name that may be missing is declared if it is there. -/
theorem yields_bindingName? :
    Yields bindingName? fun found => ∀ name ∈ found, name.legible ∧ name.kind.isBinding := by
  refine .skip fun _ => .ite ?_ (.pure (by simp))
  exact .bind yields_bindingName fun name hname => .pure (by simpa using hname)

/-- Whether or not the first word is a modifier, the name that an import declares first can be
declared. -/
theorem yields_importHead : Yields importHead fun head =>
    ∀ name ∈ head.name, name.legible ∧ name.kind.isBinding := by
  refine .bind yields_bindingName? fun first hfirst => .skip fun modifier? => ?_
  split
  · exact .bind yields_bindingName? fun name hname => .pure hname
  · exact .pure hfirst

/-- Behind its specifiers, an import says where it comes from. -/
theorem yields_importSource {specifiers : List Node} (start : Nat) (head : ImportHead)
    (h : ∀ node ∈ specifiers, ImportPiece node) :
    Yields (importSource start head specifiers) (·.legible) :=
  .skip fun _ => yields_importRest start head.isType head.phase (.inr ⟨specifiers, rfl, h⟩)

/-- Behind a default, other specifiers may follow. -/
theorem yields_importOthers (isType : Bool) (name : Node) :
    Yields (importOthers isType name) fun nodes => ∀ node ∈ nodes, ImportPiece node := by
  refine .skip fun hasOthers => .ite (.pure (by simp)) (.skip fun _ => .check ?_)
  exact .check (yields_importBindings isType)

/-- An import with a default has it before its other specifiers, unless it gives another name to an
entity. -/
theorem yields_importNamed {name : Node} (start : Nat) (head : ImportHead) (h : name.legible)
    (hname : name.kind.isBinding) : Yields (importNamed start head name) (·.legible) := by
  have hdefault : ImportPiece (.mk .importDefault name.span [name]) :=
    importPiece_whole h hname (.inl rfl)
  refine .skip fun hasComma => .skip fun hasFrom => .ite ?_ ?_
  · exact yields_importEqualsRest start head.isType h
  · refine .bind (yields_importOthers head.isType name) fun others hothers => ?_
    exact yields_importSource start head (List.forall_mem_cons.2 ⟨hdefault, hothers⟩)

/-- An import without a default may have no specifiers. -/
theorem yields_importUnnamed (start : Nat) (head : ImportHead) :
    Yields (importUnnamed start head) (·.legible) := by
  have hempty : Yields (pure []) fun nodes : List Node => ∀ node ∈ nodes, ImportPiece node :=
    .pure (by simp)
  refine .skip fun hasBindings => .choose (yields_importBindings head.isType) hempty ?_
  exact fun bindings h => yields_importSource start head h

/-- An import has a source alone, or declares names. -/
theorem yields_importFrom (start : Nat) : Yields (importFrom start) (·.legible) := by
  refine .skip fun l => ?_
  split
  · exact yields_importRest start false .evaluation (.inl rfl)
  · refine .bind yields_importHead fun head hhead => ?_
    split
    · rename_i name hname
      obtain ⟨hlegible, hbinding⟩ := hhead name hname
      exact yields_importNamed start head hlegible hbinding
    · exact yields_importUnnamed start head

/-- Where a statement stands, `import` may begin an expression, too. -/
theorem yields_importStatement : Yields importStatement (·.legible) :=
  .skip fun _ => .ite yields_expressionOrLabeled (.fromWord yields_importFrom)

/-! ## Exports -/

/-- What is exported is a reference or a string. -/
theorem yields_asExported {name : Node} (h : name.legible) :
    Yields (asExported name) (·.legible) := by
  unfold asExported
  split
  · exact .check (.pure rfl)
  · exact .skip fun _ => .pure h

/-- What can stand in the braces of an export. -/
structure ExportPiece (node : Node) : Prop where
  legible : node.legible
  isExportSpecifier : ∃ ofType, node.kind = .exportSpecifier ofType

/-- What stands between commas in an export is a specifier. -/
theorem yields_exportSpecifier (ofType : Bool) : Yields (exportSpecifier ofType) ExportPiece := by
  refine .skip fun start => .bind yields_specifierNames fun names hnames => .check ?_
  have hparts : ∀ part ∈ [names.first, names.second.getD names.first], part.legible := by
    simp [hnames.first.legible, hnames.inner]
  exact (yields_node start rfl hparts).mono fun node h => ⟨h.1, _, h.2⟩

/-- A specifier keeps its kind when its name becomes a use. -/
theorem yields_asLocalExport {specifier : Node} (h : ExportPiece specifier) :
    Yields (asLocalExport specifier) (·.legible) := by
  obtain ⟨hlegible, ofType, hkind⟩ := h
  unfold asLocalExport
  split
  · obtain ⟨-, hparts⟩ := Node.legible_mk.1 hlegible
    cases hkind
    refine .bind (yields_asExported (hparts _ (by simp))) fun first hfirst => .pure ?_
    exact Node.legible_mk.2 ⟨rfl, by simp_all⟩
  · exact .pure hlegible

/-- What changes each of some pieces of syntax into a legible one. -/
theorem yields_mapM {f : Node → Parser Node} {nodes : List Node}
    (h : ∀ node ∈ nodes, Yields (f node) (·.legible)) :
    Yields (nodes.mapM f) fun nodes => ∀ node ∈ nodes, node.legible := by
  have hloop : ∀ done : List Node, (∀ node ∈ done, node.legible) →
      Yields (List.mapM.loop f nodes done) fun nodes => ∀ node ∈ nodes, node.legible := by
    induction nodes with
    | nil => exact fun done hdone => .pure (by simpa using hdone)
    | cons node rest ih =>
        obtain ⟨hnode, hrest⟩ := List.forall_mem_cons.1 h
        refine fun done hdone => .bind hnode fun result hresult => ?_
        exact ih hrest _ (List.forall_mem_cons.2 ⟨hresult, hdone⟩)
  exact hloop [] (by simp)

/-- An export of what another module exports has a source. -/
theorem yields_exportFrom {specifiers : List Node} (start : Nat) (isType : Bool)
    (h : ∀ node ∈ specifiers, ExportPiece node) :
    Yields (exportFrom start isType specifiers) (·.legible) := by
  refine .bind yields_stringLiteral fun source hsource => ?_
  refine .bind yields_importAttributes fun attributes hattributes => .skip fun _ => ?_
  refine yields_piece start rfl ?_
  simpa [hsource.1, hattributes.legible] using fun node hnode => (h node hnode).legible

/-- An export of what the program declares has none. -/
theorem yields_exportLocal {specifiers : List Node} (start : Nat) (isType : Bool)
    (h : ∀ node ∈ specifiers, ExportPiece node) :
    Yields (exportLocal start isType specifiers) (·.legible) := by
  have heach := yields_mapM fun specifier hmem => yields_asLocalExport (h specifier hmem)
  refine .bind heach fun used hused => .skip fun _ => ?_
  exact yields_piece start rfl (by simpa using hused)

/-- Behind its braces, an export may say where the names come from. -/
theorem yields_exportSpecifiers (start : Nat) (isType : Bool) :
    Yields (exportSpecifiers start isType) (·.legible) := by
  refine .skip fun _ => ?_
  refine .bind (yields_commaList _ (yields_exportSpecifier isType)) fun ⟨specifiers, _⟩ h => ?_
  refine .skip fun _ => .skip fun hasSource => ?_
  exact .ite (yields_exportFrom start isType h) (yields_exportLocal start isType h)

/-- An export of all that another module exports may give it a name. -/
theorem yields_exportAll (start : Nat) (isType : Bool) :
    Yields (exportAll start isType) (·.legible) := by
  have hname : Yields exportName (·.legible) := yields_exportName.mono fun _ h => h.legible
  refine .skip fun _ => .skip fun _ => .choose hname yields_none fun exported hexported => ?_
  refine .skip fun _ => .bind yields_stringLiteral fun source hsource => ?_
  refine .bind yields_importAttributes fun attributes hattributes => .skip fun _ => ?_
  exact yields_piece start rfl (by simp [hexported, hsource.1, hattributes.legible])

/-- Any expression can be exported. -/
theorem yields_exportedExpression : Yields exportedExpression (·.legible) :=
  .bind yields_assignment fun _ he => .skip fun _ => .pure he

/-- A function, a class, an interface or an expression can be the default export. -/
theorem yields_defaultValue {decorated : List Node} (start : Nat)
    (h : ∀ node ∈ decorated, node.legible) : Yields (defaultValue start decorated) (·.legible) := by
  refine .skip fun l => ?_
  split
  · exact yields_functionFrom start .declaration false false false
  · exact yields_classFrom start [] true h
  · refine .skip fun isFunction => .ite (.skip fun _ => ?_) yields_exportedExpression
    exact yields_functionFrom start .declaration true false false
  · refine .skip fun isClass => .ite (.skip fun found => ?_) yields_exportedExpression
    exact yields_classFrom start found true h
  · refine .skip fun isInterface => .ite ?_ yields_exportedExpression
    exact yields_interfaceDeclaration start []
  · exact yields_exportedExpression

/-- An export of a whole module has an expression. -/
theorem yields_exportAssignment (start : Nat) : Yields (exportAssignment start) (·.legible) := by
  refine .skip fun _ => .bind (yields_goal_legible _) fun e he => .skip fun _ => ?_
  exact yields_piece start rfl (by simpa using he)

/-- An export of the module as a global name has that name. -/
theorem yields_namespaceExport (start : Nat) : Yields (namespaceExport start) (·.legible) := by
  refine .skip fun _ => .skip fun _ => .bind yields_wordName fun name hname => .skip fun _ => ?_
  exact yields_piece start rfl (by simpa using hname.1)

section Decorated

variable {decorated : List Node} (start : Nat) (h : ∀ node ∈ decorated, node.legible)

include h

/-- Decorators stand before the keywords of an export, behind them, or both. -/
theorem legible_decorated {decorated' : List Node} (h' : ∀ node ∈ decorated', node.legible) :
    ∀ node ∈ decorated ++ decorated', node.legible := by
  simpa [or_imp, forall_and] using And.intro h h'

/-- A default export has its value as its part. -/
theorem yields_exportDefault : Yields (exportDefault start decorated) (·.legible) := by
  refine .skip fun _ => .skip fun valueStart => ?_
  refine .bind yields_decorators fun decorated' hdecorated' => .skip fun t => ?_
  have hall := legible_decorated h hdecorated'
  refine .bind (yields_defaultValue valueStart hall) fun exported hexported => ?_
  exact yields_piece start rfl (by simpa using legible_markQuietIf _ hexported)

/-- Behind `export type` stand specifiers, a star, or the declaration of a type. -/
theorem yields_exportType : Yields (exportType start decorated) (·.legible) := by
  refine .skip fun isBraces => .ite (.skip fun _ => yields_exportSpecifiers start true) ?_
  refine .skip fun isStar => .ite (.skip fun _ => yields_exportAll start true) ?_
  refine .skip fun here => .bind (yields_modifiedDeclaration here h) fun d hd => ?_
  exact yields_piece start rfl (by simpa using hd)

/-- A declaration that is exported is the first part of the export. -/
theorem yields_exportDeclaration : Yields (exportDeclaration start decorated) (·.legible) := by
  refine .skip fun declarationStart => ?_
  refine .bind yields_decorators fun decorated' hdecorated' => .skip fun t => ?_
  have hall := legible_decorated h hdecorated'
  refine .bind (yields_modifiedDeclaration _ hall) fun d hd => .skip fun _ => ?_
  exact yields_piece start rfl (by simpa using legible_markQuietIf _ hd)

/-- An export is of a module as a whole, of all that another one exports, of names, of a value
without a name, or of a declaration. -/
theorem yields_exportStatement : Yields (exportStatement start decorated) (·.legible) := by
  refine .skip fun _ => .skip fun l => ?_
  split
  · exact yields_exportAssignment start
  · exact yields_exportAll start false
  · exact yields_exportSpecifiers start false
  · exact yields_exportDefault start h
  · exact yields_namespaceExport start
  · exact yields_exportType start h
  · exact yields_exportDeclaration start h

end Decorated

/-- Behind decorators stands a class, an export or a declaration. -/
theorem yields_decoratedStatement (place : StatementPlace) :
    Yields (decoratedStatement place) (·.legible) := by
  refine .skip fun start => .bind yields_decorators fun decorated hdecorated => .skip fun l => ?_
  split
  · exact yields_classStatement start place [] hdecorated
  · exact .skip fun start => yields_exportStatement start hdecorated
  · exact yields_modifiedDeclaration start hdecorated

variable {source : List Char} {acc : List Landmark}

/-! ## The places of specifiers -/

/-- The name of an export may count as a use of it, and then stand a second time. -/
theorem follows_exportNameAsUse :
    Follows source [] exportName fun name => name.landmarksAsUse ++ name.landmarks := by
  refine .skip fun l => ?_
  split
  · dsimp only
    split
    · exact .skip fun _ => .skip fun _ => follows_literalAsUse
    · exact follows_literalAsUse
  · exact follows_wordAsUse

/-- It need not count as one. -/
theorem follows_exportName : Follows source [] exportName Node.landmarks :=
  follows_exportNameAsUse.mono fun _ => List.sublist_append_right _ _

/-- Whether a name stands somewhere is looked up without going on. -/
protected instance Quiet.atExportName : Quiet atExportName := by
  refine .skip fun l => ?_
  split <;> infer_instance

/-- The landmarks of a specifier's names, of which the first one counts as a use. -/
def SpecifierNames.landmarks (names : SpecifierNames) : List Landmark :=
  names.first.landmarksAsUse ++ (names.second.getD names.first).landmarks

/-- A specifier with one name has no other landmarks than those of that name. -/
theorem SpecifierNames.sublist_one {first : Node} {isType : Bool}
    (h : (first.landmarksAsUse ++ first.landmarks).Sublist acc) :
    (SpecifierNames.landmarks ⟨first, none, isType⟩).Sublist acc :=
  h

/-- Of two names, the first one counts as a use alone. -/
theorem SpecifierNames.sublist_two {first second : Node} {isType : Bool}
    (h : (first.landmarksAsUse ++ second.landmarks).Sublist acc) :
    (SpecifierNames.landmarks ⟨first, some second, isType⟩).Sublist acc :=
  h

/-- The name behind `as` stands behind the first one. -/
theorem follows_renamed (first : Node) (isType : Bool) :
    Follows source (first.landmarksAsUse ++ first.landmarks) (renamed first isType)
      SpecifierNames.landmarks := by
  refine .skip fun hasOther => .ite ?_ (.pure (SpecifierNames.sublist_one (List.Sublist.refl _)))
  exact .step follows_exportName fun second => .pure (SpecifierNames.sublist_two (by grind))

/-- Of `type` and `as`, those that are names stand in order, too. -/
theorem follows_namesBehindAs (name firstAs : Node) :
    Follows source ((name.landmarksAsUse ++ name.landmarks) ++
      (firstAs.landmarksAsUse ++ firstAs.landmarks)) (namesBehindAs name firstAs)
      SpecifierNames.landmarks := by
  refine .skip fun isAs => .ite ?_ ?_
  · refine .step follows_wordName fun secondAs => .skip fun hasLast => .ite ?_ ?_
    · exact .step follows_exportName fun last => .pure (SpecifierNames.sublist_two (by grind))
    · exact .pure (SpecifierNames.sublist_two (by grind))
  · refine .skip fun hasLast => .ite ?_ (.pure (SpecifierNames.sublist_one (by grind)))
    exact .step follows_exportName fun last => .pure (SpecifierNames.sublist_two (by grind))

/-- Where `type` is no name, the names begin behind it. -/
theorem follows_namesBehindType (name : Node) :
    Follows source (name.landmarksAsUse ++ name.landmarks) (namesBehindType name)
      SpecifierNames.landmarks := by
  refine .skip fun isAs => .ite ?_ (.skip fun hasInner => .ite ?_ ?_)
  · exact .step follows_wordAsUse fun firstAs => follows_namesBehindAs name firstAs
  · refine .step follows_exportNameAsUse fun inner => .drop ?_ (follows_renamed inner true)
    exact List.sublist_append_right _ _
  · exact .pure (SpecifierNames.sublist_one (List.Sublist.refl _))

/-- The names of a specifier stand in order, the first one as a use. -/
theorem follows_specifierNames :
    Follows source [] specifierNames SpecifierNames.landmarks :=
  .skip fun _ => .step follows_exportNameAsUse fun name =>
    .ite (follows_namesBehindType name) (follows_renamed name false)

/-- The local name of an import is no use of a name. -/
theorem yields_landmarks_asBinding (name : Node) :
    Yields (asBinding name) fun inner => inner.landmarks = [] := by
  unfold asBinding
  split
  · exact .ite .fail (.pure (by simp [Kind.landmarks]))
  · exact yields_failAt _ _

/-- It has been read before it is made one. -/
protected instance Quiet.asBinding (name : Node) : Quiet (asBinding name) := by
  unfold Parser.asBinding
  split <;> infer_instance

/-- A specifier of an import has no use but that of its outer name. -/
theorem follows_importSpecifier (ofType : Bool) :
    Follows source [] (importSpecifier ofType) Node.landmarks := by
  refine .skip fun start => .step follows_specifierNames fun names => .check ?_
  refine .skipOf (yields_landmarks_asBinding _) fun inner hinner => follows_node start rfl ?_
  have hfirst := names.first.landmarks_sublist_asUse
  simpa [hinner, SpecifierNames.landmarks] using hfirst.trans (List.sublist_append_left _ _)

/-! ## The places of attributes -/

/-- Keys are compared when they have been read. -/
protected instance Quiet.checkKeys (entries : List Node) : Quiet (checkKeys entries) := by
  induction entries with
  | nil =>
      unfold Parser.checkKeys
      infer_instance
  | cons entry rest ih =>
      unfold Parser.checkKeys
      infer_instance

/-- The key of an attribute stands before its value. -/
theorem follows_importAttribute : Follows source [] importAttribute Node.landmarks := by
  refine .skip fun start => .step follows_exportName fun key => .skip fun _ => ?_
  exact .step follows_stringLiteral fun value => follows_node start rfl (by simp)

/-- Attributes stand one behind the other. -/
theorem follows_attributesFrom (start : Nat) (keyword : String) :
    Follows source [] (attributesFrom start keyword) Node.landmarks := by
  refine .skip fun _ => .skip fun _ => ?_
  refine .step (follows_commaList _ follows_importAttribute) fun ⟨entries, _⟩ => ?_
  exact .skip fun _ => .skip fun _ => follows_node start rfl (by simp)

/-- Where there are no attributes, nothing is passed. -/
theorem follows_importAttributes : Follows source [] importAttributes Node.landmarks := by
  refine .skip fun t => ?_
  split
  · exact follows_attributesFrom _ _
  · exact follows_none

/-! ## The places of imports -/

/-- A span starts where it is said to. -/
theorem yields_start_spanFrom (start : Nat) : Yields (spanFrom start) (·.start = start) := by
  intro env henv s span s' hrun
  cases hrun
  rfl

/-- An import is itself a landmark, before those of its parts. -/
theorem follows_importRest (start : Nat) (isType : Bool) (phase : ImportPhase)
    (specifiers : Node) :
    Follows source (.importing start :: specifiers.landmarks)
      (importRest start isType phase specifiers) Node.landmarks := by
  refine .step follows_stringLiteral fun path => .step follows_importAttributes fun attributes => ?_
  refine .skip fun _ => .skipOf (yields_start_spanFrom start) fun span hspan => .pure ?_
  simp [Kind.landmarks, hspan]

/-- A namespace has the landmarks of its name. -/
theorem follows_importNamespace : Follows source [] importNamespace Node.landmarks := by
  refine .fromWord fun start => .skip fun _ => .step follows_bindingName fun name => ?_
  exact follows_node start rfl (by simp)

/-- Specifiers stand one behind the other. -/
theorem follows_importSpecifiers (isType : Bool) :
    Follows source [] (importSpecifiers isType) (·.flatMap Node.landmarks) := by
  refine .skip fun _ => ?_
  refine .step (follows_commaList _ (follows_importSpecifier isType)) fun ⟨specifiers, _⟩ => ?_
  exact .skip fun _ => .pure (List.Sublist.refl _)

/-- A namespace stands alone. -/
theorem follows_importBindings (isType : Bool) :
    Follows source [] (importBindings isType) (·.flatMap Node.landmarks) := by
  refine .skip fun isNamespace => .ite ?_ (follows_importSpecifiers isType)
  exact .step follows_importNamespace fun whole => .pure (by simp)

/-- Whether names follow is seen without going on. -/
protected instance Quiet.opensBindings : Quiet opensBindings := by
  unfold Parser.opensBindings
  infer_instance

/-- So it is whether `type` is a modifier. -/
protected instance Quiet.typeIsModifier : Quiet typeIsModifier := by
  unfold Parser.typeIsModifier
  infer_instance

/-- The same holds of the other modifiers. -/
protected instance Quiet.phaseIsModifier (isDefer : Bool) : Quiet (phaseIsModifier isDefer) := by
  unfold Parser.phaseIsModifier
  infer_instance

/-- A modifier has been read as a name before it turns out to be one. -/
protected instance Quiet.importModifier? (word : String) : Quiet (importModifier? word) := by
  unfold Parser.importModifier?
  infer_instance

/-- A name that is missing has no landmarks. -/
theorem follows_bindingName? :
    Follows source [] bindingName? (·.elim [] Node.landmarks) :=
  .skip fun _ => .ite (.step follows_bindingName fun _ => .pure (List.Sublist.refl _))
    (.pure (List.Sublist.refl _))

/-- A name that turns out to be a modifier leaves no landmark. -/
theorem follows_importHead :
    Follows source [] importHead (·.name.elim [] Node.landmarks) := by
  refine .step follows_bindingName? fun first => .skip fun modifier? => ?_
  split
  · exact .alone (.step follows_bindingName? fun name => .pure (List.Sublist.refl _))
  · exact .pure (List.Sublist.refl _)

/-- The specifiers of an import stand behind its keyword. -/
theorem follows_importSource (start : Nat) (head : ImportHead) (specifiers : List Node) :
    Follows source (.importing start :: specifiers.flatMap Node.landmarks)
      (importSource start head specifiers) Node.landmarks :=
  .skip fun _ => .drop (by simp)
    (follows_importRest start head.isType head.phase (.list specifiers))

/-- The other specifiers of an import with a default are passed behind the comma. -/
theorem follows_importOthers (isType : Bool) (name : Node) :
    Follows source [] (importOthers isType name) (·.flatMap Node.landmarks) := by
  refine .skip fun hasOthers => .ite (.pure (List.Sublist.refl _)) (.skip fun _ => .check ?_)
  exact .check (follows_importBindings isType)

/-- A default stands before the other specifiers. -/
theorem follows_importNamed (start : Nat) (head : ImportHead) (name : Node) :
    Follows source (.importing start :: name.landmarks) (importNamed start head name)
      Node.landmarks := by
  refine .skip fun hasComma => .skip fun hasFrom => .ite ?_ ?_
  · exact .drop (List.sublist_cons_self _ _) (follows_importEqualsRest start head.isType name)
  · refine .step (follows_importOthers head.isType name) fun others => .drop ?_
      (follows_importSource start head _)
    simp [Kind.landmarks]

/-- Without a default, they come at once. -/
theorem follows_importUnnamed (start : Nat) (head : ImportHead) :
    Follows source [.importing start] (importUnnamed start head) Node.landmarks := by
  have hempty : Follows source [] (pure []) fun bindings : List Node =>
      bindings.flatMap Node.landmarks := .pure (List.Sublist.refl _)
  refine .skip fun hasBindings => .choose (follows_importBindings head.isType) hempty ?_
  exact fun bindings => follows_importSource start head bindings

/-- All landmarks of an import stand behind its keyword. -/
theorem follows_importFrom (start : Nat) :
    Follows source [.importing start] (importFrom start) Node.landmarks := by
  refine .skip fun l => ?_
  split
  · exact .drop (by simp) (follows_importRest start false .evaluation .none)
  · refine .step follows_importHead fun head => ?_
    cases hname : head.name with
    | some name => exact follows_importNamed start head name
    | none => exact follows_importUnnamed start head

/-- A word without an escape stands in the text where its token starts. -/
theorem wordStandsAt_of_placed {s : ParserState} {name : String} (h : s.Placed source)
    (hword : s.token.lexeme = .word name) (hplain : s.token.escaped = false) :
    WordStandsAt source name.toList s.start.offset := by
  obtain ⟨passed, hsource, hoffset⟩ := h.leads.exists_eq
  obtain ⟨hstands, hends⟩ := h.lexeme.plain name hword hplain
  refine ⟨s.stop.rest, ?_, hends⟩
  rw [hsource, hoffset, dropBytes_append, hstands]

/-- The keyword of an import stands where it starts, unless it is written with an escape. -/
theorem followsAt_advance_import (start : Nat) :
    FollowsAt source (fun s => s.token.lexeme = .word "import" ∧ s.token.span.start = start) []
      advance fun _ => [.importing start] := by
  rintro env henv s₀ s hs ⟨hword, rfl⟩ u s' hrun
  obtain ⟨t, _, ht, hrun⟩ := exists_of_bind_eq_ok hrun
  cases ht
  simp only [hword] at hrun
  rw [hs.placed.span_start] at hrun ⊢
  cases hescaped : s.token.escaped with
  | false =>
      rw [hescaped] at hrun
      refine hs.trans (passes_skipToken hs.placed ?_ hrun)
      exact ⟨wordStandsAt_of_placed hs.placed hword hescaped, hs.placed.lexeme.leads.offset_le⟩
  | true =>
      rw [hescaped] at hrun
      obtain ⟨_, s₁, hcomplaint, hskip⟩ := exists_of_bind_eq_ok hrun
      have hplaced : s₁.Placed source :=
        ((Quiet.complainAt _ _).passes henv.sound hs.placed hcomplaint).placed
      have hrest := (Quiet.skipToken false).passes henv.sound hplaced hskip
      exact .of_complaint hrest.placed (problems_ne_of_complaint hcomplaint hrest)

/-- An import stands where its keyword does, unless it is an expression. -/
theorem followsAt_importStatement :
    FollowsAt source (·.token.lexeme = .word "import") [] importStatement Node.landmarks := by
  intro env henv s₀ s hs hword node s' hrun
  obtain ⟨isExpression, s₁, hahead, hrest⟩ := exists_of_bind_eq_ok hrun
  have hquiet := hs.trans ((Quiet.nextToken _).passes henv.sound hs.placed hahead)
  obtain ⟨log, rfl⟩ := exists_log_of_lookahead hahead
  cases isExpression with
  | true => exact follows_expressionOrLabeled env henv s₀ _ hquiet trivial node s' hrest
  | false =>
      obtain ⟨start, _, hstart, hrest⟩ := exists_of_bind_eq_ok hrest
      cases hstart
      obtain ⟨_, s₂, hadvance, hrest⟩ := exists_of_bind_eq_ok hrest
      have hword := followsAt_advance_import _ env henv s₀ _ hquiet ⟨hword, rfl⟩ _ s₂ hadvance
      exact follows_importFrom _ env henv s₀ s₂ hword trivial node s' hrest

/-! ## The places of exports -/

/-- What is exported is used, unless it is a string. -/
theorem yields_landmarks_asExported (name : Node) :
    Yields (asExported name) fun exported => exported.landmarks.Sublist name.landmarksAsUse := by
  unfold asExported
  split
  · exact .check (.pure (by simp [Kind.landmarks, Node.landmarksAsUse]))
  · exact .skip fun _ => .pure name.landmarks_sublist_asUse

/-- It has been read before it is made a use. -/
protected instance Quiet.asExported (name : Node) : Quiet (asExported name) := by
  unfold Parser.asExported
  split <;> infer_instance

/-- A specifier whose name is made a use has the landmarks of one whose name counts as a use. -/
theorem yields_landmarks_asLocalExport (specifier : Node) :
    Yields (asLocalExport specifier) (·.landmarks.Sublist specifier.landmarksAsExported) := by
  unfold asLocalExport
  split
  · refine .bind (yields_landmarks_asExported _) fun first hfirst => .pure ?_
    simpa [Node.landmarksAsExported] using hfirst
  · exact .pure specifier.landmarks_sublist_asExported

/-- The specifier has been read, too. -/
protected instance Quiet.asLocalExport (specifier : Node) : Quiet (asLocalExport specifier) := by
  unfold Parser.asLocalExport
  split <;> infer_instance

/-- What changes pieces of syntax into ones with fewer landmarks. -/
theorem follows_mapM {f : Node → Parser Node} {marks : Node → List Landmark}
    [∀ node, Quiet (f node)] (h : ∀ node, Yields (f node) (·.landmarks.Sublist (marks node)))
    (nodes : List Node) :
    Follows source (nodes.flatMap marks) (nodes.mapM f) (·.flatMap Node.landmarks) := by
  have hloop : ∀ nodes done : List Node,
      Follows source (done.reverse.flatMap Node.landmarks ++ nodes.flatMap marks)
        (List.mapM.loop f nodes done) (·.flatMap Node.landmarks) := by
    intro nodes
    induction nodes with
    | nil => exact fun done => .pure (by simp)
    | cons node rest ih =>
        refine fun done => .skipOf (h node) fun result hresult => .drop ?_ (ih (result :: done))
        simpa using hresult
  exact hloop nodes []

/-- Whether a specifier's first name counts as a use is open until its export has been read. -/
theorem follows_exportSpecifier (ofType : Bool) :
    Follows source [] (exportSpecifier ofType) Node.landmarksAsExported := by
  refine .skip fun start => .step follows_specifierNames fun names => .check ?_
  exact .skip fun span => .pure (List.Sublist.refl _)

/-- The path behind `from` is looked at only. -/
protected instance Quiet.passFrom : Quiet passFrom := by
  unfold Parser.passFrom
  refine .skip fun hasFrom => ?_
  split
  · infer_instance
  · refine .skip fun l => ?_
    split <;> infer_instance

/-- Names that come from another module are no uses. -/
theorem follows_exportFrom (start : Nat) (isType : Bool) (specifiers : List Node) :
    Follows source (specifiers.flatMap Node.landmarksAsExported)
      (exportFrom start isType specifiers) Node.landmarks := by
  have hfewer : (specifiers.flatMap Node.landmarks).Sublist
      (specifiers.flatMap Node.landmarksAsExported) :=
    .flatMap_right _ fun specifier _ => specifier.landmarks_sublist_asExported
  refine .step follows_stringLiteral fun path => ?_
  refine .step follows_importAttributes fun attributes => .skip fun _ => ?_
  exact follows_node start rfl (by simpa using hfewer)

/-- Names of the program are uses. -/
theorem follows_exportLocal (start : Nat) (isType : Bool) (specifiers : List Node) :
    Follows source (specifiers.flatMap Node.landmarksAsExported)
      (exportLocal start isType specifiers) Node.landmarks := by
  refine .bind (follows_mapM yields_landmarks_asLocalExport specifiers) fun used => ?_
  exact .skip fun _ => follows_node start rfl (by simp)

/-- The specifiers of an export stand one behind the other. -/
theorem follows_exportSpecifiers (start : Nat) (isType : Bool) :
    Follows source [] (exportSpecifiers start isType) Node.landmarks := by
  refine .skip fun _ => ?_
  refine .step (follows_commaList _ (follows_exportSpecifier isType)) fun ⟨specifiers, _⟩ => ?_
  refine .skip fun _ => .skip fun hasSource => ?_
  exact .ite (follows_exportFrom start isType specifiers)
    (follows_exportLocal start isType specifiers)

/-- The name of an export of all names stands before the source. -/
theorem follows_exportAll (start : Nat) (isType : Bool) :
    Follows source [] (exportAll start isType) Node.landmarks := by
  refine .skip fun _ => .skip fun _ => .choose follows_exportName follows_none fun exported => ?_
  refine .skip fun _ => .step follows_stringLiteral fun path => ?_
  refine .step follows_importAttributes fun attributes => .skip fun _ => ?_
  exact follows_node start rfl (by simp)

/-- An expression that is exported has its own landmarks. -/
theorem follows_exportedExpression : Follows source [] exportedExpression Node.landmarks :=
  .step follows_assignment fun _ => .skip fun _ => .pure (List.Sublist.refl _)

/-- Only a class has landmarks of decorators before its own. -/
theorem follows_defaultValue (start : Nat) (decorated : List Node) :
    Follows source (decorated.flatMap Node.landmarks) (defaultValue start decorated)
      Node.landmarks := by
  have hvalue : Follows source (decorated.flatMap Node.landmarks) exportedExpression
      Node.landmarks := .alone follows_exportedExpression
  refine .skip fun l => ?_
  split
  · exact .alone (follows_functionFrom start .declaration false false false)
  · exact follows_classFrom start decorated [] true
  · refine .skip fun isFunction => .ite (.skip fun _ => ?_) hvalue
    exact .alone (follows_functionFrom start .declaration true false false)
  · refine .skip fun isClass => .ite (.skip fun found => ?_) hvalue
    exact follows_classFrom start decorated found true
  · refine .skip fun isInterface => .ite ?_ hvalue
    exact .alone (follows_interfaceDeclaration start [])
  · exact hvalue

/-- Decorators on both sides of the keywords stand before the value. -/
theorem follows_exportDefault (start : Nat) (decorated : List Node) :
    Follows source (decorated.flatMap Node.landmarks) (exportDefault start decorated)
      Node.landmarks := by
  refine .skip fun _ => .skip fun valueStart => ?_
  refine .step follows_decorators fun decorated' => .skip fun t => ?_
  rw [← List.flatMap_append]
  refine .bind (follows_defaultValue valueStart (decorated ++ decorated')) fun exported => ?_
  exact follows_node start rfl (by simp)

/-- An export of a whole module has the landmarks of its expression. -/
theorem follows_exportAssignment (start : Nat) :
    Follows source [] (exportAssignment start) Node.landmarks := by
  refine .skip fun _ => .step (follows_goal _) fun e => .skip fun _ => ?_
  exact follows_node start rfl (by simp)

/-- The global name of a module is no use of one. -/
theorem follows_namespaceExport (start : Nat) :
    Follows source [] (namespaceExport start) Node.landmarks := by
  refine .skip fun _ => .skip fun _ => .step follows_wordName fun name => ?_
  exact .skip fun _ => follows_node start rfl (by simp)

/-- Decorators matter to an export of types only where it is a declaration. -/
theorem follows_exportType (start : Nat) (decorated : List Node) :
    Follows source (decorated.flatMap Node.landmarks) (exportType start decorated)
      Node.landmarks := by
  refine .skip fun isBraces => .ite (.skip fun _ => .alone (follows_exportSpecifiers start true)) ?_
  refine .skip fun isStar => .ite (.skip fun _ => .alone (follows_exportAll start true)) ?_
  refine .skip fun here => .bind (follows_modifiedDeclaration here decorated) fun d => ?_
  exact follows_node start rfl (by simp)

/-- What is declared has been read when it is complained about. -/
protected instance Quiet.checkExported (declaration : Node) :
    Quiet (checkExported declaration) := by
  unfold Parser.checkExported
  split <;> infer_instance

/-- Decorators on both sides of the keyword stand before the declaration. -/
theorem follows_exportDeclaration (start : Nat) (decorated : List Node) :
    Follows source (decorated.flatMap Node.landmarks) (exportDeclaration start decorated)
      Node.landmarks := by
  refine .skip fun declarationStart => .step follows_decorators fun decorated' => .skip fun t => ?_
  rw [← List.flatMap_append]
  refine .bind (follows_modifiedDeclaration _ _) fun d => .skip fun _ => ?_
  exact follows_node start rfl (by simp)

/-- The decorators of an export stand before all else in it. -/
theorem follows_exportStatement (start : Nat) (decorated : List Node) :
    Follows source (decorated.flatMap Node.landmarks) (exportStatement start decorated)
      Node.landmarks := by
  refine .skip fun _ => .skip fun l => ?_
  split
  · exact .alone (follows_exportAssignment start)
  · exact .alone (follows_exportAll start false)
  · exact .alone (follows_exportSpecifiers start false)
  · exact follows_exportDefault start decorated
  · exact .alone (follows_namespaceExport start)
  · exact follows_exportType start decorated
  · exact follows_exportDeclaration start decorated

/-- Decorators stand before what they decorate. -/
theorem follows_decoratedStatement (place : StatementPlace) :
    Follows source [] (decoratedStatement place) Node.landmarks := by
  refine .skip fun start => .step follows_decorators fun decorated => .skip fun l => ?_
  split
  · exact follows_classStatement start place decorated []
  · exact .skip fun start => follows_exportStatement start decorated
  · exact follows_modifiedDeclaration start decorated

end Parser

end JsxTidy
