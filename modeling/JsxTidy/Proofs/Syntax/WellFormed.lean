import JsxTidy.Syntax.Node

/-!
# Well-formed syntax

A tree may put any parts below any kind. The trees of programs do not: a name or a literal has no
parts, a tag has attributes, and an import has specifiers that each declare one name. `Kind.admits`
says this of one piece of syntax, for the kinds that tidying looks into, and a tree is well formed
when all pieces in it have such parts.
-/

namespace JsxTidy.Syntax

namespace Node

/-! ## Induction -/

/-- What holds of a piece of syntax whenever it holds of its parts holds of all syntax. -/
@[elab_as_elim, induction_eliminator]
theorem induction {motive : Node → Prop}
    (mk : ∀ kind span parts, (∀ part ∈ parts, motive part) → motive (.mk kind span parts))
    (node : Node) : motive node :=
  @Node.rec motive (fun nodes => ∀ part ∈ nodes, motive part) mk (by simp)
    (fun _ _ hnode hrest => List.forall_mem_cons.2 ⟨hnode, hrest⟩) node

/-! ## A test of all pieces -/

mutual

/-- Whether all pieces of syntax in one pass a test of their kind and parts. -/
def every (fits : Kind → List Node → Bool) : Node → Bool
  | .mk kind _ parts => fits kind parts && everyOf fits parts

/-- Whether all pieces of syntax in some pass a test of their kind and parts. -/
def everyOf (fits : Kind → List Node → Bool) : List Node → Bool
  | [] => true
  | node :: rest => every fits node && everyOf fits rest

end

section Every

variable {fits weaker : Kind → List Node → Bool} {kind : Kind} {span : Span} {parts : List Node}
  {node : Node} {nodes others : List Node}

/-- What holds of some nodes holds of each of them. -/
theorem everyOf_iff : everyOf fits nodes ↔ ∀ node ∈ nodes, every fits node := by
  induction nodes with
  | nil => simp [everyOf]
  | cons node rest ih => simp [everyOf, ih]

/-- What holds everywhere in a node holds of its kind and parts, and everywhere in its parts. -/
theorem every_mk : every fits (.mk kind span parts) ↔
    fits kind parts ∧ ∀ node ∈ parts, every fits node := by
  rw [every, Bool.and_eq_true, everyOf_iff]

/-- So it does everywhere in each part. -/
theorem every_parts (h : every fits node) : ∀ part ∈ node.parts, every fits part := by
  obtain ⟨kind, span, parts⟩ := node
  exact (every_mk.1 h).2

@[simp] theorem everyOf_nil : everyOf fits [] := rfl

@[simp] theorem everyOf_cons :
    everyOf fits (node :: nodes) = (every fits node && everyOf fits nodes) := rfl

@[simp] theorem everyOf_append :
    everyOf fits (nodes ++ others) = (everyOf fits nodes && everyOf fits others) := by
  induction nodes with
  | nil => simp
  | cons node rest ih => simp [ih, Bool.and_assoc]

mutual

/-- What passes a test passes a weaker one. -/
theorem every_mono (h : ∀ kind parts, fits kind parts → weaker kind parts) :
    ∀ node, every fits node → every weaker node
  | .mk kind _ parts, hnode => by
      rw [every, Bool.and_eq_true] at hnode ⊢
      exact ⟨h kind parts hnode.1, everyOf_mono h parts hnode.2⟩

theorem everyOf_mono (h : ∀ kind parts, fits kind parts → weaker kind parts) :
    ∀ nodes, everyOf fits nodes → everyOf weaker nodes
  | [], _ => rfl
  | node :: rest, hnodes => by
      rw [everyOf, Bool.and_eq_true] at hnodes ⊢
      exact ⟨every_mono h node hnodes.1, everyOf_mono h rest hnodes.2⟩

end

mutual

/-- Two tests at once. -/
theorem every_and {other : Kind → List Node → Bool} : ∀ node : Node,
    node.every (fun kind parts => fits kind parts && other kind parts) ↔
      node.every fits ∧ node.every other
  | .mk kind _ parts => by
      simp only [every, Bool.and_eq_true, everyOf_and parts]
      exact and_and_and_comm

theorem everyOf_and {other : Kind → List Node → Bool} : ∀ nodes,
    everyOf (fun kind parts => fits kind parts && other kind parts) nodes ↔
      everyOf fits nodes ∧ everyOf other nodes
  | [] => by simp
  | node :: rest => by
      simp only [everyOf, Bool.and_eq_true, every_and node, everyOf_and rest]
      exact and_and_and_comm

end

end Every

end Node

namespace Kind

/-! ## Sorts of kinds -/

/-- Whether a kind is a word. -/
def isWord : Kind → Bool
  | .word _ => true
  | _ => false

/-- Whether a kind is a string. -/
def isString : Kind → Bool
  | .string .. => true
  | _ => false

/-- Whether a kind declares a name. -/
def isBinding : Kind → Bool
  | .binding _ => true
  | _ => false

/-- Whether a kind is a stretch of a template. -/
def isQuasi : Kind → Bool
  | .quasi .. => true
  | _ => false

/-- Whether a kind is the name of a function or class, which may be missing. -/
def isOwnName : Kind → Bool
  | .absent => true
  | kind => kind.isBinding

/-- Whether a kind is an attribute or spread of a tag. -/
def isTagAttribute : Kind → Bool
  | .markupAttribute | .spreadAttribute => true
  | _ => false

/-- Whether a kind is the name of an attribute. -/
def isAttributeName : Kind → Bool
  | .namespacedName => true
  | kind => kind.isWord

/-- Whether a kind is the value of an attribute, which may be missing. -/
def isAttributeValue : Kind → Bool
  | .absent | .container | .element | .fragment => true
  | kind => kind.isString

/-- Whether a kind is a specifier of an import. -/
def isImportSpecifier : Kind → Bool
  | .importSpecifier _ | .importDefault | .importNamespace => true
  | _ => false

/-- Whether a kind is one of the attributes of an import. -/
def isImportAttribute : Kind → Bool
  | .attribute => true
  | _ => false

/-- Whether a kind is the attributes of an import, which may be missing. -/
def isImportAttributes : Kind → Bool
  | .absent | .attributes _ => true
  | _ => false

/-! ## All kinds -/

/-- Whether a piece of syntax of some kind has the parts of that kind. -/
def admits : Kind → List Node → Bool
  | .absent, parts | .binding _, parts | .reference _, parts | .word _, parts
  | .string .., parts | .quasi .., parts => parts.isEmpty
  | .template, [.mk .list _ quasis, .mk .list _ _] => quasis.all (·.kind.isQuasi)
  | .template, _ => false
  | .function _, name :: _ => name.kind.isOwnName
  | .function _, _ => false
  | .classLike _, [_, name, _] => name.kind.isOwnName
  | .classLike _, _ => false
  | .openingTag, [_, _, .mk .list _ nodes] => nodes.all (·.kind.isTagAttribute)
  | .openingTag, _ => false
  | .markupAttribute, [name, value] => name.kind.isAttributeName && value.kind.isAttributeValue
  | .markupAttribute, _ => false
  | .namespacedName, [first, second] => first.kind.isWord && second.kind.isWord
  | .namespacedName, _ => false
  | .importDeclaration .., [.mk .absent _ _, source, rest] =>
    source.kind.isString && rest.kind.isImportAttributes
  | .importDeclaration .., [.mk .list _ specifiers, source, rest] =>
    specifiers.all (·.kind.isImportSpecifier) && source.kind.isString &&
      rest.kind.isImportAttributes
  | .importDeclaration .., _ => false
  | .importSpecifier _, [imported, inner] =>
    (imported.kind.isWord || imported.kind.isString) && inner.kind.isBinding
  | .importSpecifier _, _ => false
  | .importDefault, [inner] | .importNamespace, [inner] => inner.kind.isBinding
  | .importDefault, _ | .importNamespace, _ => false
  | .attributes _, parts => parts.all (·.kind.isImportAttribute)
  | .attribute, [key, value] => (key.kind.isWord || key.kind.isString) && value.kind.isString
  | .attribute, _ => false
  | _, _ => true

/-- What a kind admits depends on the kinds of the parts, and of the parts of lists. -/
theorem admits_map {f : Node → Node} (hkind : ∀ node, (f node).kind = node.kind)
    (hlist : ∀ span nodes, f (.mk .list span nodes) = .mk .list span (nodes.map f))
    {kind : Kind} {parts : List Node} (h : kind.admits parts) : kind.admits (parts.map f) := by
  have habsent : ∀ node : Node, node.kind = .absent →
      ∃ span nodes, node = .mk .absent span nodes := by
    rintro ⟨_, span, nodes⟩ rfl
    exact ⟨span, nodes, rfl⟩
  unfold admits at h
  split at h <;> simp_all [admits]
  -- What is left is the import without a list of specifiers.
  rename_i span nodes source rest
  obtain ⟨span', nodes', heq⟩ := habsent _ (hkind (.mk .absent span nodes))
  simp_all

end Kind

/-- Whether all pieces in a piece of syntax have the parts of their kinds. -/
def Node.wellFormed (node : Node) : Bool :=
  node.every Kind.admits

namespace Node

variable {kind : Kind} {span : Span} {parts : List Node} {node : Node}

/-- A node is well-formed if its kind admits its parts and all of them are. -/
theorem wellFormed_mk :
    (mk kind span parts).wellFormed ↔ kind.admits parts ∧ ∀ part ∈ parts, part.wellFormed :=
  every_mk

/-- What declares a name has no parts. -/
theorem exists_of_isBinding (h : node.wellFormed) (hbinding : node.kind.isBinding) :
    ∃ name span, node = mk (.binding name) span [] := by
  obtain ⟨kind, span, parts⟩ := node
  cases kind with
  | binding name =>
      have hadmits : parts.isEmpty := (wellFormed_mk.1 h).1
      rw [List.isEmpty_iff] at hadmits
      exact ⟨name, span, by rw [hadmits]⟩
  | _ => cases hbinding

/-- An attribute of an import has a key and a value. -/
theorem wellFormed_attribute (h : (mk .attribute span parts).wellFormed) :
    ∃ key value, parts = [key, value] ∧ key.wellFormed ∧ value.wellFormed ∧
      (key.kind.isWord ∨ key.kind.isString) ∧ value.kind.isString := by
  obtain ⟨hadmits, hparts⟩ := wellFormed_mk.1 h
  rcases parts with _ | ⟨key, _ | ⟨value, _ | ⟨_, _⟩⟩⟩
  · cases hadmits
  · cases hadmits
  · obtain ⟨hname, hstring⟩ := Bool.and_eq_true_iff.1 hadmits
    exact ⟨key, value, rfl, hparts key (by simp), hparts value (by simp),
      Bool.or_eq_true_iff.1 hname, hstring⟩
  · cases hadmits

/-- A named specifier of an import has the imported name and the local one. -/
theorem wellFormed_importSpecifier {isType : Bool}
    (h : (mk (.importSpecifier isType) span parts).wellFormed) :
    ∃ imported name nameSpan, parts = [imported, mk (.binding name) nameSpan []] ∧
      imported.wellFormed ∧ (imported.kind.isWord ∨ imported.kind.isString) := by
  obtain ⟨hadmits, hparts⟩ := wellFormed_mk.1 h
  rcases parts with _ | ⟨imported, _ | ⟨inner, _ | ⟨_, _⟩⟩⟩
  · cases hadmits
  · cases hadmits
  · obtain ⟨himported, hinner⟩ := Bool.and_eq_true_iff.1 hadmits
    obtain ⟨name, nameSpan, rfl⟩ := exists_of_isBinding (hparts inner (by simp)) hinner
    exact ⟨imported, name, nameSpan, rfl, hparts imported (by simp),
      Bool.or_eq_true_iff.1 himported⟩
  · cases hadmits

/-- The other specifiers of an import have the local name only. -/
theorem wellFormed_importWhole (hkind : kind = .importDefault ∨ kind = .importNamespace)
    (h : (mk kind span parts).wellFormed) :
    ∃ name nameSpan, parts = [mk (.binding name) nameSpan []] := by
  obtain ⟨hadmits, hparts⟩ := wellFormed_mk.1 h
  have hinner : ∃ inner, parts = [inner] ∧ inner.kind.isBinding := by
    rcases hkind with rfl | rfl <;> rcases parts with _ | ⟨inner, _ | ⟨_, _⟩⟩
    case inl.cons.nil => exact ⟨inner, rfl, hadmits⟩
    case inr.cons.nil => exact ⟨inner, rfl, hadmits⟩
    all_goals cases hadmits
  obtain ⟨inner, rfl, hbinding⟩ := hinner
  obtain ⟨name, nameSpan, rfl⟩ := exists_of_isBinding (hparts inner (by simp)) hbinding
  exact ⟨name, nameSpan, rfl⟩

/-- An import that has a list of specifiers. -/
theorem admits_import {isType : Bool} {phase : ImportPhase} {specifiers : List Node}
    {source rest : Node} :
    (Kind.importDeclaration isType phase).admits [.mk .list span specifiers, source, rest] ↔
      (∀ specifier ∈ specifiers, specifier.kind.isImportSpecifier) ∧ source.kind.isString ∧
        rest.kind.isImportAttributes := by
  have hadmits : (Kind.importDeclaration isType phase).admits
      [.mk .list span specifiers, source, rest] =
        (specifiers.all (·.kind.isImportSpecifier) && source.kind.isString &&
          rest.kind.isImportAttributes) := rfl
  simp only [hadmits, Bool.and_eq_true, List.all_eq_true, and_assoc]

/-- An import has specifiers or none, a source and attributes. -/
theorem exists_of_admits_import {isType : Bool} {phase : ImportPhase}
    (h : (Kind.importDeclaration isType phase).admits parts) :
    ∃ clause source rest, parts = [clause, source, rest] ∧ source.kind.isString ∧
      rest.kind.isImportAttributes ∧ (clause.kind = .absent ∨
        clause.kind = .list ∧ ∀ specifier ∈ clause.parts, specifier.kind.isImportSpecifier) := by
  rcases parts with _ | ⟨⟨kind, clauseSpan, nodes⟩, parts⟩
  · cases h
  cases kind with
  | absent =>
      rcases parts with _ | ⟨source, _ | ⟨rest, _ | _⟩⟩
      case cons.cons.nil =>
        obtain ⟨hsource, hrest⟩ := Bool.and_eq_true_iff.1 h
        exact ⟨_, source, rest, rfl, hsource, hrest, .inl rfl⟩
      all_goals cases h
  | list =>
      rcases parts with _ | ⟨source, _ | ⟨rest, _ | _⟩⟩
      case cons.cons.nil =>
        obtain ⟨hspecifiers, hsource, hrest⟩ := admits_import.1 h
        exact ⟨_, source, rest, rfl, hsource, hrest, .inr ⟨rfl, hspecifiers⟩⟩
      all_goals cases h
  | _ => cases h

end Node

/-! ## The pieces of imports -/

/-- Whether a kind can be in the source or the attributes of an import. -/
def Kind.isInert : Kind → Bool
  | .absent | .word _ | .string .. | .attributes _ | .attribute => true
  | _ => false

/-- Whether a kind can be in an import. -/
def Kind.isImportPiece : Kind → Bool
  | .importDeclaration .. | .list | .importSpecifier _ | .importDefault | .importNamespace => true
  | .binding _ => true
  | kind => kind.isInert

namespace Node

variable {span : Span} {parts : List Node} {node : Node}

/-- Whether a piece consists of words and strings. -/
def isInert (node : Node) : Bool :=
  node.every fun kind _ => kind.isInert

/-- It is inert if its kind is and all parts are. -/
theorem isInert_mk {kind : Kind} :
    (mk kind span parts).isInert ↔ kind.isInert ∧ ∀ part ∈ parts, part.isInert :=
  every_mk

/-- Without parts, only the kind matters. -/
theorem isInert_leaf {kind : Kind} (hkind : kind.isInert) (hparts : parts.isEmpty) :
    (mk kind span parts).isInert := by
  rw [List.isEmpty_iff] at hparts
  exact isInert_mk.2 ⟨hkind, by simp [hparts]⟩

/-- Words are inert. -/
theorem isInert_of_isWord (h : node.wellFormed) (hword : node.kind.isWord) : node.isInert := by
  obtain ⟨kind, span, parts⟩ := node
  cases kind with
  | word name => exact isInert_leaf rfl (wellFormed_mk.1 h).1
  | _ => cases hword

/-- So are strings. -/
theorem isInert_of_isString (h : node.wellFormed) (hstring : node.kind.isString) :
    node.isInert := by
  obtain ⟨kind, span, parts⟩ := node
  cases kind with
  | string value loneSurrogates => exact isInert_leaf rfl (wellFormed_mk.1 h).1
  | _ => cases hstring

/-- So are attributes of imports, which have no other parts. -/
theorem isInert_of_isImportAttribute (h : node.wellFormed)
    (hattribute : node.kind.isImportAttribute) : node.isInert := by
  obtain ⟨kind, span, parts⟩ := node
  cases kind with
  | «attribute» =>
      obtain ⟨key, value, rfl, hkey, hvalue, hname, hstring⟩ := wellFormed_attribute h
      refine isInert_mk.2 ⟨rfl, ?_⟩
      intro part hpart
      simp only [List.mem_cons, List.not_mem_nil, or_false] at hpart
      rcases hpart with rfl | rfl
      · exact hname.elim (isInert_of_isWord hkey) (isInert_of_isString hkey)
      · exact isInert_of_isString hvalue hstring
  | _ => cases hattribute

/-- So is a list of them. -/
theorem isInert_of_isImportAttributes (h : node.wellFormed)
    (hattributes : node.kind.isImportAttributes) : node.isInert := by
  obtain ⟨kind, span, parts⟩ := node
  cases kind with
  | absent => exact isInert_leaf rfl (wellFormed_mk.1 h).1
  | attributes keyword =>
      obtain ⟨hadmits, hparts⟩ := wellFormed_mk.1 h
      refine isInert_mk.2 ⟨rfl, fun part hpart => ?_⟩
      exact isInert_of_isImportAttribute (hparts part hpart)
        (List.all_eq_true.1 hadmits part hpart)
  | _ => cases hattributes

/-- Whether all pieces of a piece can be in an import. -/
def isImportPiece (node : Node) : Bool :=
  node.every fun kind _ => kind.isImportPiece

/-- A node can stand in an import if its kind can and all parts can. -/
theorem isImportPiece_mk {kind : Kind} :
    (mk kind span parts).isImportPiece ↔ kind.isImportPiece ∧ ∀ part ∈ parts, part.isImportPiece :=
  every_mk

/-- Whatever is inert can. -/
theorem isImportPiece_of_isInert (h : node.isInert) : node.isImportPiece := by
  refine every_mono (fun kind _ hkind => ?_) node h
  cases kind <;> simp_all [Kind.isInert, Kind.isImportPiece]

/-- Beside it, specifiers can. -/
theorem isImportPiece_specifier (h : node.wellFormed) (hspecifier : node.kind.isImportSpecifier) :
    node.isImportPiece := by
  obtain ⟨kind, span, parts⟩ := node
  have hbinding : ∀ name nameSpan, (mk (.binding name) nameSpan []).isImportPiece := by
    intro name nameSpan
    exact isImportPiece_mk.2 ⟨rfl, by simp⟩
  cases kind with
  | importSpecifier isType =>
      obtain ⟨imported, name, nameSpan, rfl, himported, hform⟩ := wellFormed_importSpecifier h
      have hinert : imported.isInert :=
        hform.elim (isInert_of_isWord himported) (isInert_of_isString himported)
      exact isImportPiece_mk.2 ⟨rfl, by simp [isImportPiece_of_isInert hinert, hbinding]⟩
  | importDefault =>
      obtain ⟨name, nameSpan, rfl⟩ := wellFormed_importWhole (.inl rfl) h
      exact isImportPiece_mk.2 ⟨rfl, by simp [hbinding]⟩
  | importNamespace =>
      obtain ⟨name, nameSpan, rfl⟩ := wellFormed_importWhole (.inr rfl) h
      exact isImportPiece_mk.2 ⟨rfl, by simp [hbinding]⟩
  | _ => cases hspecifier

/-- An import consists of what can be in an import. -/
theorem isImportPiece_import {isType : Bool} {phase : ImportPhase}
    (h : (mk (.importDeclaration isType phase) span parts).wellFormed) :
    (mk (.importDeclaration isType phase) span parts).isImportPiece := by
  obtain ⟨hadmits, hparts⟩ := wellFormed_mk.1 h
  have hsource : ∀ source : Node, source.wellFormed → source.kind.isString → source.isImportPiece :=
    fun source hsource hstring => isImportPiece_of_isInert (isInert_of_isString hsource hstring)
  have hrest : ∀ rest : Node, rest.wellFormed → rest.kind.isImportAttributes → rest.isImportPiece :=
    fun rest hrest hform => isImportPiece_of_isInert (isInert_of_isImportAttributes hrest hform)
  obtain ⟨⟨kind, clauseSpan, nodes⟩, source, rest, rfl, hstring, hform, hkind⟩ :=
    exists_of_admits_import hadmits
  simp only [List.forall_mem_cons] at hparts
  obtain ⟨hclause, hsourceWell, hrestWell, -⟩ := hparts
  have hpiece : (mk kind clauseSpan nodes).isImportPiece := by
    obtain ⟨hleaf, hnodes⟩ := wellFormed_mk.1 hclause
    rcases hkind with rfl | ⟨rfl, hspecifiers⟩
    · exact isImportPiece_of_isInert (isInert_leaf rfl hleaf)
    · refine isImportPiece_mk.2 ⟨rfl, fun specifier hmem => ?_⟩
      exact isImportPiece_specifier (hnodes specifier hmem) (hspecifiers specifier hmem)
  refine isImportPiece_mk.2 ⟨rfl, ?_⟩
  simp [hpiece, hsource source hsourceWell hstring, hrest rest hrestWell hform]

end Node

namespace Program

/-- Whether all pieces in a program have the parts of their kinds. -/
def wellFormed (p : Program) : Bool :=
  Node.everyOf Kind.admits (p.directives ++ p.body)

end Program

end JsxTidy.Syntax
