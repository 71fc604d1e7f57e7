import JsxTidy.Proofs.Import.Liveness
import JsxTidy.Proofs.Scope.Sight
import JsxTidy.Proofs.Syntax.WellFormed

/-!
# What an import does to names

An import mentions the local names of its specifiers and nothing else, each as a declaration of the
module, and it opens no scope: `sights_import`, `events_import` and `scopeCount_import` say so for
an import that has specifiers.
-/

namespace JsxTidy

open Syntax

/-! ## Pieces without names -/

namespace Syntax

/-- Whether a kind has no name of its own and opens no scope. -/
def Kind.isNeutral : Kind → Bool
  | .binding _ | .reference _ | .function _ | .classLike _ => false
  | kind => (NameEvent.scopeOf? kind).isNone

namespace Node

variable {kind : Kind} {span : Span} {parts : List Node} {node : Node} {trail : Trail}
  {next : ScopeId} {context : DeclarationContext}

theorem scopeOf?_neutral (h : kind.isNeutral) : NameEvent.scopeOf? kind = .none := by
  unfold Kind.isNeutral at h
  split at h
  iterate 4 cases h
  exact Option.isNone_iff_eq_none.1 h

theorem mentions_neutral (h : kind.isNeutral) :
    (mk kind span parts).mentions trail next = mentionsOf kind .none 0 trail next parts := by
  rw [mentions_other (by rintro _ rfl; cases h) (by rintro _ rfl; cases h)
    (by rintro _ _ _ rfl; cases h) (by rintro _ _ _ _ rfl; cases h)]
  simp [scopeOf?_neutral h, Trail.numberOf?]

theorem events_neutral (h : kind.isNeutral) :
    (mk kind span parts).events context = eventsOf (NameEvent.contextIn context kind) parts := by
  rw [events_other (by rintro _ rfl; cases h) (by rintro _ rfl; cases h)
    (by rintro _ _ _ rfl; cases h) (by rintro _ _ _ _ rfl; cases h)]
  simp [scopeOf?_neutral h, NameEvent.inScope]

theorem scopeCount_neutral (h : kind.isNeutral) :
    (mk kind span parts).scopeCount = scopeCountOf parts := by
  rw [scopeCount_other (by rintro _ rfl; cases h) (by rintro _ rfl; cases h)
    (by rintro _ _ _ rfl; cases h) (by rintro _ _ _ _ rfl; cases h)]
  simp [scopeOf?_neutral h]

/-- A piece of syntax that neither mentions a name nor opens a scope. -/
structure Nameless (node : Node) : Prop where
  mentions : ∀ trail next, node.mentions trail next = []
  events : ∀ context, node.events context = []
  scopeCount : node.scopeCount = 0

theorem mentionsOf_append_of_nameless (h : ∀ node ∈ parts, Nameless node) (part : Nat)
    (rest : List Node) : mentionsOf kind .none part trail next (parts ++ rest) =
      mentionsOf kind .none (part + parts.length) trail next rest := by
  induction parts generalizing part with
  | nil => rfl
  | cons node others ih =>
      have hnode := h node (by simp)
      rw [List.cons_append, mentionsOf, hnode.mentions, List.nil_append, hnode.scopeCount]
      show mentionsOf kind .none (part + 1) trail next (others ++ rest) = _
      rw [ih (fun other hother => h other (by simp [hother])), List.length_cons,
        Nat.add_right_comm, Nat.add_assoc]

theorem eventsOf_append_of_nameless (h : ∀ node ∈ parts, Nameless node) (rest : List Node) :
    eventsOf context (parts ++ rest) = eventsOf context rest := by
  induction parts with
  | nil => rfl
  | cons node others ih =>
      rw [List.cons_append, eventsOf, (h node (by simp)).events, List.nil_append]
      exact ih fun other hother => h other (by simp [hother])

theorem scopeCountOf_append_of_nameless (h : ∀ node ∈ parts, Nameless node) (rest : List Node) :
    scopeCountOf (parts ++ rest) = scopeCountOf rest := by
  induction parts with
  | nil => rfl
  | cons node others ih =>
      rw [List.cons_append, scopeCountOf, (h node (by simp)).scopeCount, Nat.zero_add]
      exact ih fun other hother => h other (by simp [hother])

/-- A neutral piece is nameless when its parts are. -/
theorem Nameless.of_parts (hkind : kind.isNeutral) (hparts : ∀ part ∈ parts, Nameless part) :
    Nameless (.mk kind span parts) where
  mentions := by
    intro trail next
    rw [mentions_neutral hkind, ← List.append_nil parts, mentionsOf_append_of_nameless hparts]
    rfl
  events := by
    intro context
    rw [events_neutral hkind, ← List.append_nil parts, eventsOf_append_of_nameless hparts]
    rfl
  scopeCount := by
    rw [scopeCount_neutral hkind, ← List.append_nil parts, scopeCountOf_append_of_nameless hparts]
    rfl

/-- Words and strings are nameless. -/
theorem Nameless.of_isInert {node : Node} (h : node.isInert) : Nameless node := by
  induction node with
  | mk kind span parts ih =>
      obtain ⟨hkind, hparts⟩ := isInert_mk.1 h
      refine .of_parts ?_ fun part hpart => ih part hpart (hparts part hpart)
      cases kind <;> first | rfl | cases hkind

end Node

end Syntax

/-! ## What an import sees -/

/-- The place of the local name of a specifier of an import. -/
def localSpan : Node → Span
  | .mk (.importSpecifier _) _ [_, inner] => inner.span
  | .mk .importDefault _ [inner] => inner.span
  | .mk .importNamespace _ [inner] => inner.span
  | _ => ⟨0, 0⟩

/-- A specifier of an import declares its local name in the module. -/
def Sight.ofSpecifier (specifier : Node) : Sight :=
  ⟨.declaration .imported, ⟨localName specifier, localSpan specifier⟩, [], some ScopeTree.module⟩

/-- What a specifier of an import does to names, at any place directly in a module. -/
structure DeclaresLocal (specifier : Node) : Prop where
  imports : ImportsAs specifier (localName specifier)
  sights : ∀ trail : Trail, trail.context = .imported → trail.scopes = [] → ∀ next,
    (specifier.mentions trail next).map Mention.sight = [Sight.ofSpecifier specifier]
  events : specifier.events .imported =
    [.declare .imported (localName specifier) (localSpan specifier)]
  scopeCount : specifier.scopeCount = 0

/-- A specifier of any form ends in what it declares, behind parts without names. -/
theorem DeclaresLocal.of_last {kind : Kind} {span nameSpan : Span} {name : String}
    (before : List Node) (hkind : kind.isNeutral)
    (hcontext : NameEvent.contextIn .imported kind = .imported)
    (hbefore : ∀ node ∈ before, Node.Nameless node)
    (hname : localName (.mk kind span (before ++ [.mk (.binding name) nameSpan []])) = name)
    (hspan : localSpan (.mk kind span (before ++ [.mk (.binding name) nameSpan []])) = nameSpan)
    (himports : ImportsAs (.mk kind span (before ++ [.mk (.binding name) nameSpan []])) name) :
    DeclaresLocal (.mk kind span (before ++ [.mk (.binding name) nameSpan []])) where
  imports := hname.symm ▸ himports
  sights := by
    intro trail htrail hscopes next
    have hframe : ∀ part, Trail.context (⟨kind, part, none⟩ :: trail) = .imported := by
      intro part
      rw [Trail.context, htrail, hcontext]
    have hinside : ∀ part, Trail.scopes (⟨kind, part, none⟩ :: trail) = [] := by
      simpa [Trail.scopes] using hscopes
    rw [Node.mentions_neutral hkind, Node.mentionsOf_append_of_nameless hbefore]
    simp [Node.mentionsOf, Node.mentions, Mention.sight, Mention.toUse, Sight.ofSpecifier, hname,
      hspan, hframe, hinside, DeclarationContext.bindingKind, Mention.target?, Trail.innermost]
  events := by
    rw [Node.events_neutral hkind, hcontext, Node.eventsOf_append_of_nameless hbefore, hname, hspan]
    rfl
  scopeCount := by
    rw [Node.scopeCount_neutral hkind, Node.scopeCountOf_append_of_nameless hbefore]
    rfl

/-- A specifier of an import does nothing else than to declare its local name. -/
theorem declaresLocal_of_isImportSpecifier {specifier : Node} (h : specifier.wellFormed)
    (hspecifier : specifier.kind.isImportSpecifier) : DeclaresLocal specifier := by
  obtain ⟨kind, span, parts⟩ := specifier
  cases kind with
  | importSpecifier isType =>
      obtain ⟨imported, name, nameSpan, rfl, himported, hform⟩ := Node.wellFormed_importSpecifier h
      have hinert : imported.isInert :=
        hform.elim (Node.isInert_of_isWord himported) (Node.isInert_of_isString himported)
      exact .of_last [imported] (by rfl) rfl
        (by simpa using Node.Nameless.of_isInert hinert) rfl rfl
        (.named ..)
  | importDefault =>
      obtain ⟨name, nameSpan, rfl⟩ := Node.wellFormed_importWhole (.inl rfl) h
      exact .of_last [] (by rfl) rfl (by simp) rfl rfl (.default ..)
  | importNamespace =>
      obtain ⟨name, nameSpan, rfl⟩ := Node.wellFormed_importWhole (.inr rfl) h
      exact .of_last [] (by rfl) rfl (by simp) rfl rfl (.whole ..)
  | _ => cases hspecifier

/-! ## Imports that have specifiers -/

section Import

variable {specifiers : List Node} {isType : Bool} {phase : ImportPhase} {span listSpan : Span}
  {source attributes : Node} {next : ScopeId}

theorem sights_specifiers (h : ∀ specifier ∈ specifiers, DeclaresLocal specifier) {trail : Trail}
    (hcontext : trail.context = .imported) (hscopes : trail.scopes = []) (part : Nat) :
    (Node.mentionsOf .list none part trail next specifiers).map Mention.sight =
      specifiers.map Sight.ofSpecifier := by
  induction specifiers generalizing part next with
  | nil => rfl
  | cons specifier rest ih =>
      have hframe : Trail.context (⟨.list, part, none⟩ :: trail) = .imported := by
        rw [Trail.context, hcontext]
        rfl
      have hinside : Trail.scopes (⟨.list, part, none⟩ :: trail) = [] := by
        simpa [Trail.scopes] using hscopes
      rw [Node.mentionsOf, List.map_append, (h specifier (by simp)).sights _ hframe hinside,
        ih fun other hother => h other (by simp [hother])]
      rfl

/-- The parts of an import that has a list of specifiers. -/
theorem declaresLocal_of_import
    (h : (Node.mk (.importDeclaration isType phase) span
      [.mk .list listSpan specifiers, source, attributes]).wellFormed) :
    (∀ specifier ∈ specifiers, DeclaresLocal specifier) ∧ source.Nameless ∧
      attributes.Nameless := by
  obtain ⟨hadmits, hparts⟩ := Node.wellFormed_mk.1 h
  obtain ⟨hspecifiers, hsource, hattributes⟩ := Node.admits_import.1 hadmits
  have hlist := (Node.wellFormed_mk.1 (hparts (.mk .list listSpan specifiers) (by simp))).2
  refine ⟨?_, .of_isInert (Node.isInert_of_isString (hparts source (by simp)) hsource),
    .of_isInert (Node.isInert_of_isImportAttributes (hparts attributes (by simp)) hattributes)⟩
  intro specifier hspecifier
  exact declaresLocal_of_isImportSpecifier (hlist specifier hspecifier)
    (hspecifiers specifier hspecifier)

/-- An import sees a declaration of the module for each specifier. -/
theorem sights_import
    (h : (Node.mk (.importDeclaration isType phase) span
      [.mk .list listSpan specifiers, source, attributes]).wellFormed) :
    Node.sights next [.mk (.importDeclaration isType phase) span
      [.mk .list listSpan specifiers, source, attributes]] =
        specifiers.map Sight.ofSpecifier := by
  obtain ⟨hspecifiers, hsource, hattributes⟩ := declaresLocal_of_import h
  have hlist : (Node.mentionsOf .list none 0
      [⟨.importDeclaration isType phase, 0, none⟩, ⟨.list, 0, none⟩] next specifiers).map
        Mention.sight = specifiers.map Sight.ofSpecifier :=
    sights_specifiers hspecifiers rfl rfl 0
  rw [Node.sights_cons, Node.mentions_neutral (by rfl)]
  simp only [Node.mentionsOf, hsource.mentions, hattributes.mentions, List.append_nil]
  rw [Node.mentions_neutral (by rfl), hlist]
  exact List.append_nil _

/-- An import only declares names. -/
theorem events_import
    (h : (Node.mk (.importDeclaration isType phase) span
      [.mk .list listSpan specifiers, source, attributes]).wellFormed)
    (context : DeclarationContext) :
    (Node.mk (.importDeclaration isType phase) span
      [.mk .list listSpan specifiers, source, attributes]).events context =
        specifiers.map fun specifier =>
          .declare .imported (localName specifier) (localSpan specifier) := by
  obtain ⟨hspecifiers, hsource, hattributes⟩ := declaresLocal_of_import h
  rw [Node.events_neutral (by rfl)]
  simp only [Node.eventsOf, hsource.events, hattributes.events, List.append_nil]
  rw [Node.events_neutral (by rfl)]
  show Node.eventsOf .imported specifiers = _
  clear h
  induction specifiers with
  | nil => rfl
  | cons specifier rest ih =>
      rw [Node.eventsOf, (hspecifiers specifier (by simp)).events, List.map_cons,
        ih fun other hother => hspecifiers other (by simp [hother])]
      rfl

/-- An import opens no scope. -/
theorem scopeCount_import
    (h : (Node.mk (.importDeclaration isType phase) span
      [.mk .list listSpan specifiers, source, attributes]).wellFormed) :
    (Node.mk (.importDeclaration isType phase) span
      [.mk .list listSpan specifiers, source, attributes]).scopeCount = 0 := by
  obtain ⟨hspecifiers, hsource, hattributes⟩ := declaresLocal_of_import h
  rw [Node.scopeCount_neutral (by rfl)]
  simp only [Node.scopeCountOf, hsource.scopeCount, hattributes.scopeCount, Nat.add_zero]
  rw [Node.scopeCount_neutral (by rfl)]
  clear h
  induction specifiers with
  | nil => rfl
  | cons specifier rest ih =>
      rw [Node.scopeCountOf, (hspecifiers specifier (by simp)).scopeCount, Nat.zero_add]
      exact ih fun other hother => hspecifiers other (by simp [hother])

end Import

end JsxTidy
