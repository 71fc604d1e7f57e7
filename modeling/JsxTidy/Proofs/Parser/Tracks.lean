import JsxTidy.Proofs.Parser.Yields
import JsxTidy.Proofs.Token.Places

/-!
# What parsers pass

A piece of syntax has landmarks: the places where it uses names, and those where it imports. A
parser passes the landmarks of what it reads in their order, between the token that it starts at and
the one that it leaves. `Follows` says so of a parser that goes on behind landmarks that have been
passed already; so the landmarks of the parts of a rule add up while the rule is read. Steps that
pass no landmark are `Quiet`, and `Follows.skip` passes over them.
-/

namespace JsxTidy

open Syntax Text

/-! ## Landmarks -/

/-- A place in a text that a piece of syntax points out. -/
inductive Landmark where
  /-- The start of a name that is used. -/
  | use (start : Nat)
  /-- The start of an import. -/
  | importing (start : Nat)
deriving DecidableEq, Repr

namespace Syntax

/-- The landmark of a piece of syntax itself. -/
def Kind.landmarks : Kind → Span → List Landmark
  | .reference _, span => [.use span.start]
  | .importDeclaration .., span => [.importing span.start]
  | _, _ => []

namespace Node

mutual

/-- The landmarks of a piece of syntax in the order of its parts. -/
def landmarks : Node → List Landmark
  | .mk kind span parts => kind.landmarks span ++ landmarksOf parts

/-- The landmarks of some pieces of syntax. -/
def landmarksOf : List Node → List Landmark
  | [] => []
  | node :: rest => landmarks node ++ landmarksOf rest

end

theorem landmarksOf_eq (nodes : List Node) : landmarksOf nodes = nodes.flatMap landmarks := by
  induction nodes with
  | nil => rfl
  | cons node rest ih => rw [landmarksOf, ih, List.flatMap_cons]

@[simp] theorem landmarks_mk (kind : Kind) (span : Span) (parts : List Node) :
    (mk kind span parts).landmarks = kind.landmarks span ++ parts.flatMap landmarks := by
  rw [landmarks, landmarksOf_eq]

@[simp] theorem landmarks_none : Node.none.landmarks = [] := by
  simp [Node.none, Kind.landmarks]

@[simp] theorem landmarks_list (nodes : List Node) :
    (Node.list nodes).landmarks = nodes.flatMap landmarks := by
  simp [Node.list, Kind.landmarks]

end Node

end Syntax

/-- Whether a word stands at an offset of a text, and is no part of a longer name there. -/
def WordStandsAt (source word : List Char) (start : Nat) : Prop :=
  ∃ rest, dropBytes start source = word ++ rest ∧ ∀ c ∈ rest.head?, isIdentifierPart c = false

/-- Whether landmarks follow one another between two offsets of a text: names are used one behind
the other, and the word `import` stands where something is imported. -/
def InOrder (source : List Char) : Nat → Nat → List Landmark → Prop
  | first, last, [] => first ≤ last
  | first, last, .use start :: rest => first ≤ start ∧ InOrder source (start + 1) last rest
  | first, last, .importing start :: rest =>
    WordStandsAt source "import".toList start ∧ InOrder source first last rest

namespace InOrder

variable {source : List Char} {first middle last : Nat} {marks more : List Landmark}

/-- Landmarks that stand in order from a later place on do so from an earlier one on. -/
theorem of_le (hle : first ≤ middle) (h : InOrder source middle last marks) :
    InOrder source first last marks := by
  induction marks generalizing middle with
  | nil => exact Nat.le_trans hle h
  | cons mark rest ih =>
      cases mark with
      | use start => exact ⟨Nat.le_trans hle h.1, h.2⟩
      | importing start => exact ⟨h.1, ih hle h.2⟩

/-- Landmarks of two parts of a text that lie one behind the other are in order. -/
theorem append (h : InOrder source first middle marks) (h' : InOrder source middle last more) :
    InOrder source first last (marks ++ more) := by
  induction marks generalizing first with
  | nil => exact of_le h h'
  | cons mark rest ih =>
      cases mark with
      | use start => exact ⟨h.1, ih h.2⟩
      | importing start => exact ⟨h.1, ih h.2⟩

theorem sublist (h : InOrder source first last marks) (hsub : more.Sublist marks) :
    InOrder source first last more := by
  induction hsub generalizing first with
  | slnil => exact h
  | cons mark _ ih =>
      cases mark with
      | use start => exact ih (of_le (Nat.le_succ_of_le h.1) h.2)
      | importing start => exact ih h.2
  | cons_cons mark _ ih =>
      cases mark with
      | use start => exact ⟨h.1, ih h.2⟩
      | importing start => exact ⟨h.1, ih h.2⟩

/-- Where something is imported, the word `import` stands. -/
theorem wordStandsAt (h : InOrder source first last marks) {start : Nat}
    (hmark : .importing start ∈ marks) : WordStandsAt source "import".toList start := by
  induction marks generalizing first with
  | nil => cases hmark
  | cons mark rest ih =>
      cases mark with
      | use place =>
          exact ih h.2 ((List.mem_cons.1 hmark).resolve_left Landmark.noConfusion)
      | importing place =>
          rcases List.mem_cons.1 hmark with hsame | hlater
          · cases hsame
            exact h.1
          · exact ih h.2 hlater

end InOrder

/-! ## States -/

/-- Whether a state of reading stands somewhere in a text, at a token of it. -/
structure ParserState.Placed (source : List Char) (s : ParserState) : Prop where
  size_eq : s.size = byteLength source
  leads : (⟨0, source⟩ : Cursor).LeadsTo s.start
  lexeme : s.token.lexeme.Fits s.token.escaped s.start s.stop
  span_start : s.token.span.start = s.start.offset

/-- Whether reading from one state to another one passes landmarks, unless there are complaints. -/
structure ParserState.Passes (source : List Char) (s s' : ParserState) (marks : List Landmark) :
    Prop where
  placed : s'.Placed source
  clean : s'.problems = [] →
    s.problems = [] ∧ InOrder source s.start.offset s'.start.offset marks

namespace ParserState.Passes

variable {source : List Char} {s s₁ s' : ParserState} {marks more : List Landmark}

/-- What is passed on the way to a state and from there on is passed one behind the other. -/
theorem trans (h : s.Passes source s₁ marks) (h' : s₁.Passes source s' more) :
    s.Passes source s' (marks ++ more) where
  placed := h'.placed
  clean hnone :=
    have hrest := h'.clean hnone
    have hfirst := h.clean hrest.1
    ⟨hfirst.1, hfirst.2.append hrest.2⟩

theorem sublist (h : s.Passes source s' marks) (hsub : more.Sublist marks) :
    s.Passes source s' more where
  placed := h.placed
  clean hnone := ⟨(h.clean hnone).1, (h.clean hnone).2.sublist hsub⟩

/-- What differs in other things than the place stands where it stood. -/
theorem stay (h : s.Placed source) (htoken : s'.token = s.token) (hstart : s'.start = s.start)
    (hstop : s'.stop = s.stop) (hsize : s'.size = s.size) (hproblems : s.problems <:+ s'.problems) :
    s.Passes source s' [] where
  placed := by
    refine ⟨hsize.trans h.size_eq, hstart ▸ h.leads, ?_, ?_⟩
    · rw [htoken, hstart, hstop]
      exact h.lexeme
    · rw [htoken, hstart]
      exact h.span_start
  clean hnone := by
    rw [hnone] at hproblems
    rw [hstart]
    exact ⟨List.suffix_nil.1 hproblems, Nat.le_refl _⟩

/-- A state passes nothing on the way to itself. -/
theorem refl (h : s.Placed source) : s.Passes source s [] :=
  stay h rfl rfl rfl rfl (List.suffix_refl _)

/-- Where there is a complaint, landmarks may come in any order. -/
theorem of_complaint (h : s'.Placed source) (hproblems : s'.problems ≠ []) :
    s.Passes source s' marks where
  placed := h
  clean hnone := absurd hnone hproblems

end ParserState.Passes

/-- Whether the rules reached through goals yield what they have to, and pass its landmarks. -/
structure ParserEnv.Tracks (env : ParserEnv) (source : List Char) : Prop where
  sound : env.Sound
  passes : ∀ g around s node s', s.Placed source → env.descend g around s = .ok node s' →
    s.Passes source s' node.landmarks

namespace Parser

variable {α β : Type}

/-- Whether a parser passes no landmark. -/
class Quiet (p : Parser α) : Prop where
  passes : ∀ {source : List Char} {env : ParserEnv} {s s' : ParserState} {a : α}, env.Sound →
    s.Placed source → p env s = .ok a s' → s.Passes source s' []

/-- Whether a parser that goes on behind some landmarks has passed, when it has read something, all
landmarks that are said to go with it. The parser starts at a state that passes a test. -/
def FollowsAt (source : List Char) (test : ParserState → Prop) (acc : List Landmark)
    (p : Parser α) (all : α → List Landmark) : Prop :=
  ∀ env : ParserEnv, env.Tracks source → ∀ s₀ s : ParserState, s₀.Passes source s acc → test s →
    ∀ a s', p env s = .ok a s' → s₀.Passes source s' (all a)

/-- Whether a parser that goes on behind some landmarks has passed, when it has read something, all
landmarks that are said to go with it. -/
abbrev Follows (source : List Char) (acc : List Landmark) (p : Parser α)
    (all : α → List Landmark) : Prop :=
  FollowsAt source (fun _ => True) acc p all

variable {source : List Char} {acc more : List Landmark} {p q : Parser α} {f : α → Parser β}
  {marks : α → List Landmark} {all : β → List Landmark} {test : ParserState → Prop}

/-! ## Putting steps together -/

namespace Follows

/-- A parser from its first state on. -/
protected theorem run (h : Follows source [] p marks) {env : ParserEnv} (henv : env.Tracks source)
    {s s' : ParserState} {a : α} (hs : s.Placed source) (hrun : p env s = .ok a s') :
    s.Passes source s' (marks a) :=
  h env henv s s (.refl hs) trivial a s' hrun

/-- A step that passes landmarks of its own. -/
theorem step (hp : Follows source [] p marks)
    (hf : ∀ a, Follows source (acc ++ marks a) (f a) all) : Follows source acc (p >>= f) all := by
  intro env henv s₀ s hs _ b s' hrun
  obtain ⟨a, s₁, hfirst, hrest⟩ := exists_of_bind_eq_ok hrun
  exact hf a env henv s₀ s₁ (hs.trans (hp.run henv hs.placed hfirst)) trivial b s' hrest

/-- A step whose results have a property. -/
theorem stepOf {good : α → Prop} (hgood : Yields p good)
    (hp : Follows source [] p marks)
    (hf : ∀ a, good a → Follows source (acc ++ marks a) (f a) all) :
    Follows source acc (p >>= f) all := by
  intro env henv s₀ s hs _ b s' hrun
  obtain ⟨a, s₁, hfirst, hrest⟩ := exists_of_bind_eq_ok hrun
  exact hf a (hgood env henv.sound s a s₁ hfirst) env henv s₀ s₁
    (hs.trans (hp.run henv hs.placed hfirst)) trivial b s' hrest

/-- A step that goes on behind what has been passed, and whose results have a property. -/
theorem bindOf {good : α → Prop} (hgood : Yields p good) (hp : Follows source acc p marks)
    (hf : ∀ a, good a → Follows source (marks a) (f a) all) :
    Follows source acc (p >>= f) all := by
  intro env henv s₀ s hs _ b s' hrun
  obtain ⟨a, s₁, hfirst, hrest⟩ := exists_of_bind_eq_ok hrun
  have hpassed := hp env henv s₀ s hs trivial a s₁ hfirst
  exact hf a (hgood env henv.sound s a s₁ hfirst) env henv s₀ s₁ hpassed trivial b s' hrest

/-- A step that goes on behind what has been passed. -/
protected theorem bind (hp : Follows source acc p marks)
    (hf : ∀ a, Follows source (marks a) (f a) all) : Follows source acc (p >>= f) all :=
  have hany : Yields p fun _ => True := fun _ _ _ _ _ _ => trivial
  bindOf hany hp fun a _ => hf a

/-- What passes nothing leaves what has been passed. -/
protected theorem quiet [hp : Quiet p] : Follows source acc p fun _ => acc := by
  intro env henv s₀ s hs _ a s' hrun
  have hquiet := hs.trans (hp.passes henv.sound hs.placed hrun)
  rwa [List.append_nil] at hquiet

/-- A step that passes nothing and whose results have a property. -/
theorem skipOf {good : α → Prop} [hp : Quiet p] (hgood : Yields p good)
    (hf : ∀ a, good a → Follows source acc (f a) all) : Follows source acc (p >>= f) all := by
  intro env henv s₀ s hs _ b s' hrun
  obtain ⟨a, s₁, hfirst, hrest⟩ := exists_of_bind_eq_ok hrun
  have hquiet := Follows.quiet env henv s₀ s hs trivial a s₁ hfirst
  exact hf a (hgood env henv.sound s a s₁ hfirst) env henv s₀ s₁ hquiet trivial b s' hrest

/-- A step that passes nothing. -/
theorem skip [Quiet p] (hf : ∀ a, Follows source acc (f a) all) :
    Follows source acc (p >>= f) all :=
  have hany : Yields p fun _ => True := fun _ _ _ _ _ _ => trivial
  skipOf hany fun a _ => hf a

/-- All that is said to be passed is among what has been passed. -/
protected theorem pure {a : α} (h : (marks a).Sublist acc) : Follows source acc (pure a) marks := by
  intro env henv s₀ s hs _ b s' hrun
  cases hrun
  exact hs.sublist h

/-- Some of the landmarks behind which a parser goes on. -/
theorem drop (hsub : more.Sublist acc) (h : Follows source more p marks) :
    Follows source acc p marks :=
  fun env henv s₀ s hs _ => h env henv s₀ s (hs.sublist hsub) trivial

/-- A parser that needs none of the landmarks behind which it goes on. -/
theorem alone (h : Follows source [] p marks) : Follows source acc p marks :=
  h.drop (List.nil_sublist acc)

/-- Some of the landmarks that a parser passes. -/
theorem mono {fewer : α → List Landmark} (h : Follows source acc p marks)
    (hsub : ∀ a, (fewer a).Sublist (marks a)) : Follows source acc p fewer :=
  fun env henv s₀ s hs _ a s' hrun => (h env henv s₀ s hs trivial a s' hrun).sublist (hsub a)

/-- Whichever of two parsers is taken. -/
theorem ite {c : Prop} [Decidable c] (hp : Follows source acc p marks)
    (hq : Follows source acc q marks) : Follows source acc (if c then p else q) marks := by
  split
  · exact hp
  · exact hq

/-- A quiet step without a result that is taken under a condition. -/
theorem check {c : Prop} [Decidable c] {p : Parser Unit} [Quiet p] {f : Unit → Parser β}
    (hf : Follows source acc (f ()) all) :
    Follows source acc (if c then p >>= f else f ()) all :=
  ite (skip fun _ => hf) hf

/-- One of two steps. -/
theorem choose {c : Prop} [Decidable c] (hp : Follows source [] p marks)
    (hq : Follows source [] q marks) (hf : ∀ a, Follows source (acc ++ marks a) (f a) all) :
    Follows source acc (if c then p >>= f else q >>= f) all :=
  ite (step hp hf) (step hq hf)

end Follows

/-! ## Quiet steps -/

/-- Reading ahead changes nothing but what was logged. -/
theorem exists_log_of_lookahead {p : Parser Bool} {env : ParserEnv} {s s' : ParserState} {a : Bool}
    (hrun : lookahead p env s = .ok a s') : ∃ log, s' = { s with log } := by
  unfold lookahead at hrun
  split at hrun
  · cases hrun
    exact ⟨_, rfl⟩
  · cases hrun
    exact ⟨_, rfl⟩

namespace Quiet

protected instance pure (a : α) : Quiet (pure a : Parser α) where
  passes := by
    intro source env s s' b _ hs hrun
    cases hrun
    exact .refl hs

protected instance bind [hp : Quiet p] [hf : ∀ a, Quiet (f a)] : Quiet (p >>= f) where
  passes := by
    intro source env s s' b henv hs hrun
    obtain ⟨a, s₁, hfirst, hrest⟩ := exists_of_bind_eq_ok hrun
    have hpassed := hp.passes henv hs hfirst
    exact hpassed.trans ((hf a).passes henv hpassed.placed hrest)

/-- A quiet step before others. -/
theorem skip [Quiet p] (hf : ∀ a, Quiet (f a)) : Quiet (p >>= f) :=
  Quiet.bind

protected instance ite {c : Prop} [Decidable c] [hp : Quiet p] [hq : Quiet q] :
    Quiet (if c then p else q) := by
  split
  · exact hp
  · exact hq

/-- What never reads anything passes nothing. -/
theorem of_never (h : Yields p fun _ => False) : Quiet p where
  passes {_ env s s' a} henv _ hrun := (h env henv s a s' hrun).elim

/-- Looks at the state, and changes of it that leave the place as it is, pass nothing. -/
theorem of_stay (h : ∀ env s a s', p env s = .ok a s' → s'.token = s.token ∧ s'.start = s.start ∧
    s'.stop = s.stop ∧ s'.size = s.size ∧ s.problems <:+ s'.problems) : Quiet p where
  passes := by
    intro source env s s' a _ hs hrun
    obtain ⟨htoken, hstart, hstop, hsize, hproblems⟩ := h env s a s' hrun
    exact .stay hs htoken hstart hstop hsize hproblems

/-- Looks at the state pass nothing. -/
theorem of_look (h : ∀ env s a s', p env s = .ok a s' → s' = s) : Quiet p := by
  refine of_stay fun env s a s' hrun => ?_
  rw [h env s a s' hrun]
  exact ⟨rfl, rfl, rfl, rfl, List.suffix_refl _⟩

/-- Reading ahead leaves nothing behind but what was logged. -/
theorem of_ahead (h : ∀ env s a s', p env s = .ok a s' → ∃ log, s' = { s with log }) :
    Quiet p := by
  refine of_stay fun env s a s' hrun => ?_
  obtain ⟨log, rfl⟩ := h env s a s' hrun
  exact ⟨rfl, rfl, rfl, rfl, List.suffix_refl _⟩

protected instance get : Quiet (get : Parser ParserState) :=
  of_look fun env s a s' hrun => by cases hrun; rfl

protected instance around : Quiet around :=
  of_look fun env s a s' hrun => by cases hrun; rfl

protected instance token : Quiet token :=
  of_look fun env s a s' hrun => by cases hrun; rfl

protected instance lexeme : Quiet lexeme :=
  of_look fun env s a s' hrun => by cases hrun; rfl

protected instance startOffset : Quiet startOffset :=
  of_look fun env s a s' hrun => by cases hrun; rfl

protected instance spanFrom (start : Nat) : Quiet (spanFrom start) :=
  of_look fun env s a s' hrun => by cases hrun; rfl

protected instance atSymbol (text : String) : Quiet (atSymbol text) :=
  of_look fun env s a s' hrun => by cases hrun; rfl

protected instance atWord (name : String) : Quiet (atWord name) :=
  of_look fun env s a s' hrun => by cases hrun; rfl

protected instance canInsertSemicolon : Quiet canInsertSemicolon :=
  of_look fun env s a s' hrun => by cases hrun; rfl

protected instance complainAt (complaint : Complaint) (offset : Nat) :
    Quiet (complainAt complaint offset) :=
  of_stay fun env s a s' hrun => by
    cases hrun
    exact ⟨rfl, rfl, rfl, rfl, List.suffix_cons _ _⟩

/-- What is remembered of literals leaves the place as it is. -/
protected instance modifyCovers (change : List (Nat × Diagnostic) → List (Nat × Diagnostic)) :
    Quiet (modify fun s => { s with covers := change s.covers } : Parser Unit) :=
  of_stay fun env s a s' hrun => by
    cases hrun
    exact ⟨rfl, rfl, rfl, rfl, List.suffix_refl _⟩

protected instance modifyTrailingCommas (change : List (Nat × Nat) → List (Nat × Nat)) :
    Quiet (modify fun s => { s with trailingCommas := change s.trailingCommas } : Parser Unit) :=
  of_stay fun env s a s' hrun => by
    cases hrun
    exact ⟨rfl, rfl, rfl, rfl, List.suffix_refl _⟩

protected instance failAt (complaint : Complaint) (offset : Nat) :
    Quiet (failAt complaint offset : Parser α) :=
  of_never (yields_failAt complaint offset)

protected instance lookahead (p : Parser Bool) : Quiet (lookahead p) :=
  of_ahead fun _ _ _ _ => exists_log_of_lookahead

protected instance nextToken (test : Token → Bool) : Quiet (nextToken test) :=
  Quiet.lookahead _

end Quiet

/-! ## Going on to the next token -/

/-- A character takes up one byte at least. -/
theorem length_le_byteLength (text : List Char) : text.length ≤ byteLength text := by
  induction text with
  | nil => exact Nat.le_refl _
  | cons c rest ih =>
      have hpos := c.utf8Size_pos
      rw [List.length_cons, byteLength]
      omega

/-- The text behind a token bounds the number of steps that reading the next one takes. -/
theorem length_le_stepsLeft {s : ParserState} (hsize : s.size = byteLength source)
    (hleads : (⟨0, source⟩ : Cursor).LeadsTo s.stop) : s.stop.rest.length ≤ stepsLeft s := by
  obtain ⟨passed, hsource, hoffset⟩ := hleads.exists_eq
  have hbytes := length_le_byteLength s.stop.rest
  rw [hsource, byteLength_append] at hsize
  rw [stepsLeft]
  omega

/-- Going on leads to the next token of the text and complains about nothing. -/
theorem placed_skipToken {inAttribute : Bool} {env : ParserEnv} {s s' : ParserState} {u : Unit}
    (hrun : skipToken inAttribute env s = .ok u s') (hsize : s.size = byteLength source)
    (hleads : (⟨0, source⟩ : Cursor).LeadsTo s.stop) :
    s'.Placed source ∧ s.stop.LeadsTo s'.start ∧ s'.problems = s.problems := by
  cases hrun
  have hnext := Lexer.fits_next inAttribute s.log (length_le_stepsLeft hsize hleads)
  refine ⟨⟨hsize, hleads.trans hnext.leads, hnext.lexeme, ?_⟩, hnext.leads, rfl⟩
  exact congrArg Span.start hnext.span_eq

/-- Going on passes all landmarks that are placed in the current token. -/
theorem passes_skipToken {inAttribute : Bool} {env : ParserEnv} {s s' : ParserState} {u : Unit}
    {passed : List Landmark} (hs : s.Placed source)
    (hpassed : InOrder source s.start.offset s.stop.offset passed)
    (hrun : skipToken inAttribute env s = .ok u s') : s.Passes source s' passed := by
  obtain ⟨hplaced, hleads, hproblems⟩ :=
    placed_skipToken hrun hs.size_eq (hs.leads.trans hs.lexeme.leads)
  refine ⟨hplaced, fun hnone => ⟨hproblems ▸ hnone, ?_⟩⟩
  have hrest : InOrder source s.stop.offset s'.start.offset [] := hleads.offset_le
  have happend := hpassed.append hrest
  rw [List.append_nil] at happend
  exact happend

/-- A new reading of the current token. -/
theorem passes_reread {s s' : ParserState} (hs : s.Placed source) (hsize : s'.size = s.size)
    (hstart : s'.start = s.start) (hproblems : s'.problems = s.problems)
    (hlexeme : s'.token.lexeme.Fits s'.token.escaped s'.start s'.stop)
    (hspan : s'.token.span.start = s'.start.offset) : s.Passes source s' [] where
  placed := ⟨hsize.trans hs.size_eq, hstart ▸ hs.leads, hlexeme, hspan⟩
  clean hnone := by
    rw [hstart]
    exact ⟨hproblems ▸ hnone, Nat.le_refl _⟩

namespace Quiet

protected instance skipToken (inAttribute : Bool) : Quiet (skipToken inAttribute) where
  passes _ hs hrun := passes_skipToken hs hs.lexeme.leads.offset_le hrun

protected instance advance : Quiet advance := by
  refine .skip fun t => ?_
  dsimp only
  split
  · infer_instance
  · infer_instance

protected instance eatSymbol (text : String) : Quiet (eatSymbol text) := by
  unfold Parser.eatSymbol
  infer_instance

protected instance eatWord (name : String) : Quiet (eatWord name) := by
  unfold Parser.eatWord
  infer_instance

protected instance unexpected : Quiet (unexpected : Parser α) :=
  of_never yields_unexpected

protected instance failExpected (wanted : String) : Quiet (failExpected wanted : Parser α) :=
  of_never (yields_failExpected wanted)

protected instance expectSymbol (text : String) : Quiet (expectSymbol text) := by
  unfold Parser.expectSymbol
  infer_instance

protected instance expectWord (name : String) : Quiet (expectWord name) := by
  unfold Parser.expectWord
  infer_instance

protected instance semicolon : Quiet semicolon := by
  unfold Parser.semicolon
  infer_instance

protected instance checkName (name : String) : Quiet (checkName name) := by
  unfold Parser.checkName
  infer_instance

end Quiet

/-- A rule that begins with its keyword. -/
theorem Follows.fromWord {f : Nat → Parser β} (hf : ∀ start, Follows source acc (f start) all) :
    Follows source acc (do
      let start ← startOffset
      advance
      f start) all :=
  skip fun start => skip fun _ => hf start

/-! ## Steps of the machine -/

/-- The rule for a goal passes the landmarks of what it reads. -/
theorem follows_goal (g : Goal) : Follows source [] (goal g) Node.landmarks := by
  intro env henv s₀ s hs _ node s' hrun
  exact hs.trans (henv.passes g env.around s node s' hs.placed hrun)

/-- What surrounds a parser makes no difference to what it passes. -/
theorem follows_within (change : Surroundings → Surroundings) (h : Follows source acc p marks) :
    Follows source acc (within change p) marks :=
  fun env henv => h { env with around := change env.around } ⟨henv.sound, henv.passes⟩

/-- A piece of syntax whose parts have been passed. -/
theorem follows_node {kind : Kind} {parts : List Node} (start : Nat)
    (hkind : kind.landmarks = fun _ => []) (h : (parts.flatMap Node.landmarks).Sublist acc) :
    Follows source acc (node kind start parts) Node.landmarks := by
  refine .skip fun span => .pure ?_
  rw [Node.landmarks_mk, hkind, List.nil_append]
  exact h

/-- A piece of syntax that is read in the middle of a rule, behind landmarks of other parts. -/
theorem Follows.piece {kind : Kind} {parts : List Node} {f : Node → Parser β} (start : Nat)
    (before : List Landmark) (hkind : kind.landmarks = fun _ => [])
    (h : (before ++ parts.flatMap Node.landmarks).Sublist acc)
    (hf : ∀ node, Follows source (before ++ node.landmarks) (f node) all) :
    Follows source acc (node kind start parts >>= f) all := by
  have hnode : Follows source acc (node kind start parts) fun node => before ++ node.landmarks := by
    refine .skip fun span => .pure ?_
    rw [Node.landmarks_mk, hkind, List.nil_append]
    exact h
  exact .bind hnode hf

theorem follows_none : Follows source acc (pure Node.none) Node.landmarks :=
  .pure (by simp)

/-- What never reads anything passes whatever is wanted. -/
theorem Follows.never (h : Yields p fun _ => False) : Follows source acc p marks :=
  fun env henv _ s _ _ a s' hrun => (h env henv.sound s a s' hrun).elim

theorem follows_unexpected : Follows source acc (unexpected : Parser α) marks :=
  .never yields_unexpected

theorem follows_failExpected (wanted : String) :
    Follows source acc (failExpected wanted : Parser α) marks :=
  .never (yields_failExpected wanted)

theorem follows_failAt (complaint : Complaint) (offset : Nat) :
    Follows source acc (failAt complaint offset : Parser α) marks :=
  .never (yields_failAt complaint offset)

theorem Follows.fail {complaint : Complaint} {offset : Nat} :
    Follows source acc ((failAt complaint offset : Parser α) >>= f) all :=
  .never .fail

/-- What is complained about stays complained about. -/
theorem problems_ne_of_complaint {complaint : Complaint} {offset : Nat} {env : ParserEnv}
    {s s₁ s' : ParserState} {u : Unit} (hrun : complainAt complaint offset env s = .ok u s₁)
    (hrest : s₁.Passes source s' more) : s'.problems ≠ [] := by
  intro hnone
  have hbefore := (hrest.clean hnone).1
  cases hrun
  cases hbefore

/-- Behind a complaint, landmarks may come in any order. -/
theorem Follows.complain {complaint : Complaint} {offset : Nat} (more : α → List Landmark)
    (hp : Follows source [] p marks) (hf : ∀ a, Follows source (more a) (f a) all) :
    Follows source acc (complainAt complaint offset >>= fun _ => p >>= f) all := by
  intro env henv s₀ s hs _ b s' hrun
  obtain ⟨_, s₁, hcomplaint, hrest⟩ := exists_of_bind_eq_ok hrun
  have hplaced : s₁.Placed source :=
    ((Quiet.complainAt complaint offset).passes henv.sound hs.placed hcomplaint).placed
  obtain ⟨a, s₂, hfirst, hlast⟩ := exists_of_bind_eq_ok hrest
  have hstep := hp.run henv hplaced hfirst
  have hany : s₀.Passes source s₂ (more a) :=
    .of_complaint hstep.placed (problems_ne_of_complaint hcomplaint hstep)
  exact hf a env henv s₀ s₂ hany trivial b s' hlast

/-- An attempt that fails leads back to where it began. -/
theorem follows_attempt {p : Parser (Option α)}
    (h : Follows source [] p fun found => found.elim [] marks) :
    Follows source [] (attempt? p) fun found => found.elim [] marks := by
  intro env henv s₀ s hs _ found s' hrun
  have hback : ∀ log, s₀.Passes source { s with log } [] := fun log =>
    hs.trans (.stay hs.placed rfl rfl rfl rfl (List.suffix_refl _))
  unfold attempt? at hrun
  split at hrun
  · rename_i a s₁ heq
    cases hrun
    exact h env henv s₀ s hs trivial _ _ heq
  · cases hrun
    exact hback _
  · cases hrun
    exact hback _

section Lists

variable {piece : Parser Node} {marks : Node → List Landmark}

/-- Many pieces are passed one behind the other. -/
theorem follows_many (more : Parser Bool) [Quiet more] (h : Follows source [] piece marks) :
    Follows source [] (many more piece) (·.flatMap marks) := by
  have hgo : ∀ fuel found, Follows source (found.reverse.flatMap marks)
      (many.go more piece fuel found) (·.flatMap marks) := by
    intro fuel
    induction fuel with
    | zero => exact fun found => .pure (List.Sublist.refl _)
    | succ fuel ih =>
        refine fun found => .skip fun _ => .ite ?_ (.pure (List.Sublist.refl _))
        refine .step h fun node => .drop ?_ (ih (node :: found))
        simp
  exact .skip fun _ => hgo _ []

theorem follows_upTo (close : String) (h : Follows source [] piece marks) :
    Follows source [] (upTo close piece) (·.flatMap marks) :=
  follows_many _ h

/-- So are pieces between commas. -/
theorem follows_commaList (close : String) (h : Follows source [] piece marks) :
    Follows source [] (commaList close piece) (·.1.flatMap marks) := by
  have hgo : ∀ atEnd [Quiet atEnd] fuel found, Follows source (found.reverse.flatMap marks)
      (commaList.go close piece atEnd fuel found) (·.1.flatMap marks) := by
    intro atEnd _ fuel
    induction fuel with
    | zero => exact fun found => .pure (List.Sublist.refl _)
    | succ fuel ih =>
        refine fun found => .step h fun node => ?_
        have hpieces : ((node :: found).reverse.flatMap marks).Sublist
            (found.reverse.flatMap marks ++ marks node) := by simp
        refine .skip fun _ => .ite (.pure hpieces) (.skip fun _ => .check ?_)
        refine .skip fun _ => .skip fun _ => .ite (.skip fun _ => .pure hpieces) ?_
        exact .drop hpieces (ih _)
  refine .skip fun _ => .ite (.pure (by simp)) ?_
  exact .skip fun _ => hgo _ _ []

end Lists

/-! ## At a token -/

/-- The token that is looked at is the one that reading starts at. -/
theorem Follows.token {f : Token → Parser β}
    (hf : ∀ t, FollowsAt source (·.token = t) acc (f t) all) :
    Follows source acc (token >>= f) all :=
  fun env henv s₀ s hs _ b s' hrun => hf s.token env henv s₀ s hs rfl b s' hrun

/-- The token that is looked at is the one that reading starts at. -/
theorem Follows.lexeme {f : Lexeme → Parser β}
    (hf : ∀ l, FollowsAt source (·.token.lexeme = l) acc (f l) all) :
    Follows source acc (lexeme >>= f) all :=
  fun env henv s₀ s hs _ b s' hrun => hf s.token.lexeme env henv s₀ s hs rfl b s' hrun

/-- A step behind which reading stands at something that is known. -/
theorem Follows.stepAt {post : α → ParserState → Prop} (hp : Follows source [] p marks)
    (hpost : ∀ env, env.Sound → ∀ s a s', s.Placed source → p env s = .ok a s' → post a s')
    (hf : ∀ a, FollowsAt source (post a) (acc ++ marks a) (f a) all) :
    Follows source acc (p >>= f) all := by
  intro env henv s₀ s hs _ b s' hrun
  obtain ⟨a, s₁, hfirst, hrest⟩ := exists_of_bind_eq_ok hrun
  exact hf a env henv s₀ s₁ (hs.trans (hp.run henv hs.placed hfirst))
    (hpost env henv.sound s a s₁ hs.placed hfirst) b s' hrest

namespace FollowsAt

/-- What holds from every state on holds from one that passes a test on. -/
theorem of_follows {p : Parser β} (h : Follows source acc p all) :
    FollowsAt source test acc p all :=
  fun env henv s₀ s hs _ => h env henv s₀ s hs trivial

theorem mono {before : ParserState → Prop} (h : FollowsAt source before acc p marks)
    (htest : ∀ s, test s → before s) : FollowsAt source test acc p marks :=
  fun env henv s₀ s hs hnow => h env henv s₀ s hs (htest s hnow)

theorem lexeme {f : Lexeme → Parser β}
    (hf : ∀ l, (∃ s, test s ∧ s.token.lexeme = l) → FollowsAt source test acc (f l) all) :
    FollowsAt source test acc (lexeme >>= f) all :=
  fun env henv s₀ s hs htest b s' hrun =>
    hf s.token.lexeme ⟨s, htest, rfl⟩ env henv s₀ s hs htest b s' hrun

/-- A step that leaves the state as it is, with a result that is known. -/
theorem known (a : α) (hp : ∀ env s, test s → p env s = .ok a s)
    (hf : FollowsAt source test acc (f a) all) : FollowsAt source test acc (p >>= f) all := by
  intro env henv s₀ s hs htest b s' hrun
  obtain ⟨a', s₁, hfirst, hrest⟩ := exists_of_bind_eq_ok hrun
  rw [hp env s htest] at hfirst
  cases hfirst
  exact hf env henv s₀ s hs htest b s' hrest

/-- A step that leaves the state as it is. -/
theorem look (hp : ∀ env s a s', test s → p env s = .ok a s' → s' = s)
    (hf : ∀ a, FollowsAt source test acc (f a) all) :
    FollowsAt source test acc (p >>= f) all := by
  intro env henv s₀ s hs htest b s' hrun
  obtain ⟨a, s₁, hfirst, hrest⟩ := exists_of_bind_eq_ok hrun
  obtain rfl := hp env s a s₁ htest hfirst
  exact hf a env henv s₀ s₁ hs htest b s' hrest

theorem step (hp : FollowsAt source test [] p marks)
    (hf : ∀ a, Follows source (acc ++ marks a) (f a) all) :
    FollowsAt source test acc (p >>= f) all := by
  intro env henv s₀ s hs htest b s' hrun
  obtain ⟨a, s₁, hfirst, hrest⟩ := exists_of_bind_eq_ok hrun
  have hpassed := hp env henv s s (.refl hs.placed) htest a s₁ hfirst
  exact hf a env henv s₀ s₁ (hs.trans hpassed) trivial b s' hrest

end FollowsAt

end Parser

end JsxTidy
