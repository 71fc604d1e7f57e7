import JsxTidy.Parser.Markup
import JsxTidy.Proofs.Parser.Functions
import JsxTidy.Proofs.Token.Attribute

/-!
# Reading markup

Markup is legible. The value of an attribute is read right behind its equals sign, where a string
ends at the next quote of its kind; so no such string holds quotes of both kinds. A component is
used both where its tag opens and where it closes.
-/

namespace JsxTidy

open Syntax

/-- Whether a piece of syntax is a word without a character. -/
def Syntax.Node.isEmptyWord : Node → Bool
  | .mk (.word name) _ _ => name == ""
  | _ => false

/-- The landmarks of a word in a tag, which may be empty, where it counts as the use of a name. -/
def Syntax.Node.landmarksInTag (node : Node) : List Landmark :=
  if node.isEmptyWord then node.landmarks else node.landmarksAsUse

/-- They are not fewer than those it has anyway. -/
theorem Syntax.Node.landmarks_sublist_inTag (node : Node) :
    node.landmarks.Sublist node.landmarksInTag := by
  unfold landmarksInTag
  split
  · exact List.Sublist.refl _
  · exact node.landmarks_sublist_asUse

namespace Parser

/-! ## Names -/

/-- A name in a tag is a word, hyphens included. -/
theorem yields_markupWord : Yields markupWord fun node => node.legible ∧ node.kind.isWord :=
  .skip fun _ => .check (.skip fun _ => .skip fun _ => yields_wordName)

/-- A name with a namespace. -/
theorem fits_namespacedName {first second : Node} (hfirst : first.kind.isWord)
    (hsecond : second.kind.isWord) : Kind.namespacedName.fits [first, second] := by
  simp [Kind.fits, Kind.admits, Kind.isQuotable, hfirst, hsecond]

/-- A name that is used is a reference, or `this`. -/
theorem legible_asUse {name : Node} (h : name.legible) : (asUse name).legible := by
  unfold asUse
  split
  · rfl
  · rfl
  · exact h

/-- A name with a namespace has two words. -/
theorem yields_namespacedName {first : Node} (start : Nat) (h : first.legible)
    (hword : first.kind.isWord) : Yields (namespacedName start first) fun node =>
      node.legible ∧ node.kind = .namespacedName := by
  refine .bind yields_markupWord fun second hsecond => ?_
  exact yields_node start (fits_namespacedName hword hsecond.2) (by simp [h, hsecond.1])

/-- Members of a dotted name are nested to the left. -/
theorem yields_memberNames (start fuel : Nat) {object : Node} (h : object.legible) :
    Yields (memberNames start fuel object) (·.legible) := by
  induction fuel generalizing object with
  | zero => exact .pure h
  | succ fuel ih =>
      refine .skip fun _ => .ite ?_ (.pure h)
      refine .bind yields_markupWord fun property hproperty => ?_
      refine .bind (yields_piece start rfl ?_) fun longer hlonger => ih hlonger
      simp [h, hproperty.1]

/-- A dotted name begins with a reference. -/
theorem yields_dottedElement (start : Nat) {first : Node} (h : first.legible) :
    Yields (dottedElement start first) (·.legible) :=
  .skip fun _ => .skip fun _ => yields_memberNames start _ (legible_asUse h)

/-- A name without dots is a word or a reference. -/
theorem legible_plainElement {name : Node} (h : name.legible) : (plainElement name).legible := by
  unfold plainElement
  split
  · split
    · exact legible_asUse h
    · exact h
  · exact h

/-- An element has a name with a namespace, a dotted one, or a plain one. -/
theorem yields_elementName : Yields elementName (·.legible) := by
  refine .skip fun start => .bind yields_markupWord fun first hfirst => .skip fun _ => .ite ?_ ?_
  · exact (yields_namespacedName start hfirst.1 hfirst.2).mono fun _ h => h.1
  · refine .skip fun isDotted => .ite (yields_dottedElement start hfirst.1) ?_
    exact .pure (legible_plainElement hfirst.1)

/-! ## Attributes -/

/-- Braces hold an expression, or nothing. -/
theorem yields_containerRest (inChild : Bool) (start : Nat) :
    Yields (containerRest inChild start) fun node => node.legible ∧ node.kind = .container := by
  refine .skip fun _ => .ite (.skip fun stop => .skip fun _ => ?_) ?_
  · have hinner : (Node.mk .emptyExpression ⟨start + 1, stop⟩ []).legible := rfl
    exact yields_node start rfl (by simpa using hinner)
  · refine .bind (yields_within _ (yields_goal_legible _)) fun inner hinner => .skip fun _ => ?_
    exact yields_node start rfl (by simpa using hinner)

/-- What can be the value of an attribute. -/
structure AttributeValue (value : Node) : Prop where
  legible : value.legible
  isAttributeValue : value.kind.isAttributeValue
  isQuotable : ∀ name, Kind.markupAttribute.isQuotable [name, value]

/-- Only for a string it matters how the value is quoted. -/
theorem AttributeValue.of_not_isString {value : Node} (hlegible : value.legible)
    (hvalue : value.kind.isAttributeValue) (hstring : ¬ value.kind.isString) :
    AttributeValue value where
  legible := hlegible
  isAttributeValue := hvalue
  isQuotable := by
    obtain ⟨kind, span, parts⟩ := value
    cases kind with
    | string text lone => exact absurd rfl hstring
    | _ => exact fun _ => rfl

/-- A missing value is one. -/
theorem AttributeValue.none : AttributeValue .none :=
  .of_not_isString rfl rfl Bool.false_ne_true

/-- At a token that can be quoted, the value can be. -/
theorem yieldsAt_attributeValue : YieldsAt Lexeme.IsQuotable attributeValue AttributeValue := by
  refine .startOffset fun start => .lexeme fun l hquotable => ?_
  split
  · rename_i value raw lone
    intro env henv s hlexeme node s' hrun
    obtain ⟨span, rfl⟩ := yieldsAt_literal env henv s hlexeme node s' hrun
    exact ⟨rfl, rfl, fun _ => hquotable value raw lone rfl⟩
  · refine Yields.at ?_ _
    refine .skip fun _ => .bind (yields_containerRest false start)
      fun value ⟨hlegible, hkind⟩ => .skip fun _ => ?_
    exact .pure (.of_not_isString hlegible (by rw [hkind]; rfl)
      (by rw [hkind]; exact Bool.false_ne_true))
  · refine Yields.at ((yields_goal .markup).mono fun value ⟨hlegible, hkind⟩ => ?_) _
    rcases hkind with hkind | hkind <;>
      exact .of_not_isString hlegible (by rw [hkind]; rfl) (by rw [hkind]; exact Bool.false_ne_true)
  · exact yields_unexpected.at _

/-- An attribute has a name and a value that can be one. -/
theorem fits_markupAttribute {name value : Node} (hname : name.kind.isAttributeName)
    (hvalue : AttributeValue value) : Kind.markupAttribute.fits [name, value] := by
  simp [Kind.fits, Kind.admits, hname, hvalue.isAttributeValue, hvalue.isQuotable name]

/-- A token that is read where the value of an attribute is expected. -/
theorem Yields.skipToken {f : Unit → Parser Node} {good : Node → Prop}
    (h : YieldsAt Lexeme.IsQuotable (f ()) good) : Yields (skipToken true >>= f) good :=
  fun env henv _ node s' hrun => h env henv _ (Lexer.isQuotable_next _) node s' hrun

/-- What can stand behind the name in a tag. -/
structure TagAttribute (node : Node) : Prop where
  legible : node.legible
  isTagAttribute : node.kind.isTagAttribute

/-- A spread attribute has one expression. -/
theorem yields_spreadAttribute (start : Nat) : Yields (spreadAttribute start) TagAttribute := by
  refine .skip fun _ => .bind (yields_within _ (yields_goal_legible _)) fun inner hinner => ?_
  refine .skip fun _ => (yields_node start rfl (by simpa using hinner)).mono fun node h => ?_
  exact ⟨h.1, by rw [h.2]; rfl⟩

/-- The name of an attribute is a word, or has a namespace. -/
theorem yields_attributeName (start : Nat) : Yields (attributeName start) fun name =>
    name.legible ∧ name.kind.isAttributeName := by
  refine .bind yields_markupWord fun first hfirst => .skip fun isNamespaced => .ite ?_ ?_
  · refine (yields_namespacedName start hfirst.1 hfirst.2).mono fun name h => ⟨h.1, ?_⟩
    rw [h.2]
    rfl
  · refine .pure ⟨hfirst.1, ?_⟩
    unfold Kind.isAttributeName
    split
    · rfl
    · exact hfirst.2

/-- The value of an attribute may be missing. -/
theorem yields_attributeRest : Yields attributeRest AttributeValue :=
  .skip fun _ => .ite (.skipToken yieldsAt_attributeValue) (.pure .none)

/-- An attribute with a name may have a value. -/
theorem yields_namedAttribute (start : Nat) : Yields (namedAttribute start) TagAttribute := by
  refine .bind (yields_attributeName start) fun name ⟨hlegible, hname⟩ => ?_
  refine .bind yields_attributeRest fun value hvalue => ?_
  have hparts : ∀ part ∈ [name, value], part.legible := by simp [hlegible, hvalue.legible]
  refine (yields_node start (fits_markupAttribute hname hvalue) hparts).mono fun node h => ?_
  exact ⟨h.1, by rw [h.2]; rfl⟩

/-- What stands in a tag has a name, or is spread. -/
theorem yields_markupAttribute : Yields markupAttribute TagAttribute :=
  .skip fun start => .skip fun _ => .ite (yields_spreadAttribute start)
    (yields_namedAttribute start)

/-! ## Elements and fragments -/

/-- An opening tag has a name, type arguments and a list of attributes. -/
theorem fits_openingTag {name arguments : Node} {attributes : List Node}
    (h : ∀ node ∈ attributes, TagAttribute node) :
    Kind.openingTag.fits [name, arguments, .list attributes] := by
  have hall : attributes.all (·.kind.isTagAttribute) :=
    List.all_eq_true.2 fun node hnode => (h node hnode).isTagAttribute
  exact Bool.and_eq_true_iff.2 ⟨hall, rfl⟩

/-- Whether a tag closes itself makes no difference to its parts. -/
theorem yields_openingTag (inChild : Bool) (start : Nat) :
    Yields (openingTag inChild start) (·.1.legible) := by
  refine .bind yields_elementName fun name hname => ?_
  refine .bind yields_typeArguments? fun arguments harguments => ?_
  refine .bind (yields_many _ yields_markupAttribute) fun attributes hattributes => ?_
  refine .skip fun _ => .skip fun _ => ?_
  have hparts : ∀ node ∈ [name, arguments, Node.list attributes], node.legible := by
    simpa [hname, harguments] using fun node hnode => (hattributes node hnode).legible
  exact .bind (yields_piece start (fits_openingTag hattributes) hparts) fun _ h => .pure h

/-- The closing tag of a fragment has no name. -/
theorem yields_closingTag (inChild : Bool) : Yields (closingTag inChild) (·.legible) := by
  refine .skip fun start => .skip fun _ => .skip fun _ => .skip fun isFragment => ?_
  refine .choose yields_none yields_elementName fun name hname => .skip fun _ => ?_
  exact yields_piece start rfl (by simpa using hname)

/-- A child in braces is an expression or a spread. -/
theorem yields_braceChild (start : Nat) : Yields (braceChild start) (·.legible) := by
  refine .skip fun _ => .skip fun isSpread => .ite ?_ ?_
  · refine .bind (yields_within _ (yields_goal_legible _)) fun inner hinner => .skip fun _ => ?_
    exact yields_piece start rfl (by simpa using hinner)
  · exact (yields_containerRest true start).mono fun _ h => h.1

/-- A text has no parts. -/
theorem yields_textChild (start : Nat) (raw : String) :
    Yields (textChild start raw) (·.legible) :=
  .skip fun _ => .skip fun _ => yields_piece start rfl (by simp)

/-- A child is legible if nested tags are. -/
theorem yields_child? {nested : Nat → Parser Node}
    (h : ∀ start, Yields (nested start) (·.legible)) :
    Yields (child? nested) fun child? => ∀ child ∈ child?, child.legible := by
  have hsome : ∀ child : Node, child.legible → Yields (return some child)
      fun child? : Option Node => ∀ child ∈ child?, child.legible :=
    fun child hchild => .pure (by simpa using hchild)
  refine .skip fun start => .skip fun l => ?_
  split
  · exact .skip fun _ => .ite (.pure (by simp)) (.skip fun _ => .bind (h start) hsome)
  · exact .bind (yields_braceChild start) hsome
  · exact .bind (yields_textChild start _) hsome
  · exact yields_unexpected

/-- So are all children, however many there are. -/
theorem yields_childrenFrom {nested : Nat → Parser Node} (fuel : Nat) {found : List Node}
    (h : ∀ start, Yields (nested start) (·.legible)) (hfound : ∀ node ∈ found, node.legible) :
    Yields (childrenFrom nested fuel found) fun nodes => ∀ node ∈ nodes, node.legible := by
  induction fuel generalizing found with
  | zero => exact .pure (by simpa using hfound)
  | succ fuel ih =>
      refine .bind (yields_child? h) fun child? hchild => ?_
      split
      · exact ih (List.forall_mem_cons.2 ⟨hchild _ rfl, hfound⟩)
      · exact .pure (by simpa using hfound)

/-- What stands between two tags is legible. -/
theorem yields_children {nested : Nat → Parser Node}
    (h : ∀ start, Yields (nested start) (·.legible)) :
    Yields (children nested) fun nodes => ∀ node ∈ nodes, node.legible :=
  .skip fun _ => yields_childrenFrom _ h (by simp)

section Tags

variable {inner : Parser (List Node)} (inChild : Bool) (start : Nat)
  (h : Yields inner fun nodes => ∀ node ∈ nodes, node.legible)

include h

/-- A fragment has children. -/
theorem yields_fragmentFrom : Yields (fragmentFrom inner inChild start) Goal.markup.IsMet := by
  refine .skip fun _ => .bind h fun found hfound => .skip fun closing => .skip fun _ => ?_
  exact (yields_node start rfl hfound).mono fun _ h => ⟨h.1, .inr h.2⟩

/-- An element has an opening tag, children and a closing tag, which is missing where the opening
one closes itself. -/
theorem yields_elementFrom : Yields (elementFrom inner inChild start) Goal.markup.IsMet := by
  refine .bind (yields_openingTag inChild start) fun ⟨tag, closes⟩ htag => ?_
  have helement : ∀ found closing, (∀ node ∈ found, node.legible) → closing.legible →
      Yields (node .element start [tag, .list found, closing]) Goal.markup.IsMet := by
    intro found closing hfound hclosing
    refine (yields_node start rfl ?_).mono fun _ h => ⟨h.1, .inl h.2⟩
    simpa [hclosing] using And.intro htag hfound
  refine .ite (helement [] .none (by simp) rfl) ?_
  refine .bind h fun found hfound => ?_
  refine .bind (yields_closingTag inChild) fun closing hclosing => .skip fun _ => ?_
  exact helement found closing hfound hclosing

end Tags

/-- Markup is an element or a fragment, to any depth. -/
theorem yields_markupFrom (fuel : Nat) (inChild : Bool) (start : Nat) :
    Yields (markupFrom fuel inChild start) Goal.markup.IsMet := by
  induction fuel generalizing inChild start with
  | zero => exact yields_unexpected
  | succ fuel ih =>
      have hchildren : Yields (children (markupFrom fuel true)) fun nodes =>
          ∀ node ∈ nodes, node.legible :=
        yields_children fun start => (ih true start).mono fun _ h => h.1
      refine .skip fun _ => .ite (yields_fragmentFrom inChild start hchildren) ?_
      exact .skip fun _ => .ite (yields_elementFrom inChild start hchildren) yields_unexpected

/-- No markup is nested deeper than there are tokens. -/
theorem yields_markupRule : Yields markupRule Goal.markup.IsMet :=
  .skip fun start => .skip fun _ => .skip fun _ => yields_markupFrom _ false start

/-- A token that can be a name is a word. -/
theorem exists_word_of_isAnyWord {l : Lexeme} (h : isAnyWord l) : ∃ name, l = .word name := by
  unfold isAnyWord at h
  split at h
  · exact ⟨_, rfl⟩
  · cases h

variable {source : List Char} {acc : List Landmark}

/-! ## The places of names in tags -/

/-- A word in a tag takes up text. If it does not, then a word stands behind it. -/
theorem passes_markupWord {env : ParserEnv} (henv : env.Sound) {s s' : ParserState} {node : Node}
    (hs : s.Placed source) (hrun : markupWord env s = .ok node s') :
    s.Passes source s' node.landmarksInTag ∧ (node.isEmptyWord → isAnyWord s'.token.lexeme) := by
  obtain ⟨l, _, hlexeme, hrest⟩ := exists_of_bind_eq_ok hrun
  cases hlexeme
  split at hrest
  · obtain ⟨_, _, hnever, -⟩ := exists_of_bind_eq_ok hrest
    have hfalse : Yields (unexpected : Parser Unit) fun _ => False := yields_unexpected
    exact (hfalse env henv _ _ _ hnever).elim
  · rename_i hword
    obtain ⟨name, hname⟩ := exists_word_of_isAnyWord (by simpa using hword)
    obtain ⟨c, hc, hopens⟩ := hs.lexeme.opens name hname
    obtain ⟨_, _, hget, hrest⟩ := exists_of_bind_eq_ok hrest
    cases hget
    obtain ⟨_, _, hmodify, hrest⟩ := exists_of_bind_eq_ok hrest
    cases hmodify
    -- What has been read again is a word, whatever the text says.
    obtain ⟨_, _, hlexeme, hrest⟩ := exists_of_bind_eq_ok hrest
    cases hlexeme
    have hread : (do
        let start ← startOffset
        skipToken false
        Parser.node (.word (s.start.stringTo (Lexer.markupName s.start).stop)) start []) env _ =
          .ok node s' := hrest
    obtain ⟨_, _, hstart, hread⟩ := exists_of_bind_eq_ok hread
    cases hstart
    obtain ⟨_, s₁, hskip, hnode⟩ := exists_of_bind_eq_ok hread
    cases hnode
    have hstop : s.start.LeadsTo (Lexer.markupName s.start).stop := Cursor.LeadsTo.dropWhile _ _
    obtain ⟨hplaced, hleads, hproblems⟩ :=
      placed_skipToken hskip hs.size_eq (hs.leads.trans hstop)
    have hoffset : (Lexer.markupName s.start).stop.offset ≤ s'.start.offset := hleads.offset_le
    rcases Lexer.markupName_cases hc hopens with hpasses | ⟨rfl, hempty⟩
    · have huse : InOrder source s.start.offset s'.start.offset [.use s.start.offset] :=
        ⟨Nat.le_refl _, Nat.le_trans hpasses hoffset⟩
      have hpassed : s.Passes source s' [.use s.start.offset] :=
        ⟨hplaced, fun hnone => ⟨hproblems ▸ hnone, huse⟩⟩
      have hfull : (Node.mk (.word (s.start.stringTo (Lexer.markupName s.start).stop))
          ⟨s.start.offset, s'.prevEnd⟩ []).isEmptyWord = false := by
        have hbytes := hstop.offset_eq
        refine Bool.eq_false_iff.2 fun hnone => ?_
        have hnil : s.start.textTo (Lexer.markupName s.start).stop = [] := by
          simpa [Node.isEmptyWord, Cursor.stringTo] using hnone
        rw [hnil] at hbytes
        exact absurd hpasses (Nat.not_lt.2 (Nat.le_of_eq hbytes))
      refine ⟨hpassed.sublist ?_, fun hnone => absurd hnone (by simp [hfull])⟩
      unfold Node.landmarksInTag
      rw [hfull]
      exact List.Sublist.refl _
    · have hpassed : s.Passes source s' [] :=
        ⟨hplaced, fun hnone => ⟨hproblems ▸ hnone, Nat.le_trans hstop.offset_le hoffset⟩⟩
      have hnone : (Node.mk (.word (s.start.stringTo (Lexer.markupName s.start).stop))
          ⟨s.start.offset, s'.prevEnd⟩ []).isEmptyWord = true := by
        have htext : (Lexer.markupName s.start).lexeme =
            .word (s.start.stringTo (Lexer.markupName s.start).stop) := rfl
        rw [hempty] at htext ⊢
        rw [← Lexeme.word.inj htext]
        rfl
      refine ⟨?_, fun _ => ?_⟩
      · rw [Node.landmarksInTag, if_pos hnone]
        exact hpassed.sublist (by simp [Kind.landmarks])
      · obtain ⟨fuel, hfuel, htoken⟩ : ∃ fuel ≠ 0, s'.token =
            (Lexer.next fuel false (Lexer.markupName s.start).stop s.log).token := by
          cases hskip
          exact ⟨_, Nat.succ_ne_zero _, rfl⟩
        rw [hempty] at htoken
        obtain ⟨word, hword⟩ := Lexer.next_backslash false s.log hfuel hc
        rw [htoken]
        show isAnyWord (Lexer.next fuel false s.start s.log).token.lexeme
        rw [hword]
        rfl

/-- A word in a tag is used where it stands, unless it is empty. -/
theorem follows_markupWord : Follows source [] markupWord Node.landmarksInTag := by
  intro env henv s₀ s hs _ node s' hrun
  exact hs.trans (passes_markupWord henv.sound hs.placed hrun).1

/-- A name that is used has no more landmarks than the word counted as a use. -/
theorem landmarks_asUse (name : Node) : (asUse name).landmarks.Sublist name.landmarksAsUse := by
  unfold asUse
  split
  · simp [Kind.landmarks]
  · simp [Node.landmarksAsUse, Kind.landmarks]
  · exact name.landmarks_sublist_asUse

/-- No symbol stands where a word does. -/
theorem atSymbol_of_isAnyWord {text : String} {env : ParserEnv} {s : ParserState}
    (h : isAnyWord s.token.lexeme) : atSymbol text env s = .ok false s := by
  obtain ⟨name, hname⟩ := exists_word_of_isAnyWord h
  show EStateM.Result.ok (s.token.lexeme.isSymbol text) s = .ok false s
  rw [hname]
  rfl

/-- So none is passed there. -/
theorem eatSymbol_of_isAnyWord {text : String} {env : ParserEnv} {s : ParserState}
    (h : isAnyWord s.token.lexeme) : eatSymbol text env s = .ok false s := by
  obtain ⟨name, hname⟩ := exists_word_of_isAnyWord h
  have hsymbol : s.token.lexeme.isSymbol text = false := by rw [hname]; rfl
  show (if s.token.lexeme.isSymbol text then _ else pure false : Parser Bool) env s = _
  rw [hsymbol]
  rfl

/-- The namespace of a name is passed before it. -/
theorem follows_namespacedName (start : Nat) (first : Node) :
    Follows source first.landmarks (namespacedName start first) Node.landmarks := by
  refine .step follows_markupWord fun second => follows_node start rfl ?_
  simpa using second.landmarks_sublist_inTag.append_left first.landmarks

/-- Members of a dotted name add no landmark that is needed. -/
theorem follows_memberNames (start fuel : Nat) (object : Node) :
    Follows source object.landmarks (memberNames start fuel object) Node.landmarks := by
  induction fuel generalizing object with
  | zero => exact .pure (List.Sublist.refl _)
  | succ fuel ih =>
      refine .skip fun _ => .ite ?_ (.pure (List.Sublist.refl _))
      refine .step follows_markupWord fun property => ?_
      refine .piece start [] rfl ?_ fun name => ih name
      simpa using property.landmarks_sublist_inTag

protected instance Quiet.refuseHyphen (start : Nat) (name : Node) :
    Quiet (refuseHyphen start name) := by
  unfold Parser.refuseHyphen
  split <;> infer_instance

/-- The first part of a dotted name is used. -/
theorem follows_dottedElement (start : Nat) (first : Node) :
    Follows source first.landmarksAsUse (dottedElement start first) Node.landmarks :=
  .skip fun _ => .skip fun _ => .drop (landmarks_asUse first) (follows_memberNames start _ _)

/-- A name without dots may be used. -/
theorem landmarks_plainElement (name : Node) :
    (plainElement name).landmarks.Sublist name.landmarksAsUse := by
  unfold plainElement
  split
  · split
    · exact landmarks_asUse name
    · exact name.landmarks_sublist_asUse
  · exact name.landmarks_sublist_asUse

/-- The empty word names no component, so that it is not used. -/
theorem landmarks_plainElement_of_isEmptyWord {name : Node} (h : name.isEmptyWord) :
    (plainElement name).landmarks = name.landmarks := by
  obtain ⟨kind, span, parts⟩ := name
  cases kind with
  | word text =>
      obtain rfl : text = "" := by simpa [Node.isEmptyWord] using h
      rfl
  | _ => cases h

/-- The first word in a tag is used if it is the name of a component. -/
theorem follows_elementName : Follows source [] elementName Node.landmarks := by
  refine .skip fun start => .stepAt follows_markupWord
    (fun env henv s node s' hs hrun => (passes_markupWord henv hs hrun).2) fun first => ?_
  by_cases hempty : first.isEmptyWord
  · -- The empty word is followed by another one, and so it is all of the name.
    refine .known false (fun env s htest => eatSymbol_of_isAnyWord (htest hempty)) ?_
    refine .known false (fun env s htest => atSymbol_of_isAnyWord (htest hempty)) ?_
    refine .of_follows (.pure ?_)
    rw [landmarks_plainElement_of_isEmptyWord hempty]
    exact first.landmarks_sublist_inTag
  · have hmarks : first.landmarksInTag = first.landmarksAsUse := if_neg hempty
    rw [hmarks]
    refine .of_follows (.skip fun isNamespaced => .ite ?_ (.skip fun isDotted => .ite ?_ ?_))
    · exact .drop first.landmarks_sublist_asUse (follows_namespacedName start first)
    · exact follows_dottedElement start first
    · exact .pure (landmarks_plainElement first)

/-! ## The places of attributes -/

/-- A child is read right behind the current token. -/
theorem passes_child {env : ParserEnv} {s s' : ParserState} {u : Unit} (hs : s.Placed source)
    (hrun : accept (Lexer.adjacent s.stop (Lexer.markupChild s.stop) s.log) s.token.span.stop
      env s = .ok u s') : s.Passes source s' [] := by
  cases hrun
  refine ⟨⟨hs.size_eq, hs.leads.trans hs.lexeme.leads, Lexer.fits_markupChild s.stop, rfl⟩, ?_⟩
  exact fun hnone => ⟨hnone, hs.lexeme.leads.offset_le⟩

/-- Going on to a child passes nothing. -/
theorem Follows.child {β : Type} {f : Unit → Parser β} {all : β → List Landmark}
    (hf : ∀ u, Follows source acc (f u) all) : Follows source acc (do
      let s ← get
      let u ← accept (Lexer.adjacent s.stop (Lexer.markupChild s.stop) s.log) s.token.span.stop
      f u) all := by
  intro env henv s₀ s hs _ b s' hrun
  obtain ⟨_, _, hget, hrest⟩ := exists_of_bind_eq_ok hrun
  cases hget
  obtain ⟨u, s₁, haccept, hrest⟩ := exists_of_bind_eq_ok hrest
  have hpassed := hs.trans (passes_child hs.placed haccept)
  rw [List.append_nil] at hpassed
  exact hf u env henv s₀ s₁ hpassed trivial b s' hrest

namespace Quiet

protected instance expectBeforeChild (symbol : String) : Quiet (expectBeforeChild symbol) := by
  have hchild : Quiet (do
      let s ← get
      accept (Lexer.adjacent s.stop (Lexer.markupChild s.stop) s.log) s.token.span.stop) :=
    ⟨fun _ hs hrun => passes_child hs hrun⟩
  refine .skip fun _ => ?_
  infer_instance

protected instance expectMarkup (inChild : Bool) (symbol : String) :
    Quiet (expectMarkup inChild symbol) := by
  unfold Parser.expectMarkup
  infer_instance

protected instance checkContainer (value : Node) (start : Nat) :
    Quiet (checkContainer value start) := by
  unfold Parser.checkContainer
  split <;> infer_instance

protected instance atAttribute : Quiet atAttribute := by
  refine .skip fun l => ?_
  split <;> infer_instance

end Quiet

/-- What stands in braces is passed there. -/
theorem follows_containerRest (inChild : Bool) (start : Nat) :
    Follows source [] (containerRest inChild start) Node.landmarks := by
  refine .skip fun _ => .ite (.skip fun stop => .skip fun _ => ?_) ?_
  · exact follows_node start rfl (by simp [Kind.landmarks])
  · refine .step (follows_within _ (follows_goal _)) fun inner => .skip fun _ => ?_
    exact follows_node start rfl (by simp)

/-- The value of an attribute is passed as the expression it is. -/
theorem follows_attributeValue : Follows source [] attributeValue Node.landmarks := by
  refine .skip fun start => .skip fun l => ?_
  split
  · exact follows_literal
  · refine .skip fun _ => .step (follows_containerRest false start) fun value => ?_
    exact .skip fun _ => .pure (List.Sublist.refl _)
  · exact follows_goal _
  · exact follows_unexpected

/-- The name of an attribute is no use of a name. -/
theorem follows_markupName : Follows source [] markupWord Node.landmarks :=
  follows_markupWord.mono Node.landmarks_sublist_inTag

/-- What is spread is passed where it stands. -/
theorem follows_spreadAttribute (start : Nat) :
    Follows source [] (spreadAttribute start) Node.landmarks := by
  refine .skip fun _ => .step (follows_within _ (follows_goal _)) fun inner => ?_
  exact .skip fun _ => follows_node start rfl (by simp)

/-- A namespace is passed before the name of an attribute. -/
theorem follows_attributeName (start : Nat) :
    Follows source [] (attributeName start) Node.landmarks := by
  refine .step follows_markupName fun first => .skip fun isNamespaced => ?_
  exact .ite (follows_namespacedName start first) (.pure (List.Sublist.refl _))

/-- A missing value has no landmarks. -/
theorem follows_attributeRest : Follows source [] attributeRest Node.landmarks :=
  .skip fun _ => .ite (.skip fun _ => follows_attributeValue) follows_none

/-- The name of an attribute is passed before its value. -/
theorem follows_namedAttribute (start : Nat) :
    Follows source [] (namedAttribute start) Node.landmarks := by
  refine .step (follows_attributeName start) fun name => ?_
  exact .step follows_attributeRest fun value => follows_node start rfl (by simp)

/-- Attributes of either kind are passed where they stand. -/
theorem follows_markupAttribute : Follows source [] markupAttribute Node.landmarks :=
  .skip fun start => .skip fun _ => .ite (follows_spreadAttribute start)
    (follows_namedAttribute start)

/-! ## The places of elements and fragments -/

/-- The name of a tag is passed before its type arguments and its attributes. -/
theorem follows_openingTag (inChild : Bool) (start : Nat) :
    Follows source [] (openingTag inChild start) (·.1.landmarks) := by
  refine .step follows_elementName fun name => .step follows_typeArguments? fun arguments => ?_
  refine .step (follows_many _ follows_markupAttribute) fun attributes => ?_
  refine .skip fun _ => .skip fun _ => ?_
  exact .piece start [] rfl (by simp) fun tag => .pure (List.Sublist.refl _)

/-- A closing tag uses its name again. -/
theorem follows_closingTag (inChild : Bool) :
    Follows source [] (closingTag inChild) Node.landmarks := by
  refine .skip fun start => .skip fun _ => .skip fun _ => .skip fun isFragment => ?_
  refine .choose follows_none follows_elementName fun name => .skip fun _ => ?_
  exact follows_node start rfl (by simp)

/-- A child in braces is passed where it stands. -/
theorem follows_braceChild (start : Nat) : Follows source [] (braceChild start) Node.landmarks := by
  refine .skip fun _ => .skip fun isSpread => .ite ?_ (follows_containerRest true start)
  refine .step (follows_within _ (follows_goal _)) fun inner => .skip fun _ => ?_
  exact follows_node start rfl (by simp)

/-- A text has no landmarks. -/
theorem follows_textChild (start : Nat) (raw : String) :
    Follows source [] (textChild start raw) Node.landmarks :=
  .child fun _ => follows_node start rfl (by simp)

/-- A child is passed if nested tags are. -/
theorem follows_child? {nested : Nat → Parser Node}
    (h : ∀ start, Follows source [] (nested start) Node.landmarks) :
    Follows source [] (child? nested) fun child? => child?.elim [] Node.landmarks := by
  have hsome : ∀ child : Node, Follows source ([] ++ child.landmarks) (return some child)
      fun child? : Option Node => child?.elim [] Node.landmarks :=
    fun child => .pure (List.Sublist.refl _)
  refine .skip fun start => .skip fun l => ?_
  split
  · refine .skip fun _ => .ite (.pure (List.Sublist.refl _)) ?_
    exact .skip fun _ => .step (h start) hsome
  · exact .step (follows_braceChild start) hsome
  · exact .step (follows_textChild start _) hsome
  · exact follows_unexpected

/-- Children are passed one behind the other. -/
theorem follows_childrenFrom {nested : Nat → Parser Node} (fuel : Nat) (found : List Node)
    (h : ∀ start, Follows source [] (nested start) Node.landmarks) :
    Follows source (found.reverse.flatMap Node.landmarks) (childrenFrom nested fuel found)
      (·.flatMap Node.landmarks) := by
  induction fuel generalizing found with
  | zero => exact .pure (List.Sublist.refl _)
  | succ fuel ih =>
      refine .step (follows_child? h) fun child? => ?_
      split
      · exact .drop (by simp) (ih _)
      · exact .pure (by simp)

/-- What stands between two tags is passed between them. -/
theorem follows_children {nested : Nat → Parser Node}
    (h : ∀ start, Follows source [] (nested start) Node.landmarks) :
    Follows source [] (children nested) (·.flatMap Node.landmarks) :=
  .skip fun _ => follows_childrenFrom _ [] h

section Tags

variable {inner : Parser (List Node)} (inChild : Bool) (start : Nat)
  (h : Follows source [] inner (·.flatMap Node.landmarks))

include h

protected instance Quiet.checkFragmentEnd (closing : Node) : Quiet (checkFragmentEnd closing) := by
  unfold Parser.checkFragmentEnd
  split <;> infer_instance

protected instance Quiet.checkElementEnd (tag closing : Node) :
    Quiet (checkElementEnd tag closing) := by
  unfold Parser.checkElementEnd
  split <;> infer_instance

/-- The tags of a fragment have no landmarks that are needed. -/
theorem follows_fragmentFrom :
    Follows source [] (fragmentFrom inner inChild start) Node.landmarks := by
  refine .skip fun _ => .step h fun found => ?_
  refine .step (follows_closingTag inChild) fun closing => .skip fun _ => ?_
  exact follows_node start rfl (by simp)

/-- The children of an element are passed between its tags. -/
theorem follows_elementFrom :
    Follows source [] (elementFrom inner inChild start) Node.landmarks := by
  refine .step (follows_openingTag inChild start) fun ⟨tag, closes⟩ => ?_
  refine .ite (follows_node start rfl (by simp)) (.step h fun found => ?_)
  refine .step (follows_closingTag inChild) fun closing => .skip fun _ => ?_
  exact follows_node start rfl (by simp)

end Tags

/-- Nested markup is passed in the order of its tags, to any depth. -/
theorem follows_markupFrom (fuel : Nat) (inChild : Bool) (start : Nat) :
    Follows source [] (markupFrom fuel inChild start) Node.landmarks := by
  induction fuel generalizing inChild start with
  | zero => exact follows_unexpected
  | succ fuel ih =>
      have hchildren : Follows source [] (children (markupFrom fuel true))
          (·.flatMap Node.landmarks) := follows_children fun start => ih true start
      refine .skip fun _ => .ite (follows_fragmentFrom inChild start hchildren) ?_
      exact .skip fun _ => .ite (follows_elementFrom inChild start hchildren) follows_unexpected

/-- Markup that is a value is passed from its first bracket on. -/
theorem follows_markupRule : Follows source [] markupRule Node.landmarks :=
  .skip fun start => .skip fun _ => .skip fun _ => follows_markupFrom _ false start

end Parser

end JsxTidy
