import JsxTidy.Parser.Modifier
import JsxTidy.Parser.Name
import JsxTidy.Proofs.Parser.Tracks

/-!
# Reading names and literals

Names and literals are pieces of syntax without parts. What is read as a template consists of
stretches of text and of what stands in its holes. A name takes up text, so that what is passed
behind it lies further on.
-/

namespace JsxTidy

open Syntax

/-- A symbol is some text. -/
theorem Lexeme.exists_symbol_of_isSymbol {l : Lexeme} {text : String} (h : l.isSymbol text) :
    ∃ text, l = .symbol text := by
  unfold Lexeme.isSymbol at h
  split at h
  · exact ⟨_, rfl⟩
  · cases h

/-- What may be a name is a word. -/
theorem Parser.isAnyWord_of_mayName {around : Surroundings} {l : Lexeme}
    (h : mayName around l) : isAnyWord l := by
  unfold mayName at h
  split at h
  · rfl
  · cases h

/-- The landmarks of a piece of syntax where it counts as the use of a name if it is a word. -/
def Syntax.Node.landmarksAsUse : Node → List Landmark
  | .mk (.word _) span parts => parts.flatMap landmarks ++ [.use span.start]
  | node => node.landmarks

/-- Counted as a use, a piece of syntax has no fewer landmarks. -/
theorem Syntax.Node.landmarks_sublist_asUse (node : Node) :
    node.landmarks.Sublist node.landmarksAsUse := by
  unfold landmarksAsUse
  split
  · rw [landmarks_mk]
    exact List.sublist_append_left _ _
  · exact List.Sublist.refl _

namespace Parser

/-- A piece of syntax without parts. -/
theorem yields_leaf {kind : Kind} (start : Nat) (hfits : kind.fits []) :
    Yields (node kind start []) fun node => node.legible ∧ node.kind = kind :=
  yields_node start hfits (by simp)

/-! ## Names -/

/-- A word is read as a piece of syntax with its text and without parts. -/
theorem yields_anyWord {kind : String → Kind} (hfits : ∀ name, (kind name).fits []) :
    Yields (anyWord kind) fun node => node.legible ∧ ∃ name, node.kind = kind name := by
  refine .skip fun l => ?_
  split
  · refine .skip fun start => .skip fun _ => ?_
    exact (yields_leaf start (hfits _)).mono fun node h => ⟨h.1, _, h.2⟩
  · exact yields_unexpected

/-- So is one whose place says nothing about it. -/
theorem yields_wordName : Yields wordName fun node => node.legible ∧ node.kind.isWord := by
  refine (yields_anyWord fun _ => rfl).mono ?_
  rintro node ⟨hlegible, name, hkind⟩
  exact ⟨hlegible, by rw [hkind]; rfl⟩

/-- A reference is a word that may be used. -/
theorem yields_reference : Yields reference (·.legible) := by
  have hname : Yields (anyWord .reference) (·.legible) :=
    (yields_anyWord fun _ => rfl).mono fun _ h => h.1
  refine .skip fun l => ?_
  split
  · exact .check (.skip fun _ => hname)
  · exact yields_unexpected

/-- A name that is declared is a word that may be declared. -/
theorem yields_bindingName : Yields bindingName fun node => node.legible ∧ node.kind.isBinding := by
  have hname : Yields (anyWord .binding) fun node => node.legible ∧ node.kind.isBinding := by
    refine (yields_anyWord fun _ => rfl).mono ?_
    rintro node ⟨hlegible, name, hkind⟩
    exact ⟨hlegible, by rw [hkind]; rfl⟩
  refine .skip fun l => ?_
  split
  · exact .ite (.skip fun _ => .fail) (.skip fun _ => hname)
  · exact yields_unexpected

/-- A private name has a kind of its own. -/
theorem yields_privateName : Yields privateName (·.legible) := by
  refine .skip fun l => ?_
  split
  · exact .skip fun start => .skip fun _ => (yields_leaf start rfl).mono fun _ h => h.1
  · exact yields_unexpected

/-! ## Literals -/

/-- A literal has no parts. -/
theorem fits_literal {l : Lexeme} {kind : Kind} (h : literalKind? l = some kind) :
    kind.fits [] := by
  unfold literalKind? at h
  split at h <;> cases h <;> rfl

/-- A literal has no parts. -/
theorem yields_literal : Yields literal (·.legible) := by
  refine .skip fun l => ?_
  split
  · rename_i kind hkind
    refine .skip fun start => .skip fun _ => ?_
    exact (yields_leaf start (fits_literal hkind)).mono fun _ h => h.1
  · exact yields_unexpected

/-- At a string a literal is this string. -/
theorem yieldsAt_literal {value raw : String} {lone : Bool} :
    YieldsAt (· = .string value raw lone) literal fun node =>
      ∃ span, node = .mk (.string value lone) span [] := by
  refine .lexeme fun l hl => ?_
  subst hl
  refine Yields.at ?_ _
  exact .skip fun start => .skip fun _ => .skip fun span => .pure ⟨span, rfl⟩

/-- Where a string has to stand, one is read. -/
theorem yields_stringLiteral :
    Yields stringLiteral fun node => node.legible ∧ node.kind.isString := by
  refine .lexeme fun l => ?_
  split
  · intro env henv s hlexeme node s' hrun
    obtain ⟨span, rfl⟩ := yieldsAt_literal env henv s hlexeme node s' hrun
    exact ⟨rfl, rfl⟩
  · exact yields_unexpected.at _

/-! ## Templates -/

/-- A piece of a template has no parts. -/
theorem yields_quasi (tagged : Bool) :
    Yields (quasi tagged) fun node => node.legible ∧ node.kind.isQuasi := by
  refine .skip fun t => ?_
  split
  · exact .check (.skip fun _ => .pure ⟨rfl, rfl⟩)
  · exact yields_unexpected

/-- The parts of a template. -/
structure TemplateParts (found : List Node × List Node) : Prop where
  quasis : ∀ quasi ∈ found.1, quasi.legible ∧ quasi.kind.isQuasi
  holes : ∀ hole ∈ found.2, hole.legible

/-- They are found the last one first. -/
theorem TemplateParts.reverse {quasis holes : List Node} (h : TemplateParts (quasis, holes)) :
    TemplateParts (quasis.reverse, holes.reverse) where
  quasis := by simpa using h.quasis
  holes := by simpa using h.holes

/-- A template consists of pieces of text and of what its holes hold. -/
theorem yields_templateParts {hole : Parser Node} (tagged : Bool) (h : Yields hole (·.legible)) :
    Yields (templateParts tagged hole) TemplateParts := by
  have hgo : ∀ fuel quasis holes, TemplateParts (quasis, holes) →
      Yields (templateParts.go tagged hole fuel quasis holes) TemplateParts := by
    intro fuel
    induction fuel with
    | zero => exact fun quasis holes hfound => .pure hfound.reverse
    | succ fuel ih =>
        intro quasis holes hfound
        refine .bind h fun hole hhole => .skip fun _ => .skip fun l => ?_
        split
        · refine .bind (yields_quasi tagged) fun quasi hquasi => ?_
          have hmore : TemplateParts (quasi :: quasis, hole :: holes) :=
            ⟨List.forall_mem_cons.2 ⟨hquasi, hfound.quasis⟩,
              List.forall_mem_cons.2 ⟨hhole, hfound.holes⟩⟩
          exact .ite (.pure hmore.reverse) (ih _ _ hmore)
        · exact yields_failExpected _
  refine .skip fun l => ?_
  split
  · refine .bind (yields_quasi tagged) fun quasi hquasi => ?_
    have hone : TemplateParts ([quasi], []) := ⟨by simpa using hquasi, by simp⟩
    exact .ite (.pure hone) (.skip fun _ => hgo _ _ _ hone)
  · exact yields_unexpected

variable {source : List Char}

/-! ## Tokens that are read again -/

namespace Quiet

protected instance rereadTemplate : Quiet rereadTemplate := by
  refine ⟨fun {source env s s' a} _ hs hrun => ?_⟩
  change (if s.token.lexeme.isSymbol "\x7d" then _ else _ : Parser Unit) env s = _ at hrun
  split at hrun
  · rename_i hsymbol
    obtain ⟨text, htext⟩ := Lexeme.exists_symbol_of_isSymbol hsymbol
    cases hrun
    refine passes_reread hs rfl rfl rfl ?_ rfl
    exact Lexer.fits_readQuasi (hs.lexeme.symbol text htext) (.next s.start)
  · cases hrun
    exact .refl hs

protected instance rereadClosingAngle : Quiet rereadClosingAngle := by
  refine ⟨fun {source env s s' a} _ hs hrun => ?_⟩
  change (if s.token.lexeme.isSymbol ">" then _ else _ : Parser Unit) env s = _ at hrun
  split at hrun
  · rename_i hsymbol
    obtain ⟨text, htext⟩ := Lexeme.exists_symbol_of_isSymbol hsymbol
    cases hrun
    refine passes_reread hs rfl rfl rfl ?_ rfl
    exact Lexer.fits_closingAngle (hs.lexeme.symbol text htext) s.token.escaped
  · cases hrun
    exact .refl hs

protected instance rereadOpeningAngle : Quiet rereadOpeningAngle := by
  refine ⟨fun {source env s s' a} _ hs hrun => ?_⟩
  change (if s.token.lexeme.isSymbol "<<" || s.token.lexeme.isSymbol "<=" ||
    s.token.lexeme.isSymbol "<<=" then _ else _ : Parser Unit) env s = _ at hrun
  split at hrun
  · rename_i hsymbol
    cases hrun
    obtain ⟨text, htext⟩ : ∃ text, s.token.lexeme = .symbol text := by
      simp only [Bool.or_eq_true] at hsymbol
      obtain (hsymbol | hsymbol) | hsymbol := hsymbol <;>
        exact Lexeme.exists_symbol_of_isSymbol hsymbol
    refine passes_reread hs rfl rfl rfl ?_ rfl
    exact .of_not_word (.next s.start) (hs.lexeme.symbol text htext) fun _ => Lexeme.noConfusion
  · cases hrun
    exact .refl hs

protected instance rereadRegExp : Quiet rereadRegExp := by
  refine ⟨fun {source env s s' a} _ hs hrun => ?_⟩
  cases hrun
  refine passes_reread hs rfl rfl rfl ?_ rfl
  exact Lexer.fits_regExp s.start s.token.escaped

end Quiet

/-! ## Names -/

/-- A word takes up text, so that what is passed behind it lies further on. -/
theorem follows_anyWord (kind : String → Kind) {marks : Node → List Landmark}
    (h : ∀ name span, (marks (.mk (kind name) span [])).Sublist [.use span.start]) :
    Follows source [] (anyWord kind) marks := by
  refine .lexeme fun l => ?_
  split
  · rename_i name
    intro env _ s₀ s hs hword node s' hrun
    obtain ⟨start, _, hstart, hrest⟩ := exists_of_bind_eq_ok hrun
    cases hstart
    obtain ⟨_, s₁, hskip, hnode⟩ := exists_of_bind_eq_ok hrest
    cases hnode
    have hpassed : InOrder source s.start.offset s.stop.offset [.use s.start.offset] :=
      ⟨Nat.le_refl _, hs.placed.lexeme.passes name hword⟩
    refine (hs.trans (passes_skipToken hs.placed hpassed hskip)).sublist ?_
    rw [← hs.placed.span_start]
    exact h name _
  · exact .of_follows follows_unexpected

/-- A word counts as a use, and it has no landmark beyond that. -/
theorem follows_wordAsUse :
    Follows source [] wordName fun name => name.landmarksAsUse ++ name.landmarks :=
  follows_anyWord _ fun _ _ => by simp [Node.landmarksAsUse, Kind.landmarks]

/-- A word that is no use has no landmarks. -/
theorem follows_wordName : Follows source [] wordName Node.landmarks :=
  follows_wordAsUse.mono fun _ => List.sublist_append_right _ _

theorem follows_anyReference : Follows source [] (anyWord .reference) Node.landmarks :=
  follows_anyWord _ fun _ _ => by simp [Kind.landmarks]

/-- A reference is a use where its word stands. -/
theorem follows_reference : Follows source [] reference Node.landmarks := by
  refine .skip fun l => ?_
  split
  · exact .check (.skip fun _ => follows_anyReference)
  · exact follows_unexpected

/-- A declaration is none. -/
theorem follows_bindingName : Follows source [] bindingName Node.landmarks := by
  refine .skip fun l => ?_
  split
  · refine .ite (.skip fun _ => .fail) (.skip fun _ => follows_anyWord _ fun _ _ => ?_)
    simp [Kind.landmarks]
  · exact follows_unexpected

theorem follows_privateName : Follows source [] privateName Node.landmarks := by
  refine .skip fun l => ?_
  split
  · exact .skip fun start => .skip fun _ => follows_node start rfl (by simp)
  · exact follows_unexpected

/-! ## Literals -/

/-- A literal is no word, so that it does not count as a use. -/
theorem follows_literalAsUse :
    Follows source [] literal fun name => name.landmarksAsUse ++ name.landmarks := by
  refine .skip fun l => ?_
  split
  · rename_i kind hkind
    refine .skip fun start => .skip fun _ => .skip fun span => .pure ?_
    unfold literalKind? at hkind
    split at hkind <;> cases hkind <;> simp [Node.landmarksAsUse, Kind.landmarks]
  · exact follows_unexpected

/-- A literal is none, either. -/
theorem follows_literal : Follows source [] literal Node.landmarks :=
  follows_literalAsUse.mono fun _ => List.sublist_append_right _ _

theorem follows_stringLiteral : Follows source [] stringLiteral Node.landmarks := by
  refine .skip fun l => ?_
  split
  · exact follows_literal
  · exact follows_unexpected

/-! ## Templates -/

/-- A stretch of text has no landmark, -/
theorem yields_landmarks_quasi (tagged : Bool) :
    Yields (quasi tagged) fun node => node.landmarks = [] := by
  refine .skip fun t => ?_
  split
  · exact .check (.skip fun _ => .pure (by simp [Kind.landmarks]))
  · exact yields_unexpected

theorem follows_quasi (tagged : Bool) : Follows source [] (quasi tagged) Node.landmarks := by
  refine .skip fun t => ?_
  split
  · exact .check (.skip fun _ => .pure (by simp [Kind.landmarks]))
  · exact follows_unexpected

/-- so that the landmarks of the holes stay in order. -/
theorem follows_templateParts {hole : Parser Node} (tagged : Bool)
    (h : Follows source [] hole Node.landmarks) :
    Follows source [] (templateParts tagged hole) fun found =>
      found.1.flatMap Node.landmarks ++ found.2.flatMap Node.landmarks := by
  have hgo : ∀ fuel quasis holes, quasis.flatMap Node.landmarks = [] →
      Follows source (holes.reverse.flatMap Node.landmarks)
        (templateParts.go tagged hole fuel quasis holes) fun found =>
          found.1.flatMap Node.landmarks ++ found.2.flatMap Node.landmarks := by
    intro fuel
    induction fuel with
    | zero =>
        intro quasis holes hquasis
        refine .pure ?_
        simp_all
    | succ fuel ih =>
        intro quasis holes hquasis
        refine .step h fun hole => .skip fun _ => .skip fun l => ?_
        split
        · refine .stepOf (yields_landmarks_quasi tagged) (follows_quasi tagged) ?_
          intro quasi hquasi
          have hmore : (quasi :: quasis).flatMap Node.landmarks = [] := by
            rw [List.flatMap_cons, hquasi, hquasis, List.append_nil]
          refine .drop ?_ (.ite (.pure ?_) (ih _ (hole :: holes) hmore))
          · simp [hquasi]
          · simp_all
        · exact follows_failExpected _
  refine .skip fun l => ?_
  split
  · refine .stepOf (yields_landmarks_quasi tagged) (follows_quasi tagged) fun quasi hquasi => ?_
    refine .ite (.pure (by simp)) (.skip fun _ => .drop ?_ (hgo _ [quasi] [] (by simp [hquasi])))
    simp
  · exact follows_unexpected

/-! ## Modifiers -/

namespace Quiet

protected instance attempt {α : Type} (p : Parser (Option α)) [hp : Quiet p] :
    Quiet (attempt? p) := by
  refine ⟨fun {source env s s' found} henv hs hrun => ?_⟩
  unfold attempt? at hrun
  split at hrun
  · rename_i heq
    cases hrun
    exact hp.passes henv hs heq
  · cases hrun
    exact .stay hs rfl rfl rfl rfl (List.suffix_refl _)
  · cases hrun
    exact .stay hs rfl rfl rfl rfl (List.suffix_refl _)

protected instance nextIsWordOnLine (name : String) : Quiet (nextIsWordOnLine name) :=
  Quiet.nextToken _

protected instance canFollowDefault : Quiet canFollowDefault := by
  refine .skip fun l => ?_
  split <;> infer_instance

protected instance passModifier : Quiet passModifier := by
  have hpassed : Quiet (do
      let first ← Parser.lexeme
      Parser.skipToken false
      let t ← Parser.token
      let fits ← match first with
        | .word "static" | .word "get" | .word "set" => pure (canFollowModifier t.lexeme)
        | .word "default" => Parser.canFollowDefault
        | .word "export" =>
          if t.lexeme.isWord "default" then
            Parser.lookahead do
              Parser.skipToken false
              Parser.canFollowDefault
          else if t.lexeme.isWord "type" then
            Parser.nextToken fun next => canFollowExport next.lexeme
          else pure (canFollowExport t.lexeme)
        | _ => pure (canFollowModifier t.lexeme && !t.onNewLine)
      return if fits then some () else none) := by
    refine .skip fun first => .skip fun _ => .skip fun t => ?_
    dsimp only
    split <;> infer_instance
  exact .skip fun _ => Quiet.pure _

protected instance passAccessorWord (word : String) : Quiet (passAccessorWord word) := by
  unfold Parser.passAccessorWord
  infer_instance

protected instance checkModifier (before : List Modifier) (modifier : Modifier) :
    Quiet (checkModifier before modifier) := by
  unfold Parser.checkModifier
  extract_lets complain seen mustPrecede
  have hcomplain : ∀ complaint, Quiet (complain complaint) := fun _ => Quiet.complainAt _ _
  have hprecede : ∀ others, Quiet (mustPrecede others) := by
    intro others
    show Quiet (match others.find? seen with
      | some other => complain (.modifierOrder modifier.word other)
      | none => pure ())
    split <;> infer_instance
  split <;> infer_instance

protected instance modifier? (seenStatic allowConst beforeStaticBlock : Bool) :
    Quiet (modifier? seenStatic allowConst beforeStaticBlock) := by
  refine .skip fun t => ?_
  split <;> infer_instance

protected instance modifiers (allowConst beforeStaticBlock : Bool) :
    Quiet (modifiers allowConst beforeStaticBlock) := by
  have hgo : ∀ fuel found, Quiet (modifiers.go allowConst beforeStaticBlock fuel found) := by
    intro fuel
    induction fuel with
    | zero => exact fun found => Quiet.pure _
    | succ fuel ih =>
        refine fun found => .skip fun modifier => ?_
        split
        · exact .skip fun _ => ih _
        · infer_instance
  exact .skip fun s => hgo _ _

protected instance allowModifiers (allowed : List String) (complaint : String → Complaint)
    (found : List Modifier) : Quiet (allowModifiers allowed complaint found) := by
  unfold Parser.allowModifiers
  induction found with
  | nil => exact Quiet.pure _
  | cons modifier rest ih => exact .skip fun _ => ih

protected instance noModifiers (found : List Modifier) : Quiet (noModifiers found) :=
  Quiet.allowModifiers _ _ _

end Quiet

end Parser

end JsxTidy
