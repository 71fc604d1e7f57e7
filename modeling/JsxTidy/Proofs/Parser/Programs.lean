import JsxTidy.Parser.Program
import JsxTidy.Proofs.Parser.Modules

/-!
# Reading programs

Every rule yields what its goal has to be, by induction on how deep rules may nest. So the program
that is read from a text is legible: it is well formed, and it has no attribute whose value cannot
be written as an attribute. In the same way every rule passes the landmarks of what it reads, so
that those of a program follow one another in its text.
-/

namespace JsxTidy

open Syntax Text

namespace Parser

/-! ## Statements -/

/-- Whether a function is marked does not matter to the piece of syntax that it is a part of. -/
theorem fits_markQuiet {kind : Kind} {pattern type value : Node}
    (h : kind.fits [pattern, type, value]) : kind.fits [pattern, type, markQuiet value] := by
  unfold markQuiet
  split
  case h_3 => exact h
  -- Only a template and an import look at their parts before it is seen that one is a function.
  all_goals
    cases kind with
    | template => simp [Kind.fits, Kind.admits] at h
    | importDeclaration isType phase =>
        obtain ⟨kind, span, parts⟩ := pattern
        cases kind <;> exact h
    | _ => exact h

/-- So a statement stays legible when the function that it declares or exports is marked. -/
theorem legible_markQuietStatement {statement : Node} (h : statement.legible) :
    (markQuietStatement statement).legible := by
  fun_induction markQuietStatement statement with
  | case1 isDeclare span kind place pattern type value rest =>
      obtain ⟨hdeclarator, hrest⟩ := List.forall_mem_cons.1 (Node.legible_mk.1 h).2
      obtain ⟨hfits, hparts⟩ := Node.legible_mk.1 hdeclarator
      refine Node.legible_mk.2 ⟨rfl, List.forall_mem_cons.2 ⟨Node.legible_mk.2 ⟨?_, ?_⟩, hrest⟩⟩
      · exact fits_markQuiet hfits
      · have hvalue := legible_markQuiet (hparts value (by simp))
        simp_all
  | case2 span exported =>
      have hexported := legible_markQuiet ((Node.legible_mk.1 h).2 exported (by simp))
      exact Node.legible_mk.2 ⟨rfl, by simpa using hexported⟩
  | case3 isType span declaration rest ih =>
      obtain ⟨hdeclaration, hrest⟩ := List.forall_mem_cons.1 (Node.legible_mk.1 h).2
      exact Node.legible_mk.2 ⟨rfl, List.forall_mem_cons.2 ⟨ih hdeclaration, hrest⟩⟩
  | case4 statement => exact legible_markQuiet h

/-- Whatever token a statement begins with, it is legible. -/
theorem yields_statementRule (place : StatementPlace) :
    Yields (statementRule place) (·.legible) := by
  refine .skip fun t => ?_
  extract_lets start rest
  have hrest : ∀ statement, statement.legible → Yields (rest statement) (·.legible) := by
    refine fun statement hstatement => .pure ?_
    split
    · exact legible_markQuietStatement hstatement
    · exact hstatement
  have hexpression : Yields (expressionOrLabeled >>= rest) (·.legible) :=
    .bind yields_expressionOrLabeled hrest
  have hnone : ∀ node ∈ ([] : List Node), node.legible := by simp
  have hdeclaration : Yields (modifiedDeclaration start [] >>= rest) (·.legible) :=
    .bind (yields_modifiedDeclaration start hnone) hrest
  -- One case for each token that begins a statement, in the order of the rule.
  split
  · exact .bind yields_block hrest
  · exact .skip fun _ => .bind (yields_piece start rfl hnone) hrest
  · exact .bind (yields_decoratedStatement place) hrest
  · exact .bind yields_ifStatement hrest
  · exact .bind yields_doWhileStatement hrest
  · exact .bind yields_whileStatement hrest
  · exact .bind yields_forStatement hrest
  · exact .bind (yields_jumpStatement fun _ => rfl) hrest
  · exact .bind (yields_jumpStatement fun _ => rfl) hrest
  · exact .bind yields_withStatement hrest
  · exact .bind yields_switchStatement hrest
  · exact .bind yields_throwStatement hrest
  · exact .bind yields_tryStatement hrest
  · exact .skip fun _ => .skip fun _ => .bind (yields_piece start rfl hnone) hrest
  · exact .bind (yields_classStatement start place [] hnone) hrest
  · exact .bind (yields_exportStatement start hnone) hrest
  · exact .bind yields_returnStatement hrest
  · exact .skip fun _ => .bind (yields_variableStatement start .var place) hrest
  · exact .ite hexpression (.bind (yields_letStatement place) hrest)
  · refine .skip fun _ => .ite hdeclaration (.skip fun _ => ?_)
    exact .bind (yields_variableStatement start .const place) hrest
  · exact .bind (yields_functionStatement place) hrest
  · exact .skip fun _ => .choose (yields_functionStatement place) yields_expressionOrLabeled hrest
  · exact .bind yields_importStatement hrest
  -- Resources that are declared, which `using` and `await` begin alike.
  case h_24 | h_25 =>
    refine .skip fun _ => .ite (.skip fun word? => ?_) hexpression
    split
    · exact .bind (yields_variableStatement start _ place) hrest
    · exact .bind yields_unexpected hrest
  · exact .ite (.skip fun _ => .ite hdeclaration hexpression) hexpression
  · exact hexpression

/-! ## All rules -/

/-- Each rule yields what its goal asks for, provided that the rules for smaller goals do. -/
theorem yields_rule (g : Goal) : Yields (rule g) g.IsMet := by
  cases g with
  | expression => exact yields_expressionRule
  | assignment allowReturnType => exact yields_assignmentRule allowReturnType
  | unary => exact yields_unaryRule
  | operation above => exact yields_operationRule above
  | leftHandSide => exact yields_leftHandSideRule
  | primary => exact yields_primaryRule
  | objectLiteral => exact yields_objectLiteralRule
  | functionExpression => exact yields_functionExpressionRule
  | classExpression => exact yields_classExpressionRule
  | markup => exact yields_markupRule
  | statement place => exact yields_statementRule place
  | functionBody => exact yields_functionBodyRule
  | bindingPattern => exact yields_bindingPatternRule
  | parameters ofMethod => exact yields_parametersRule ofMethod
  | typeExpression => exact yields_typeRule
  | typeParameters => exact yields_typeParameterList

/-- The rules are sound, however deep they may nest. -/
theorem sound_run (around : Surroundings) (depth : Nat) : ParserEnv.Sound ⟨around, run depth⟩ := by
  induction depth generalizing around with
  | zero =>
      intro g around' s node s' hrun
      cases hrun
  | succ depth ih =>
      intro g around' s node s' hrun
      exact yields_rule g _ (ih around') s node s' hrun

variable {source : List Char}

/-! ## The places of statements -/

/-- A mark changes no landmark. -/
@[simp] theorem landmarks_markQuietStatement (statement : Node) :
    (markQuietStatement statement).landmarks = statement.landmarks := by
  fun_induction markQuietStatement statement with
  | case1 => simp [Kind.landmarks]
  | case2 => simp [Kind.landmarks]
  | case3 isType span declaration rest ih => simp [Kind.landmarks, ih]
  | case4 statement => exact landmarks_markQuiet statement

/-- Whatever token a statement begins with, its landmarks are passed. -/
theorem follows_statementRule (place : StatementPlace) :
    Follows source [] (statementRule place) Node.landmarks := by
  refine .token fun t => ?_
  extract_lets start rest
  have hrest : ∀ statement : Node, Follows source statement.landmarks (rest statement)
      Node.landmarks := by
    refine fun statement => .pure ?_
    split
    · rw [landmarks_markQuietStatement]
    · exact List.Sublist.refl _
  -- The cases are those of the rule. What the token is matters to `import` only, whose landmark
  -- stands at the keyword.
  have hthen : ∀ {p : Parser Node}, Follows source [] p Node.landmarks →
      FollowsAt source (·.token = t) [] (p >>= rest) Node.landmarks :=
    fun hp => .of_follows (.bind hp hrest)
  have hdeclaration : Follows source [] (modifiedDeclaration start [] >>= rest) Node.landmarks :=
    .bind (follows_modifiedDeclaration start []) hrest
  have hexpression : Follows source [] (expressionOrLabeled >>= rest) Node.landmarks :=
    .bind follows_expressionOrLabeled hrest
  split
  · exact hthen follows_block
  · exact .of_follows (.skip fun _ => .bind (follows_node start rfl (by simp)) hrest)
  · exact hthen (follows_decoratedStatement place)
  · exact hthen follows_ifStatement
  · exact hthen follows_doWhileStatement
  · exact hthen follows_whileStatement
  · exact hthen follows_forStatement
  · exact hthen (follows_jumpStatement rfl)
  · exact hthen (follows_jumpStatement rfl)
  · exact hthen follows_withStatement
  · exact hthen follows_switchStatement
  · exact hthen follows_throwStatement
  · exact hthen follows_tryStatement
  · refine .of_follows (.skip fun _ => .skip fun _ => ?_)
    exact .bind (follows_node start rfl (by simp)) hrest
  · exact hthen (follows_classStatement start place [] [])
  · exact hthen (follows_exportStatement start [])
  · exact hthen follows_returnStatement
  · exact .of_follows (.skip fun _ => .bind (follows_variableStatement start .var place) hrest)
  · exact .of_follows (.ite hexpression (.bind (follows_letStatement place) hrest))
  · refine .of_follows (.skip fun _ => .ite hdeclaration (.skip fun _ => ?_))
    exact .bind (follows_variableStatement start .const place) hrest
  · exact hthen (follows_functionStatement place)
  · refine .of_follows (.skip fun _ => .ite ?_ hexpression)
    exact .bind (follows_functionStatement place) hrest
  · rename_i hword
    refine .step (followsAt_importStatement.mono fun s hs => ?_) hrest
    rw [hs, hword]
  case h_24 | h_25 =>
    refine .of_follows (.skip fun _ => .ite (.skip fun word? => ?_) hexpression)
    split
    · exact .bind (follows_variableStatement start _ place) hrest
    · exact .bind follows_unexpected hrest
  · exact .of_follows (.ite (.skip fun _ => .ite hdeclaration hexpression) hexpression)
  · exact .of_follows hexpression

/-! ## The places that all rules pass -/

/-- Each rule passes the landmarks of what it reads, provided that the rules for smaller goals do.
-/
theorem follows_rule (g : Goal) : Follows source [] (rule g) Node.landmarks := by
  cases g with
  | expression => exact follows_expressionRule
  | assignment allowReturnType => exact follows_assignmentRule allowReturnType
  | unary => exact follows_unaryRule
  | operation above => exact follows_operationRule above
  | leftHandSide => exact follows_leftHandSideRule
  | primary => exact follows_primaryRule
  | objectLiteral => exact follows_objectLiteralRule
  | functionExpression => exact follows_functionExpressionRule
  | classExpression => exact follows_classExpressionRule
  | markup => exact follows_markupRule
  | statement place => exact follows_statementRule place
  | functionBody => exact follows_functionBodyRule
  | bindingPattern => exact follows_bindingPatternRule
  | parameters ofMethod => exact follows_parametersRule ofMethod
  | typeExpression => exact follows_typeRule
  | typeParameters => exact follows_typeParameterList

/-- The rules pass the landmarks of what they read, however deep they may nest. -/
theorem tracks_run (around : Surroundings) (depth : Nat) :
    ParserEnv.Tracks ⟨around, run depth⟩ source := by
  induction depth generalizing around with
  | zero => exact ⟨sound_run around 0, fun g around' s node s' _ hrun => by cases hrun⟩
  | succ depth ih =>
      refine ⟨sound_run around (depth + 1), fun g around' s node s' hs hrun => ?_⟩
      exact (follows_rule g).run (ih around') hs hrun

/-- The program begins behind the line for the shell, if there is one. -/
theorem leads_body (source : List Char) : (⟨0, source⟩ : Cursor).LeadsTo (match source with
    | '#' :: '!' :: _ => (⟨0, source⟩ : Cursor).dropWhile fun c => !Lexer.isLineEnd c
    | _ => ⟨0, source⟩) := by
  split
  · exact .dropWhile _ _
  · exact .refl _

/-- Reading starts at the first token, behind a line for the shell. -/
theorem placed_start (source : List Char) : (start source).Placed source := by
  have hbody := leads_body source
  have hlength := hbody.length_le.trans (length_le_byteLength source)
  have hfuel := hlength.trans (Nat.le_add_right (byteLength source) 2)
  have hnext := Lexer.fits_next false .empty hfuel
  exact ⟨rfl, hbody.trans hnext.leads, hnext.lexeme, congrArg Span.start hnext.span_eq⟩

end Parser

/-- The program that is read from a text is legible. -/
theorem legible_of_parse {source : String} {parsed : Parsed} (h : parse source = .ok parsed) :
    parsed.program.legible := by
  unfold parse at h
  dsimp only at h
  split at h
  · rename_i directives body s hrun
    have hparts := Parser.yields_statements true _ (Parser.sound_run _ _) _ _ _ hrun
    split at h
    · cases h
      refine Node.everyOf_iff.2 fun node hnode => ?_
      rcases List.mem_append.1 hnode with hdirective | hstatement
      · exact hparts.directives node hdirective
      · exact hparts.statements node hstatement
    · cases h
  · split at h <;> cases h

/-- The landmarks of a program in the order of its parts. -/
def Syntax.Program.landmarks (p : Program) : List Landmark :=
  (p.directives ++ p.body).flatMap Node.landmarks

/-- The landmarks of the program that is read from a text follow one another in it. -/
theorem inOrder_of_parse {source : String} {parsed : Parsed} (h : parse source = .ok parsed) :
    ∃ last, InOrder source.toList 0 last parsed.program.landmarks := by
  unfold parse at h
  dsimp only at h
  split at h
  · rename_i directives body s hrun
    have hpasses := (Parser.follows_statements true).run (Parser.tracks_run _ _)
      (Parser.placed_start source.toList) hrun
    split at h
    · rename_i hnone
      cases h
      have hproblems : s.problems = [] := by
        simp only [Parser.complaints, List.append_eq_nil_iff, List.reverse_eq_nil_iff] at hnone
        exact hnone.1.1.2
      have hpassed := (hpasses.clean hproblems).2.of_le (Nat.zero_le _)
      rw [← List.flatMap_append] at hpassed
      exact ⟨_, hpassed⟩
    · cases h
  · split at h <;> cases h

end JsxTidy
