import JsxTidy.Parser.Expression
import JsxTidy.Proofs.Parser.Markup
import JsxTidy.Proofs.Parser.Targets

/-!
# Reading expressions

Expressions are legible. What marks a call or a function as free of effects leaves its parts, and a
chain of accesses and calls is built from the legible expression that it starts with. The landmarks
of an expression that other syntax goes on behind have been passed already.

Accesses, calls and operators are read one step at a time: what a step keeps is said of the step,
and carried over to any number of them by induction.
-/

namespace JsxTidy.Parser

open Syntax

/-! ## Marks -/

/-- Marking the call that an expression begins with changes no part of it. -/
theorem legible_markPure {e : Node} (h : e.legible) : (markPure e).legible := by
  fun_induction markPure e with
  | case1 => exact Node.legible_mk.2 ⟨rfl, Node.legible_parts h⟩
  | case2 => exact Node.legible_mk.2 ⟨rfl, Node.legible_parts h⟩
  | case3 span e ih =>
      refine Node.legible_mk.2 ⟨rfl, ?_⟩
      simpa using ih (Node.legible_parts h e (List.mem_singleton_self e))
  | case4 span e ih =>
      refine Node.legible_mk.2 ⟨rfl, ?_⟩
      simpa using ih (Node.legible_parts h e (List.mem_singleton_self e))
  | case5 => exact h

/-- Marking a function changes no part of it. -/
theorem legible_markQuiet {e : Node} (h : e.legible) : (markQuiet e).legible := by
  unfold markQuiet
  split
  · exact Node.legible_mk.2 ⟨rfl, Node.legible_parts h⟩
  · obtain ⟨hfits, hparts⟩ := Node.legible_mk.1 h
    exact Node.legible_mk.2 ⟨Kind.fits_function hfits _, hparts⟩
  · exact h

/-- Whether a function is marked or not makes no difference. -/
theorem legible_markQuietIf (quiet : Bool) {e : Node} (h : e.legible) :
    (markQuietIf quiet e).legible := by
  unfold markQuietIf
  split
  · exact legible_markQuiet h
  · exact h

/-- What comments say of an operand changes no part of it. -/
theorem legible_markOperand (t : Token) {e : Node} (h : e.legible) : (markOperand t e).legible := by
  refine legible_markQuietIf _ ?_
  split
  · exact legible_markPure h
  · exact h

/-! ## Accesses and calls -/

/-- Parentheses hold one expression. Several ones are a sequence. -/
theorem yields_closeParentheses (start innerStart : Nat) {expressions : List Node}
    (h : ∀ e ∈ expressions, e.legible) :
    Yields (closeParentheses start innerStart expressions) (·.legible) := by
  unfold closeParentheses
  split
  · exact .skip fun _ => yields_failAt _ _
  · exact .skip fun _ => yields_piece start rfl h
  · refine .bind (yields_piece innerStart rfl h) fun inner hinner => .skip fun _ => ?_
    exact yields_piece start rfl (by simpa using hinner)

/-- Parentheses stay in the tree. -/
theorem yields_parenthesized : Yields parenthesized (·.legible) := by
  refine .fromWord fun start => .skip fun innerStart => ?_
  refine .bind (yields_within _ (yields_commaList ")" yields_assignment))
    fun ⟨expressions, comma⟩ hexpressions => .skip fun _ => ?_
  exact yields_closeParentheses start innerStart hexpressions

/-- A template consists of its stretches of text and its holes. -/
theorem fits_template {quasis holes : List Node} (h : TemplateParts (quasis, holes)) :
    Kind.template.fits [.list quasis, .list holes] := by
  have hall : quasis.all (·.kind.isQuasi) :=
    List.all_eq_true.2 fun quasi hq => (h.quasis quasi hq).2
  exact Bool.and_eq_true_iff.2 ⟨hall, rfl⟩

/-- A template has its texts in one list and its expressions in another one. -/
theorem yields_templateLiteral (tagged : Bool) : Yields (templateLiteral tagged) (·.legible) := by
  refine .skip fun start => ?_
  refine .bind (yields_templateParts tagged (yields_within _ (yields_goal_legible _)))
    fun ⟨quasis, holes⟩ h => ?_
  refine yields_piece start (fits_template h) ?_
  simpa using And.intro (fun quasi hq => (h.quasis quasi hq).1) h.holes

/-- An argument is a spread or an expression. -/
theorem yields_argument : Yields argument (·.legible) :=
  .skip fun _ => .ite yields_spread yields_assignment

/-- Arguments are a list, even where there are none. -/
theorem yields_callArguments : Yields callArguments (·.legible) := by
  refine .skip fun _ => .bind (yields_within _ (yields_commaList ")" yields_argument))
    fun ⟨arguments, comma⟩ harguments => .skip fun _ => .pure ?_
  simpa using harguments

/-- A comma before the parenthesis announces no options. -/
theorem yields_importCallOptions : Yields importCallOptions (·.legible) := by
  refine .skip fun hasComma => .ite (.skip fun atEnd => ?_) yields_none
  exact .ite yields_none yields_assignment

/-- A module is imported by an expression for its path, and one for the options. -/
theorem yields_importCallParts :
    Yields importCallParts fun found => found.1.legible ∧ found.2.legible := by
  refine .bind yields_assignment fun path hpath => ?_
  exact .bind yields_importCallOptions fun options hoptions => .pure ⟨hpath, hoptions⟩

/-- The import of a module has a path and options. -/
theorem yields_importCall (start : Nat) (phase : ImportPhase) :
    Yields (importCall start phase) (·.legible) := by
  refine .skip fun _ => .skip fun isEmpty => .ite .fail ?_
  refine .bind (yields_within _ yields_importCallParts) fun ⟨path, options⟩ h => ?_
  refine .skip fun _ => .skip fun isClosed => .ite .fail ?_
  exact yields_piece start rfl (by simpa using h)

/-- What stands behind `import` and a dot is a word, or imports a module in a phase. -/
theorem yields_importProperty (start : Nat) : Yields (importProperty start) (·.legible) := by
  refine .skip fun l => ?_
  split
  · exact .skip fun _ => yields_piece start rfl (by simp)
  · exact .skip fun _ => yields_importCall start _
  · exact .skip fun _ => yields_importCall start _
  · exact yields_failAt _ _

/-- An `import` in an expression is called, or has a property. -/
theorem yields_importExpression : Yields importExpression (·.legible) := by
  refine .fromWord fun start => .skip fun l => ?_
  split
  · exact yields_importCall start _
  · exact .skip fun _ => yields_importProperty start
  · exact yields_unexpected

/-- What is called is legible, and so are the type arguments that it ends in. -/
theorem legible_asCallee {e : Node} (h : e.legible) :
    (asCallee e).1.legible ∧ (asCallee e).2.legible := by
  unfold asCallee
  split
  · have hparts := (Node.legible_mk.1 h).2
    exact ⟨hparts _ (by simp), hparts _ (by simp)⟩
  · exact ⟨h, rfl⟩

/-- A tagged template has a tag, type arguments and a template. -/
theorem yields_taggedTemplate {tag : Node} (start : Nat) (inChain : Bool) (h : tag.legible) :
    Yields (taggedTemplate start tag inChain) (·.legible) := by
  obtain ⟨hcallee, htypes⟩ := legible_asCallee h
  refine .skip fun _ => .bind (yields_templateLiteral true) fun quasi hquasi => .check ?_
  exact yields_piece start rfl (by simp [hcallee, htypes, hquasi])

/-- A member is named in public or in private. -/
theorem yields_memberName : Yields memberName (·.legible) := by
  refine .skip fun l => ?_
  split
  · exact yields_privateName
  · exact yields_wordName.mono fun _ h => h.1

section Steps

variable {object : Node} (start : Nat) (h : object.legible)

include h

/-- An access by name has an object and a name. -/
theorem yields_accessByName (isOptional : Bool) :
    Yields (accessByName start isOptional object) (·.legible) := by
  refine .bind yields_memberName fun name hname => ?_
  exact yields_piece start rfl (by simp [h, hname])

/-- An access in brackets has an object and an expression. -/
theorem yields_accessByIndex (isOptional : Bool) :
    Yields (accessByIndex start isOptional object) (·.legible) := by
  refine .skip fun _ => .bind (yields_within _ (yields_goal_legible _)) fun property hproperty => ?_
  exact .skip fun _ => yields_piece start rfl (by simp [h, hproperty])

/-- Behind a question mark stands an access of either kind. -/
theorem yields_optionalAccess : Yields (optionalAccess start object) (·.legible) := by
  refine .skip fun _ => .skip fun atBracket => ?_
  exact .ite (yields_accessByIndex start h true) (yields_accessByName start h true)

/-- One access behind a legible expression makes a legible one. -/
theorem yields_memberStep (allowOptional inChain : Bool) :
    Yields (memberStep start allowOptional object inChain) fun step =>
      ∀ found ∈ step, found.1.legible := by
  have hnone : Yields (return none) fun step : Option (Node × Bool) =>
      ∀ found ∈ step, found.1.legible := .pure (by simp)
  have hsome : ∀ (isOptional : Bool) e, e.legible → Yields (return some (e, isOptional))
      fun step : Option (Node × Bool) => ∀ found ∈ step, found.1.legible :=
    fun isOptional e he => .pure (by simpa using he)
  refine .skip fun t => ?_
  split
  · exact .skip fun _ => .bind (yields_accessByName start h false) (hsome _)
  · refine .ite hnone (.skip fun isMember => .ite hnone ?_)
    exact .bind (yields_optionalAccess start h) (hsome _)
  · exact .skip fun around => .ite hnone (.bind (yields_accessByIndex start h false) (hsome _))
  · refine .ite hnone (.skip fun _ => ?_)
    exact .bind (yields_piece start rfl (by simp [h])) (hsome _)
  · exact .bind (yields_taggedTemplate start _ h) (hsome _)
  case h_6 | h_7 =>
    refine .bind (yields_typeArgumentsInExpression _) fun arguments? harguments => ?_
    split
    · exact .bind (yields_piece start rfl (by simp_all)) (hsome _)
    · exact hnone
  · exact hnone

end Steps

/-- So does any number of accesses. -/
theorem yields_memberRest (start : Nat) (allowOptional : Bool) (fuel : Nat) {object : Node}
    (inChain : Bool) (h : object.legible) :
    Yields (memberRest start allowOptional fuel object inChain) (·.1.legible) := by
  induction fuel generalizing object inChain with
  | zero => exact .pure h
  | succ fuel ih =>
      refine .bind (yields_memberStep start h allowOptional inChain) fun step hstep => ?_
      split
      · exact ih _ (hstep _ rfl)
      · exact .pure h

/-- Behind `new` and a dot stands a word. -/
theorem yields_newTarget (start : Nat) : Yields (newTarget start) (·.legible) := by
  refine .skip fun isTarget => .ite (.skip fun _ => ?_) (yields_failAt _ _)
  exact yields_piece start rfl (by simp)

/-- What is constructed is an expression with accesses and no calls. -/
theorem yields_newCallee : Yields newCallee (·.legible) := by
  refine .skip fun start => .bind (yields_goal_legible _) fun first hfirst => .skip fun s => ?_
  refine .bind (yields_memberRest start false _ false hfirst) fun ⟨callee, inChain⟩ hcallee => ?_
  exact .skip fun isOptional => .ite (.skip fun _ => .fail) (.pure hcallee)

/-- A constructor without arguments has an empty list of them. -/
theorem yields_newArguments : Yields newArguments (·.legible) :=
  .skip fun _ => .ite yields_callArguments (.pure (by simp))

/-- The call of a constructor has what is constructed, type arguments and arguments. -/
theorem yields_newExpression : Yields newExpression (·.legible) := by
  refine .fromWord fun start => .skip fun isTarget => .ite (yields_newTarget start) ?_
  refine .skip fun calleeStart => .bind yields_newCallee fun whole hwhole => ?_
  obtain ⟨hcallee, htypes⟩ := legible_asCallee hwhole
  refine .bind yields_newArguments fun arguments harguments => .skip fun _ => ?_
  exact yields_piece start rfl (by simp [hcallee, htypes, harguments])

/-- The token decides which expression stands here. -/
theorem yields_primaryRule : Yields primaryRule (·.legible) := by
  refine .skip fun start => .skip fun l => ?_
  split
  · exact .skip fun _ => yields_literal
  · exact .skip fun _ => yields_literal
  · exact yields_literal
  · exact yields_literal
  · exact yields_literal
  · exact yields_arrayLiteral
  · exact yields_goal_legible _
  · exact yields_parenthesized
  · exact yields_goal_legible _
  · exact yields_goal_legible _
  · exact yields_templateLiteral false
  · exact yields_literal
  · exact yields_literal
  · exact yields_literal
  · exact yields_goal_legible _
  · exact .skip fun _ => .ite (yields_goal_legible _) yields_reference
  · exact yields_goal_legible _
  · exact .skip fun _ => yields_piece start rfl (by simp)
  · exact yields_newExpression
  · exact .skip fun _ => .skip fun _ => .check (yields_piece start rfl (by simp))
  · exact yields_importExpression
  · exact yields_reference

/-- What is called is legible, whether its type arguments have been read before or not. -/
theorem legible_calledWith {callee : Node} {types : Option Node} (hcallee : callee.legible)
    (htypes : ∀ n ∈ types, n.legible) :
    (calledWith callee types).1.legible ∧ (calledWith callee types).2.legible := by
  cases types with
  | some types => exact ⟨hcallee, htypes types rfl⟩
  | none => exact legible_asCallee hcallee

/-- A call has what is called, type arguments and arguments. -/
theorem yields_call (start : Nat) (isOptional : Bool) {callee : Node} {types : Option Node}
    (hcallee : callee.legible) (htypes : ∀ n ∈ types, n.legible) :
    Yields (call start isOptional callee types) (·.legible) := by
  obtain ⟨hcalled, htypes⟩ := legible_calledWith hcallee htypes
  refine .bind yields_callArguments fun arguments harguments => ?_
  exact yields_piece start rfl (by simp [hcalled, htypes, harguments])

/-- One call behind a legible expression makes a legible one. -/
theorem yields_callStep (start : Nat) {callee : Node} (inChain : Bool) (h : callee.legible) :
    Yields (callStep start callee inChain) fun step => ∀ found ∈ step, found.1.legible := by
  have hsome : ∀ (isOptional : Bool) e, e.legible → Yields (return some (e, isOptional))
      fun step : Option (Node × Bool) => ∀ found ∈ step, found.1.legible :=
    fun isOptional e he => .pure (by simpa using he)
  refine .skip fun t => .skip fun isOptional => ?_
  refine .choose (yields_typeArgumentsInExpression _) (.pure (by simp)) fun types htypes => ?_
  refine .skip fun l => .ite ?_ (.skip fun atCall => .ite ?_ ?_)
  · exact .bind (yields_taggedTemplate start true h) (hsome _)
  · exact .bind (yields_call start isOptional h htypes) (hsome _)
  · exact .ite .fail (.pure (by simp))

/-- So does any number of calls, with accesses between them. -/
theorem yields_callRest (start fuel : Nat) {callee : Node} (inChain : Bool) (h : callee.legible) :
    Yields (callRest start fuel callee inChain) (·.1.legible) := by
  induction fuel generalizing callee inChain with
  | zero => exact .pure h
  | succ fuel ih =>
      refine .skip fun s => .bind (yields_memberRest start true _ inChain h)
        fun ⟨callee, inChain⟩ hcallee => ?_
      refine .bind (yields_callStep start inChain hcallee) fun step hstep => ?_
      split
      · exact ih _ (hstep _ rfl)
      · exact .pure hcallee

/-- A chain has the expression that it is put around, without the type arguments at its end. -/
theorem yields_asChain (start : Nat) {e : Node} (h : e.legible) :
    Yields (asChain start e) (·.legible) := by
  unfold asChain
  split
  · rename_i span inner arguments
    have hparts := (Node.legible_mk.1 h).2
    have hinner : (Node.mk .chain inner.span [inner]).legible :=
      Node.legible_mk.2 ⟨rfl, by simpa using hparts inner (by simp)⟩
    exact .pure (Node.legible_mk.2 ⟨rfl, by simp_all⟩)
  · exact yields_piece start rfl (by simpa using h)

/-- What may stand on the left of an assignment is a chain only if an access is optional. -/
theorem yields_leftHandSideRule : Yields leftHandSideRule (·.legible) := by
  refine .skip fun start => .bind yields_primaryRule fun first hfirst => .skip fun s => ?_
  refine .bind (yields_callRest start _ false hfirst) fun ⟨e, inChain⟩ he => ?_
  exact .ite (yields_asChain start he) (.pure he)

/-! ## Operators -/

/-- What is stepped is a target. -/
theorem yields_prefixUpdate (start : Nat) (op : UpdateOp) :
    Yields (prefixUpdate start op) (·.legible) := by
  refine .skip fun _ => .bind (yields_goal_legible _) fun inner hinner => ?_
  refine .bind (yields_simpleTarget hinner) fun place hplace => ?_
  exact yields_piece start rfl (by simpa using hplace)

/-- An expression with nothing behind it stays as it is. -/
theorem yields_suffixUpdate (start : Nat) {inner : Node} (h : inner.legible) :
    Yields (suffixUpdate start inner) (·.legible) := by
  refine .skip fun t => ?_
  split
  · refine .ite (.pure h) (.skip fun _ => ?_)
    refine .bind (yields_simpleTarget h) fun place hplace => ?_
    exact yields_piece start rfl (by simpa using hplace)
  · exact .pure h

/-- An operator that steps may stand before its operand or behind it. -/
theorem yields_updateExpression : Yields updateExpression (·.legible) := by
  refine .skip fun start => .skip fun l => ?_
  split
  · exact yields_prefixUpdate start _
  · refine .skip fun isMarkup => .ite (yields_goal_legible _) ?_
    exact .bind yields_leftHandSideRule fun inner hinner => yields_suffixUpdate start hinner

/-- An operator has one operand behind it. -/
theorem yields_unary (start : Nat) (op : UnaryOp) : Yields (unary start op) (·.legible) := by
  refine .skip fun _ => .bind (yields_goal_legible _) fun inner hinner => ?_
  exact yields_piece start rfl (by simpa using hinner)

/-- What is awaited is an operand. -/
theorem yields_awaited (start : Nat) : Yields (awaited start) (·.legible) := by
  refine .skip fun around => .check (.skip fun _ => ?_)
  refine .bind (yields_within _ (yields_goal_legible _)) fun inner hinner => ?_
  exact yields_piece start rfl (by simpa using hinner)

/-- The token decides which operator stands before an operand. -/
theorem yields_unaryRule : Yields unaryRule (·.legible) := by
  refine .skip fun start => .skip fun t => ?_
  split
  · exact yields_unary start _
  · exact .skip fun isAwait => .ite (yields_awaited start) yields_updateExpression

/-- An operand with a type behind it has both. -/
theorem yields_typedOperand (start : Nat) (operator : Lexeme) {left : Node} (h : left.legible) :
    Yields (typedOperand start operator left) (·.legible) := by
  refine .skip fun _ => .bind yields_type fun typed htyped => ?_
  refine yields_piece start ?_ (by simp [h, htyped])
  split <;> rfl

/-- An operation has two operands. -/
theorem yields_combine (start : Nat) (operator : Lexeme) {left right : Node} (hleft : left.legible)
    (hright : right.legible) :
    Yields (combine start operator left right) fun step => ∀ e ∈ step, e.legible := by
  have hparts : ∀ part ∈ [left, right], part.legible := by simp [hleft, hright]
  have hsome : ∀ e : Node, e.legible → Yields (return some e) fun step : Option Node =>
      ∀ e ∈ step, e.legible := fun e he => .pure (by simpa using he)
  unfold combine
  split
  · exact .bind (yields_piece start rfl hparts) hsome
  · split
    · exact .check (.bind (yields_piece start rfl hparts) hsome)
    · exact .check (.bind (yields_piece start rfl hparts) hsome)
    · exact .pure (by simp)
  · exact .pure (by simp)

/-- One operator behind a legible operand makes a legible one. -/
theorem yields_operationStep (start : Nat) (above : Precedence) {left : Node} (h : left.legible) :
    Yields (operationStep start above left) fun step => ∀ e ∈ step, e.legible := by
  have hnone : Yields (return none) fun step : Option Node => ∀ e ∈ step, e.legible :=
    .pure (by simp)
  refine .skip fun _ => .skip fun t => ?_
  split
  · exact hnone
  · refine .ite hnone (.skip fun around => .ite hnone (.ite (.ite hnone ?_) ?_))
    · refine .bind (yields_typedOperand start t.lexeme h) fun e he => ?_
      exact .pure (by simpa using he)
    · refine .skip fun _ => .bind (yields_goal_legible _) fun right hright => ?_
      exact yields_combine start t.lexeme h hright

/-- So does any number of operators. -/
theorem yields_operationRest (start : Nat) (above : Precedence) (fuel : Nat) {left : Node}
    (h : left.legible) : Yields (operationRest start above fuel left) (·.legible) := by
  induction fuel generalizing left with
  | zero => exact .pure h
  | succ fuel ih =>
      refine .bind (yields_operationStep start above h) fun step hstep => ?_
      split
      · exact ih (hstep _ rfl)
      · exact .pure h

/-- A search for a private name has the name and an object. -/
theorem yields_privateSearch (start : Nat) : Yields (privateSearch start) (·.legible) := by
  refine .bind yields_privateName fun name hname => .skip fun _ => ?_
  refine .bind (yields_goal_legible _) fun object hobject => .skip fun _ => ?_
  exact yields_piece start rfl (by simp [hname, hobject])

/-- A private name is an operand only where it is searched for. -/
theorem yields_firstOperand (start : Nat) : Yields (firstOperand start) (·.legible) := by
  refine .skip fun t => ?_
  split
  · exact .skip fun around => .ite (yields_privateSearch start) yields_unaryRule
  · exact .bind yields_unaryRule fun e he => .pure (legible_markOperand t he)

/-- Operators of the same precedence are nested to the left. -/
theorem yields_operationRule (above : Precedence) : Yields (operationRule above) (·.legible) := by
  refine .skip fun start => .bind (yields_firstOperand start) fun left hleft => ?_
  exact .skip fun s => yields_operationRest start above _ hleft

/-! ## Arrow functions -/

/-- What is read before the body of an arrow function. -/
structure ArrowHead.Legible (head : ArrowHead) : Prop where
  generics : head.generics.legible
  parameters : head.parameters.legible
  result : head.result.legible

/-- An arrow function has no type of `this`. -/
theorem yields_arrowParts (start : Nat) (isAsync : Bool) :
    Yields (arrowParts start isAsync) ArrowHead.Legible := by
  refine .bind yields_typeParameters fun generics hgenerics => ?_
  refine .bind (yields_parametersOf false) fun ⟨this, parameters⟩ hparameters => .check ?_
  refine .bind (yields_declaredResult ":") fun result hresult => ?_
  exact .pure ⟨hgenerics, hparameters.2, hresult⟩

/-- The arrow behind its head adds no part. -/
theorem yields_arrowHead : Yields arrowHead ArrowHead.Legible := by
  refine .skip fun start => .skip fun isAsync => ?_
  refine .bind (yields_within _ (yields_arrowParts start isAsync)) fun head hhead => ?_
  exact .skip fun _ => .pure hhead

/-- An expression as a body is wrapped in a statement. -/
theorem yields_expressionBody (allowReturnType : Bool) :
    Yields (expressionBody allowReturnType) (·.legible) := by
  refine .bind (yields_goal_legible _) fun e he => .pure (Node.legible_mk.2 ⟨rfl, ?_⟩)
  have hstatement : (Node.mk .expressionStatement e.span [e]).legible :=
    Node.legible_mk.2 ⟨rfl, by simpa using he⟩
  simpa using hstatement

/-- An arrow function has what stands in its head, and a body. -/
theorem yields_arrowBody {head : ArrowHead} (allowReturnType : Bool) (h : head.Legible) :
    Yields (arrowBody head allowReturnType) (·.legible) := by
  refine .skip fun atBrace => ?_
  refine .bind (yields_within _ (.ite (yields_expressionBody allowReturnType)
    (yields_goal_legible _))) fun body hbody => ?_
  exact yields_piece _ rfl (by simp [h.generics, h.parameters, h.result, hbody])

/-- Where no colon follows, there is no arrow function. -/
theorem yields_arrowBeforeColon? (allowReturnType : Bool) :
    Yields (arrowBeforeColon? allowReturnType) fun found => ∀ arrow ∈ found, arrow.legible := by
  refine .bind yields_arrowHead fun head hhead => ?_
  refine .bind (yields_arrowBody allowReturnType hhead) fun arrow harrow => .skip fun atColon => ?_
  exact .ite (.pure (by simp)) (.pure (by simpa using harrow))

/-- What turns out to be no arrow function yields nothing. -/
theorem yields_arrowFunction? (allowReturnType : Bool) :
    Yields (arrowFunction? allowReturnType) fun found => ∀ arrow ∈ found, arrow.legible := by
  refine .skip fun l => .ite (.pure (by simp)) (.skip fun likelihood => ?_)
  split
  · exact .pure (by simp)
  · refine .bind yields_arrowHead fun head hhead => ?_
    refine .bind (yields_arrowBody allowReturnType hhead) fun arrow harrow => ?_
    exact .pure (by simpa using harrow)
  · exact yields_attempt (yields_arrowBeforeColon? allowReturnType)

/-- A name as the only parameter is a binding without type and value. -/
theorem legible_soleParameter {name : Node} (h : name.legible) : (soleParameter name).legible := by
  have hbinding : (declaredByUse name).legible := by
    unfold declaredByUse
    split
    · rfl
    · exact h
  refine Node.legible_mk.2 ⟨rfl, List.forall_mem_singleton.2 (Node.legible_mk.2 ⟨rfl, ?_⟩)⟩
  simpa using hbinding

/-- An arrow function with a name as its only parameter has a body. -/
theorem yields_simpleArrow {name : Node} (start : Nat) (isAsync allowReturnType : Bool)
    (h : name.legible) : Yields (simpleArrow start isAsync name allowReturnType) (·.legible) :=
  .skip fun _ => yields_arrowBody allowReturnType ⟨rfl, legible_soleParameter h, rfl⟩

/-- So has an asynchronous one. -/
theorem yields_asyncSimpleArrow (start : Nat) (allowReturnType : Bool) :
    Yields (asyncSimpleArrow start allowReturnType) (·.legible) := by
  refine .skip fun _ => .bind yields_reference fun name hname => ?_
  exact yields_simpleArrow start true allowReturnType hname

/-! ## Assignments and sequences -/

/-- What is yielded may be missing. -/
theorem yields_yieldExpression : Yields yieldExpression (·.legible) := by
  refine .skip fun start => .skip fun around => .check (.skip fun _ => .skip fun t => ?_)
  refine .ite (yields_piece start rfl (by simp)) (.skip fun delegates => .skip fun l => ?_)
  refine .choose yields_assignment yields_none fun inner hinner => ?_
  exact yields_piece start rfl (by simpa using hinner)

section Behind

variable {left : Node} (start : Nat) (allowReturnType : Bool) (h : left.legible)

include h

/-- An assignment has a target and a value. -/
theorem yields_assignRest (op : AssignOp) :
    Yields (assignRest start allowReturnType op left) (·.legible) := by
  refine .choose (yields_target h) (yields_simpleTarget h) fun place hplace => ?_
  refine .skip fun _ => .bind (yields_goal_legible _) fun right hright => ?_
  exact yields_piece start rfl (by simp [hplace, hright])

/-- A conditional has a test and two branches. -/
theorem yields_conditionalRest :
    Yields (conditionalRest start allowReturnType left) (·.legible) := by
  refine .skip fun isConditional => .ite (.pure h) ?_
  refine .bind (yields_within _ (yields_goal_legible _)) fun first hfirst => .skip fun _ => ?_
  refine .bind (yields_goal_legible _) fun second hsecond => ?_
  exact yields_piece start rfl (by simp [h, hfirst, hsecond])

/-- Behind an operation stands one of these, or an arrow. -/
theorem yields_behindOperation (quiet : Bool) :
    Yields (behindOperation start quiet allowReturnType left) (·.legible) := by
  refine .skip fun l => .ite ?_ ?_
  · refine .bind (yields_simpleArrow start false allowReturnType h) fun arrow harrow => ?_
    exact .pure (legible_markQuietIf quiet harrow)
  · split
    · exact yields_assignRest start allowReturnType h _
    · exact yields_conditionalRest start allowReturnType h

end Behind

/-- An expression that is no sequence begins with `yield`, an arrow function or an operation. -/
theorem yields_assignmentRule (allowReturnType : Bool) :
    Yields (assignmentRule allowReturnType) (·.legible) := by
  have hquiet : ∀ (quiet : Bool) (arrow : Node), arrow.legible →
      Yields (return markQuietIf quiet arrow) (·.legible) :=
    fun quiet arrow h => .pure (legible_markQuietIf quiet h)
  refine .skip fun _ => .ite yields_yieldExpression (.skip fun start => .skip fun t => ?_)
  refine .bind (yields_arrowFunction? allowReturnType) fun arrow? harrow => ?_
  split
  · exact hquiet _ _ (harrow _ rfl)
  · refine .skip fun isSimple => .ite ?_ ?_
    · exact .bind (yields_asyncSimpleArrow start allowReturnType) (hquiet _)
    · refine .bind (yields_operationRule _) fun left hleft => ?_
      exact yields_behindOperation start allowReturnType hleft _

/-- The surroundings of an expression of a sequence make no difference to its parts. -/
theorem yields_sequenceElement : Yields sequenceElement (·.legible) :=
  yields_within _ yields_assignment

/-- A sequence has two expressions or more. -/
theorem yields_expressionRule : Yields expressionRule (·.legible) := by
  refine .skip fun start => .bind yields_sequenceElement fun first hfirst => ?_
  refine .skip fun _ => .ite (.pure hfirst) ?_
  refine .bind (yields_many _ yields_sequenceElement) fun others hothers => ?_
  exact yields_piece start rfl (List.forall_mem_cons.2 ⟨hfirst, hothers⟩)

variable {source : List Char}

/-! ## The places of marks -/

/-- Marking a call moves no landmark. -/
theorem landmarks_markPure (e : Node) : (markPure e).landmarks = e.landmarks := by
  fun_induction markPure e with
  | case1 => simp [Kind.landmarks]
  | case2 => simp [Kind.landmarks]
  | case3 span e ih => simp [Kind.landmarks, ih]
  | case4 span e ih => simp [Kind.landmarks, ih]
  | case5 => rfl

/-- Marking a function moves no landmark. -/
@[simp] theorem landmarks_markQuiet (e : Node) : (markQuiet e).landmarks = e.landmarks := by
  unfold markQuiet
  split <;> simp [Kind.landmarks]

/-- Whether a function is marked or not makes no difference to its landmarks. -/
@[simp] theorem landmarks_markQuietIf (quiet : Bool) (e : Node) :
    (markQuietIf quiet e).landmarks = e.landmarks := by
  unfold markQuietIf
  split <;> simp

/-- What comments say of an operand moves no landmark. -/
@[simp] theorem landmarks_markOperand (t : Token) (e : Node) :
    (markOperand t e).landmarks = e.landmarks := by
  unfold markOperand
  split <;> simp [landmarks_markPure]

/-! ## The places of accesses and calls -/

protected instance Quiet.refuseComma (comma : Option Nat) : Quiet (refuseComma comma) := by
  unfold Parser.refuseComma
  split <;> infer_instance

/-- Expressions in parentheses have been passed before these are closed. -/
theorem follows_closeParentheses (start innerStart : Nat) (expressions : List Node) :
    Follows source (expressions.flatMap Node.landmarks)
      (closeParentheses start innerStart expressions) Node.landmarks := by
  unfold closeParentheses
  split
  · exact .skip fun _ => follows_failAt _ _
  · exact .skip fun _ => follows_node start rfl (by simp)
  · refine .piece innerStart [] rfl (by simp) fun inner => .skip fun _ => ?_
    exact follows_node start rfl (by simp)

/-- Parentheses have the landmarks of what stands in them. -/
theorem follows_parenthesized : Follows source [] parenthesized Node.landmarks := by
  refine .fromWord fun start => .skip fun innerStart => ?_
  refine .step (follows_within _ (follows_commaList ")" follows_assignment))
    fun ⟨expressions, comma⟩ => .skip fun _ => ?_
  exact follows_closeParentheses start innerStart expressions

/-- The texts of a template have no landmarks between those of its expressions. -/
theorem follows_templateLiteral (tagged : Bool) :
    Follows source [] (templateLiteral tagged) Node.landmarks := by
  refine .skip fun start => ?_
  refine .step (follows_templateParts tagged (follows_within _ (follows_goal _)))
    fun ⟨quasis, holes⟩ => ?_
  exact follows_node start rfl (by simp)

protected instance Quiet.canFollowTypeArguments : Quiet canFollowTypeArguments := by
  refine .skip fun t => ?_
  split <;> infer_instance

/-- An argument is passed where it stands. -/
theorem follows_argument : Follows source [] argument Node.landmarks :=
  .skip fun _ => .ite follows_spread follows_assignment

/-- Arguments are passed one behind the other. -/
theorem follows_callArguments : Follows source [] callArguments Node.landmarks := by
  refine .skip fun _ => .step (follows_within _ (follows_commaList ")" follows_argument))
    fun ⟨arguments, comma⟩ => .skip fun _ => .pure ?_
  simp

/-- Missing options have no landmarks. -/
theorem follows_importCallOptions : Follows source [] importCallOptions Node.landmarks := by
  refine .skip fun hasComma => .ite (.skip fun atEnd => ?_) follows_none
  exact .ite follows_none follows_assignment

/-- The path of a module is passed before the options. -/
theorem follows_importCallParts : Follows source [] importCallParts
    fun found => found.1.landmarks ++ found.2.landmarks := by
  refine .step follows_assignment fun path => ?_
  exact .step follows_importCallOptions fun options => .pure (List.Sublist.refl _)

/-- The import of a module has the landmarks of its path and its options. -/
theorem follows_importCall (start : Nat) (phase : ImportPhase) :
    Follows source [] (importCall start phase) Node.landmarks := by
  refine .skip fun _ => .skip fun isEmpty => .ite .fail ?_
  refine .step (follows_within _ follows_importCallParts) fun ⟨path, options⟩ => ?_
  refine .skip fun _ => .skip fun isClosed => .ite .fail ?_
  exact follows_node start rfl (by simp)

/-- A word behind `import` has no landmark of its own. -/
theorem follows_importProperty (start : Nat) :
    Follows source [] (importProperty start) Node.landmarks := by
  refine .skip fun l => ?_
  split
  · exact .skip fun _ => follows_node start rfl (by simp)
  · exact .skip fun _ => follows_importCall start _
  · exact .skip fun _ => follows_importCall start _
  · exact follows_failAt _ _

/-- An `import` in an expression is no import that has a landmark. -/
theorem follows_importExpression : Follows source [] importExpression Node.landmarks := by
  refine .fromWord fun start => .skip fun l => ?_
  split
  · exact follows_importCall start _
  · exact .skip fun _ => follows_importProperty start
  · exact follows_unexpected

/-- Splitting off type arguments loses no landmark. -/
theorem landmarks_asCallee (e : Node) :
    (asCallee e).1.landmarks ++ (asCallee e).2.landmarks = e.landmarks := by
  unfold asCallee
  split <;> simp [Kind.landmarks]

/-- A tag is passed before its template. -/
theorem follows_taggedTemplate (start : Nat) (tag : Node) (inChain : Bool) :
    Follows source tag.landmarks (taggedTemplate start tag inChain) Node.landmarks := by
  refine .skip fun _ => .step (follows_templateLiteral true) fun quasi => .check ?_
  exact follows_node start rfl (by simp [← landmarks_asCallee tag])

/-- The name of a member is no use of a name. -/
theorem follows_memberName : Follows source [] memberName Node.landmarks := by
  refine .skip fun l => ?_
  split
  · exact follows_privateName
  · exact follows_wordName

protected instance Quiet.atOptionalMember : Quiet atOptionalMember := by
  unfold Parser.atOptionalMember
  infer_instance

section Steps

variable (start : Nat) (object : Node)

/-- An object is passed before the name of its member. -/
theorem follows_accessByName (isOptional : Bool) :
    Follows source object.landmarks (accessByName start isOptional object) Node.landmarks :=
  .step follows_memberName fun _ => follows_node start rfl (by simp)

/-- An object is passed before what stands in the brackets. -/
theorem follows_accessByIndex (isOptional : Bool) :
    Follows source object.landmarks (accessByIndex start isOptional object) Node.landmarks := by
  refine .skip fun _ => .step (follows_within _ (follows_goal _)) fun property => ?_
  exact .skip fun _ => follows_node start rfl (by simp)

/-- An object is passed before an optional access, too. -/
theorem follows_optionalAccess :
    Follows source object.landmarks (optionalAccess start object) Node.landmarks := by
  refine .skip fun _ => .skip fun atBracket => ?_
  exact .ite (follows_accessByIndex start object true) (follows_accessByName start object true)

/-- One step passes what it adds to the expression before it. Where it is no step, the expression
stays passed. -/
theorem follows_memberStep (allowOptional inChain : Bool) :
    Follows source object.landmarks (memberStep start allowOptional object inChain)
      fun step => step.elim object.landmarks (·.1.landmarks) := by
  have hnone : Follows source object.landmarks (return none)
      fun step : Option (Node × Bool) => step.elim object.landmarks (·.1.landmarks) :=
    .pure (List.Sublist.refl _)
  have hsome : ∀ (isOptional : Bool) e, Follows source e.landmarks (return some (e, isOptional))
      fun step : Option (Node × Bool) => step.elim object.landmarks (·.1.landmarks) :=
    fun isOptional e => .pure (List.Sublist.refl _)
  refine .skip fun t => ?_
  split
  · exact .skip fun _ => .bind (follows_accessByName start object false) (hsome _)
  · refine .ite hnone (.skip fun isMember => .ite hnone ?_)
    exact .bind (follows_optionalAccess start object) (hsome _)
  · refine .skip fun around => .ite hnone ?_
    exact .bind (follows_accessByIndex start object false) (hsome _)
  · exact .ite hnone (.skip fun _ => .piece start [] rfl (by simp) (hsome _))
  · exact .bind (follows_taggedTemplate start object inChain) (hsome _)
  case h_6 | h_7 =>
    refine .step (follows_typeArgumentsInExpression _) fun arguments? => ?_
    split
    · exact .piece start [] rfl (by simp) (hsome _)
    · exact .drop (by simp) hnone
  · exact hnone

end Steps

/-- Accesses are passed one behind the other. -/
theorem follows_memberRest (start : Nat) (allowOptional : Bool) (fuel : Nat) (object : Node)
    (inChain : Bool) : Follows source object.landmarks
      (memberRest start allowOptional fuel object inChain) (·.1.landmarks) := by
  induction fuel generalizing object inChain with
  | zero => exact .pure (List.Sublist.refl _)
  | succ fuel ih =>
      refine .bind (follows_memberStep start object allowOptional inChain) fun step => ?_
      split
      · exact ih _ _
      · exact .pure (List.Sublist.refl _)

/-- A word behind `new` has no landmarks. -/
theorem follows_newTarget (start : Nat) : Follows source [] (newTarget start) Node.landmarks := by
  refine .skip fun isTarget => .ite (.skip fun _ => ?_) (follows_failAt _ _)
  exact follows_node start rfl (by simp)

/-- What is constructed is passed before the accesses behind it. -/
theorem follows_newCallee : Follows source [] newCallee Node.landmarks := by
  refine .skip fun start => .step (follows_goal _) fun first => .skip fun s => ?_
  refine .bind (follows_memberRest start false _ first false) fun ⟨callee, inChain⟩ => ?_
  exact .skip fun isOptional => .ite (.skip fun _ => .fail) (.pure (List.Sublist.refl _))

/-- Missing arguments have no landmarks. -/
theorem follows_newArguments : Follows source [] newArguments Node.landmarks :=
  .skip fun _ => .ite follows_callArguments (.pure (by simp))

protected instance Quiet.checkNewCallee (callee : Node) (offset : Nat) :
    Quiet (checkNewCallee callee offset) := by
  unfold Parser.checkNewCallee
  split <;> infer_instance

/-- What is constructed is passed before its arguments. -/
theorem follows_newExpression : Follows source [] newExpression Node.landmarks := by
  refine .fromWord fun start => .skip fun isTarget => .ite (follows_newTarget start) ?_
  refine .skip fun calleeStart => .step follows_newCallee fun whole => ?_
  refine .step follows_newArguments fun arguments => .skip fun _ => ?_
  exact follows_node start rfl (by simp [← landmarks_asCallee whole])

/-- A single expression is passed as what it is. -/
theorem follows_primaryRule : Follows source [] primaryRule Node.landmarks := by
  refine .skip fun start => .skip fun l => ?_
  split
  · exact .skip fun _ => follows_literal
  · exact .skip fun _ => follows_literal
  · exact follows_literal
  · exact follows_literal
  · exact follows_literal
  · exact follows_arrayLiteral
  · exact follows_goal _
  · exact follows_parenthesized
  · exact follows_goal _
  · exact follows_goal _
  · exact follows_templateLiteral false
  · exact follows_literal
  · exact follows_literal
  · exact follows_literal
  · exact follows_goal _
  · exact .skip fun _ => .ite (follows_goal _) follows_reference
  · exact follows_goal _
  · exact .skip fun _ => follows_node start rfl (by simp)
  · exact follows_newExpression
  · exact .skip fun _ => .skip fun _ => .check (follows_node start rfl (by simp))
  · exact follows_importExpression
  · exact follows_reference

/-- The landmarks of what is called are the same whenever its type arguments have been read. -/
theorem landmarks_calledWith (callee : Node) (types : Option Node) :
    (calledWith callee types).1.landmarks ++ (calledWith callee types).2.landmarks =
      callee.landmarks ++ types.elim [] Node.landmarks := by
  cases types with
  | some types => rfl
  | none => exact (landmarks_asCallee callee).trans (List.append_nil _).symm

/-- What is called is passed before its arguments. -/
theorem follows_call (start : Nat) (isOptional : Bool) (callee : Node) (types : Option Node) :
    Follows source (callee.landmarks ++ types.elim [] Node.landmarks)
      (call start isOptional callee types) Node.landmarks := by
  refine .step follows_callArguments fun arguments => ?_
  refine follows_node start rfl ?_
  simp [← landmarks_calledWith, ← List.append_assoc]

/-- One call passes what it adds to the expression before it. Where it is none, the expression
stays passed. -/
theorem follows_callStep (start : Nat) (callee : Node) (inChain : Bool) :
    Follows source callee.landmarks (callStep start callee inChain)
      fun step => step.elim callee.landmarks (·.1.landmarks) := by
  have hsome : ∀ (isOptional : Bool) e, Follows source e.landmarks (return some (e, isOptional))
      fun step : Option (Node × Bool) => step.elim callee.landmarks (·.1.landmarks) :=
    fun isOptional e => .pure (List.Sublist.refl _)
  have hnone : Follows source [] (pure none : Parser (Option Node))
      (fun types => types.elim [] Node.landmarks) := .pure (List.Sublist.refl _)
  refine .skip fun t => .skip fun isOptional => ?_
  refine .choose (follows_typeArgumentsInExpression _) hnone fun types? => ?_
  refine .skip fun l => .ite ?_ (.skip fun atCall => .ite ?_ ?_)
  · refine .drop (List.sublist_append_left _ _) ?_
    exact .bind (follows_taggedTemplate start callee true) (hsome _)
  · exact .bind (follows_call start isOptional callee types?) (hsome _)
  · exact .ite .fail (.pure (List.sublist_append_left _ _))

/-- Calls are passed one behind the other, with the accesses between them. -/
theorem follows_callRest (start fuel : Nat) (callee : Node) (inChain : Bool) :
    Follows source callee.landmarks (callRest start fuel callee inChain) (·.1.landmarks) := by
  induction fuel generalizing callee inChain with
  | zero => exact .pure (List.Sublist.refl _)
  | succ fuel ih =>
      refine .skip fun s => .bind (follows_memberRest start true _ callee inChain)
        fun ⟨callee, inChain⟩ => ?_
      refine .bind (follows_callStep start callee inChain) fun step => ?_
      split
      · exact ih _ _
      · exact .pure (List.Sublist.refl _)

/-- A chain has the landmarks of what it is put around. -/
theorem follows_asChain (start : Nat) (e : Node) :
    Follows source e.landmarks (asChain start e) Node.landmarks := by
  unfold asChain
  split
  · exact .pure (by simp [Kind.landmarks])
  · exact follows_node start rfl (by simp)

/-- What may stand on the left of an assignment is passed from its first expression on. -/
theorem follows_leftHandSideRule : Follows source [] leftHandSideRule Node.landmarks := by
  refine .skip fun start => .step follows_primaryRule fun first => .skip fun s => ?_
  refine .bind (follows_callRest start _ first false) fun ⟨e, inChain⟩ => ?_
  exact .ite (follows_asChain start e) (.pure (List.Sublist.refl _))

/-! ## The places of operators -/

protected instance Quiet.nextGoesOnLine : Quiet nextGoesOnLine :=
  Quiet.nextToken _

protected instance Quiet.atAwait : Quiet atAwait := by
  unfold Parser.atAwait
  infer_instance

protected instance Quiet.atMarkup : Quiet atMarkup := by
  unfold Parser.atMarkup
  infer_instance

/-- A target has no other landmarks than the operand that it is made of. -/
theorem follows_prefixUpdate (start : Nat) (op : UpdateOp) :
    Follows source [] (prefixUpdate start op) Node.landmarks := by
  refine .skip fun _ => .step (follows_goal _) fun inner => ?_
  refine .skipOf (yields_landmarks_simpleTarget inner) fun place hplace => ?_
  exact follows_node start rfl (by simpa using hplace)

/-- An operator behind its operand adds no landmark. -/
theorem follows_suffixUpdate (start : Nat) (inner : Node) :
    Follows source inner.landmarks (suffixUpdate start inner) Node.landmarks := by
  have hinner : Follows source inner.landmarks (pure inner) Node.landmarks :=
    .pure (List.Sublist.refl _)
  refine .skip fun t => ?_
  split
  · refine .ite hinner (.skip fun _ => ?_)
    refine .skipOf (yields_landmarks_simpleTarget inner) fun place hplace => ?_
    exact follows_node start rfl (by simpa using hplace)
  · exact hinner

/-- What is stepped has the landmarks of the operand. -/
theorem follows_updateExpression : Follows source [] updateExpression Node.landmarks := by
  refine .skip fun start => .skip fun l => ?_
  split
  · exact follows_prefixUpdate start _
  · refine .skip fun isMarkup => .ite (follows_goal _) ?_
    exact .step follows_leftHandSideRule fun inner => follows_suffixUpdate start inner

/-- An operator before its operand adds no landmark. -/
theorem follows_unary (start : Nat) (op : UnaryOp) :
    Follows source [] (unary start op) Node.landmarks := by
  refine .skip fun _ => .step (follows_goal _) fun inner => ?_
  exact follows_node start rfl (by simp)

/-- What is awaited is passed where it stands. -/
theorem follows_awaited (start : Nat) : Follows source [] (awaited start) Node.landmarks := by
  refine .skip fun around => .check (.skip fun _ => ?_)
  refine .step (follows_within _ (follows_goal _)) fun inner => ?_
  exact follows_node start rfl (by simp)

/-- Operators before an operand have no landmarks. -/
theorem follows_unaryRule : Follows source [] unaryRule Node.landmarks := by
  refine .skip fun start => .skip fun t => ?_
  split
  · exact follows_unary start _
  · exact .skip fun isAwait => .ite (follows_awaited start) follows_updateExpression

/-- An operand is passed before the type behind it. -/
theorem follows_typedOperand (start : Nat) (operator : Lexeme) (left : Node) :
    Follows source left.landmarks (typedOperand start operator left) Node.landmarks := by
  refine .skip fun _ => .step follows_type fun typed => ?_
  refine follows_node start ?_ (by simp)
  split <;> rfl

/-- An operator has no landmark between those of its operands. -/
theorem follows_combine (start : Nat) (operator : Lexeme) (left right : Node) :
    Follows source (left.landmarks ++ right.landmarks) (combine start operator left right)
      fun step => step.elim left.landmarks Node.landmarks := by
  have hnone : Follows source (left.landmarks ++ right.landmarks) (return none)
      fun step : Option Node => step.elim left.landmarks Node.landmarks :=
    .pure (List.sublist_append_left _ _)
  have hsome : ∀ e : Node, Follows source e.landmarks (return some e)
      fun step : Option Node => step.elim left.landmarks Node.landmarks :=
    fun e => .pure (List.Sublist.refl _)
  unfold combine
  split
  · exact .piece start [] rfl (by simp) hsome
  · split
    · exact .check (.piece start [] rfl (by simp) hsome)
    · exact .check (.piece start [] rfl (by simp) hsome)
    · exact hnone
  · exact hnone

/-- One operator passes its second operand behind the first one. Where it is none, this one stays
passed. -/
theorem follows_operationStep (start : Nat) (above : Precedence) (left : Node) :
    Follows source left.landmarks (operationStep start above left)
      fun step => step.elim left.landmarks Node.landmarks := by
  have hnone : Follows source left.landmarks (return none)
      fun step : Option Node => step.elim left.landmarks Node.landmarks :=
    .pure (List.Sublist.refl _)
  refine .skip fun _ => .skip fun t => ?_
  split
  · exact hnone
  · refine .ite hnone (.skip fun around => .ite hnone (.ite (.ite hnone ?_) ?_))
    · refine .bind (follows_typedOperand start t.lexeme left) fun e => ?_
      exact .pure (List.Sublist.refl _)
    · refine .skip fun _ => .step (follows_goal _) fun right => ?_
      exact follows_combine start t.lexeme left right

/-- Operands are passed one behind the other. -/
theorem follows_operationRest (start : Nat) (above : Precedence) (fuel : Nat) (left : Node) :
    Follows source left.landmarks (operationRest start above fuel left) Node.landmarks := by
  induction fuel generalizing left with
  | zero => exact .pure (List.Sublist.refl _)
  | succ fuel ih =>
      refine .bind (follows_operationStep start above left) fun step => ?_
      split
      · exact ih _
      · exact .pure (List.Sublist.refl _)

protected instance Quiet.checkSearched (object : Node) : Quiet (checkSearched object) := by
  unfold Parser.checkSearched
  split <;> infer_instance

/-- A private name that is searched for has no landmark before those of the object. -/
theorem follows_privateSearch (start : Nat) :
    Follows source [] (privateSearch start) Node.landmarks := by
  refine .step follows_privateName fun name => .skip fun _ => ?_
  refine .step (follows_goal _) fun object => .skip fun _ => ?_
  exact follows_node start rfl (by simp)

/-- The first operand is passed as it is without marks. -/
theorem follows_firstOperand (start : Nat) :
    Follows source [] (firstOperand start) Node.landmarks := by
  refine .skip fun t => ?_
  split
  · exact .skip fun around => .ite (follows_privateSearch start) follows_unaryRule
  · exact .step follows_unaryRule fun e => .pure (by simp)

/-- An operation is passed from its first operand on. -/
theorem follows_operationRule (above : Precedence) :
    Follows source [] (operationRule above) Node.landmarks := by
  refine .skip fun start => .step (follows_firstOperand start) fun left => ?_
  exact .skip fun s => follows_operationRest start above _ left

/-! ## The places of arrow functions -/

/-- The landmarks of what stands before the body of an arrow function. -/
def ArrowHead.landmarks (head : ArrowHead) : List Landmark :=
  head.generics.landmarks ++ head.parameters.landmarks ++ head.result.landmarks

protected instance Quiet.passArrow : Quiet passArrow := by
  unfold Parser.passArrow
  infer_instance

protected instance Quiet.arrowLikelihood : Quiet arrowLikelihood := by
  refine of_ahead fun env s a s' hrun => ?_
  unfold Parser.arrowLikelihood at hrun
  extract_lets look at hrun
  split at hrun
  · cases hrun
    exact ⟨_, rfl⟩
  · cases hrun
    exact ⟨_, rfl⟩

protected instance Quiet.atAsyncSimpleArrow : Quiet atAsyncSimpleArrow := by
  unfold Parser.atAsyncSimpleArrow
  infer_instance

/-- The parameters of an arrow function are passed before its result. -/
theorem follows_arrowParts (start : Nat) (isAsync : Bool) :
    Follows source [] (arrowParts start isAsync) ArrowHead.landmarks := by
  refine .step follows_typeParameters fun generics => ?_
  refine .step (follows_parametersOf false) fun ⟨this, parameters⟩ => .check ?_
  refine .step (follows_declaredResult ":") fun result => .pure ?_
  simp [ArrowHead.landmarks]

/-- The arrow behind its head has no landmark. -/
theorem follows_arrowHead : Follows source [] arrowHead ArrowHead.landmarks := by
  refine .skip fun start => .skip fun isAsync => ?_
  refine .step (follows_within _ (follows_arrowParts start isAsync)) fun head => ?_
  exact .skip fun _ => .pure (List.Sublist.refl _)

/-- The statement around an expression has no landmark of its own. -/
theorem follows_expressionBody (allowReturnType : Bool) :
    Follows source [] (expressionBody allowReturnType) Node.landmarks := by
  refine .step (follows_goal _) fun e => .pure ?_
  simp [Kind.landmarks]

/-- The head of an arrow function is passed before its body. -/
theorem follows_arrowBody (head : ArrowHead) (allowReturnType : Bool) :
    Follows source head.landmarks (arrowBody head allowReturnType) Node.landmarks := by
  refine .skip fun atBrace => ?_
  refine .step (follows_within _ (.ite (follows_expressionBody allowReturnType)
    (follows_goal _))) fun body => ?_
  exact follows_node _ rfl (by simp [ArrowHead.landmarks])

/-- An arrow function before a colon is passed as any other. -/
theorem follows_arrowBeforeColon? (allowReturnType : Bool) :
    Follows source [] (arrowBeforeColon? allowReturnType) fun found =>
      found.elim [] Node.landmarks := by
  refine .step follows_arrowHead fun head => ?_
  refine .bind (follows_arrowBody head allowReturnType) fun arrow => .skip fun atColon => ?_
  exact .ite (.pure (by simp)) (.pure (List.Sublist.refl _))

/-- What turns out to be no arrow function passes nothing. -/
theorem follows_arrowFunction? (allowReturnType : Bool) :
    Follows source [] (arrowFunction? allowReturnType) fun found =>
      found.elim [] Node.landmarks := by
  have hnone : Follows source [] (pure none : Parser (Option Node)) fun found =>
      found.elim [] Node.landmarks := .pure (by simp)
  refine .skip fun l => .ite hnone (.skip fun likelihood => ?_)
  split
  · exact hnone
  · refine .step follows_arrowHead fun head => ?_
    exact .bind (follows_arrowBody head allowReturnType) fun arrow => .pure (List.Sublist.refl _)
  · exact follows_attempt (follows_arrowBeforeColon? allowReturnType)

/-- A name as the only parameter has no more landmarks than the name. -/
theorem landmarks_soleParameter (name : Node) :
    (soleParameter name).landmarks.Sublist name.landmarks := by
  unfold soleParameter declaredByUse
  split <;> simp [Kind.landmarks]

/-- A name that is a parameter is passed before the body. -/
theorem follows_simpleArrow (start : Nat) (isAsync : Bool) (name : Node) (allowReturnType : Bool) :
    Follows source name.landmarks (simpleArrow start isAsync name allowReturnType)
      Node.landmarks := by
  refine .skip fun _ => .drop ?_ (follows_arrowBody _ allowReturnType)
  simpa [ArrowHead.landmarks] using landmarks_soleParameter name

/-- So is the name behind `async`. -/
theorem follows_asyncSimpleArrow (start : Nat) (allowReturnType : Bool) :
    Follows source [] (asyncSimpleArrow start allowReturnType) Node.landmarks := by
  refine .skip fun _ => .step follows_reference fun name => ?_
  exact follows_simpleArrow start true name allowReturnType

/-! ## The places of assignments and sequences -/

protected instance Quiet.atYield : Quiet atYield := by
  unfold Parser.atYield
  infer_instance

/-- What is yielded is passed where it stands. -/
theorem follows_yieldExpression : Follows source [] yieldExpression Node.landmarks := by
  refine .skip fun start => .skip fun around => .check (.skip fun _ => .skip fun t => ?_)
  refine .ite (follows_node start rfl (by simp)) (.skip fun delegates => .skip fun l => ?_)
  refine .choose follows_assignment follows_none fun inner => ?_
  exact follows_node start rfl (by simp)

section Behind

variable (start : Nat) (allowReturnType : Bool) (left : Node)

/-- A target is passed before what is assigned to it. -/
theorem follows_assignRest (op : AssignOp) : Follows source left.landmarks
    (assignRest start allowReturnType op left) Node.landmarks := by
  have hright : ∀ place : Node, place.landmarks.Sublist left.landmarks →
      Follows source left.landmarks (do
        advance
        let right ← goal (.assignment allowReturnType)
        node (.assign op) start [place, right]) Node.landmarks := by
    refine fun place hplace => .skip fun _ => .step (follows_goal _) fun right => ?_
    exact follows_node start rfl (by simpa using hplace)
  exact .ite (.skipOf (yields_landmarks_targets.1 left) hright)
    (.skipOf (yields_landmarks_simpleTarget left) hright)

/-- A test is passed before its branches. -/
theorem follows_conditionalRest : Follows source left.landmarks
    (conditionalRest start allowReturnType left) Node.landmarks := by
  refine .skip fun isConditional => .ite (.pure (List.Sublist.refl _)) ?_
  refine .step (follows_within _ (follows_goal _)) fun first => .skip fun _ => ?_
  exact .step (follows_goal _) fun second => follows_node start rfl (by simp)

/-- An operation is passed before what stands behind it. -/
theorem follows_behindOperation (quiet : Bool) : Follows source left.landmarks
    (behindOperation start quiet allowReturnType left) Node.landmarks := by
  refine .skip fun l => .ite ?_ ?_
  · refine .bind (follows_simpleArrow start false left allowReturnType) fun arrow => ?_
    exact .pure (by simp)
  · split
    · exact follows_assignRest start allowReturnType left _
    · exact follows_conditionalRest start allowReturnType left

end Behind

/-- An expression that is no sequence is passed from its first token on. -/
theorem follows_assignmentRule (allowReturnType : Bool) :
    Follows source [] (assignmentRule allowReturnType) Node.landmarks := by
  have hquiet : ∀ (quiet : Bool) (arrow : Node), Follows source arrow.landmarks
      (return markQuietIf quiet arrow) Node.landmarks :=
    fun quiet arrow => .pure (by simp)
  refine .skip fun _ => .ite follows_yieldExpression (.skip fun start => .skip fun t => ?_)
  refine .step (follows_arrowFunction? allowReturnType) fun arrow? => ?_
  split
  · exact hquiet _ _
  · refine .alone (.skip fun isSimple => .ite ?_ ?_)
    · exact .step (follows_asyncSimpleArrow start allowReturnType) (hquiet _)
    · refine .step (follows_operationRule _) fun left => ?_
      exact follows_behindOperation start allowReturnType left _

/-- The surroundings of an expression of a sequence move no landmark. -/
theorem follows_sequenceElement : Follows source [] sequenceElement Node.landmarks :=
  follows_within _ follows_assignment

/-- The expressions of a sequence are passed one behind the other. -/
theorem follows_expressionRule : Follows source [] expressionRule Node.landmarks := by
  refine .skip fun start => .step follows_sequenceElement fun first => ?_
  refine .skip fun _ => .ite (.pure (List.Sublist.refl _)) ?_
  refine .step (follows_many _ follows_sequenceElement) fun others => ?_
  exact follows_node start rfl (by simp)

end JsxTidy.Parser
