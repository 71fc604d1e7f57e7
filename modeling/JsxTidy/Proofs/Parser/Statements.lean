import JsxTidy.Parser.Statement
import JsxTidy.Proofs.Parser.Expressions

/-!
# Reading statements and declarations

Statements and declarations are legible, and so are the heads of loops, the members of enumerations
and the bodies of namespaces. Their landmarks are passed in order.
-/

namespace JsxTidy.Parser

open Syntax

/-! ## Pieces of statements -/

/-- Where `in` is an operator, an expression is an expression. -/
theorem yields_fullExpression : Yields fullExpression (·.legible) := by
  unfold fullExpression
  exact yields_within _ (yields_goal_legible _)

/-- The parentheses of a head hold an expression. -/
theorem yields_headExpression : Yields headExpression (·.legible) := by
  refine .skip fun _ => .bind (yields_goal_legible _) fun e he => ?_
  exact .skip fun _ => .pure he

/-- A block has statements as parts. -/
theorem yields_block : Yields block (·.legible) := by
  refine .skip fun start => .skip fun _ => ?_
  refine .bind (yields_upTo _ (yields_goal_legible _)) fun body hbody => ?_
  exact .skip fun _ => yields_piece start rfl hbody

/-- The body of a statement is a statement. -/
theorem yields_bodyStatement : Yields bodyStatement (·.legible) :=
  yields_goal_legible _

/-! ## Variables and expressions -/

/-- A declarator has a pattern, and a type and a value that may both be missing. -/
theorem yields_declarator (word : VariableWord) (inHead : Bool) :
    Yields (declarator word inHead) (·.legible) := by
  refine .skip fun start => .bind yields_bindingPattern fun pattern hpattern => ?_
  refine .skip fun isDefinite => .skip fun _ => ?_
  refine .bind yields_declaredType fun typed htyped => ?_
  refine .skip fun hasValue => ?_
  refine .choose yields_assignment yields_none fun value hvalue => ?_
  have hparts : ∀ part ∈ [pattern, typed, value], part.legible := by
    simp [hpattern, htyped, hvalue]
  refine .bind (yields_piece start rfl hparts) fun result hresult => ?_
  -- What is complained about does not change what has been read.
  exact .check (.check (.pure hresult))

/-- A variable declaration has one declarator or more. -/
theorem yields_variablesRest (start : Nat) (word : VariableWord) (isDeclare inHead : Bool) :
    Yields (variablesRest start word isDeclare inHead) (·.legible) := by
  have hone := yields_declarator word inHead
  refine .bind hone fun first hfirst => ?_
  refine .bind (yields_many _ hone) fun others hothers => ?_
  have hall : ∀ part ∈ first :: others, part.legible :=
    List.forall_mem_cons.2 ⟨hfirst, hothers⟩
  exact .check (yields_piece start rfl hall)

/-- A variable statement is a variable declaration. -/
theorem yields_variableStatement (start : Nat) (word : VariableWord) (place : StatementPlace) :
    Yields (variableStatement start word place) (·.legible) :=
  .bind (yields_variablesRest start word false false) fun _ h => .check (.pure h)

/-- An expression becomes a statement. -/
theorem yields_expressionStatementRest (start : Nat) {e : Node} (h : e.legible) :
    Yields (expressionStatementRest start e) (·.legible) :=
  .skip fun _ => yields_piece start rfl (by simpa using h)

/-- A name before a colon is the label of a statement, and any other expression a statement. -/
theorem yields_expressionOrLabeled : Yields expressionOrLabeled (·.legible) := by
  refine .skip fun start => .bind (yields_goal_legible _) fun e he => ?_
  have hrest := yields_expressionStatementRest start he
  dsimp only
  split
  · rename_i name span parts
    have hlabel : (Node.mk (.word name) span []).legible := rfl
    refine .skip fun isLabel => .ite ?_ hrest
    refine .bind (yields_goal_legible _) fun body hbody => ?_
    exact yields_piece start rfl (by simp [hlabel, hbody])
  · exact hrest

/-- A function can stand as a statement. -/
theorem yields_functionStatement (place : StatementPlace) :
    Yields (functionStatement place) (·.legible) := by
  refine .skip fun start => .skip fun isAsync => ?_
  have hfunction := yields_functionFrom start .declaration isAsync false true
  exact .bind hfunction fun result hresult => .skip fun _ => .pure hresult

/-- A class can stand as a statement. -/
theorem yields_classStatement {decorated : List Node} (start : Nat) (place : StatementPlace)
    (found : List Modifier) (h : ∀ node ∈ decorated, node.legible) :
    Yields (classStatement start place decorated found) (·.legible) :=
  .bind (yields_classFrom start found true h) fun _ h => .check (.pure h)

/-- Behind `let` stands a declaration, unless it is a name itself. -/
theorem yields_letStatement (place : StatementPlace) : Yields (letStatement place) (·.legible) := by
  refine .skip fun start => .skip fun isName => .ite (.ite ?_ yields_expressionOrLabeled) ?_
  · exact .bind yields_reference fun name hname => yields_expressionStatementRest start hname
  · exact .skip fun _ => yields_variableStatement start .let place

/-! ## Branches and loops -/

/-- A branch has a test and two statements, of which the second one may be missing. -/
theorem yields_ifStatement : Yields ifStatement (·.legible) := by
  refine .fromWord fun start => ?_
  refine .bind yields_headExpression fun test htest => ?_
  refine .bind (yields_goal_legible _) fun first hfirst => ?_
  refine .skip fun hasOther => ?_
  refine .choose (yields_goal_legible _) yields_none fun second hsecond => ?_
  exact yields_piece start rfl (by simp [htest, hfirst, hsecond])

/-- A loop that tests behind its body has the body first. -/
theorem yields_doWhileStatement : Yields doWhileStatement (·.legible) := by
  refine .fromWord fun start => ?_
  refine .bind yields_bodyStatement fun body hbody => ?_
  refine .skip fun _ => .bind yields_headExpression fun test htest => ?_
  exact .skip fun _ => yields_piece start rfl (by simp [htest, hbody])

/-- A loop that tests before its body has the test first. -/
theorem yields_whileStatement : Yields whileStatement (·.legible) := by
  refine .fromWord fun start => ?_
  refine .bind yields_headExpression fun test htest => ?_
  refine .bind yields_bodyStatement fun body hbody => ?_
  exact yields_piece start rfl (by simp [htest, hbody])

/-- A counting loop has three parts in its head, all of which may be missing, and a body. -/
theorem yields_forRest {first : Node} (start : Nat) (awaits : Bool) (h : first.legible) :
    Yields (forRest start awaits first) (·.legible) := by
  refine .skip fun _ => .skip fun _ => ?_
  refine .skip fun atSemicolon => .skip fun atEnd => ?_
  refine .choose yields_none yields_fullExpression fun test htest => ?_
  refine .skip fun _ => .skip fun atEnd => ?_
  refine .choose yields_none yields_fullExpression fun step hstep => ?_
  refine .skip fun _ => .check ?_
  refine .bind yields_bodyStatement fun body hbody => ?_
  exact yields_piece start rfl (by simp [h, htest, hstep, hbody])

/-- A loop over keys has an expression on its right, and one over values an assignment. -/
theorem yields_forEachRest {left : Node} (start : Nat) (awaits : Bool) (h : left.legible) :
    Yields (forEachRest start awaits left) (·.legible) := by
  refine .skip fun isIn => .check ?_
  have hcollection := Yields.ite (c := isIn = true) (yields_goal_legible .expression)
    yields_assignment
  refine .bind (yields_within _ hcollection) fun right hright => ?_
  refine .skip fun _ => .check (.bind yields_bodyStatement fun body hbody => ?_)
  have hparts : ∀ part ∈ [left, right, body], part.legible := by simp [h, hright, hbody]
  exact .ite (yields_piece start rfl hparts) (yields_piece start rfl hparts)

/-- A head with a declaration belongs to a loop of either kind. -/
theorem yields_forDeclaration (start : Nat) (awaits : Bool) (headStart : Nat)
    (word : VariableWord) : Yields (forDeclaration start awaits headStart word) (·.legible) := by
  have hvariables := yields_variablesRest headStart word false true
  refine .bind (yields_within _ hvariables) fun left hleft => ?_
  refine .skip fun atIn => .check (.skip fun isEach => ?_)
  exact .ite (yields_forEachRest start awaits hleft) (yields_forRest start awaits hleft)

/-- A head with an expression does, too, and where the loop is one over keys or values the
expression becomes a target. -/
theorem yields_forExpression (start : Nat) (awaits : Bool) (headStart : Nat) :
    Yields (forExpression start awaits headStart) (·.legible) := by
  refine .skip fun isLet => .skip fun isAsyncOf => ?_
  refine .bind (yields_within _ (yields_goal_legible _)) fun e he => ?_
  refine .skip fun isEach => .ite ?_ (yields_forRest start awaits he)
  refine .skip fun _ => .bind (yields_target he) fun left hleft => ?_
  exact yields_forEachRest start awaits hleft

/-- The head of a loop begins with a declaration or an expression, or has no first part. -/
theorem yields_forHead (start : Nat) (awaits : Bool) :
    Yields (forHead start awaits) (·.legible) := by
  have hempty : Yields (forRest start awaits .none) (·.legible) := yields_forRest start awaits rfl
  refine .skip fun atSemicolon => .ite hempty ?_
  refine .skip fun headStart => .skip fun word? => ?_
  split
  · exact yields_forDeclaration start awaits headStart _
  · refine .skip fun isLet => .ite ?_ (.skip fun atEnd => .ite hempty ?_)
    · exact .skip fun _ => yields_forDeclaration start awaits headStart .let
    · exact yields_forExpression start awaits headStart

/-- Behind the word of a loop stands its head. -/
theorem yields_forStatement : Yields forStatement (·.legible) := by
  refine .fromWord fun start => .skip fun awaits => ?_
  exact .skip fun _ => yields_forHead start awaits

/-! ## Jumps -/

/-- The value of a `return` may be missing. -/
theorem yields_returnValue : Yields returnValue (·.legible) := by
  refine .skip fun isEnd => .ite yields_none ?_
  refine .skip fun isLineEnd => .ite yields_none ?_
  exact .bind yields_fullExpression fun e he => .skip fun _ => .pure he

/-- A `return` has its value as its part. -/
theorem yields_returnStatement : Yields returnStatement (·.legible) := by
  refine .fromWord fun start => .bind yields_returnValue fun value hvalue => ?_
  exact .skip fun s => .check (yields_piece start rfl (by simpa using hvalue))

/-- The label of a jump is a word, if there is one. -/
theorem yields_jumpLabel : Yields jumpLabel (·.legible) := by
  refine .skip fun atSemicolon => .skip fun atLineEnd => .ite yields_none (.skip fun l => ?_)
  split
  · exact .check (yields_wordName.mono fun _ h => h.1)
  · exact yields_unexpected

/-- A jump has its label as its part. -/
theorem yields_jumpStatement {kind : Kind} (hfits : ∀ label, kind.fits [label]) :
    Yields (jumpStatement kind) (·.legible) := by
  refine .fromWord fun start => .bind yields_jumpLabel fun label hlabel => ?_
  exact .skip fun _ => yields_piece start (hfits label) (by simpa using hlabel)

/-- A case is for an expression or for all that is left. -/
theorem yields_caseTest (start : Nat) : Yields (caseTest start) (·.legible) := by
  refine .skip fun isDefault => .ite yields_none ?_
  exact .skip fun isCase => .ite yields_fullExpression (yields_failAt _ _)

/-- A case has its test and the statements up to the next one. -/
theorem yields_switchCase : Yields switchCase (·.legible) := by
  refine .skip fun start => .bind (yields_caseTest start) fun test htest => .skip fun _ => ?_
  refine .bind (yields_many _ (yields_goal_legible _)) fun body hbody => ?_
  exact yields_piece start rfl (by simpa [htest] using hbody)

/-- A `switch` has a subject and cases. -/
theorem yields_switchStatement : Yields switchStatement (·.legible) := by
  refine .fromWord fun start => .bind yields_headExpression fun subject hsubject => ?_
  refine .skip fun casesStart => .skip fun _ => ?_
  refine .bind (yields_upTo _ yields_switchCase) fun found hfound => .skip fun _ => ?_
  refine .bind (yields_piece casesStart rfl hfound) fun cases hcases => ?_
  exact yields_piece start rfl (by simp [hsubject, hcases])

/-- A `throw` has its value as its part. -/
theorem yields_throwStatement : Yields throwStatement (·.legible) := by
  refine .fromWord fun start => .skip fun t => .check ?_
  refine .bind (yields_goal_legible _) fun e he => ?_
  exact .skip fun _ => yields_piece start rfl (by simpa using he)

/-- What is caught has a pattern and a type. -/
theorem yields_catchParameter : Yields catchParameter (·.legible) := by
  refine .skip fun start => .bind yields_bindingPattern fun pattern hpattern => ?_
  refine .bind yields_declaredType fun typed htyped => ?_
  exact .skip fun _ => yields_piece start rfl (by simp [hpattern, htyped])

/-- A handler catches something or nothing in particular, and has a block. -/
theorem yields_catchClause : Yields catchClause (·.legible) := by
  refine .fromWord fun start => .skip fun catches => ?_
  refine .choose yields_catchParameter yields_none fun caught hcaught => ?_
  refine .bind yields_block fun body hbody => ?_
  exact yields_piece start rfl (by simp [hcaught, hbody])

/-- A `try` has a block, and a handler and another block that may both be missing. -/
theorem yields_tryStatement : Yields tryStatement (·.legible) := by
  refine .fromWord fun start => .bind yields_block fun body hbody => ?_
  refine .skip fun hasHandler => ?_
  refine .choose yields_catchClause yields_none fun handler hhandler => ?_
  refine .skip fun hasFinalizer => ?_
  refine .choose yields_block yields_none fun finalizer hfinalizer => ?_
  exact .check (yields_piece start rfl (by simp [hbody, hhandler, hfinalizer]))

/-- The body of a `with` lies in a piece of its own, which stands for the scope of its object. -/
theorem yields_withStatement : Yields withStatement (·.legible) := by
  refine .fromWord fun start => .bind yields_headExpression fun object hobject => ?_
  refine .bind yields_bodyStatement fun body hbody => ?_
  have hinside : (Node.mk .withBody body.span [body]).legible :=
    Node.legible_mk.2 ⟨rfl, by simpa using hbody⟩
  exact yields_piece start rfl (by simp [hobject, hinside])

/-! ## Typed declarations -/

/-- The name of a member of an enumeration is a word, a string or a template. -/
theorem yields_enumMemberName (start : Nat) : Yields (enumMemberName start) (·.1.legible) := by
  have hfound : ∀ name isComputed, name.legible →
      Yields (pure (name, isComputed)) fun found : Node × Bool => found.1.legible :=
    fun _ _ hname => .pure hname
  refine .skip fun l => ?_
  split
  · exact .bind yields_literal fun name hname => hfound name false hname
  · exact yields_failAt _ _
  · exact yields_failAt _ _
  · exact yields_failAt _ _
  · refine .bind yields_propertyKey fun ⟨name, _⟩ hname => ?_
    dsimp only
    split
    · exact hfound _ true hname
    · exact hfound _ true hname
    · exact yields_failAt _ _
    · exact yields_failAt _ _
  · exact .bind yields_wordName fun name hname => hfound name false hname.1

/-- A member of an enumeration has a name and perhaps a value. -/
theorem yields_enumMember : Yields enumMember (·.legible) := by
  refine .skip fun start => ?_
  refine .bind (yields_enumMemberName start) fun ⟨name, isComputed⟩ hname => ?_
  refine .skip fun hasValue => ?_
  refine .choose yields_assignment yields_none fun value hvalue => ?_
  exact yields_piece start rfl (by simp_all)

/-- An enumeration has a name and a body of members. -/
theorem yields_enumDeclaration (start : Nat) (found : List Modifier) :
    Yields (enumDeclaration start found) (·.legible) := by
  refine .skip fun _ => .bind yields_bindingName fun name hname => ?_
  refine .skip fun bodyStart => .skip fun _ => ?_
  refine .bind (yields_commaList _ yields_enumMember) fun ⟨members, _⟩ hmembers => ?_
  refine .skip fun _ => .bind (yields_piece bodyStart rfl hmembers) fun body hbody => ?_
  exact .skip fun _ => yields_piece start rfl (by simp [hname.1, hbody])

/-- A type alias has a name, and in a piece of their own parameters and a type. -/
theorem yields_typeAlias (start : Nat) (found : List Modifier) :
    Yields (typeAlias start found) (·.legible) := by
  refine .skip fun _ => .bind yields_bindingName fun name hname => ?_
  refine .skip fun partsStart => .bind yields_typeParameters fun generics hgenerics => ?_
  refine .skip fun _ => .skip fun isIntrinsic => ?_
  refine .choose (yields_keywordType _) yields_type fun aliased haliased => ?_
  have hboth : ∀ part ∈ [generics, aliased], part.legible := by simp [hgenerics, haliased]
  refine .bind (yields_piece partsStart rfl hboth) fun parts hparts => ?_
  exact .skip fun _ => .skip fun _ => yields_piece start rfl (by simp [hname.1, hparts])

/-- What an interface extends is an expression with type arguments. They may have been read as
parts of the expression. -/
theorem yields_interfaceParent : Yields interfaceParent (·.legible) := by
  refine .skip fun start => .bind (yields_goal_legible _) fun parent hparent => ?_
  refine .bind (yields_splitArguments hparent) fun ⟨e, arguments⟩ hfound => ?_
  exact yields_piece start rfl (by simpa using hfound)

/-- An interface that extends others extends one or more. -/
theorem yields_interfaceParents :
    Yields interfaceParents fun parents => ∀ parent ∈ parents, parent.legible := by
  refine .skip fun _ => .bind yields_interfaceParent fun first hfirst => ?_
  refine .bind (yields_many _ yields_interfaceParent) fun others hothers => ?_
  exact .pure (List.forall_mem_cons.2 ⟨hfirst, hothers⟩)

/-- An interface has a name, and in a piece of their own parameters, parents and a body. -/
theorem yields_interfaceDeclaration (start : Nat) (found : List Modifier) :
    Yields (interfaceDeclaration start found) (·.legible) := by
  have hnone : Yields (pure []) fun parents : List Node => ∀ parent ∈ parents, parent.legible :=
    .pure (by simp)
  refine .skip fun _ => .bind yields_bindingName fun name hname => ?_
  refine .skip fun partsStart => .bind yields_typeParameters fun generics hgenerics => ?_
  refine .skip fun extends' => ?_
  refine .choose yields_interfaceParents hnone fun parents hparents => ?_
  refine .skip fun bodyStart => .bind yields_typeMembers fun members hmembers => ?_
  refine .bind (yields_piece bodyStart rfl hmembers) fun body hbody => ?_
  refine .bind (yields_piece partsStart rfl ?_) fun parts hparts => .skip fun _ => ?_
  · simpa [hgenerics, hbody] using hparents
  · exact yields_piece start rfl (by simp [hname.1, hparts])

/-- The block of a namespace has directives and statements. -/
theorem yields_moduleBlock : Yields moduleBlock (·.legible) := by
  refine .skip fun start => .skip fun _ => ?_
  refine .bind (yields_within _ (yields_statements false)) fun ⟨directives, body⟩ h => ?_
  have hparts : ∀ part ∈ [Node.list directives, Node.list body], part.legible := by
    simpa using And.intro h.directives h.statements
  exact .skip fun _ => yields_piece start rfl hparts

/-- The scope of a namespace can hold any body. -/
theorem legible_moduleScope {body : Node} (h : body.legible) : (moduleScope body).legible :=
  Node.legible_mk.2 ⟨rfl, by simpa using h⟩

/-- A namespace has a name and a body, which is a block or the namespace behind the next name. -/
theorem yields_namespaceFrom (word : NamespaceWord) (isDeclare : Bool) (fuel start : Nat) :
    Yields (namespaceFrom word isDeclare fuel start) (·.legible) := by
  -- The induction is on the number of names that may still follow.
  induction fuel generalizing isDeclare start with
  | zero => exact yields_unexpected
  | succ fuel ih =>
      refine .bind yields_bindingName fun name hname => .skip fun goesOn => ?_
      extract_lets rest
      have hrest : ∀ body, body.legible → Yields (rest body) (·.legible) := by
        refine fun body hbody => yields_piece start rfl ?_
        simp [hname.1, legible_moduleScope hbody]
      refine .ite ?_ (.bind yields_moduleBlock hrest)
      exact .skip fun nextStart => .bind (ih _ _) hrest

/-- An ambient module has a string as its name, and perhaps a block. -/
theorem yields_ambientModule (start : Nat) (isDeclare : Bool) :
    Yields (ambientModule start isDeclare) (·.legible) := by
  refine .bind yields_literal fun name hname => .skip fun hasBlock => .ite ?_ (.skip fun _ => ?_)
  · refine .bind yields_moduleBlock fun body hbody => yields_piece start rfl ?_
    simp [hname, legible_moduleScope hbody]
  · exact yields_piece start rfl (by simp [hname])

/-- Behind the keyword of a namespace stands a string or a name. -/
theorem yields_namespaceDeclaration (start : Nat) (found : List Modifier) :
    Yields (namespaceDeclaration start found) (·.legible) := by
  refine .skip fun word => .skip fun _ => .skip fun l => ?_
  split
  · exact yields_ambientModule start _
  · exact .skip fun s => yields_namespaceFrom _ _ _ start

/-- A declaration of global names has a block. -/
theorem yields_globalDeclaration (start : Nat) (found : List Modifier) :
    Yields (globalDeclaration start found) (·.legible) := by
  refine .skip fun _ => .bind yields_moduleBlock fun body hbody => ?_
  exact .skip fun _ => yields_piece start rfl (by simpa using hbody)

/-- What asks for a module has the text that names the module. -/
theorem yields_externalModule : Yields externalModule (·.legible) := by
  refine .fromWord fun start => .skip fun _ => ?_
  refine .bind yields_stringLiteral fun path hpath => ?_
  exact .skip fun _ => yields_piece start rfl (by simpa using hpath.1)

/-- A name is imported by a module or by another name. -/
theorem yields_importEqualsRest {name : Node} (start : Nat) (isType : Bool) (h : name.legible) :
    Yields (importEqualsRest start isType name) (·.legible) := by
  refine .skip fun _ => .skip fun isExternal => ?_
  refine .choose yields_externalModule yields_typeName fun source hsource => ?_
  exact .skip fun _ => yields_piece start rfl (by simp [h, hsource])

/-- Declared variables are a variable declaration. -/
theorem yields_declaredVariables (start : Nat) (found : List Modifier) (word : VariableWord) :
    Yields (declaredVariables start found word) (·.legible) :=
  .skip fun _ => .skip fun _ => yields_variablesRest start word _ false

/-- A declared function is a function. -/
theorem yields_declaredFunction (start : Nat) (found : List Modifier) :
    Yields (declaredFunction start found) (·.legible) := by
  refine .bind (yields_functionFrom start .declaration _ _ true) fun result hresult => ?_
  exact .skip fun _ => .pure hresult

/-- An import by another name is legible from its keyword on. -/
theorem yields_importEquals (start : Nat) : Yields (importEquals start) (·.legible) := by
  refine .skip fun _ => .skip fun isType => ?_
  refine .bind yields_bindingName fun name hname => ?_
  exact yields_importEqualsRest start isType hname.1

/-- Each word that opens a declaration leads to the rule of its own. -/
theorem yields_declarationRest {decorated : List Node} (start : Nat) (found : List Modifier)
    (h : ∀ node ∈ decorated, node.legible) :
    Yields (declarationRest start decorated found) (·.legible) := by
  refine .skip fun l => .skip fun _ => ?_
  split
  · exact yields_declaredVariables start found .var
  · exact yields_declaredVariables start found .let
  · exact yields_declaredVariables start found .const
  · exact yields_declaredVariables start found .using
  · exact yields_classFrom start found true h
  · exact yields_globalDeclaration start found
  · exact yields_namespaceDeclaration start found
  · exact yields_namespaceDeclaration start found
  · exact yields_typeAlias start found
  · exact yields_enumDeclaration start found
  · exact yields_interfaceDeclaration start found
  · exact yields_declaredFunction start found
  · exact yields_importEquals start
  · exact yields_unexpected

/-- Modifiers do not become parts of a declaration. -/
theorem yields_modifiedDeclaration {decorated : List Node} (start : Nat)
    (h : ∀ node ∈ decorated, node.legible) :
    Yields (modifiedDeclaration start decorated) (·.legible) :=
  .skip fun found => yields_within _ (yields_declarationRest start found h)

variable {source : List Char}

/-! ## The places of pieces of statements -/

/-- An expression is passed where it stands. -/
theorem follows_fullExpression : Follows source [] fullExpression Node.landmarks := by
  unfold fullExpression
  exact follows_within _ (follows_goal _)

/-- The parentheses of a head have no landmarks. -/
theorem follows_headExpression : Follows source [] headExpression Node.landmarks := by
  refine .skip fun _ => .step (follows_goal _) fun e => ?_
  exact .skip fun _ => .pure (List.Sublist.refl _)

/-- The statements of a block are passed one behind the other. -/
theorem follows_block : Follows source [] block Node.landmarks := by
  refine .skip fun start => .skip fun _ => ?_
  refine .step (follows_upTo _ (follows_goal _)) fun body => ?_
  exact .skip fun _ => follows_node start rfl (by simp)

/-- The body of a statement is passed where it stands. -/
theorem follows_bodyStatement : Follows source [] bodyStatement Node.landmarks :=
  follows_goal _

protected instance Quiet.checkInitializer (word : VariableWord) (declarator : Node) :
    Quiet (checkInitializer word declarator) := by
  unfold Parser.checkInitializer
  split
  · refine .skip fun _ => ?_
    split
    · split <;> infer_instance
    · infer_instance
  · infer_instance

protected instance Quiet.checkResource (inHead : Bool) (declarator : Node) :
    Quiet (checkResource inHead declarator) := by
  unfold Parser.checkResource
  split
  · dsimp only
    split <;> infer_instance
  · infer_instance

protected instance Quiet.definiteMark (pattern : Node) : Quiet (definiteMark pattern) := by
  unfold Parser.definiteMark
  infer_instance

protected instance Quiet.passOptionalMark : Quiet passOptionalMark := by
  unfold Parser.passOptionalMark
  infer_instance

protected instance Quiet.checkFunctionAlone (start : Nat) (place : StatementPlace)
    (function : Node) : Quiet (checkFunctionAlone start place function) := by
  unfold Parser.checkFunctionAlone
  split
  · split <;> infer_instance
  · infer_instance

/-! ## The places of variables and expressions -/

/-- In a declarator the pattern stands first, then the type and then the value. -/
theorem follows_declarator (word : VariableWord) (inHead : Bool) :
    Follows source [] (declarator word inHead) Node.landmarks := by
  refine .skip fun start => .step follows_bindingPattern fun pattern => ?_
  refine .skip fun isDefinite => .skip fun _ => ?_
  refine .step follows_declaredType fun typed => ?_
  refine .skip fun hasValue => ?_
  refine .choose follows_assignment follows_none fun value => ?_
  refine .piece start [] rfl (by simp) fun result => ?_
  exact .check (.check (.pure (List.Sublist.refl _)))

/-- Declarators are passed one behind the other. -/
theorem follows_variablesRest (start : Nat) (word : VariableWord) (isDeclare inHead : Bool) :
    Follows source [] (variablesRest start word isDeclare inHead) Node.landmarks := by
  refine .step (follows_declarator word inHead) fun first => ?_
  refine .step (follows_many _ (follows_declarator word inHead)) fun others => ?_
  exact .check (follows_node start rfl (by simp))

/-- A variable statement adds nothing to its declaration. -/
theorem follows_variableStatement (start : Nat) (word : VariableWord) (place : StatementPlace) :
    Follows source [] (variableStatement start word place) Node.landmarks :=
  .step (follows_variablesRest start word false false) fun _ =>
    .check (.pure (List.Sublist.refl _))

/-- A statement adds nothing to its expression, which has been passed. -/
theorem follows_expressionStatementRest (start : Nat) (e : Node) :
    Follows source e.landmarks (expressionStatementRest start e) Node.landmarks :=
  .skip fun _ => follows_node start rfl (by simp)

/-- A label is no use of a name, although it has been read as one. -/
theorem follows_expressionOrLabeled : Follows source [] expressionOrLabeled Node.landmarks := by
  refine .skip fun start => .step (follows_goal _) fun e => ?_
  have hrest : Follows source e.landmarks _ _ := follows_expressionStatementRest start e
  dsimp only
  split
  · refine .skip fun isLabel => .ite ?_ hrest
    refine .step (follows_goal _) fun body => ?_
    exact follows_node start rfl (by simp [Kind.landmarks])
  · exact hrest

/-- A function statement adds nothing to its function. -/
theorem follows_functionStatement (place : StatementPlace) :
    Follows source [] (functionStatement place) Node.landmarks := by
  refine .skip fun start => .skip fun isAsync => ?_
  refine .step (follows_functionFrom start .declaration isAsync false true) fun result => ?_
  exact .skip fun _ => .pure (List.Sublist.refl _)

/-- Decorators stand before their class. -/
theorem follows_classStatement (start : Nat) (place : StatementPlace) (decorated : List Node)
    (found : List Modifier) : Follows source (decorated.flatMap Node.landmarks)
      (classStatement start place decorated found) Node.landmarks :=
  .bind (follows_classFrom start decorated found true) fun _ =>
    .check (.pure (List.Sublist.refl _))

/-- A `let` is passed as a name or as a word. -/
theorem follows_letStatement (place : StatementPlace) :
    Follows source [] (letStatement place) Node.landmarks := by
  refine .skip fun start => .skip fun isName => .ite (.ite ?_ follows_expressionOrLabeled) ?_
  · exact .step follows_reference fun name => follows_expressionStatementRest start name
  · exact .skip fun _ => follows_variableStatement start .let place

/-! ## The places of branches and loops -/

/-- A test stands before both branches. -/
theorem follows_ifStatement : Follows source [] ifStatement Node.landmarks := by
  refine .fromWord fun start => .step follows_headExpression fun test => ?_
  refine .step (follows_goal _) fun first => ?_
  refine .skip fun hasOther => ?_
  refine .choose (follows_goal _) follows_none fun second => ?_
  exact follows_node start rfl (by simp)

/-- The test stands behind the body. -/
theorem follows_doWhileStatement : Follows source [] doWhileStatement Node.landmarks := by
  refine .fromWord fun start => .step follows_bodyStatement fun body => ?_
  refine .skip fun _ => .step follows_headExpression fun test => ?_
  exact .skip fun _ => follows_node start rfl (by simp)

/-- The test stands before the body. -/
theorem follows_whileStatement : Follows source [] whileStatement Node.landmarks := by
  refine .fromWord fun start => .step follows_headExpression fun test => ?_
  exact .step follows_bodyStatement fun body => follows_node start rfl (by simp)

protected instance Quiet.checkFirst (first : Node) : Quiet (checkFirst first) := by
  unfold Parser.checkFirst
  split <;> infer_instance

/-- The three parts of a head stand in their order and before the body. -/
theorem follows_forRest (start : Nat) (awaits : Bool) (first : Node) :
    Follows source first.landmarks (forRest start awaits first) Node.landmarks := by
  refine .skip fun _ => .skip fun _ => ?_
  refine .skip fun atSemicolon => .skip fun atEnd => ?_
  refine .choose follows_none follows_fullExpression fun test => ?_
  refine .skip fun _ => .skip fun atEnd => ?_
  refine .choose follows_none follows_fullExpression fun step => ?_
  refine .skip fun _ => .check ?_
  exact .step follows_bodyStatement fun body => follows_node start rfl (by simp)

/-- The left side of a loop over keys or values stands before the right one, and the body last. -/
theorem follows_forEachRest (start : Nat) (awaits : Bool) (left : Node) :
    Follows source left.landmarks (forEachRest start awaits left) Node.landmarks := by
  refine .skip fun isIn => .check ?_
  refine .step (follows_within _ (.ite (follows_goal _) follows_assignment)) fun right => ?_
  refine .skip fun _ => .check (.step follows_bodyStatement fun body => ?_)
  exact .ite (follows_node start rfl (by simp)) (follows_node start rfl (by simp))

protected instance Quiet.atForEach : Quiet atForEach := by
  unfold Parser.atForEach
  infer_instance

protected instance Quiet.atUsing : Quiet atUsing := by
  unfold Parser.atUsing
  infer_instance

protected instance Quiet.variableWord? : Quiet variableWord? := by
  refine .skip fun l => ?_
  split <;> infer_instance

protected instance Quiet.atLetDeclaration : Quiet atLetDeclaration := by
  unfold Parser.atLetDeclaration
  infer_instance

protected instance Quiet.forAwait : Quiet forAwait := by
  unfold Parser.forAwait
  infer_instance

protected instance Quiet.atAsyncOf : Quiet atAsyncOf := by
  unfold Parser.atAsyncOf
  infer_instance

protected instance Quiet.checkForOf (awaits : Bool) (headStart : Nat) (isLet isAsyncOf : Bool) :
    Quiet (checkForOf awaits headStart isLet isAsyncOf) := by
  unfold Parser.checkForOf
  infer_instance

/-- A declaration in a head stands before the rest of the loop. -/
theorem follows_forDeclaration (start : Nat) (awaits : Bool) (headStart : Nat)
    (word : VariableWord) :
    Follows source [] (forDeclaration start awaits headStart word) Node.landmarks := by
  refine .step (follows_within _ (follows_variablesRest headStart word false true))
    fun left => ?_
  refine .skip fun atIn => .check (.skip fun isEach => ?_)
  exact .ite (follows_forEachRest start awaits left) (follows_forRest start awaits left)

/-- An expression in a head does, too, and has no fewer landmarks than the target it becomes. -/
theorem follows_forExpression (start : Nat) (awaits : Bool) (headStart : Nat) :
    Follows source [] (forExpression start awaits headStart) Node.landmarks := by
  refine .skip fun isLet => .skip fun isAsyncOf => ?_
  refine .step (follows_within _ (follows_goal _)) fun e => ?_
  refine .skip fun isEach => .ite ?_ (follows_forRest start awaits e)
  refine .skip fun _ => .skipOf (yields_landmarks_targets.1 e) fun left hleft => ?_
  exact .drop hleft (follows_forEachRest start awaits left)

/-- A head without a first part has a semicolon or a closing parenthesis in its place. -/
theorem follows_forHead (start : Nat) (awaits : Bool) :
    Follows source [] (forHead start awaits) Node.landmarks := by
  have hempty : Follows source [] (forRest start awaits .none) Node.landmarks :=
    .drop (by simp) (follows_forRest start awaits .none)
  refine .skip fun atSemicolon => .ite hempty ?_
  refine .skip fun headStart => .skip fun word? => ?_
  split
  · exact follows_forDeclaration start awaits headStart _
  · refine .skip fun isLet => .ite ?_ (.skip fun atEnd => .ite hempty ?_)
    · exact .skip fun _ => follows_forDeclaration start awaits headStart .let
    · exact follows_forExpression start awaits headStart

/-- The words before the head of a loop have no landmarks. -/
theorem follows_forStatement : Follows source [] forStatement Node.landmarks := by
  refine .fromWord fun start => .skip fun awaits => ?_
  exact .skip fun _ => follows_forHead start awaits

/-! ## The places of jumps -/

/-- What is returned is passed where it stands. -/
theorem follows_returnValue : Follows source [] returnValue Node.landmarks := by
  refine .skip fun isEnd => .ite follows_none ?_
  refine .skip fun isLineEnd => .ite follows_none ?_
  refine .step follows_fullExpression fun e => ?_
  exact .skip fun _ => .pure (List.Sublist.refl _)

/-- A `return` adds nothing to its value. -/
theorem follows_returnStatement : Follows source [] returnStatement Node.landmarks := by
  refine .fromWord fun start => .step follows_returnValue fun value => ?_
  exact .skip fun s => .check (follows_node start rfl (by simp))

/-- A label has no landmarks to be passed. -/
theorem follows_jumpLabel : Follows source [] jumpLabel Node.landmarks := by
  refine .skip fun atSemicolon => .skip fun atLineEnd => .ite follows_none (.skip fun l => ?_)
  split
  · exact .check follows_wordName
  · exact follows_unexpected

/-- A jump of any kind without a landmark adds nothing to its label. -/
theorem follows_jumpStatement {kind : Kind} (hkind : kind.landmarks = fun _ => []) :
    Follows source [] (jumpStatement kind) Node.landmarks := by
  refine .fromWord fun start => .step follows_jumpLabel fun label => ?_
  exact .skip fun _ => follows_node start hkind (by simp)

/-- The test of a case is passed where it stands. -/
theorem follows_caseTest (start : Nat) : Follows source [] (caseTest start) Node.landmarks := by
  refine .skip fun isDefault => .ite follows_none ?_
  exact .skip fun isCase => .ite follows_fullExpression (follows_failAt _ _)

protected instance Quiet.insideCase : Quiet insideCase := by
  refine .skip fun l => ?_
  split <;> infer_instance

/-- The test of a case stands before its statements. -/
theorem follows_switchCase : Follows source [] switchCase Node.landmarks := by
  refine .skip fun start => .step (follows_caseTest start) fun test => .skip fun _ => ?_
  refine .step (follows_many _ (follows_goal _)) fun body => ?_
  exact follows_node start rfl (by simp)

/-- The subject of a `switch` stands before its cases. -/
theorem follows_switchStatement : Follows source [] switchStatement Node.landmarks := by
  refine .fromWord fun start => .step follows_headExpression fun subject => ?_
  refine .skip fun casesStart => .skip fun _ => ?_
  refine .step (follows_upTo _ follows_switchCase) fun found => .skip fun _ => ?_
  refine .piece casesStart subject.landmarks rfl (by simp) fun cases => ?_
  exact follows_node start rfl (by simp)

/-- A `throw` adds nothing to its value. -/
theorem follows_throwStatement : Follows source [] throwStatement Node.landmarks := by
  refine .fromWord fun start => .skip fun t => .check ?_
  refine .step (follows_goal _) fun e => ?_
  exact .skip fun _ => follows_node start rfl (by simp)

/-- The pattern that catches something stands before its type. -/
theorem follows_catchParameter : Follows source [] catchParameter Node.landmarks := by
  refine .skip fun start => .step follows_bindingPattern fun pattern => ?_
  refine .step follows_declaredType fun typed => ?_
  exact .skip fun _ => follows_node start rfl (by simp)

/-- What a handler catches stands before its block. -/
theorem follows_catchClause : Follows source [] catchClause Node.landmarks := by
  refine .fromWord fun start => .skip fun catches => ?_
  refine .choose follows_catchParameter follows_none fun caught => ?_
  exact .step follows_block fun body => follows_node start rfl (by simp)

/-- The block of a `try` stands before its handler, and that before the last block. -/
theorem follows_tryStatement : Follows source [] tryStatement Node.landmarks := by
  refine .fromWord fun start => .step follows_block fun body => ?_
  refine .skip fun hasHandler => ?_
  refine .choose follows_catchClause follows_none fun handler => ?_
  refine .skip fun hasFinalizer => ?_
  refine .choose follows_block follows_none fun finalizer => ?_
  exact .check (follows_node start rfl (by simp))

/-- The object of a `with` stands before its body. -/
theorem follows_withStatement : Follows source [] withStatement Node.landmarks := by
  refine .fromWord fun start => .step follows_headExpression fun object => ?_
  refine .step follows_bodyStatement fun body => ?_
  exact follows_node start rfl (by simp [Kind.landmarks])

/-! ## The places of typed declarations -/

protected instance Quiet.atTypedDeclaration : Quiet atTypedDeclaration :=
  Quiet.lookahead _

/-- The name of a member is passed where it stands. -/
theorem follows_enumMemberName (start : Nat) :
    Follows source [] (enumMemberName start) (·.1.landmarks) := by
  have hfound : ∀ name isComputed, Follows source name.landmarks (pure (name, isComputed))
      fun found : Node × Bool => found.1.landmarks :=
    fun _ _ => .pure (List.Sublist.refl _)
  refine .skip fun l => ?_
  split
  · exact .step follows_literal fun name => hfound name false
  · exact follows_failAt _ _
  · exact follows_failAt _ _
  · exact follows_failAt _ _
  · refine .step follows_propertyKey fun ⟨name, _⟩ => ?_
    dsimp only
    split
    · exact hfound _ true
    · exact hfound _ true
    · exact follows_failAt _ _
    · exact follows_failAt _ _
  · exact .step follows_wordName fun name => hfound name false

/-- The name of a member stands before its value. -/
theorem follows_enumMember : Follows source [] enumMember Node.landmarks := by
  refine .skip fun start => ?_
  refine .step (follows_enumMemberName start) fun ⟨name, isComputed⟩ => ?_
  refine .skip fun hasValue => ?_
  refine .choose follows_assignment follows_none fun value => ?_
  exact follows_node start rfl (by simp)

protected instance Quiet.onlyDeclare (found : List Modifier) : Quiet (onlyDeclare found) :=
  Quiet.allowModifiers _ _ _

/-- The name of an enumeration stands before its members. -/
theorem follows_enumDeclaration (start : Nat) (found : List Modifier) :
    Follows source [] (enumDeclaration start found) Node.landmarks := by
  refine .skip fun _ => .step follows_bindingName fun name => ?_
  refine .skip fun bodyStart => .skip fun _ => ?_
  refine .step (follows_commaList _ follows_enumMember) fun ⟨members, _⟩ => ?_
  refine .skip fun _ => .piece bodyStart name.landmarks rfl (by simp) fun body => ?_
  exact .skip fun _ => follows_node start rfl (by simp)

protected instance Quiet.atIntrinsic : Quiet atIntrinsic := by
  unfold Parser.atIntrinsic
  infer_instance

/-- The name of an alias stands before its parameters, and these before its type. -/
theorem follows_typeAlias (start : Nat) (found : List Modifier) :
    Follows source [] (typeAlias start found) Node.landmarks := by
  refine .skip fun _ => .step follows_bindingName fun name => ?_
  refine .skip fun partsStart => .step follows_typeParameters fun generics => ?_
  refine .skip fun _ => .skip fun isIntrinsic => ?_
  refine .choose (follows_keywordType _) follows_type fun aliased => ?_
  refine .piece partsStart name.landmarks rfl (by simp) fun parts => ?_
  exact .skip fun _ => .skip fun _ => follows_node start rfl (by simp)

/-- What an interface extends stands before its type arguments. -/
theorem follows_interfaceParent : Follows source [] interfaceParent Node.landmarks := by
  refine .skip fun start => .step (follows_goal _) fun parent => ?_
  refine .bind (follows_splitArguments parent) fun ⟨e, arguments⟩ => ?_
  exact follows_node start rfl (by simp)

/-- The interfaces that an interface extends are passed one behind the other. -/
theorem follows_interfaceParents :
    Follows source [] interfaceParents (·.flatMap Node.landmarks) := by
  refine .skip fun _ => .step follows_interfaceParent fun first => ?_
  refine .step (follows_many _ follows_interfaceParent) fun others => .pure ?_
  simp

/-- The name of an interface stands first, then its parameters, its parents and its body. -/
theorem follows_interfaceDeclaration (start : Nat) (found : List Modifier) :
    Follows source [] (interfaceDeclaration start found) Node.landmarks := by
  have hnone : Follows source [] (pure []) fun parents : List Node =>
      parents.flatMap Node.landmarks := .pure (List.Sublist.refl _)
  refine .skip fun _ => .step follows_bindingName fun name => ?_
  refine .skip fun partsStart => .step follows_typeParameters fun generics => ?_
  refine .skip fun extends' => ?_
  refine .choose follows_interfaceParents hnone fun parents => ?_
  refine .skip fun bodyStart => .step follows_typeMembers fun members => ?_
  refine .piece bodyStart (name.landmarks ++ generics.landmarks ++ parents.flatMap Node.landmarks)
    rfl (by simp) fun body => ?_
  refine .piece partsStart name.landmarks rfl (by simp) fun parts => ?_
  exact .skip fun _ => follows_node start rfl (by simp)

/-- The statements of a namespace are passed one behind the other. -/
theorem follows_moduleBlock : Follows source [] moduleBlock Node.landmarks := by
  refine .skip fun start => .skip fun _ => ?_
  refine .step (follows_within _ (follows_statements false)) fun ⟨directives, body⟩ => ?_
  exact .skip fun _ => follows_node start rfl (by simp)

/-- A scope has the landmarks of what lies in it. -/
@[simp] theorem landmarks_moduleScope (body : Node) :
    (moduleScope body).landmarks = body.landmarks := by
  simp [moduleScope, Kind.landmarks]

/-- The name of a namespace stands before its body. -/
theorem follows_namespaceFrom (word : NamespaceWord) (isDeclare : Bool) (fuel start : Nat) :
    Follows source [] (namespaceFrom word isDeclare fuel start) Node.landmarks := by
  induction fuel generalizing isDeclare start with
  | zero => exact follows_unexpected
  | succ fuel ih =>
      refine .step follows_bindingName fun name => .skip fun goesOn => ?_
      extract_lets rest
      have hrest : ∀ body, Follows source (name.landmarks ++ body.landmarks) (rest body)
          Node.landmarks := fun body => follows_node start rfl (by simp)
      refine .ite ?_ (.step follows_moduleBlock hrest)
      exact .skip fun nextStart => .step (ih _ _) hrest

/-- The name of an ambient module stands before its block. -/
theorem follows_ambientModule (start : Nat) (isDeclare : Bool) :
    Follows source [] (ambientModule start isDeclare) Node.landmarks := by
  refine .step follows_literal fun name => .skip fun hasBlock => .ite ?_ (.skip fun _ => ?_)
  · exact .step follows_moduleBlock fun body => follows_node start rfl (by simp)
  · exact follows_node start rfl (by simp)

protected instance Quiet.namespaceWord : Quiet namespaceWord := by
  unfold Parser.namespaceWord
  infer_instance

/-- The keyword of a namespace has no landmarks. -/
theorem follows_namespaceDeclaration (start : Nat) (found : List Modifier) :
    Follows source [] (namespaceDeclaration start found) Node.landmarks := by
  refine .skip fun word => .skip fun _ => .skip fun l => ?_
  split
  · exact follows_ambientModule start _
  · exact .skip fun s => follows_namespaceFrom _ _ _ start

/-- Global names are declared in a block. -/
theorem follows_globalDeclaration (start : Nat) (found : List Modifier) :
    Follows source [] (globalDeclaration start found) Node.landmarks := by
  refine .skip fun _ => .step follows_moduleBlock fun body => ?_
  exact .skip fun _ => follows_node start rfl (by simp)

protected instance Quiet.atRequire : Quiet atRequire := by
  unfold Parser.atRequire
  infer_instance

/-- The text that names a module is passed where it stands. -/
theorem follows_externalModule : Follows source [] externalModule Node.landmarks := by
  refine .fromWord fun start => .skip fun _ => ?_
  refine .step follows_stringLiteral fun path => ?_
  exact .skip fun _ => follows_node start rfl (by simp)

/-- The name that is imported stands before what it is imported by. -/
theorem follows_importEqualsRest (start : Nat) (isType : Bool) (name : Node) :
    Follows source name.landmarks (importEqualsRest start isType name) Node.landmarks := by
  refine .skip fun _ => .skip fun isExternal => ?_
  refine .choose follows_externalModule follows_typeName fun path => ?_
  exact .skip fun _ => follows_node start rfl (by simp)

/-- Declared variables are passed one behind the other. -/
theorem follows_declaredVariables (start : Nat) (found : List Modifier) (word : VariableWord) :
    Follows source [] (declaredVariables start found word) Node.landmarks :=
  .skip fun _ => .skip fun _ => follows_variablesRest start word _ false

/-- A declared function is passed where it stands. -/
theorem follows_declaredFunction (start : Nat) (found : List Modifier) :
    Follows source [] (declaredFunction start found) Node.landmarks := by
  refine .step (follows_functionFrom start .declaration _ _ true) fun result => ?_
  exact .skip fun _ => .pure (List.Sublist.refl _)

protected instance Quiet.typeWord : Quiet typeWord := by
  unfold Parser.typeWord
  infer_instance

/-- The words before a name that is imported by another one have no landmarks. -/
theorem follows_importEquals (start : Nat) :
    Follows source [] (importEquals start) Node.landmarks := by
  refine .skip fun _ => .skip fun isType => ?_
  exact .step follows_bindingName fun name => follows_importEqualsRest start isType name

protected instance Quiet.checkDecorated (decorated : List Node) (l : Lexeme) :
    Quiet (checkDecorated decorated l) := by
  unfold Parser.checkDecorated
  infer_instance

/-- Decorators stand before what they decorate, which is a class. Any other declaration leaves them
behind. -/
theorem follows_declarationRest (start : Nat) (decorated : List Node) (found : List Modifier) :
    Follows source (decorated.flatMap Node.landmarks) (declarationRest start decorated found)
      Node.landmarks := by
  refine .skip fun l => .skip fun _ => ?_
  split
  · exact .alone (follows_declaredVariables start found .var)
  · exact .alone (follows_declaredVariables start found .let)
  · exact .alone (follows_declaredVariables start found .const)
  · exact .alone (follows_declaredVariables start found .using)
  · exact follows_classFrom start decorated found true
  · exact .alone (follows_globalDeclaration start found)
  · exact .alone (follows_namespaceDeclaration start found)
  · exact .alone (follows_namespaceDeclaration start found)
  · exact .alone (follows_typeAlias start found)
  · exact .alone (follows_enumDeclaration start found)
  · exact .alone (follows_interfaceDeclaration start found)
  · exact .alone (follows_declaredFunction start found)
  · exact .alone (follows_importEquals start)
  · exact follows_unexpected

/-- Modifiers have no landmarks. -/
theorem follows_modifiedDeclaration (start : Nat) (decorated : List Node) :
    Follows source (decorated.flatMap Node.landmarks) (modifiedDeclaration start decorated)
      Node.landmarks :=
  .skip fun found => follows_within _ (follows_declarationRest start decorated found)

end JsxTidy.Parser
