import JsxTidy.Parser.Class
import JsxTidy.Proofs.Parser.Types

/-!
# Reading patterns, functions and classes

Patterns, functions, object literals and classes are legible. A function or class has a name that is
a binding, or none. A property that is named like its value uses that name where the key stands, and
what a class implements may stand before what it extends only if there is a complaint.
-/

namespace JsxTidy.Parser

open Syntax

/-- The rule for expressions without commas is reached through a goal. -/
theorem yields_assignment : Yields assignment (·.legible) :=
  yields_goal_legible _

/-- The rule for binding patterns is reached through a goal. -/
theorem yields_bindingPattern : Yields bindingPattern (·.legible) :=
  yields_goal_legible _

/-! ## Patterns -/

/-- A missing value is a missing part. -/
theorem yields_initializer : Yields initializer (·.legible) :=
  .skip fun _ => yields_optional (yields_within _ yields_assignment)

/-- A pattern gets a default, or stays as it is. -/
theorem yields_withDefault (start : Nat) {pattern : Node} (h : pattern.legible) :
    Yields (withDefault start pattern) (·.legible) := by
  refine .skip fun _ => .ite ?_ (.pure h)
  exact .bind yields_initializer fun value hvalue => yields_piece start rfl (by simp [h, hvalue])

/-- What may have a default is a pattern in front of it. -/
theorem yields_patternWithDefault : Yields patternWithDefault (·.legible) :=
  .skip fun start => .bind yields_bindingPattern fun _ h => yields_withDefault start h

/-- A rest is a pattern behind dots. -/
theorem yields_restElement : Yields restElement (·.legible) := by
  refine .fromWord fun start => .bind yields_bindingPattern fun pattern hpattern => ?_
  have hrest : Yields (node .restElement start [pattern]) (·.legible) :=
    yields_piece start rfl (by simpa using hpattern)
  exact .skip fun _ => .ite (.skip fun _ => .skip fun _ => hrest) hrest

section ListWithRest

variable {piece rest : Parser Node} (close : String) (notLast : Complaint)
  (hpiece : Yields piece (·.legible)) (hrest : Yields rest (·.legible))

include hpiece hrest

/-- The pieces of a list are legible however many have been read, and the rest stays apart. -/
theorem yields_piecesWithRest (fuel : Nat) {pieces : List Node} {last : Node}
    (hpieces : ∀ node ∈ pieces, node.legible) (hlast : last.legible) :
    Yields (piecesWithRest close piece rest notLast fuel pieces last) fun found =>
      (∀ node ∈ found.1, node.legible) ∧ found.2.legible := by
  induction fuel generalizing pieces last with
  | zero => exact .pure ⟨by simpa using hpieces, hlast⟩
  | succ fuel ih =>
      have hdone : Yields (return (pieces.reverse, last)) fun found : List Node × Node =>
          (∀ node ∈ found.1, node.legible) ∧ found.2.legible :=
        .pure ⟨by simpa using hpieces, hlast⟩
      refine .skip fun atEnd => .ite hdone ?_
      extract_lets isFirst
      refine .skip fun ends => .ite hdone (.skip fun atRest => .ite ?_ ?_)
      · exact .bind hrest fun last hlast => ih hpieces hlast
      · refine .bind hpiece fun next hnext => ?_
        exact ih (List.forall_mem_cons.2 ⟨hnext, hpieces⟩) hlast

/-- A list without a rest has none among its parts. -/
theorem yields_listWithRest :
    Yields (listWithRest close piece rest notLast) fun found =>
      (∀ node ∈ found.1, node.legible) ∧ found.2.legible := by
  refine .skip fun s => ?_
  exact yields_piecesWithRest close notLast hpiece hrest _ (by simp) rfl

end ListWithRest

/-- A property with a key of its own has a pattern behind it. -/
theorem yields_keyedPattern (start : Nat) {key : Node} (isComputed : Bool) (h : key.legible) :
    Yields (keyedPattern start key isComputed) (·.legible) := by
  refine .skip fun _ => .bind yields_patternWithDefault fun value hvalue => ?_
  exact yields_piece start rfl (by simp [h, hvalue])

/-- A key that is the name as well stands in the tree both as the key and as a binding. -/
theorem yields_shorthandPattern (start : Nat) {key : Node} (name : String) (h : key.legible) :
    Yields (shorthandPattern start key name) (·.legible) := by
  refine .bind (yields_withDefault start rfl) fun value hvalue => ?_
  exact yields_piece start rfl (by simp [h, hvalue])

/-- A property of a pattern has a key and a pattern. -/
theorem yields_patternProperty : Yields patternProperty (·.legible) := by
  refine .skip fun start => .skip fun first => ?_
  refine .bind yields_propertyKey fun ⟨key, isComputed⟩ hkey => ?_
  have hkeyed := yields_keyedPattern start isComputed hkey
  dsimp only
  split
  · exact .skip fun _ => .ite (yields_shorthandPattern start _ hkey) hkeyed
  · exact hkeyed

/-- An element of a pattern may be missing. -/
theorem yields_patternElement : Yields patternElement (·.legible) := by
  refine .skip fun _ => .ite (.skip fun start => ?_) yields_patternWithDefault
  exact yields_piece start rfl (by simp)

/-- An object pattern has its properties in a list, and the rest behind it. -/
theorem yields_objectPattern : Yields objectPattern (·.legible) := by
  refine .fromWord fun start => ?_
  refine .bind (yields_listWithRest _ _ yields_patternProperty yields_restElement)
    fun ⟨properties, rest⟩ hfound => ?_
  exact .skip fun _ => .skip fun _ => yields_piece start rfl (by simpa using hfound)

/-- So has an array pattern its elements. -/
theorem yields_arrayPattern : Yields arrayPattern (·.legible) := by
  refine .fromWord fun start => ?_
  refine .bind (yields_listWithRest _ _ yields_patternElement yields_restElement)
    fun ⟨elements, rest⟩ hfound => ?_
  exact .skip fun _ => yields_piece start rfl (by simpa using hfound)

/-- What is no pattern in braces or brackets is a name. -/
theorem yields_bindingPatternRule : Yields bindingPatternRule (·.legible) := by
  refine .skip fun l => ?_
  split
  · exact yields_objectPattern
  · exact yields_arrayPattern
  · exact yields_bindingName.mono fun _ h => h.1

/-! ## Parameters and bodies -/

/-- A decorator has one expression. -/
theorem yields_decorator : Yields decorator (·.legible) := by
  refine .fromWord fun start => .bind (yields_within _ (yields_goal_legible _)) fun e he => ?_
  exact yields_piece start rfl (by simpa using he)

/-- There may be any number of decorators. -/
theorem yields_decorators : Yields decorators fun nodes => ∀ node ∈ nodes, node.legible :=
  yields_many _ yields_decorator

/-- A parameter has decorators, a pattern, a type and a value, the last two of which may be
missing. -/
theorem yields_parameter (ofMethod : Bool) : Yields (parameter ofMethod) (·.legible) := by
  refine .skip fun start => .bind yields_decorators fun decorated hdecorated => ?_
  refine .skip fun found => .skip fun _ => .bind yields_bindingPattern fun pattern hpattern => ?_
  refine .skip fun isOptional => .bind yields_declaredType fun typed htyped => ?_
  refine .bind yields_initializer fun value hvalue => .check (.check ?_)
  exact yields_piece start rfl (by simp_all)

/-- The rest of the parameters may have a type, and has no value. -/
theorem yields_restParameter : Yields restParameter (·.legible) := by
  refine .fromWord fun start => .bind yields_bindingPattern fun pattern hpattern => ?_
  refine .bind (yields_piece start rfl (by simpa using hpattern)) fun element helement => ?_
  refine .skip fun _ => .bind yields_declaredType fun typed htyped => .skip fun _ => ?_
  exact yields_piece start rfl (by simp [helement, htyped])

/-- The parameter for `this` is a type. -/
theorem yields_thisParameter : Yields thisParameter (·.legible) := by
  refine .fromWord fun start => .bind yields_declaredType fun typed htyped => ?_
  exact yields_piece start rfl (by simpa using htyped)

/-- A missing parameter for `this` is a missing part. -/
theorem yields_leadingThis : Yields leadingThis (·.legible) := by
  refine .skip fun isThis => .ite yields_none ?_
  refine .bind yields_thisParameter fun this hthis => .skip fun atEnd => .check ?_
  exact .pure hthis

/-- Parameters are a list of the one for `this` and of the others. -/
theorem yields_parametersRule (ofMethod : Bool) :
    Yields (parametersRule ofMethod) (·.legible) := by
  refine .skip fun start => .skip fun _ => .bind yields_leadingThis fun this hthis => ?_
  refine .bind (yields_listWithRest _ _ (yields_parameter ofMethod) yields_restParameter)
    fun ⟨parameters, last⟩ ⟨hparameters, hlast⟩ => .skip fun _ => ?_
  have hall : ∀ node ∈ (if last.isPresent then parameters ++ [last] else parameters),
      node.legible := by
    split
    · simpa [or_imp, forall_and] using And.intro hparameters hlast
    · exact hparameters
  refine .bind (yields_piece start rfl hall) fun others hothers => ?_
  exact yields_piece start rfl (by simp [hthis, hothers])

/-- The parts of a body. -/
structure BodyParts (found : List Node × List Node) : Prop where
  directives : ∀ directive ∈ found.1, directive.legible
  statements : ∀ statement ∈ found.2, statement.legible

/-- The last pieces come first while they are read. -/
theorem BodyParts.reverse {found : List Node × List Node} (h : BodyParts found) :
    BodyParts (found.1.reverse, found.2.reverse) :=
  ⟨by simpa using h.directives, by simpa using h.statements⟩

/-- A statement becomes a directive or stays a statement, and is legible either way. -/
theorem yields_statementsFrom (atTop : Bool) (fuel : Nat) (inPrologue : Bool)
    {directives found : List Node} (h : BodyParts (directives, found)) :
    Yields (statementsFrom atTop fuel inPrologue directives found) BodyParts := by
  induction fuel generalizing inPrologue directives found with
  | zero => exact .pure h.reverse
  | succ fuel ih =>
      refine .skip fun t => .ite (.pure h.reverse) ?_
      refine .bind (yields_goal_legible _) fun statement hstatement => ?_
      split
      · exact ih _ ⟨List.forall_mem_cons.2 ⟨rfl, h.directives⟩, h.statements⟩
      · exact ih _ ⟨h.directives, List.forall_mem_cons.2 ⟨hstatement, h.statements⟩⟩

/-- A body is made of directives and statements. -/
theorem yields_statements (atTop : Bool) : Yields (statements atTop) BodyParts :=
  .skip fun _ => yields_statementsFrom atTop _ _ ⟨by simp, by simp⟩

/-- The body of a function has its directives in one list and its statements in another one. -/
theorem yields_functionBodyRule : Yields functionBodyRule (·.legible) := by
  refine .skip fun start => .skip fun _ => ?_
  refine .bind (yields_within _ (yields_statements false)) fun ⟨directives, found⟩ h => ?_
  exact .skip fun _ => yields_piece start rfl (by simpa using And.intro h.directives h.statements)

/-! ## Functions -/

/-- What can be the name of a function or class. -/
structure OwnName (name : Node) : Prop where
  legible : name.legible
  isOwnName : name.kind.isOwnName

/-- A missing name can. -/
theorem OwnName.none : OwnName .none := ⟨rfl, rfl⟩

/-- And so can a binding. -/
theorem yields_ownName : Yields bindingName OwnName := by
  refine yields_bindingName.mono fun name hname => ⟨hname.1, ?_⟩
  unfold Kind.isOwnName
  split
  · rfl
  · exact hname.2

/-- What a function has behind its name is legible with any legible name. -/
theorem yields_functionParts {name : Node} (ofMethod : Bool) (h : name.legible) :
    Yields (functionParts ofMethod) fun parts => ∀ part ∈ parts.named name, part.legible := by
  refine .bind yields_typeParameters fun generics hgenerics => ?_
  refine .bind (yields_parametersOf ofMethod) fun ⟨this, parameters⟩ hparameters => ?_
  refine .bind (yields_declaredResult ":") fun result hresult => .skip fun hasBody => ?_
  refine .choose (yields_goal_legible _) yields_none fun body hbody => .pure ?_
  simpa [FunctionParts.named, hgenerics, hresult, hbody] using And.intro h hparameters

/-- A function has a name of its own, and what stands behind it. -/
theorem yields_functionRest {name : Node} (start : Nat) (shape : FunctionShape) (ofMethod : Bool)
    (h : OwnName name) : Yields (functionRest start name shape ofMethod) (·.legible) := by
  refine .bind (yields_within _ (yields_functionParts ofMethod h.legible)) fun parts hparts => ?_
  refine .check (yields_piece start ?_ hparts)
  simp [FunctionParts.named, Kind.fits, Kind.admits, Kind.isQuotable, h.isOwnName]

/-- A name that is not required may be missing. -/
theorem yields_functionName (isRequired : Bool) : Yields (functionName isRequired) OwnName :=
  .skip fun _ => .ite yields_ownName (.check (.pure .none))

/-- The name of a function that is a value is read inside of the function. -/
theorem yields_functionFrom (start : Nat) (form : FunctionForm)
    (isAsync isDeclare nameRequired : Bool) :
    Yields (functionFrom start form isAsync isDeclare nameRequired) (·.legible) := by
  have hname := yields_functionName nameRequired
  refine .skip fun t => .skip fun _ => .skip fun isGenerator => ?_
  refine .choose (yields_within _ hname) hname fun name hname => ?_
  exact yields_functionRest start _ false hname

/-- A note on how a function is written makes no difference to its parts. -/
theorem yields_functionExpressionRule : Yields functionExpressionRule (·.legible) := by
  refine .skip fun start => .skip fun t => .skip fun isAsync => ?_
  have hfrom := yields_functionFrom start .expression isAsync false false
  refine .bind hfrom fun function hfunction => ?_
  split
  · obtain ⟨hfits, hparts⟩ := Node.legible_mk.1 hfunction
    exact .pure (Node.legible_mk.2 ⟨Kind.fits_function hfits _, hparts⟩)
  · exact .pure hfunction

/-- A method is a function without a name. -/
theorem yields_methodValue (role : MethodRole) (isAsync isGenerator ofMethod : Bool) :
    Yields (methodValue role isAsync isGenerator ofMethod) (·.legible) :=
  .skip fun start => yields_functionRest start _ ofMethod .none

/-! ## Object and array literals -/

/-- A spread has one expression. -/
theorem yields_spread : Yields spread (·.legible) := by
  refine .fromWord fun start => .bind yields_assignment fun inner hinner => ?_
  exact yields_piece start rfl (by simpa using hinner)

/-- An element is missing, a spread or an expression. -/
theorem yields_arrayElement : Yields arrayElement (·.legible) := by
  refine .skip fun isMissing => .ite (.skip fun start => ?_) ?_
  · exact yields_piece start rfl (by simp)
  · exact .skip fun isSpread => .ite yields_spread yields_assignment

/-- An array literal is made of its elements. -/
theorem yields_arrayLiteral : Yields arrayLiteral (·.legible) := by
  refine .fromWord fun start => ?_
  refine .bind (yields_within _ (yields_commaList _ yields_arrayElement))
    fun ⟨elements, comma⟩ helements => ?_
  exact .skip fun _ => .skip fun _ => yields_piece start rfl helements

section Properties

variable {key : Node} (start : Nat) (found : List Modifier) (isComputed : Bool)

/-- An accessor has a key and a function. -/
theorem yields_accessorProperty (propertyRole : PropertyRole) (role : MethodRole) :
    Yields (accessorProperty start found propertyRole role) (·.legible) := by
  refine .skip fun _ => .bind yields_propertyKey fun ⟨key, isComputed⟩ hkey => ?_
  refine .bind (yields_methodValue _ _ _ _) fun value hvalue => .skip fun _ => ?_
  exact yields_piece start rfl (by simp_all)

/-- So has a method. -/
theorem yields_methodProperty (isGenerator : Bool) (h : key.legible) :
    Yields (methodProperty start found isGenerator key isComputed) (·.legible) := by
  refine .skip fun _ => .bind (yields_methodValue _ _ _ _) fun value hvalue => ?_
  exact yields_piece start rfl (by simp [h, hvalue])

/-- A property has a key and an expression. -/
theorem yields_valueProperty (h : key.legible) :
    Yields (valueProperty start key isComputed) (·.legible) := by
  refine .skip fun _ => .bind yields_assignment fun value hvalue => ?_
  exact yields_piece start rfl (by simp [h, hvalue])

/-- A key that uses a name as well stands in the tree both as the key and as a reference. -/
theorem yields_shorthandProperty (name : String) (h : key.legible) :
    Yields (shorthandProperty start key name) (·.legible) := by
  have hvalue : (Node.mk (.reference name) key.span []).legible := rfl
  refine .skip fun hasDefault => .ite ?_ ?_
  · refine .bind (yields_within _ yields_assignment) fun default hdefault => .skip fun _ => ?_
    exact yields_piece start rfl (by simp_all)
  · exact yields_piece start rfl (by simp_all)

/-- Behind a key stands a function or a value, or nothing. -/
theorem yields_propertyRest (isGenerator isName : Bool) (h : key.legible) :
    Yields (propertyRest start found isGenerator isName key isComputed) (·.legible) := by
  have hvalue := yields_valueProperty start isComputed h
  refine .skip fun _ => .skip fun _ => .ite ?_ (.skip fun _ => ?_)
  · exact yields_methodProperty start found isComputed isGenerator h
  · split
    · exact .skip fun atColon => .ite (yields_shorthandProperty start _ h) hvalue
    · exact hvalue

/-- A property with a key is made of it and of what stands behind it. -/
theorem yields_keyedProperty : Yields (keyedProperty start found) (·.legible) := by
  refine .skip fun isGenerator => .skip fun first => .skip fun around => ?_
  refine .bind yields_propertyKey fun ⟨key, isComputed⟩ hkey => ?_
  exact yields_propertyRest start found isComputed isGenerator _ hkey

end Properties

/-- A property is a spread, an accessor, or has a key. -/
theorem yields_objectProperty : Yields objectProperty (·.legible) := by
  refine .skip fun _ => .ite yields_spread (.skip fun start => .skip fun found => ?_)
  refine .skip fun isGetter => .ite (yields_accessorProperty start found _ _) ?_
  refine .skip fun isSetter => .ite (yields_accessorProperty start found _ _) ?_
  exact yields_keyedProperty start found

/-- An object literal is made of its properties. -/
theorem yields_objectLiteralRule : Yields objectLiteralRule (·.legible) := by
  refine .skip fun start => .skip fun _ => ?_
  refine .bind (yields_within _ (yields_commaList _ yields_objectProperty))
    fun ⟨properties, comma⟩ hproperties => ?_
  exact .skip fun _ => .skip fun _ => yields_piece start rfl hproperties

/-! ## Members of classes -/

/-- The key of a member is a private name or a key. -/
theorem yields_memberKey (found : List Modifier) : Yields (memberKey found) (·.node.legible) := by
  refine .skip fun s => .skip fun l => ?_
  split
  · exact .bind yields_privateName fun key hkey => .skip fun _ => .pure hkey
  · exact .bind yields_propertyKey fun ⟨key, isComputed⟩ hkey => .pure hkey

section Members

variable {decorated : List Node} {key : Node} {memberKey : MemberKey} (start : Nat)
  (found : List Modifier) (hdecorated : ∀ node ∈ decorated, node.legible)

include hdecorated

/-- A constructor has decorators, a key and a function. -/
theorem yields_constructorRest (hkey : key.legible) :
    Yields (constructorRest start decorated found key) (·.legible) := by
  refine .skip fun _ => .check (.bind (yields_methodValue _ _ _ _) fun value hvalue => ?_)
  exact .skip fun _ => yields_piece start rfl (by simp_all)

/-- So has an accessor. -/
theorem yields_classAccessor (role : MethodRole) :
    Yields (classAccessor start decorated found role) (·.legible) := by
  refine .bind (yields_memberKey found) fun key hkey => .check (.check ?_)
  refine .bind (yields_methodValue _ _ _ _) fun value hvalue => ?_
  refine .skip fun _ => .skip fun _ => .skip fun _ => ?_
  exact yields_piece start rfl (by simp_all)

omit hdecorated in
/-- The value of a field may be missing. -/
theorem yields_fieldValue : Yields fieldValue (·.legible) :=
  .skip fun _ => yields_optional (yields_within _ yields_assignment)

/-- A field has decorators, a key, a type and a value, whether it has accessors or not. -/
theorem yields_fieldRest (shape : MemberShape) (hkey : memberKey.node.legible) :
    Yields (fieldRest start decorated found memberKey shape) (·.legible) := by
  refine .skip fun isDefinite => .check ?_
  refine .bind yields_declaredType fun typed htyped => ?_
  refine .bind yields_fieldValue fun value hvalue => ?_
  have hparts : ∀ part ∈ [.list decorated, memberKey.node, typed, value], part.legible := by
    simp_all
  refine .skip fun _ => .skip fun _ => .check (.ite (.check ?_) (.check ?_))
  · exact yields_piece start rfl hparts
  · exact yields_piece start rfl hparts

/-- What stands behind a key decides whether it belongs to a method or to a field. -/
theorem yields_methodOrField : Yields (methodOrField start decorated found) (·.legible) := by
  refine .skip fun isGenerator => .bind (yields_memberKey found) fun key hkey => .check ?_
  refine .skip fun isOptional => .skip fun _ => .skip fun _ => .ite (.check ?_) ?_
  · refine .bind (yields_methodValue _ _ _ _) fun value hvalue => .skip fun _ => .skip fun _ => ?_
    exact yields_piece start rfl (by simp_all)
  · exact yields_fieldRest start found hdecorated _ hkey

omit hdecorated in
/-- A block among the members is made of statements. -/
theorem yields_staticBlock : Yields (staticBlock start decorated) (·.legible) := by
  have hblock : Yields (do
      advance
      expectSymbol "\x7b"
      let body ← within (fun s =>
          { s with inAsync := true, inGenerator := false, inFunction := false, topLevel := false })
        (upTo "\x7d" (goal (.statement .list)))
      expectSymbol "\x7d"
      node .staticBlock start body) (·.legible) := by
    refine .skip fun _ => .skip fun _ => ?_
    refine .bind (yields_within _ (yields_upTo _ (yields_goal_legible _))) fun body hbody => ?_
    exact .skip fun _ => yields_piece start rfl hbody
  unfold staticBlock
  split
  · exact .skip fun _ => hblock
  · exact hblock

/-- A member that is no block of statements is of one of the other kinds. -/
theorem yields_modifiedMember : Yields (modifiedMember start decorated found) (·.legible) := by
  have haccessor := yields_classAccessor start found hdecorated
  refine .skip fun isGetter => .ite (haccessor .getter) ?_
  refine .skip fun isSetter => .ite (haccessor .setter) ?_
  refine .skip fun isConstructor => .ite ?_ ?_
  · refine .bind yields_propertyKey fun ⟨key, isComputed⟩ hkey => ?_
    exact yields_constructorRest start found hdecorated hkey
  · refine .skip fun isIndex => .ite (yields_indexSignature start found) ?_
    refine .skip fun l => .check ?_
    exact yields_within _ (yields_methodOrField start found hdecorated)

end Members

/-- The decorators of a member are read before it. -/
theorem yields_classMember : Yields classMember (·.legible) := by
  refine .skip fun start => .bind yields_decorators fun decorated hdecorated => ?_
  refine .skip fun found => .skip fun isBlock => ?_
  exact .ite (yields_staticBlock start) (yields_modifiedMember start found hdecorated)

/-- The body of a class is made of its members. -/
theorem yields_classBody : Yields classBody (·.legible) := by
  refine .skip fun start => .skip fun _ => ?_
  refine .bind (yields_many _ yields_classMember) fun members hmembers => ?_
  exact .skip fun _ => yields_piece start rfl hmembers

/-! ## Classes -/

/-- Type arguments are split off an expression that has some, or read behind it. -/
theorem yields_splitArguments {parent : Node} (h : parent.legible) :
    Yields (splitArguments parent) fun found => found.1.legible ∧ found.2.legible := by
  unfold splitArguments
  split
  · obtain ⟨-, hparts⟩ := Node.legible_mk.1 h
    exact .pure ⟨hparts _ (by simp), hparts _ (by simp)⟩
  · exact .bind yields_typeArguments? fun arguments harguments => .pure ⟨h, harguments⟩

/-- What a class extends is an expression with type arguments. -/
theorem yields_classParent :
    Yields classParent fun found => found.1.legible ∧ found.2.legible := by
  refine .skip fun _ => .bind (yields_goal_legible _) fun parent hparent => ?_
  refine .bind (yields_splitArguments hparent) fun found hfound => ?_
  exact .skip fun _ => .pure hfound

/-- What a class implements is a name with type arguments. -/
theorem yields_implementedType : Yields implementedType (·.legible) := by
  refine .skip fun start => .bind yields_typeName fun name hname => ?_
  refine .bind yields_typeArguments? fun arguments harguments => ?_
  exact yields_piece start rfl (by simp [hname, harguments])

/-- A class that implements something implements one interface or more. -/
theorem yields_implementedTypes :
    Yields implementedTypes fun nodes => ∀ n ∈ nodes, n.legible := by
  refine .skip fun _ => .bind yields_implementedType fun first hfirst => ?_
  refine .bind (yields_many _ yields_implementedType) fun others hothers => ?_
  exact .pure (List.forall_mem_cons.2 ⟨hfirst, hothers⟩)

/-- What a class extends and implements. -/
structure Heritage.Legible (h : Heritage) : Prop where
  parent : h.parent.legible
  arguments : h.arguments.legible
  interfaces : ∀ node ∈ h.interfaces, node.legible

/-- A clause that extends another class replaces what has been extended before. -/
theorem yields_extendsClause {found : Heritage} (start : Nat) (h : found.Legible) :
    Yields (extendsClause found start) Heritage.Legible := by
  have hclause : ∀ parents : Node × Node, parents.1.legible ∧ parents.2.legible →
      Yields (return { found with
        parent := parents.1, arguments := parents.2, extendsAt := some start })
        Heritage.Legible :=
    fun parents hparents => .pure ⟨hparents.1, hparents.2, h.interfaces⟩
  unfold extendsClause
  split
  · exact .skip fun _ => .bind yields_classParent hclause
  · exact .bind yields_classParent hclause

/-- A clause that implements interfaces adds them to those before. -/
theorem yields_implementsClause {found : Heritage} (start : Nat) (h : found.Legible) :
    Yields (implementsClause found start) Heritage.Legible := by
  have hclause : Yields (do
      let interfaces ← implementedTypes
      return { found with
        interfaces := found.interfaces ++ interfaces
        implementsAt := found.implementsAt.or (some start) }) Heritage.Legible := by
    refine .bind yields_implementedTypes fun nodes hnodes => .pure ?_
    refine ⟨h.parent, h.arguments, ?_⟩
    simpa [or_imp, forall_and] using And.intro h.interfaces hnodes
  unfold implementsClause
  split
  · exact .skip fun _ => hclause
  · exact hclause

/-- Each clause keeps what has been read legible. -/
theorem yields_heritageFrom (fuel : Nat) {found : Heritage} (h : found.Legible) :
    Yields (heritageFrom fuel found) Heritage.Legible := by
  induction fuel generalizing found with
  | zero => exact .pure h
  | succ fuel ih =>
      refine .skip fun start => .skip fun isExtends => .ite ?_ ?_
      · exact .bind (yields_extendsClause start h) fun more hmore => ih hmore
      · refine .skip fun isImplements => .ite ?_ (.pure h)
        exact .bind (yields_implementsClause start h) fun more hmore => ih hmore

/-- A class without clauses extends and implements nothing. -/
theorem yields_heritage : Yields heritage Heritage.Legible :=
  .skip fun _ => yields_heritageFrom _ ⟨rfl, rfl, by simp⟩

/-- A class has a name of its own, or none. -/
theorem yields_className : Yields className OwnName := by
  have hname : ∀ isHeritage : Bool, Yields (do
      if mayBind (← lexeme) && !isHeritage then bindingName else return .none) OwnName :=
    fun isHeritage => .skip fun l => .ite yields_ownName (.pure .none)
  exact .skip fun _ => .ite (.skip fun _ => hname _) (.skip fun _ => hname _)

/-- Behind the name stand type parameters, clauses and members, all in one piece. -/
theorem yields_classParts : Yields classParts (·.legible) := by
  refine .skip fun start => .bind yields_typeParameters fun generics hgenerics => ?_
  refine .bind yields_heritage fun parents hparents => ?_
  refine .bind yields_classBody fun body hbody => yields_piece start rfl ?_
  simpa [hgenerics, hbody] using
    And.intro hparents.parent (And.intro hparents.arguments hparents.interfaces)

/-- A class has decorators, a name and its parts. -/
theorem yields_classFrom {decorated : List Node} (start : Nat) (found : List Modifier)
    (isDeclaration : Bool) (hdecorated : ∀ node ∈ decorated, node.legible) :
    Yields (classFrom start decorated found isDeclaration) (·.legible) := by
  refine .skip fun _ => .bind yields_className fun name hname => ?_
  refine .bind yields_classParts fun parts hparts => .skip fun _ => ?_
  refine yields_piece start ?_ (by simp_all [hname.legible])
  simp [Kind.fits, Kind.admits, Kind.isQuotable, hname.isOwnName]

/-- A class that is a value may have decorators, too. -/
theorem yields_classExpressionRule : Yields classExpressionRule (·.legible) := by
  refine .skip fun start => .bind yields_decorators fun decorated hdecorated => ?_
  refine .skip fun found => .skip fun isClass => .check ?_
  exact yields_classFrom start found false hdecorated

variable {source : List Char}

/-- The rule that a goal stands for passes the landmarks of the expression. -/
theorem follows_assignment : Follows source [] assignment Node.landmarks :=
  follows_goal _

/-- The rule that a goal stands for passes the landmarks of the pattern. -/
theorem follows_bindingPattern : Follows source [] bindingPattern Node.landmarks :=
  follows_goal _

/-! ## The places of patterns -/

/-- A missing value has no landmarks. -/
theorem follows_initializer : Follows source [] initializer Node.landmarks :=
  .skip fun _ => follows_optional (follows_within _ follows_assignment)

/-- A default is passed behind its pattern. -/
theorem follows_withDefault (start : Nat) (pattern : Node) :
    Follows source pattern.landmarks (withDefault start pattern) Node.landmarks := by
  refine .skip fun _ => .ite ?_ (.pure (List.Sublist.refl _))
  exact .step follows_initializer fun value => follows_node start rfl (by simp)

/-- A pattern is passed before its default. -/
theorem follows_patternWithDefault : Follows source [] patternWithDefault Node.landmarks :=
  .skip fun start => .step follows_bindingPattern fun _ => follows_withDefault start _

/-- A rest has the landmarks of its pattern. -/
theorem follows_restElement : Follows source [] restElement Node.landmarks := by
  refine .fromWord fun start => .step follows_bindingPattern fun pattern => ?_
  exact .skip fun _ => .ite (.skip fun _ => .fail) (follows_node start rfl (by simp))

/-- A rest that has been read is there. -/
theorem yields_isPresent_restElement : Yields restElement (·.isPresent) := by
  refine .fromWord fun start => .skip fun pattern => .skip fun _ => ?_
  have hrest : Yields (node .restElement start [pattern]) (·.isPresent) :=
    .skip fun _ => .pure rfl
  exact .ite (.skip fun _ => .skip fun _ => hrest) hrest

/-- Behind a rest a list ends, so that where it goes on there is none, or no piece at all. -/
theorem yields_endsAtComma (close : String) (notLast : Complaint) (isFirst : Bool) (last : Node) :
    Yields (endsAtComma close notLast isFirst last) fun ends =>
      ends = false → isFirst = true ∨ last.isPresent = false := by
  cases isFirst with
  | true => exact .pure fun _ => .inl rfl
  | false =>
      refine .skip fun offset => .skip fun atClose => .ite ?_ ?_
      · exact .skip fun around => .check (.pure nofun)
      · exact .check (.pure .inr)

protected instance Quiet.atListEnd (close : String) : Quiet (atListEnd close) := by
  unfold Parser.atListEnd
  infer_instance

protected instance Quiet.passComma (close : String) : Quiet (passComma close) := by
  unfold Parser.passComma
  infer_instance

protected instance Quiet.endsAtComma (close : String) (notLast : Complaint) (isFirst : Bool)
    (last : Node) : Quiet (endsAtComma close notLast isFirst last) := by
  unfold Parser.endsAtComma
  infer_instance

section ListWithRest

variable {piece rest : Parser Node} (close : String) (notLast : Complaint)
  (hpiece : Follows source [] piece Node.landmarks) (hrest : Follows source [] rest Node.landmarks)
  (hpresent : Yields rest (·.isPresent))

include hpiece hrest hpresent

/-- The pieces that have been read, and the rest behind them, have been passed in this order. -/
theorem follows_piecesWithRest (fuel : Nat) (pieces : List Node) {last : Node}
    (hlast : last = .none ∨ last.isPresent) :
    Follows source (pieces.reverse.flatMap Node.landmarks ++ last.landmarks)
      (piecesWithRest close piece rest notLast fuel pieces last) fun found =>
        found.1.flatMap Node.landmarks ++ found.2.landmarks := by
  induction fuel generalizing pieces last with
  | zero => exact .pure (List.Sublist.refl _)
  | succ fuel ih =>
      have hdone : Follows source (pieces.reverse.flatMap Node.landmarks ++ last.landmarks)
          (return (pieces.reverse, last)) fun found : List Node × Node =>
            found.1.flatMap Node.landmarks ++ found.2.landmarks :=
        .pure (List.Sublist.refl _)
      refine .skip fun atEnd => .ite hdone ?_
      extract_lets isFirst
      refine .skipOf (yields_endsAtComma close notLast isFirst last) fun ends hgoesOn => ?_
      split
      · exact hdone
      -- Neither the first piece nor one behind a comma that is passed comes behind a rest.
      · rename_i hends
        have hnone : last = .none := by
          refine hlast.resolve_right fun h => ?_
          rcases hgoesOn (by simpa using hends) with hfirst | hmissing
          · simp [isFirst, h] at hfirst
          · simp [h] at hmissing
        subst hnone
        refine .skip fun atRest => .ite ?_ ?_
        · refine .stepOf hpresent hrest fun last hlast => ?_
          exact .drop (by simp) (ih pieces (.inr hlast))
        · exact .step hpiece fun next => .drop (by simp) (ih (next :: pieces) (.inl rfl))

/-- Nothing is read behind a rest, so that it is the last in the text as well. -/
theorem follows_listWithRest :
    Follows source [] (listWithRest close piece rest notLast) fun found =>
      found.1.flatMap Node.landmarks ++ found.2.landmarks :=
  .skip fun _ => follows_piecesWithRest close notLast hpiece hrest hpresent _ [] (.inl rfl)

end ListWithRest

/-- A key is passed before its pattern. -/
theorem follows_keyedPattern (start : Nat) (key : Node) (isComputed : Bool) :
    Follows source key.landmarks (keyedPattern start key isComputed) Node.landmarks := by
  refine .skip fun _ => .step follows_patternWithDefault fun value => ?_
  exact follows_node start rfl (by simp)

/-- A name that is declared is no use of it. -/
theorem follows_shorthandPattern (start : Nat) (key : Node) (name : String) :
    Follows source key.landmarks (shorthandPattern start key name) Node.landmarks := by
  have hvalue : Follows source [] (withDefault start (.mk (.binding name) key.span []))
      Node.landmarks := .drop (by simp [Kind.landmarks]) (follows_withDefault start _)
  exact .step hvalue fun value => follows_node start rfl (by simp)

/-- The key of a property is passed first, whether it is the name as well or not. -/
theorem follows_patternProperty : Follows source [] patternProperty Node.landmarks := by
  refine .skip fun start => .skip fun first => ?_
  refine .step follows_propertyKey fun ⟨key, isComputed⟩ => ?_
  dsimp only
  split
  · refine .skip fun _ => .ite (follows_shorthandPattern start key _) ?_
    exact follows_keyedPattern start key isComputed
  · exact follows_keyedPattern start key isComputed

/-- A missing element has no landmarks. -/
theorem follows_patternElement : Follows source [] patternElement Node.landmarks := by
  refine .skip fun _ => .ite (.skip fun start => ?_) follows_patternWithDefault
  exact follows_node start rfl (by simp)

protected instance Quiet.checkObjectRest (rest : Node) : Quiet (checkObjectRest rest) := by
  unfold Parser.checkObjectRest
  split <;> infer_instance

/-- The properties of a pattern are passed before its rest. -/
theorem follows_objectPattern : Follows source [] objectPattern Node.landmarks := by
  refine .fromWord fun start => ?_
  refine .step (follows_listWithRest _ _ follows_patternProperty follows_restElement
    yields_isPresent_restElement) fun ⟨properties, rest⟩ => ?_
  exact .skip fun _ => .skip fun _ => follows_node start rfl (by simp)

/-- The elements of a pattern are passed before its rest. -/
theorem follows_arrayPattern : Follows source [] arrayPattern Node.landmarks := by
  refine .fromWord fun start => ?_
  refine .step (follows_listWithRest _ _ follows_patternElement follows_restElement
    yields_isPresent_restElement) fun ⟨elements, rest⟩ => ?_
  exact .skip fun _ => follows_node start rfl (by simp)

/-- The landmarks of a pattern stand in its keys and defaults. -/
theorem follows_bindingPatternRule : Follows source [] bindingPatternRule Node.landmarks := by
  refine .skip fun l => ?_
  split
  · exact follows_objectPattern
  · exact follows_arrayPattern
  · exact follows_bindingName

/-! ## The places of parameters and bodies -/

/-- A decorator has the landmarks of its expression. -/
theorem follows_decorator : Follows source [] decorator Node.landmarks := by
  refine .fromWord fun start => .step (follows_within _ (follows_goal _)) fun e => ?_
  exact follows_node start rfl (by simp)

/-- Decorators are passed one behind the other. -/
theorem follows_decorators : Follows source [] decorators (·.flatMap Node.landmarks) :=
  follows_many _ follows_decorator

/-- Complaints about pieces of syntax. -/
protected instance Quiet.complainAll (nodes : List Node) (complaint : Node → Parser Unit)
    [∀ node, Quiet (complaint node)] : Quiet (nodes.forM complaint) := by
  induction nodes with
  | nil => exact Quiet.pure _
  | cons node rest ih => exact .skip fun _ => ih

/-- A parameter is passed in the order of its parts: decorators, pattern, type, value. -/
theorem follows_parameter (ofMethod : Bool) :
    Follows source [] (parameter ofMethod) Node.landmarks := by
  refine .skip fun start => .step follows_decorators fun decorated => .skip fun found => ?_
  refine .skip fun _ => .step follows_bindingPattern fun pattern => .skip fun isOptional => ?_
  refine .step follows_declaredType fun typed => ?_
  refine .step follows_initializer fun value => .check (.check ?_)
  exact follows_node start rfl (by simp)

protected instance Quiet.passOptionalRest : Quiet passOptionalRest := by
  unfold Parser.passOptionalRest
  infer_instance

protected instance Quiet.refuseDefault (complaint : Complaint) :
    Quiet (refuseDefault complaint) := by
  unfold Parser.refuseDefault
  infer_instance

/-- The pattern of a rest is passed before its type. -/
theorem follows_restParameter : Follows source [] restParameter Node.landmarks := by
  refine .fromWord fun start => .step follows_bindingPattern fun pattern => ?_
  refine .piece start [] rfl (by simp) fun element => .skip fun _ => ?_
  refine .step follows_declaredType fun typed => .skip fun _ => ?_
  exact follows_node start rfl (by simp)

/-- A rest that has been read is there. -/
theorem yields_isPresent_restParameter : Yields restParameter (·.isPresent) := by
  refine .fromWord fun start => .skip fun pattern => .skip fun element => ?_
  refine .skip fun _ => .skip fun typed => .skip fun _ => ?_
  exact .skip fun span => .pure rfl

/-- The parameter for `this` has the landmarks of its type. -/
theorem follows_thisParameter : Follows source [] thisParameter Node.landmarks := by
  refine .fromWord fun start => .step follows_declaredType fun typed => ?_
  exact follows_node start rfl (by simp)

/-- A missing parameter for `this` has no landmarks. -/
theorem follows_leadingThis : Follows source [] leadingThis Node.landmarks := by
  refine .skip fun isThis => .ite follows_none ?_
  refine .step follows_thisParameter fun this => .skip fun atEnd => .check ?_
  exact .pure (List.Sublist.refl _)

/-- The parameter for `this` is passed first, and the rest last. -/
theorem follows_parametersRule (ofMethod : Bool) :
    Follows source [] (parametersRule ofMethod) Node.landmarks := by
  refine .skip fun start => .skip fun _ => .step follows_leadingThis fun this => ?_
  refine .step (follows_listWithRest _ _ (follows_parameter ofMethod) follows_restParameter
    yields_isPresent_restParameter) fun ⟨parameters, last⟩ => .skip fun _ => ?_
  refine .piece start this.landmarks rfl ?_ fun others => follows_node start rfl (by simp)
  split <;> simp

/-- A directive has no landmarks, so that those of the statements stay in order. -/
theorem follows_statementsFrom (atTop : Bool) (fuel : Nat) (inPrologue : Bool)
    {directives : List Node} (found : List Node) (h : directives.flatMap Node.landmarks = []) :
    Follows source (found.reverse.flatMap Node.landmarks)
      (statementsFrom atTop fuel inPrologue directives found)
      fun found => found.1.flatMap Node.landmarks ++ found.2.flatMap Node.landmarks := by
  have hdone : ∀ directives found : List Node, directives.flatMap Node.landmarks = [] →
      Follows source (found.reverse.flatMap Node.landmarks)
        (return (directives.reverse, found.reverse)) fun found : List Node × List Node =>
          found.1.flatMap Node.landmarks ++ found.2.flatMap Node.landmarks := by
    intro directives found h
    refine .pure ?_
    simp_all
  induction fuel generalizing inPrologue directives found with
  | zero => exact hdone directives found h
  | succ fuel ih =>
      refine .skip fun t => .ite (hdone directives found h) ?_
      refine .step (follows_goal _) fun statement => ?_
      split
      · exact .drop (by simp) (ih _ found (by simpa [Kind.landmarks] using h))
      · exact .drop (by simp) (ih _ _ h)

/-- The statements of a body are passed one behind the other. -/
theorem follows_statements (atTop : Bool) : Follows source [] (statements atTop)
    fun found => found.1.flatMap Node.landmarks ++ found.2.flatMap Node.landmarks :=
  .skip fun _ => follows_statementsFrom atTop _ _ [] rfl

/-- A body has the landmarks of its statements. -/
theorem follows_functionBodyRule : Follows source [] functionBodyRule Node.landmarks := by
  refine .skip fun start => .skip fun _ => ?_
  refine .step (follows_within _ (follows_statements false)) fun ⟨directives, found⟩ => ?_
  exact .skip fun _ => follows_node start rfl (by simp)

/-! ## The places of functions -/

/-- What stands behind the name of a function is passed in the order of its parts. -/
theorem follows_functionParts (name : Node) (ofMethod : Bool) :
    Follows source name.landmarks (functionParts ofMethod)
      fun parts => (parts.named name).flatMap Node.landmarks := by
  refine .step follows_typeParameters fun generics => ?_
  refine .step (follows_parametersOf ofMethod) fun ⟨this, parameters⟩ => ?_
  refine .step (follows_declaredResult ":") fun result => .skip fun hasBody => ?_
  refine .choose (follows_goal _) follows_none fun body => .pure ?_
  simp [FunctionParts.named]

/-- The name of a function is passed before its parts. -/
theorem follows_functionRest (start : Nat) (name : Node) (shape : FunctionShape)
    (ofMethod : Bool) :
    Follows source name.landmarks (functionRest start name shape ofMethod) Node.landmarks := by
  refine .bind (follows_within _ (follows_functionParts name ofMethod)) fun parts => ?_
  exact .check (follows_node start rfl (List.Sublist.refl _))

protected instance Quiet.complainOfName (t : Token) : Quiet (complainOfName t) := by
  unfold Parser.complainOfName
  split <;> infer_instance

/-- The name of a function is no use of it. -/
theorem follows_functionName (isRequired : Bool) :
    Follows source [] (functionName isRequired) Node.landmarks :=
  .skip fun _ => .ite follows_bindingName (.check follows_none)

/-- The words before the name of a function have no landmarks. -/
theorem follows_functionFrom (start : Nat) (form : FunctionForm)
    (isAsync isDeclare nameRequired : Bool) :
    Follows source [] (functionFrom start form isAsync isDeclare nameRequired) Node.landmarks := by
  have hname : Follows source [] (functionName nameRequired) Node.landmarks :=
    follows_functionName nameRequired
  refine .skip fun t => .skip fun _ => .skip fun isGenerator => ?_
  refine .choose (follows_within _ hname) hname fun name => ?_
  exact follows_functionRest start name _ false

protected instance Quiet.atAsyncFunction : Quiet atAsyncFunction := by
  unfold Parser.atAsyncFunction
  infer_instance

/-- A note on how a function is written makes no difference to its landmarks. -/
theorem follows_functionExpressionRule :
    Follows source [] functionExpressionRule Node.landmarks := by
  refine .skip fun start => .skip fun t => .skip fun isAsync => ?_
  refine .step (follows_functionFrom start .expression isAsync false false) fun function => ?_
  split
  · exact .pure (by simp [Kind.landmarks])
  · exact .pure (by simp)

/-- A method has the landmarks of a function. -/
theorem follows_methodValue (role : MethodRole) (isAsync isGenerator ofMethod : Bool) :
    Follows source [] (methodValue role isAsync isGenerator ofMethod) Node.landmarks :=
  .skip fun start => .drop (by simp) (follows_functionRest start .none _ ofMethod)

protected instance Quiet.checkAccessor (role : MethodRole) (function : Node) :
    Quiet (checkAccessor role function) := by
  unfold Parser.checkAccessor
  split
  · infer_instance
  · dsimp only
    split <;> infer_instance
  · infer_instance

/-! ## The places of object and array literals -/

protected instance Quiet.rememberComma (start : Nat) (comma : Option Nat) :
    Quiet (rememberComma start comma) := by
  unfold Parser.rememberComma
  split <;> infer_instance

/-- A spread has the landmarks of its expression. -/
theorem follows_spread : Follows source [] spread Node.landmarks := by
  refine .fromWord fun start => .step follows_assignment fun inner => ?_
  exact follows_node start rfl (by simp)

/-- An element is passed where it stands. -/
theorem follows_arrayElement : Follows source [] arrayElement Node.landmarks := by
  refine .skip fun isMissing => .ite (.skip fun start => ?_) ?_
  · exact follows_node start rfl (by simp)
  · exact .skip fun isSpread => .ite follows_spread follows_assignment

/-- Elements are passed one behind the other. -/
theorem follows_arrayLiteral : Follows source [] arrayLiteral Node.landmarks := by
  refine .fromWord fun start => ?_
  refine .step (follows_within _ (follows_commaList _ follows_arrayElement))
    fun ⟨elements, comma⟩ => ?_
  exact .skip fun _ => .skip fun _ => follows_node start rfl (by simp)

section Properties

variable (start : Nat) (found : List Modifier) (key : Node) (isComputed : Bool)

/-- The key of an accessor is passed before its function. -/
theorem follows_accessorProperty (propertyRole : PropertyRole) (role : MethodRole) :
    Follows source [] (accessorProperty start found propertyRole role) Node.landmarks := by
  refine .skip fun _ => .step follows_propertyKey fun ⟨key, isComputed⟩ => ?_
  refine .step (follows_methodValue _ _ _ _) fun value => .skip fun _ => ?_
  exact follows_node start rfl (by simp)

/-- A method is passed behind its key. -/
theorem follows_methodProperty (isGenerator : Bool) : Follows source key.landmarks
    (methodProperty start found isGenerator key isComputed) Node.landmarks := by
  refine .skip fun _ => .step (follows_methodValue _ _ _ _) fun value => ?_
  exact follows_node start rfl (by simp)

/-- A value is passed behind its key. -/
theorem follows_valueProperty :
    Follows source key.landmarks (valueProperty start key isComputed) Node.landmarks := by
  refine .skip fun _ => .step follows_assignment fun value => ?_
  exact follows_node start rfl (by simp)

/-- A key that uses a name as well is passed as this use. -/
theorem follows_shorthandProperty {name : String} (h : key.kind = .word name) :
    Follows source key.landmarksAsUse (shorthandProperty start key name) Node.landmarks := by
  obtain ⟨kind, span, parts⟩ := key
  obtain rfl : kind = .word name := h
  refine .skip fun hasDefault => .ite ?_ ?_
  · refine .step (follows_within _ follows_assignment) fun default => .skip fun _ => ?_
    exact follows_node start rfl (by simp [Node.landmarksAsUse, Kind.landmarks, Node.span])
  · exact follows_node start rfl (by simp [Node.landmarksAsUse, Kind.landmarks, Node.span])

/-- The landmarks that a key may have, which depend on whether a name stands first in it. -/
def keyLandmarks (isName : Bool) (key : Node) : List Landmark :=
  if isName then key.landmarksAsUse else key.landmarks

/-- They are not fewer than those of the key. -/
theorem landmarks_sublist_keyLandmarks (isName : Bool) :
    key.landmarks.Sublist (keyLandmarks isName key) := by
  cases isName with
  | true => exact key.landmarks_sublist_asUse
  | false => exact List.Sublist.refl _

/-- A key is read as a word at a token that may be a name. -/
theorem followsAt_propertyKey_of_name {first : Token} {isName : Bool}
    (h : isName = true → isAnyWord first.lexeme = true) :
    FollowsAt source (·.token = first) [] propertyKey (keyLandmarks isName ·.1) := by
  cases isName with
  | true => exact followsAt_propertyKey.mono fun s hs => hs ▸ h rfl
  | false => exact .of_follows follows_propertyKey

/-- The key counts as the use of a name only where it is a name, and there is no colon. -/
theorem follows_propertyRest (isGenerator isName : Bool) :
    Follows source (keyLandmarks isName key)
      (propertyRest start found isGenerator isName key isComputed) Node.landmarks := by
  have hfewer := landmarks_sublist_keyLandmarks key isName
  have hvalue : Follows source (keyLandmarks isName key) (valueProperty start key isComputed)
      Node.landmarks := .drop hfewer (follows_valueProperty start key isComputed)
  refine .skip fun _ => .skip fun _ => .ite ?_ (.skip fun _ => ?_)
  · exact .drop hfewer (follows_methodProperty start found key isComputed isGenerator)
  · split
    · rename_i name hword
      refine .skip fun atColon => ?_
      split
      · rename_i hshorthand
        rw [keyLandmarks, if_pos (Bool.and_eq_true_iff.1 hshorthand).1]
        exact follows_shorthandProperty start key hword
      · exact hvalue
    · exact hvalue

/-- Where a name stands first, the key may be the use of that name as well. -/
theorem follows_keyedProperty : Follows source [] (keyedProperty start found) Node.landmarks := by
  refine .skip fun isGenerator => .token fun first => .look ?_ fun around => ?_
  · intro env s a s' _ hrun
    cases hrun
    rfl
  extract_lets isName
  have hkey : FollowsAt source (·.token = first) [] propertyKey (keyLandmarks isName ·.1) :=
    followsAt_propertyKey_of_name isAnyWord_of_mayName
  refine .step hkey fun ⟨key, isComputed⟩ => ?_
  exact follows_propertyRest start found key isComputed isGenerator isName

end Properties

/-- A property is passed as what it is. -/
theorem follows_objectProperty : Follows source [] objectProperty Node.landmarks := by
  refine .skip fun _ => .ite follows_spread (.skip fun start => .skip fun found => ?_)
  refine .skip fun isGetter => .ite (follows_accessorProperty start found _ _) ?_
  refine .skip fun isSetter => .ite (follows_accessorProperty start found _ _) ?_
  exact follows_keyedProperty start found

/-- Properties are passed one behind the other. -/
theorem follows_objectLiteralRule : Follows source [] objectLiteralRule Node.landmarks := by
  refine .skip fun start => .skip fun _ => ?_
  refine .step (follows_within _ (follows_commaList _ follows_objectProperty))
    fun ⟨properties, comma⟩ => ?_
  exact .skip fun _ => .skip fun _ => follows_node start rfl (by simp)

/-! ## The places of members of classes -/

protected instance Quiet.checkPrivateKey (found : List Modifier) (name : String) (key : Node) :
    Quiet (checkPrivateKey found name key) := by
  unfold Parser.checkPrivateKey
  dsimp only
  split <;> infer_instance

/-- The key of a member is passed as a key. -/
theorem follows_memberKey (found : List Modifier) :
    Follows source [] (memberKey found) (·.node.landmarks) := by
  refine .skip fun s => .skip fun l => ?_
  split
  · refine .step follows_privateName fun key => .skip fun _ => ?_
    exact .pure (List.Sublist.refl _)
  · exact .step follows_propertyKey fun ⟨key, isComputed⟩ => .pure (List.Sublist.refl _)

protected instance Quiet.checkAbstract (subject : String) (found : List Modifier) (key : MemberKey)
    (value : Node) : Quiet (checkAbstract subject found key value) := by
  unfold Parser.checkAbstract
  infer_instance

protected instance Quiet.checkConstructor (value : Node) : Quiet (checkConstructor value) := by
  unfold Parser.checkConstructor
  split <;> infer_instance

section Members

variable (start : Nat) (decorated : List Node) (found : List Modifier)

/-- A constructor is passed behind its decorators and its key. -/
theorem follows_constructorRest (key : Node) :
    Follows source (decorated.flatMap Node.landmarks ++ key.landmarks)
      (constructorRest start decorated found key) Node.landmarks := by
  refine .skip fun _ => .check (.step (follows_methodValue _ _ _ _) fun value => ?_)
  exact .skip fun _ => follows_node start rfl (by simp)

/-- An accessor is passed behind its decorators, its key first. -/
theorem follows_classAccessor (role : MethodRole) :
    Follows source (decorated.flatMap Node.landmarks) (classAccessor start decorated found role)
      Node.landmarks := by
  refine .step (follows_memberKey found) fun key => .check (.check ?_)
  refine .step (follows_methodValue _ _ _ _) fun value => ?_
  exact .skip fun _ => .skip fun _ => .skip fun _ => follows_node start rfl (by simp)

/-- A missing value has no landmarks. -/
theorem follows_fieldValue : Follows source [] fieldValue Node.landmarks :=
  .skip fun _ => follows_optional (follows_within _ follows_assignment)

/-- The type of a field is passed before its value. -/
theorem follows_fieldRest (key : MemberKey) (shape : MemberShape) :
    Follows source (decorated.flatMap Node.landmarks ++ key.node.landmarks)
      (fieldRest start decorated found key shape) Node.landmarks := by
  refine .skip fun isDefinite => .check ?_
  refine .step follows_declaredType fun typed => .step follows_fieldValue fun value => ?_
  refine .skip fun _ => .skip fun _ => .check (.ite (.check ?_) (.check ?_))
  · exact follows_node start rfl (by simp)
  · exact follows_node start rfl (by simp)

/-- The key of a method or a field is passed behind its decorators. -/
theorem follows_methodOrField : Follows source (decorated.flatMap Node.landmarks)
    (methodOrField start decorated found) Node.landmarks := by
  refine .skip fun isGenerator => .step (follows_memberKey found) fun key => .check ?_
  refine .skip fun isOptional => .skip fun _ => .skip fun _ => .ite (.check ?_) ?_
  · refine .step (follows_methodValue _ _ _ _) fun value => .skip fun _ => .skip fun _ => ?_
    exact follows_node start rfl (by simp)
  · exact follows_fieldRest start decorated found key _

/-- A block among the members needs no decorators. -/
theorem follows_staticBlock : Follows source [] (staticBlock start decorated) Node.landmarks := by
  have hblock : Follows source [] (do
      advance
      expectSymbol "\x7b"
      let body ← within (fun s =>
          { s with inAsync := true, inGenerator := false, inFunction := false, topLevel := false })
        (upTo "\x7d" (goal (.statement .list)))
      expectSymbol "\x7d"
      node .staticBlock start body) Node.landmarks := by
    refine .skip fun _ => .skip fun _ => ?_
    refine .step (follows_within _ (follows_upTo _ (follows_goal _))) fun body => ?_
    exact .skip fun _ => follows_node start rfl (by simp)
  unfold staticBlock
  split
  · exact .skip fun _ => hblock
  · exact hblock

protected instance Quiet.atConstructor : Quiet atConstructor := by
  refine .skip fun l => ?_
  extract_lets isNamed
  infer_instance

/-- A member is passed behind its decorators. Those of an index signature are dropped. -/
theorem follows_modifiedMember : Follows source (decorated.flatMap Node.landmarks)
    (modifiedMember start decorated found) Node.landmarks := by
  refine .skip fun isGetter => .ite (follows_classAccessor start decorated found _) ?_
  refine .skip fun isSetter => .ite (follows_classAccessor start decorated found _) ?_
  refine .skip fun isConstructor => .ite ?_ ?_
  · refine .step follows_propertyKey fun ⟨key, isComputed⟩ => ?_
    exact follows_constructorRest start decorated found key
  · refine .skip fun isIndex => .ite (.alone (follows_indexSignature start found)) ?_
    refine .skip fun l => .check ?_
    exact follows_within _ (follows_methodOrField start decorated found)

end Members

protected instance Quiet.atStaticBlock : Quiet atStaticBlock := by
  unfold Parser.atStaticBlock
  infer_instance

/-- The decorators of a member are passed first. -/
theorem follows_classMember : Follows source [] classMember Node.landmarks := by
  refine .skip fun start => .step follows_decorators fun decorated => ?_
  refine .skip fun found => .skip fun isBlock => .ite ?_ ?_
  · exact .alone (follows_staticBlock start decorated)
  · exact follows_modifiedMember start decorated found

/-- Quiet pieces are quiet, however many of them are read. -/
protected instance Quiet.many (more : Parser Bool) (piece : Parser Node) [Quiet more]
    [Quiet piece] : Quiet (many more piece) := by
  have hgo : ∀ fuel found, Quiet (many.go more piece fuel found) := by
    intro fuel
    induction fuel with
    | zero => exact fun found => Quiet.pure _
    | succ fuel ih =>
        refine fun found => .skip fun _ => ?_
        split
        · exact .skip fun node => ih _
        · exact Quiet.pure _
  exact .skip fun s => hgo _ _

protected instance Quiet.beforeMember : Quiet beforeMember := by
  unfold Parser.beforeMember
  infer_instance

/-- Members are passed one behind the other. -/
theorem follows_classBody : Follows source [] classBody Node.landmarks := by
  refine .skip fun start => .skip fun _ => ?_
  refine .step (follows_many _ follows_classMember) fun members => ?_
  exact .skip fun _ => follows_node start rfl (by simp)

/-! ## The places of classes -/

/-- Type arguments are passed behind the expression they belong to, before or after it is split. -/
theorem follows_splitArguments (parent : Node) :
    Follows source parent.landmarks (splitArguments parent)
      fun found => found.1.landmarks ++ found.2.landmarks := by
  unfold splitArguments
  split
  · exact .pure (by simp [Kind.landmarks])
  · exact .step follows_typeArguments? fun arguments => .pure (List.Sublist.refl _)

/-- What else a class is said to extend is passed, and not kept. -/
theorem follows_passOtherParent (marks : List Landmark) :
    Follows source marks passOtherParent fun _ => marks := by
  refine .skip fun atComma => .ite ?_ (.pure (List.Sublist.refl _))
  refine .skip fun offset => .skip fun _ => .step (follows_goal _) fun other => ?_
  exact .drop (List.sublist_append_left _ _) .quiet

/-- What a class extends is passed before its type arguments. -/
theorem follows_classParent : Follows source [] classParent
    fun found => found.1.landmarks ++ found.2.landmarks := by
  refine .skip fun _ => .step (follows_goal _) fun parent => ?_
  refine .bind (follows_splitArguments parent) fun found => ?_
  exact .bind (follows_passOtherParent _) fun _ => .pure (List.Sublist.refl _)

/-- The name of an interface is passed before its arguments. -/
theorem follows_implementedType : Follows source [] implementedType Node.landmarks := by
  refine .skip fun start => .step follows_typeName fun name => ?_
  exact .step follows_typeArguments? fun arguments => follows_node start rfl (by simp)

/-- Interfaces are passed one behind the other. -/
theorem follows_implementedTypes :
    Follows source [] implementedTypes (·.flatMap Node.landmarks) := by
  refine .skip fun _ => .step follows_implementedType fun first => ?_
  exact .step (follows_many _ follows_implementedType) fun others => .pure (by simp)

/-- The landmarks of what a class extends and implements. -/
def Heritage.landmarks (h : Heritage) : List Landmark :=
  h.parent.landmarks ++ h.arguments.landmarks ++ h.interfaces.flatMap Node.landmarks

/-- Whether there are no interfaces before the first clause that names some. -/
def Heritage.IsOrderly (h : Heritage) : Prop :=
  h.implementsAt = none → h.interfaces = []

/-- What a class extends adds no interface. -/
theorem yields_isOrderly_extendsClause {found : Heritage} (start : Nat) (h : found.IsOrderly) :
    Yields (extendsClause found start) Heritage.IsOrderly := by
  have hclause : ∀ parents : Node × Node, Yields (return { found with
      parent := parents.1, arguments := parents.2, extendsAt := some start })
      Heritage.IsOrderly :=
    fun parents => .pure h
  unfold extendsClause
  split
  · exact .skip fun _ => .skip hclause
  · exact .skip hclause

/-- Parents stand before interfaces. Where they are read behind them there is a complaint. -/
theorem follows_extendsClause {found : Heritage} (start : Nat) (h : found.IsOrderly) :
    Follows source found.landmarks (extendsClause found start) Heritage.landmarks := by
  have hparents : ∀ parents : Node × Node, Follows source
      (Heritage.landmarks { found with parent := parents.1, arguments := parents.2 })
      (return { found with
        parent := parents.1, arguments := parents.2, extendsAt := some start })
      Heritage.landmarks :=
    fun parents => .pure (List.Sublist.refl _)
  unfold extendsClause
  split
  · exact .complain _ follows_classParent hparents
  · rename_i hnone
    refine .step follows_classParent fun parents => .drop ?_ (hparents parents)
    have hfirst : found.implementsAt = none := by
      unfold Heritage.complaintOfExtends? at hnone
      split at hnone <;> simp_all
    simp [Heritage.landmarks, h hfirst]

/-- Interfaces are passed behind those before. -/
theorem follows_implementsClause (found : Heritage) (start : Nat) :
    Follows source found.landmarks (implementsClause found start) Heritage.landmarks := by
  have hclause : Follows source found.landmarks (do
      let interfaces ← implementedTypes
      return { found with
        interfaces := found.interfaces ++ interfaces
        implementsAt := found.implementsAt.or (some start) }) Heritage.landmarks :=
    .step follows_implementedTypes fun interfaces => .pure (by simp [Heritage.landmarks])
  unfold implementsClause
  split
  · exact .skip fun _ => hclause
  · exact hclause

/-- Behind a clause that names interfaces there is nothing to say about them. -/
theorem yields_isOrderly_implementsClause (found : Heritage) (start : Nat) :
    Yields (implementsClause found start) Heritage.IsOrderly := by
  have hclause : Yields (do
      let interfaces ← implementedTypes
      return { found with
        interfaces := found.interfaces ++ interfaces
        implementsAt := found.implementsAt.or (some start) }) Heritage.IsOrderly :=
    .skip fun _ => .pure fun hnone => by simp at hnone
  unfold implementsClause
  split
  · exact .skip fun _ => hclause
  · exact hclause

/-- Clauses are passed one behind the other, or else there is a complaint. -/
theorem follows_heritageFrom (fuel : Nat) {found : Heritage} (h : found.IsOrderly) :
    Follows source found.landmarks (heritageFrom fuel found) Heritage.landmarks := by
  induction fuel generalizing found with
  | zero => exact .pure (List.Sublist.refl _)
  | succ fuel ih =>
      refine .skip fun start => .skip fun isExtends => .ite ?_ ?_
      · refine .bindOf (yields_isOrderly_extendsClause start h) (follows_extendsClause start h) ?_
        exact fun more hmore => ih hmore
      · refine .skip fun isImplements => .ite ?_ (.pure (List.Sublist.refl _))
        refine .bindOf (yields_isOrderly_implementsClause found start)
          (follows_implementsClause found start) ?_
        exact fun more hmore => ih hmore

/-- What a class extends stands before what it implements, or else there is a complaint. -/
theorem follows_heritage : Follows source [] heritage Heritage.landmarks :=
  .skip fun _ => .drop (by simp [Heritage.landmarks]) (follows_heritageFrom _ fun _ => rfl)

/-- The name of a class is no use of it. -/
theorem follows_className : Follows source [] className Node.landmarks := by
  have hname : ∀ isHeritage : Bool, Follows source [] (do
      if mayBind (← lexeme) && !isHeritage then bindingName else return .none) Node.landmarks :=
    fun isHeritage => .skip fun l => .ite follows_bindingName follows_none
  exact .skip fun _ => .ite (.skip fun _ => hname _) (.skip fun _ => hname _)

/-- What stands behind the name of a class is passed in the order of its parts. -/
theorem follows_classParts : Follows source [] classParts Node.landmarks := by
  refine .skip fun start => .step follows_typeParameters fun generics => ?_
  refine .step follows_heritage fun parents => .step follows_classBody fun body => ?_
  exact follows_node start rfl (by simp [Heritage.landmarks])

/-- A class is passed behind its decorators. -/
theorem follows_classFrom (start : Nat) (decorated : List Node) (found : List Modifier)
    (isDeclaration : Bool) : Follows source (decorated.flatMap Node.landmarks)
      (classFrom start decorated found isDeclaration) Node.landmarks := by
  refine .skip fun _ => .step follows_className fun name => ?_
  refine .step follows_classParts fun parts => .skip fun _ => ?_
  exact follows_node start rfl (by simp)

/-- The decorators of a class are passed first. -/
theorem follows_classExpressionRule : Follows source [] classExpressionRule Node.landmarks := by
  refine .skip fun start => .step follows_decorators fun decorated => ?_
  refine .skip fun found => .skip fun isClass => .check ?_
  exact follows_classFrom start decorated found false

end JsxTidy.Parser
