import JsxTidy.Parser.Type
import JsxTidy.Proofs.Parser.Names

/-!
# Reading types

Types are legible, and so are their parameters and arguments and the members of type literals. Their
landmarks are passed in order.
-/

namespace JsxTidy.Parser

open Syntax

/-- The rule for types is reached through a goal. -/
theorem yields_type : Yields type (·.legible) :=
  yields_goal_legible _

/-- Where a type stands makes no difference to what it is made of. -/
theorem yields_unconditionalType : Yields unconditionalType (·.legible) :=
  yields_within _ yields_type

/-- Allowing conditional types changes no result. -/
theorem yields_conditionalAllowed {α : Type} {p : Parser α} {good : α → Prop}
    (h : Yields p good) : Yields (conditionalAllowed p) good :=
  yields_within _ h

/-- The rule for type parameters is reached through a goal. -/
theorem yields_typeParameters : Yields typeParameters (·.legible) :=
  yields_goal_legible _

/-- What may be missing. -/
theorem yields_optional {p : Parser Node} {c : Prop} [Decidable c] (h : Yields p (·.legible)) :
    Yields (if c then p else return .none) (·.legible) :=
  .ite h (.pure rfl)

/-- A name may go without a type. -/
theorem yields_declaredType : Yields declaredType (·.legible) :=
  .skip fun _ => yields_optional yields_type

/-! ## Arguments and parameters -/

/-- Type arguments are types, in any number. -/
theorem yields_typeArguments : Yields typeArguments (·.legible) := by
  refine .skip fun start => .skip fun _ => ?_
  refine .bind (yields_commaList ">" yields_type) fun found hfound => ?_
  exact .skip fun _ => .check (yields_piece start rfl hfound)

/-- Where no angle stands, there are none. -/
theorem yields_typeArguments? : Yields typeArguments? (·.legible) :=
  .skip fun _ => .skip fun _ => yields_optional yields_typeArguments

/-- On the next line there are none either. -/
theorem yields_typeArgumentsOnLine : Yields typeArgumentsOnLine (·.legible) :=
  .skip fun _ => .ite (.pure rfl) yields_typeArguments?

/-- A type parameter has a name, and may have a bound and a default. -/
theorem yields_typeParameter : Yields typeParameter (·.legible) := by
  refine .skip fun start => .skip fun found => .skip fun _ => ?_
  refine .bind yields_bindingName fun name hname => .skip fun _ => ?_
  refine .choose yields_type yields_none fun bound hbound => .skip fun _ => ?_
  refine .choose yields_type yields_none fun default hdefault => ?_
  exact yields_piece start rfl (by simp [hname.1, hbound, hdefault])

/-- Type parameters stand in angles. -/
theorem yields_typeParameterList : Yields typeParameterList (·.legible) := by
  refine .skip fun _ => .ite (.pure rfl) ?_
  refine .skip fun start => .skip fun _ => ?_
  refine .bind (yields_commaList ">" yields_typeParameter) fun found hfound => ?_
  exact .skip fun _ => .check (yields_piece start rfl hfound)

/-! ## Names of types -/

/-- A legible name stays legible with every part that is added on its right. -/
theorem yields_qualify (start fuel : Nat) {left : Node} (hleft : left.legible) :
    Yields (qualify start fuel left) (·.legible) := by
  induction fuel generalizing left with
  | zero => exact .pure hleft
  | succ fuel ih =>
      refine .skip fun _ => .ite ?_ (.pure hleft)
      refine .bind yields_wordName fun right hright => ?_
      have hparts : ∀ part ∈ [left, right], part.legible := by simp [hleft, hright.1]
      exact .bind (yields_piece start rfl hparts) fun longer hlonger => ih hlonger

/-- A dotted name begins with `this` or with a reference. -/
theorem yields_typeRoot : Yields typeRoot (·.legible) := by
  refine .skip fun start => .skip fun _ => .ite (.skip fun _ => ?_) ?_
  · exact yields_piece start rfl (by simp)
  · exact (yields_anyWord fun _ => rfl).mono fun _ h => h.1

/-- A dotted name is nested to the left. -/
theorem yields_typeName : Yields typeName (·.legible) := by
  refine .skip fun start => .bind yields_typeRoot fun first hfirst => ?_
  exact .skip fun s => yields_qualify start _ hfirst

/-- A named type may have arguments. -/
theorem yields_typeReference : Yields typeReference (·.legible) := by
  refine .skip fun start => .bind yields_typeName fun name hname => ?_
  refine .bind yields_typeArgumentsOnLine fun arguments harguments => ?_
  exact yields_piece start rfl (by simp [hname, harguments])

/-- The name behind an imported module uses no name in scope, its first part included. -/
theorem yields_importQualifier : Yields importQualifier (·.legible) := by
  refine .skip fun start => .bind yields_wordName fun first hfirst => ?_
  exact .skip fun s => yields_qualify start _ hfirst.1

/-- A comma before the parenthesis announces no options. -/
theorem yields_importOptions : Yields importOptions (·.legible) := by
  refine .skip fun hasComma => .ite (.skip fun atEnd => ?_) yields_none
  exact .ite yields_none (yields_goal_legible _)

/-- An imported type has a path, and may have options, a name and arguments. -/
theorem yields_importType : Yields importType (·.legible) := by
  refine .skip fun start => .skip fun _ => .skip fun _ => ?_
  refine .bind yields_stringLiteral fun path hpath => ?_
  refine .bind yields_importOptions fun options hoptions => ?_
  refine .skip fun _ => .skip fun _ => .skip fun hasName => ?_
  refine .choose yields_importQualifier yields_none fun name hname => ?_
  refine .bind yields_typeArgumentsOnLine fun arguments harguments => ?_
  exact yields_piece start rfl (by simp [hpath.1, hoptions, hname, harguments])

/-- The type of a value names it, or a module. -/
theorem yields_typeQuery : Yields typeQuery (·.legible) := by
  refine .skip fun start => .skip fun _ => .skip fun _ => .ite ?_ ?_
  · refine .bind yields_importType fun name hname => ?_
    exact yields_piece start rfl (by simp [hname])
  · refine .bind yields_typeName fun name hname => ?_
    refine .bind yields_typeArgumentsOnLine fun arguments harguments => ?_
    exact yields_piece start rfl (by simp [hname, harguments])

/-- A literal type may be a number below zero. -/
theorem yields_literalType : Yields literalType (·.legible) := by
  refine .skip fun start => .skip fun isNegative => .ite ?_ ?_
  · refine .bind yields_literal fun inner hinner => ?_
    refine .bind (yields_piece start rfl (by simp [hinner])) fun value hvalue => ?_
    exact yields_piece start rfl (by simp [hvalue])
  · refine .bind yields_literal fun value hvalue => ?_
    exact yields_piece start rfl (by simp [hvalue])

/-! ## Members -/

/-- A key is a literal, an expression in brackets or a name. -/
theorem yields_propertyKey : Yields propertyKey (·.1.legible) := by
  have hliteral : Yields (do return (← literal, false)) (·.1.legible) :=
    .bind yields_literal fun key hkey => .pure hkey
  refine .skip fun l => ?_
  split
  · exact hliteral
  · exact hliteral
  · exact hliteral
  · refine .skip fun _ => .bind (yields_within _ (yields_goal_legible _)) fun key hkey => ?_
    exact .skip fun _ => .pure hkey
  · exact .bind yields_wordName fun key hkey => .pure hkey.1

/-- A parameter of an index signature is a list of its name and its type. -/
theorem yields_indexParameter : Yields indexParameter (·.legible) := by
  refine .skip fun start => .bind yields_wordName fun name hname => .skip fun _ => ?_
  refine .bind yields_type fun typed htyped => ?_
  exact yields_piece start rfl (by simp [hname.1, htyped])

/-- An index signature has the parts of its first parameter, and a type. -/
theorem yields_indexSignature (start : Nat) (found : List Modifier) :
    Yields (indexSignature start found) (·.legible) := by
  refine .skip fun _ => .skip fun _ => ?_
  refine .bind (yields_commaList "]" yields_indexParameter) fun ⟨parameters, _⟩ hparameters => ?_
  refine .check (.skip fun _ => .skip fun hasType => .check ?_)
  refine .bind yields_declaredType fun typed htyped => .skip fun _ => ?_
  refine yields_piece start rfl ?_
  cases parameters with
  | nil => simpa using htyped
  | cons first others =>
      have hfirst := Node.legible_parts (hparameters first (by simp))
      simpa [or_imp, forall_and, htyped] using hfirst

/-- Where a predicate has a subject, it is a name. -/
theorem yields_predicateSubject :
    Yields predicateSubject fun subject => ∀ name ∈ subject, name.legible := by
  refine .bind yields_wordName fun name hname => .skip fun isIs => .skip fun t => ?_
  exact .ite (.skip fun _ => .pure (by simpa using hname.1)) (.pure (by simp))

/-- What is returned is a type, or a predicate of a subject. -/
theorem yields_returnType : Yields returnType (·.legible) := by
  refine .skip fun start => .skip fun l => ?_
  refine .choose (yields_attempt yields_predicateSubject) (.pure (by simp))
    fun subject hsubject => ?_
  refine .bind yields_type fun result hresult => ?_
  split
  · exact yields_piece start rfl (by simpa [hresult] using hsubject)
  · exact .pure hresult

/-- What is returned may be left out. -/
theorem yields_declaredResult (symbol : String) : Yields (declaredResult symbol) (·.legible) :=
  .skip fun _ => yields_optional yields_returnType

/-- The type of `this` is split off from the parameters, and both are legible. -/
theorem yields_parametersOf (ofMethod : Bool) :
    Yields (parametersOf ofMethod) fun found => found.1.legible ∧ found.2.legible := by
  refine .bind (yields_goal_legible _) fun found hfound => ?_
  split
  · have hparts := (Node.legible_mk.1 hfound).2
    exact .pure ⟨hparts _ (by simp), hparts _ (by simp)⟩
  · exact .pure ⟨rfl, hfound⟩

/-- A signature that constructs has no type of `this` among its parts. -/
theorem yields_callSignature (constructs : Bool) :
    Yields (callSignature constructs) (·.legible) := by
  refine .skip fun start => .check ?_
  refine .bind yields_typeParameters fun generics hgenerics => ?_
  refine .bind (yields_parametersOf false) fun ⟨this, parameters⟩ hparameters => ?_
  refine .bind (yields_declaredResult ":") fun result hresult => .skip fun _ => .ite ?_ ?_
  · exact .check (yields_piece start rfl (by simp [hgenerics, hparameters.2, hresult]))
  · exact yields_piece start rfl (by simp [hgenerics, hparameters.1, hparameters.2, hresult])

/-- An accessor has no type parameters. -/
theorem yields_accessorSignature (start : Nat) (found : List Modifier) (role : MethodRole) :
    Yields (accessorSignature start found role) (·.legible) := by
  refine .skip fun _ => .bind yields_propertyKey fun ⟨key, isComputed⟩ hkey => ?_
  refine .bind (yields_parametersOf false) fun ⟨this, parameters⟩ hparameters => ?_
  refine .bind (yields_declaredResult ":") fun result hresult => .skip fun _ => ?_
  exact yields_piece start rfl (by simp_all)

/-- Behind its key a method has what a function has, and a property a type. -/
theorem yields_keyedSignature (start : Nat) (found : List Modifier) :
    Yields (keyedSignature start found) (·.legible) := by
  refine .skip fun _ => .bind yields_propertyKey fun ⟨key, isComputed⟩ hkey => ?_
  refine .skip fun isOptional => .skip fun _ => .skip fun _ => .ite (.skip fun _ => ?_) ?_
  · refine .bind yields_typeParameters fun generics hgenerics => ?_
    refine .bind (yields_parametersOf false) fun ⟨this, parameters⟩ hparameters => ?_
    refine .bind (yields_declaredResult ":") fun result hresult => .skip fun _ => ?_
    exact yields_piece start rfl (by simp_all)
  · refine .bind yields_declaredType fun typed htyped => .skip fun _ => ?_
    exact yields_piece start rfl (by simp_all)

/-- A member with a name is an accessor, an index signature, a method or a property. -/
theorem yields_namedSignature : Yields namedSignature (·.legible) := by
  refine .skip fun start => .skip fun found => .skip fun isGetter => ?_
  refine .ite (yields_accessorSignature start found .getter) (.skip fun isSetter => ?_)
  refine .ite (yields_accessorSignature start found .setter) (.skip fun isIndex => ?_)
  exact .ite (yields_indexSignature start found) (yields_keyedSignature start found)

/-- A member is a signature of one of the kinds. -/
theorem yields_typeMember : Yields typeMember (·.legible) := by
  refine .skip fun _ => .skip fun _ => .ite (yields_callSignature false) (.skip fun _ => ?_)
  exact .ite (yields_callSignature true) yields_namedSignature

/-- Members stand in braces. -/
theorem yields_typeMembers : Yields typeMembers fun members => ∀ m ∈ members, m.legible := by
  refine .skip fun _ => .bind (yields_upTo _ yields_typeMember) fun members hmembers => ?_
  exact .skip fun _ => .pure hmembers

/-- A mapped type declares a key with a bound, and may rename it. -/
theorem yields_mappedType : Yields mappedType (·.legible) := by
  refine .skip fun start => .skip fun _ => .skip fun readonlyness => .skip fun _ => ?_
  refine .bind yields_bindingName fun key hkey => .skip fun _ => ?_
  refine .bind yields_type fun bound hbound => .skip fun isRenamed => ?_
  refine .choose yields_type yields_none fun renamed hrenamed => ?_
  refine .skip fun _ => .skip fun optionality => ?_
  refine .bind yields_declaredType fun result hresult => .skip fun _ => .skip fun _ => ?_
  exact yields_piece start rfl (by simp [hkey.1, hbound, hrenamed, hresult])

/-- A type literal is made of its members. -/
theorem yields_typeLiteral : Yields typeLiteral (·.legible) := by
  refine .skip fun start => .bind yields_typeMembers fun members hmembers => ?_
  exact yields_piece start rfl hmembers

/-! ## Single types -/

/-- A named member of a tuple has a label and a type. -/
theorem yields_namedMember : Yields namedMember (·.legible) := by
  refine .skip fun nameStart => .bind yields_wordName fun label hlabel => ?_
  refine .skip fun isOptional => .skip fun _ => .bind yields_type fun element helement => ?_
  exact yields_piece nameStart rfl (by simp [hlabel.1, helement])

/-- A type with a question mark behind it is an optional element of a tuple. -/
theorem yields_tupleElement : Yields tupleElement (·.legible) := by
  refine .skip fun start => .skip fun isNamed => .ite ?_ (.skip fun isRest => .ite ?_ ?_)
  · refine .skip fun isRest => .bind yields_namedMember fun member hmember => ?_
    exact .ite (yields_piece start rfl (by simpa using hmember)) (.pure hmember)
  · refine .bind yields_type fun element helement => ?_
    exact yields_piece start rfl (by simpa using helement)
  · refine .bind yields_type fun element helement => ?_
    split
    · exact .pure (Node.legible_mk.2 ⟨rfl, (Node.legible_mk.1 helement).2⟩)
    · exact .pure helement

/-- A tuple has any number of elements. -/
theorem yields_tupleType : Yields tupleType (·.legible) := by
  refine .fromWord fun start => ?_
  refine .bind (yields_commaList "]" yields_tupleElement) fun ⟨elements, _⟩ helements => ?_
  exact .skip fun _ => yields_piece start rfl helements

/-- Parentheses stay in the tree. -/
theorem yields_parenType : Yields parenType (·.legible) := by
  refine .fromWord fun start => ?_
  refine .bind (yields_conditionalAllowed yields_type) fun inner hinner => .skip fun _ => ?_
  exact yields_piece start rfl (by simpa using hinner)

/-- A template has its texts in one list and its types in another one. -/
theorem yields_templateType : Yields templateType (·.legible) := by
  refine .skip fun start => ?_
  refine .bind (yields_templateParts false yields_type) fun ⟨quasis, types⟩ hparts => ?_
  have hquasis : ∀ quasi ∈ quasis, quasi.legible := fun quasi h => (hparts.quasis quasi h).1
  exact yields_piece start rfl (by simpa using And.intro hquasis hparts.holes)

/-- A word has no parts. -/
theorem yields_keywordType (name : String) : Yields (keywordType name) (·.legible) :=
  .fromWord fun start => yields_piece start rfl (by simp)

/-- What a function says of `this` is a predicate. -/
theorem yields_thisType : Yields thisType (·.legible) := by
  refine .fromWord fun start => .bind (yields_piece start rfl (by simp)) fun this hthis => ?_
  refine .skip fun isIs => .skip fun t => .ite (.skip fun _ => ?_) (.pure hthis)
  refine .bind yields_type fun result hresult => ?_
  exact yields_piece start rfl (by simp [hthis, hresult])

/-- What is asserted, is asserted of `this` or of a name. -/
theorem yields_assertedSubject : Yields assertedSubject (·.legible) := by
  refine .skip fun start => .skip fun isThis => .ite ?_ ?_
  · exact yields_piece start rfl (by simp)
  · exact yields_wordName.mono fun _ h => h.1

/-- An assertion may go without a type. -/
theorem yields_assertion : Yields assertion (·.legible) := by
  refine .fromWord fun start => .bind yields_assertedSubject fun subject hsubject => ?_
  refine .skip fun _ => .choose yields_type yields_none fun result hresult => ?_
  exact yields_piece start rfl (by simp [hsubject, hresult])

/-- A mark stands before a type. -/
theorem yields_markedType (mark : String) : Yields (markedType mark) (·.legible) := by
  refine .fromWord fun start => .bind yields_type fun inner hinner => ?_
  exact yields_piece start rfl (by simpa using hinner)

/-- A word is a type of its own, or belongs to the name of one. -/
theorem yields_wordType (name : String) : Yields (wordType name) (·.legible) := by
  refine .ite yields_typeReference (.skip fun isDotted => ?_)
  exact .ite yields_typeReference (yields_keywordType name)

/-- The token decides which type stands here. -/
theorem yields_plainType : Yields plainType (·.legible) := by
  refine .skip fun l => ?_
  split
  iterate 5 exact yields_literalType
  · exact yields_templateType
  · exact .skip fun _ => .ite yields_literalType yields_typeReference
  · exact .skip fun _ => .ite yields_mappedType yields_typeLiteral
  · exact yields_tupleType
  · exact yields_parenType
  · exact yields_markedType "?"
  · exact yields_markedType "!"
  · exact yields_keywordType _
  · exact yields_keywordType _
  · exact yields_thisType
  · exact yields_typeQuery
  · exact yields_importType
  · exact .skip fun _ => .ite yields_assertion yields_typeReference
  · exact yields_wordType _
  · exact yields_typeReference

/-! ## Types with words and symbols around them -/

/-- A mark may stand behind a type, too. -/
theorem yields_markType (mark : String) (start : Nat) {inner : Node} (h : inner.legible) :
    Yields (markType mark start inner) (·.legible) :=
  .skip fun _ => yields_piece start rfl (by simpa using h)

/-- Brackets hold an index, or nothing. -/
theorem yields_indexType (start : Nat) {inner : Node} (h : inner.legible) :
    Yields (indexType start inner) (·.legible) := by
  refine .skip fun _ => .skip fun hasIndex => .ite ?_ ?_
  · refine .bind yields_type fun index hindex => .skip fun _ => ?_
    exact yields_piece start rfl (by simp [h, hindex])
  · exact .skip fun _ => yields_piece start rfl (by simpa using h)

/-- Whatever number of suffixes a legible type gets, it stays one. -/
theorem yields_typeSuffixes (start fuel : Nat) {inner : Node} (h : inner.legible) :
    Yields (typeSuffixes start fuel inner) (·.legible) := by
  induction fuel generalizing inner with
  | zero => exact .pure h
  | succ fuel ih =>
      refine .skip fun t => .ite (.pure h) ?_
      split
      · exact .bind (yields_markType "!" start h) fun longer hlonger => ih hlonger
      · refine .skip fun isConditional => .ite (.pure h) ?_
        exact .bind (yields_markType "?" start h) fun longer hlonger => ih hlonger
      · exact .bind (yields_indexType start h) fun longer hlonger => ih hlonger
      · exact .pure h

/-- Suffixes belong to the type before them. -/
theorem yields_suffixedType : Yields suffixedType (·.legible) := by
  refine .skip fun start => .skip fun s => ?_
  exact .bind yields_plainType fun inner hinner => yields_typeSuffixes start _ hinner

/-- Where there is a bound, it is a type. -/
theorem yields_inferBound? : Yields inferBound? fun bound => ∀ n ∈ bound, n.legible := by
  refine .skip fun hasBound => .ite (.pure (by simp)) ?_
  refine .bind yields_unconditionalType fun bound hbound => .skip fun s => .skip fun _ => ?_
  exact .ite (.pure (by simpa using hbound)) (.pure (by simp))

/-- A missing bound is a missing part. -/
theorem yields_inferBound : Yields inferBound (·.legible) := by
  refine .bind (yields_attempt yields_inferBound?) fun bound hbound => .pure ?_
  cases bound with
  | none => rfl
  | some bound => exact hbound bound rfl

/-- A parameter that is inferred has no default. -/
theorem yields_inferParameter : Yields inferParameter (·.legible) := by
  refine .skip fun start => .bind yields_bindingName fun name hname => ?_
  refine .bind yields_inferBound fun bound hbound => ?_
  exact yields_piece start rfl (by simp [hname.1, hbound])

/-- What is inferred is a parameter. -/
theorem yields_inferType : Yields inferType (·.legible) := by
  refine .fromWord fun start => .bind yields_inferParameter fun parameter hparameter => ?_
  exact yields_piece start rfl (by simpa using hparameter)

/-- The words before a type are nested to the right. -/
theorem yields_operated (fuel : Nat) : Yields (operated fuel) (·.legible) := by
  have hsuffixed := yields_conditionalAllowed yields_suffixedType
  induction fuel with
  | zero => exact yields_unexpected
  | succ fuel ih =>
      refine .skip fun start => .skip fun l => ?_
      split
      · exact yields_inferType
      · refine .ite (.skip fun _ => .bind ih fun inner hinner => ?_) hsuffixed
        exact .skip fun _ => yields_piece start rfl (by simpa using hinner)
      · exact hsuffixed

/-- There are no more words than tokens. -/
theorem yields_operatedType : Yields operatedType (·.legible) :=
  .skip fun _ => yields_operated _

/-- All types with a symbol between them are legible when each one is. -/
theorem yields_joinMembers {member : Parser Node} (symbol : String) (fuel : Nat)
    {members : List Node} (h : Yields member (·.legible)) (hmembers : ∀ m ∈ members, m.legible) :
    Yields (joinMembers symbol member fuel members) fun members =>
      ∀ m ∈ members, m.legible := by
  induction fuel generalizing members with
  | zero => exact .pure (by simpa using hmembers)
  | succ fuel ih =>
      refine .skip fun hasMore => .ite ?_ (.pure (by simpa using hmembers))
      refine .bind h fun next hnext => ?_
      exact ih (List.forall_mem_cons.2 ⟨hnext, hmembers⟩)

/-- A type that stands alone is not wrapped. -/
theorem yields_joinedType {member : Parser Node} (symbol : String) {kind : Kind}
    (hfits : ∀ members, kind.fits members) (h : Yields member (·.legible)) :
    Yields (joinedType symbol kind member) (·.legible) := by
  refine .skip fun start => .skip fun leading => .bind h fun first hfirst => .skip fun _ => ?_
  refine .ite (.skip fun s => ?_) (.pure hfirst)
  refine .bind (yields_joinMembers symbol _ h (by simpa using hfirst)) fun members hmembers => ?_
  exact yields_piece start (hfits members) hmembers

/-- A union is made of intersections. -/
theorem yields_unionType : Yields unionType (·.legible) := by
  have hintersection := yields_joinedType "&" (fun _ => rfl : ∀ members,
    Kind.intersectionType.fits members) yields_operatedType
  exact yields_joinedType "|" (fun _ => rfl) hintersection

/-- A type that constructs has no type of `this` among its parts. -/
theorem yields_functionType : Yields functionType (·.legible) := by
  refine .skip fun start => .skip fun isAbstract => .skip fun constructs => ?_
  refine .bind yields_typeParameters fun generics hgenerics => ?_
  refine .bind (yields_parametersOf false) fun ⟨this, parameters⟩ hparameters => ?_
  refine .skip fun _ => .bind yields_returnType fun result hresult => .ite (.check ?_) ?_
  · exact yields_piece start rfl (by simp [hgenerics, hparameters.2, hresult])
  · exact yields_piece start rfl (by simp [hgenerics, hparameters.1, hparameters.2, hresult])

/-- Behind `extends` stand a bound and a type. -/
theorem yields_conditionalParts (start : Nat) : Yields (conditionalParts start) (·.legible) := by
  refine .bind yields_unconditionalType fun bound hbound => .skip fun _ => ?_
  refine .bind (yields_conditionalAllowed yields_type) fun first hfirst => ?_
  exact yields_piece start rfl (by simp [hbound, hfirst])

/-- A conditional type has the type it checks, a bound and two branches. -/
theorem yields_typeRule : Yields typeRule (·.legible) := by
  refine .skip fun _ => .ite yields_functionType (.skip fun start => ?_)
  refine .bind yields_unionType fun checked hchecked => .skip fun s => .skip fun t => ?_
  refine .ite (.pure hchecked) (.skip fun partsStart => .skip fun isConditional => ?_)
  refine .ite (.pure hchecked) ?_
  refine .bind (yields_conditionalParts partsStart) fun parts hparts => .skip fun _ => ?_
  refine .bind (yields_conditionalAllowed yields_type) fun second hsecond => ?_
  exact yields_piece start rfl (by simp [hchecked, hparts, hsecond])

/-- What is taken for type arguments is made of types. -/
theorem yields_argumentsBefore (canFollow : Parser Bool) :
    Yields (argumentsBefore canFollow) fun found => ∀ n ∈ found, n.legible := by
  refine .skip fun _ => .skip fun start => .skip fun _ => ?_
  refine .bind (yields_commaList ">" yields_type) fun ⟨types, _⟩ htypes => ?_
  refine .skip fun _ => .skip fun isComparison => .ite (.pure (by simp)) ?_
  refine .skip fun _ => .check (.skip fun follows => .ite ?_ (.pure (by simp)))
  refine .bind (yields_piece start rfl htypes) fun arguments harguments => ?_
  exact .pure (by simpa using harguments)

/-- What turns out to be two comparisons yields nothing. -/
theorem yields_typeArgumentsInExpression (canFollow : Parser Bool) :
    Yields (typeArgumentsInExpression canFollow) fun found => ∀ n ∈ found, n.legible := by
  refine .skip fun _ => .skip fun _ => .ite (.pure (by simp)) ?_
  exact yields_attempt (yields_argumentsBefore canFollow)

variable {source : List Char}

/-! ## The places of types -/

/-- The rule that a goal stands for passes the landmarks of the type. -/
theorem follows_type : Follows source [] type Node.landmarks :=
  follows_goal _

/-- Where a type stands makes no difference to its landmarks. -/
theorem follows_unconditionalType : Follows source [] unconditionalType Node.landmarks :=
  follows_within _ follows_type

/-- Allowing conditional types moves no landmark. -/
theorem follows_conditionalAllowed {α : Type} {p : Parser α} {marks : α → List Landmark}
    (h : Follows source [] p marks) : Follows source [] (conditionalAllowed p) marks :=
  follows_within _ h

/-- The rule that a goal stands for passes the landmarks of the parameters. -/
theorem follows_typeParameters : Follows source [] typeParameters Node.landmarks :=
  follows_goal _

/-- What may be missing. -/
theorem follows_optional {p : Parser Node} {c : Prop} [Decidable c]
    (h : Follows source [] p Node.landmarks) :
    Follows source [] (if c then p else return .none) Node.landmarks :=
  .ite h follows_none

/-- A missing type has no landmarks. -/
theorem follows_declaredType : Follows source [] declaredType Node.landmarks :=
  .skip fun _ => follows_optional follows_type

/-- Type arguments are passed one behind the other. -/
theorem follows_typeArguments : Follows source [] typeArguments Node.landmarks := by
  refine .skip fun start => .skip fun _ => ?_
  refine .step (follows_commaList ">" follows_type) fun found => ?_
  exact .skip fun _ => .check (follows_node start rfl (by simp))

/-- Missing arguments have no landmarks. -/
theorem follows_typeArguments? : Follows source [] typeArguments? Node.landmarks :=
  .skip fun _ => .skip fun _ => follows_optional follows_typeArguments

/-- A line break before the arguments is passed over, or they are missing. -/
theorem follows_typeArgumentsOnLine : Follows source [] typeArgumentsOnLine Node.landmarks :=
  .skip fun _ => .ite follows_none follows_typeArguments?

/-- The bound of a parameter is passed before its default. -/
theorem follows_typeParameter : Follows source [] typeParameter Node.landmarks := by
  refine .skip fun start => .skip fun found => .skip fun _ => ?_
  refine .step follows_bindingName fun name => .skip fun _ => ?_
  refine .choose follows_type follows_none fun bound => .skip fun _ => ?_
  refine .choose follows_type follows_none fun default => ?_
  exact follows_node start rfl (by simp)

/-- Type parameters are passed one behind the other. -/
theorem follows_typeParameterList : Follows source [] typeParameterList Node.landmarks := by
  refine .skip fun _ => .ite follows_none ?_
  refine .skip fun start => .skip fun _ => ?_
  refine .step (follows_commaList ">" follows_typeParameter) fun found => ?_
  exact .skip fun _ => .check (follows_node start rfl (by simp))

/-- A part that is added to a name on its right adds no landmark. -/
theorem follows_qualify (start fuel : Nat) (left : Node) :
    Follows source left.landmarks (qualify start fuel left) Node.landmarks := by
  have hleft : Follows source left.landmarks (return left) Node.landmarks :=
    .pure (List.Sublist.refl _)
  induction fuel generalizing left with
  | zero => exact hleft
  | succ fuel ih =>
      refine .skip fun _ => .ite ?_ hleft
      refine .step follows_wordName fun right => ?_
      exact .piece start [] rfl (by simp) fun longer => ih longer (.pure (List.Sublist.refl _))

/-- A dotted name uses a name where it begins, unless it begins with `this`. -/
theorem follows_typeRoot : Follows source [] typeRoot Node.landmarks := by
  refine .skip fun start => .skip fun _ => .ite (.skip fun _ => ?_) follows_anyReference
  exact follows_node start rfl (by simp)

/-- The only landmark of a dotted name is its first part. -/
theorem follows_typeName : Follows source [] typeName Node.landmarks := by
  refine .skip fun start => .step follows_typeRoot fun first => ?_
  exact .skip fun s => follows_qualify start _ first

/-- The name of a type is passed before its arguments. -/
theorem follows_typeReference : Follows source [] typeReference Node.landmarks := by
  refine .skip fun start => .step follows_typeName fun name => ?_
  refine .step follows_typeArgumentsOnLine fun arguments => ?_
  exact follows_node start rfl (by simp)

/-- The name behind an imported module has no landmark. -/
theorem follows_importQualifier : Follows source [] importQualifier Node.landmarks := by
  refine .skip fun start => .step follows_wordName fun first => ?_
  exact .skip fun s => follows_qualify start _ first

/-- The options of an imported type are passed where they stand. -/
theorem follows_importOptions : Follows source [] importOptions Node.landmarks := by
  refine .skip fun hasComma => .ite (.skip fun atEnd => ?_) follows_none
  exact .ite follows_none (follows_goal _)

/-- The parts of an imported type are passed in their order: path, options, name, arguments. -/
theorem follows_importType : Follows source [] importType Node.landmarks := by
  refine .skip fun start => .skip fun _ => .skip fun _ => ?_
  refine .step follows_stringLiteral fun path => ?_
  refine .step follows_importOptions fun options => ?_
  refine .skip fun _ => .skip fun _ => .skip fun hasName => ?_
  refine .choose follows_importQualifier follows_none fun name => ?_
  refine .step follows_typeArgumentsOnLine fun arguments => ?_
  exact follows_node start rfl (by simp)

/-- What is asked for the type of is passed before its arguments. -/
theorem follows_typeQuery : Follows source [] typeQuery Node.landmarks := by
  refine .skip fun start => .skip fun _ => .skip fun _ => .ite ?_ ?_
  · exact .step follows_importType fun name => follows_node start rfl (by simp)
  · refine .step follows_typeName fun name => ?_
    refine .step follows_typeArgumentsOnLine fun arguments => ?_
    exact follows_node start rfl (by simp)

/-- A sign adds no landmark to a literal. -/
theorem follows_literalType : Follows source [] literalType Node.landmarks := by
  refine .skip fun start => .skip fun _ => .ite ?_ ?_
  · refine .step follows_literal fun inner => ?_
    exact .piece start [] rfl (by simp) fun value => follows_node start rfl (by simp)
  · exact .step follows_literal fun value => follows_node start rfl (by simp)

/-! ## The places of members -/

protected instance Quiet.memberEnd : Quiet memberEnd := by
  unfold Parser.memberEnd
  infer_instance

/-- A key in brackets is passed as an expression; the others have no landmarks. -/
theorem follows_propertyKey : Follows source [] propertyKey (·.1.landmarks) := by
  have hliteral : Follows source [] (do return (← literal, false)) (·.1.landmarks) :=
    .step follows_literal fun key => .pure (List.Sublist.refl _)
  refine .skip fun l => ?_
  split
  · exact hliteral
  · exact hliteral
  · exact hliteral
  · refine .skip fun _ => .step (follows_within _ (follows_goal _)) fun key => ?_
    exact .skip fun _ => .pure (List.Sublist.refl _)
  · exact .step follows_wordName fun key => .pure (List.Sublist.refl _)

/-- At a word the key is this word. -/
theorem followsAt_propertyKey : FollowsAt source (isAnyWord ·.token.lexeme) [] propertyKey
    (·.1.landmarksAsUse) := by
  refine .lexeme fun l ⟨s, hword, hl⟩ => ?_
  split
  case h_5 =>
    exact .of_follows (.step follows_wordAsUse fun key => .pure (List.sublist_append_left _ _))
  all_goals
    rw [hl] at hword
    cases hword

protected instance Quiet.atIndexSignature : Quiet atIndexSignature := by
  unfold Parser.atIndexSignature
  infer_instance

/-- A parameter of an index signature has the landmarks of its type. -/
theorem follows_indexParameter : Follows source [] indexParameter Node.landmarks := by
  refine .skip fun start => .step follows_wordName fun name => .skip fun _ => ?_
  exact .step follows_type fun typed => follows_node start rfl (by simp)

/-- All parameters of an index signature are passed, the first one of which stays in the tree. -/
theorem follows_indexSignature (start : Nat) (found : List Modifier) :
    Follows source [] (indexSignature start found) Node.landmarks := by
  refine .skip fun _ => .skip fun _ => ?_
  refine .step (follows_commaList "]" follows_indexParameter) fun ⟨parameters, comma⟩ => ?_
  refine .check (.skip fun _ => .skip fun hasType => .check ?_)
  refine .step follows_declaredType fun typed => .skip fun _ => follows_node start rfl ?_
  cases parameters with
  | nil => simp
  | cons first others =>
      obtain ⟨kind, span, parts⟩ := first
      simp [Node.parts]

/-- The subject of a predicate has no landmarks that are needed. -/
theorem follows_predicateSubject :
    Follows source [] predicateSubject fun subject => subject.elim [] Node.landmarks := by
  refine .step follows_wordName fun name => .skip fun isIs => .skip fun t => ?_
  exact .ite (.skip fun _ => .pure (List.Sublist.refl _)) (.pure (by simp))

/-- The subject of a predicate is passed before the type it is said to have. -/
theorem follows_returnType : Follows source [] returnType Node.landmarks := by
  refine .skip fun start => .skip fun l => ?_
  refine .choose (follows_attempt follows_predicateSubject) (.pure (by simp)) fun subject => ?_
  refine .step follows_type fun result => ?_
  split
  · exact follows_node start rfl (by simp)
  · exact .pure (by simp)

/-- A missing result has no landmarks. -/
theorem follows_declaredResult (symbol : String) :
    Follows source [] (declaredResult symbol) Node.landmarks :=
  .skip fun _ => follows_optional follows_returnType

/-- The type of `this` is passed before the parameters it is split off from. -/
theorem follows_parametersOf (ofMethod : Bool) : Follows source [] (parametersOf ofMethod)
    fun found => found.1.landmarks ++ found.2.landmarks := by
  refine .step (follows_goal _) fun found => ?_
  split
  · exact .pure (by simp)
  · exact .pure (by simp)

/-- A signature is passed in the order of its parts. -/
theorem follows_callSignature (constructs : Bool) :
    Follows source [] (callSignature constructs) Node.landmarks := by
  refine .skip fun start => .check ?_
  refine .step follows_typeParameters fun generics => ?_
  refine .step (follows_parametersOf false) fun ⟨this, parameters⟩ => ?_
  refine .step (follows_declaredResult ":") fun result => .skip fun _ => .ite ?_ ?_
  · exact .check (follows_node start rfl (by simp))
  · exact follows_node start rfl (by simp)

/-- The key of an accessor is passed before its parameters and its result. -/
theorem follows_accessorSignature (start : Nat) (found : List Modifier) (role : MethodRole) :
    Follows source [] (accessorSignature start found role) Node.landmarks := by
  refine .skip fun _ => .step follows_propertyKey fun ⟨key, isComputed⟩ => ?_
  refine .step (follows_parametersOf false) fun ⟨this, parameters⟩ => ?_
  refine .step (follows_declaredResult ":") fun result => .skip fun _ => ?_
  exact follows_node start rfl (by simp)

/-- The key of a method or a property is passed first. -/
theorem follows_keyedSignature (start : Nat) (found : List Modifier) :
    Follows source [] (keyedSignature start found) Node.landmarks := by
  refine .skip fun _ => .step follows_propertyKey fun ⟨key, isComputed⟩ => ?_
  refine .skip fun isOptional => .skip fun _ => .skip fun _ => .ite (.skip fun _ => ?_) ?_
  · refine .step follows_typeParameters fun generics => ?_
    refine .step (follows_parametersOf false) fun ⟨this, parameters⟩ => ?_
    refine .step (follows_declaredResult ":") fun result => .skip fun _ => ?_
    exact follows_node start rfl (by simp)
  · refine .step follows_declaredType fun typed => .skip fun _ => ?_
    exact follows_node start rfl (by simp)

/-- The modifiers and words before a member with a name have no landmarks. -/
theorem follows_namedSignature : Follows source [] namedSignature Node.landmarks := by
  refine .skip fun start => .skip fun found => .skip fun isGetter => ?_
  refine .ite (follows_accessorSignature start found .getter) (.skip fun isSetter => ?_)
  refine .ite (follows_accessorSignature start found .setter) (.skip fun isIndex => ?_)
  exact .ite (follows_indexSignature start found) (follows_keyedSignature start found)

protected instance Quiet.atConstructSignature : Quiet atConstructSignature := by
  unfold Parser.atConstructSignature
  infer_instance

/-- A member is passed as the signature it is. -/
theorem follows_typeMember : Follows source [] typeMember Node.landmarks := by
  refine .skip fun _ => .skip fun _ => .ite (follows_callSignature false) (.skip fun _ => ?_)
  exact .ite (follows_callSignature true) follows_namedSignature

/-- Members are passed one behind the other. -/
theorem follows_typeMembers :
    Follows source [] typeMembers (·.flatMap Node.landmarks) := by
  refine .skip fun _ => .step (follows_upTo _ follows_typeMember) fun members => ?_
  exact .skip fun _ => .pure (List.Sublist.refl _)

protected instance Quiet.atMappedType : Quiet atMappedType :=
  Quiet.lookahead _

protected instance Quiet.mappedModifier (pass : Parser Bool) (expect : Parser Unit) [Quiet pass]
    [Quiet expect] : Quiet (mappedModifier pass expect) := by
  unfold Parser.mappedModifier
  infer_instance

/-- The key of a mapped type is passed before its bound, its new name and the result. -/
theorem follows_mappedType : Follows source [] mappedType Node.landmarks := by
  refine .skip fun start => .skip fun _ => .skip fun readonlyness => .skip fun _ => ?_
  refine .step follows_bindingName fun key => .skip fun _ => ?_
  refine .step follows_type fun bound => .skip fun isRenamed => ?_
  refine .choose follows_type follows_none fun renamed => ?_
  refine .skip fun _ => .skip fun optionality => .step follows_declaredType fun result => ?_
  exact .skip fun _ => .skip fun _ => follows_node start rfl (by simp)

/-- A type literal has the landmarks of its members. -/
theorem follows_typeLiteral : Follows source [] typeLiteral Node.landmarks := by
  refine .skip fun start => .step follows_typeMembers fun members => ?_
  exact follows_node start rfl (by simp)

/-! ## The places of single types -/

protected instance Quiet.atNamedMember : Quiet atNamedMember :=
  Quiet.lookahead _

/-- A label is no use of a name. -/
theorem follows_namedMember : Follows source [] namedMember Node.landmarks := by
  refine .skip fun nameStart => .step follows_wordName fun label => ?_
  refine .skip fun isOptional => .skip fun _ => .step follows_type fun element => ?_
  exact follows_node nameStart rfl (by simp)

/-- What stands around the type of an element adds no landmark. -/
theorem follows_tupleElement : Follows source [] tupleElement Node.landmarks := by
  refine .skip fun start => .skip fun isNamed => .ite ?_ (.skip fun isRest => .ite ?_ ?_)
  · refine .skip fun isRest => .step follows_namedMember fun member => ?_
    exact .ite (follows_node start rfl (by simp)) (.pure (by simp))
  · exact .step follows_type fun element => follows_node start rfl (by simp)
  · refine .step follows_type fun element => ?_
    split
    · exact .pure (by simp [Kind.landmarks])
    · exact .pure (by simp)

/-- Elements are passed one behind the other. -/
theorem follows_tupleType : Follows source [] tupleType Node.landmarks := by
  refine .fromWord fun start => ?_
  refine .step (follows_commaList "]" follows_tupleElement) fun found => ?_
  exact .skip fun _ => follows_node start rfl (by simp)

/-- A type in parentheses is passed as it is without them. -/
theorem follows_parenType : Follows source [] parenType Node.landmarks := by
  refine .fromWord fun start => ?_
  refine .step (follows_conditionalAllowed follows_type) fun inner => .skip fun _ => ?_
  exact follows_node start rfl (by simp)

/-- The texts of a template have no landmarks between those of its types. -/
theorem follows_templateType : Follows source [] templateType Node.landmarks := by
  refine .skip fun start => ?_
  refine .step (follows_templateParts false follows_type) fun ⟨quasis, types⟩ => ?_
  exact follows_node start rfl (by simp)

/-- A word that is a type uses no name. -/
theorem follows_keywordType (name : String) :
    Follows source [] (keywordType name) Node.landmarks :=
  .fromWord fun start => follows_node start rfl (by simp)

/-- What is said of `this` is passed behind it. -/
theorem follows_thisType : Follows source [] thisType Node.landmarks := by
  refine .fromWord fun start => .piece start [] rfl (by simp) fun this => ?_
  refine .skip fun isIs => .skip fun t => .ite (.skip fun _ => ?_) (.pure (by simp))
  exact .step follows_type fun result => follows_node start rfl (by simp)

/-- The subject of an assertion has no landmarks that are needed. -/
theorem follows_assertedSubject : Follows source [] assertedSubject Node.landmarks := by
  refine .skip fun start => .skip fun isThis => .ite ?_ follows_wordName
  exact follows_node start rfl (by simp)

/-- The subject of an assertion is passed before the type it is asserted to have. -/
theorem follows_assertion : Follows source [] assertion Node.landmarks := by
  refine .fromWord fun start => .step follows_assertedSubject fun subject => ?_
  refine .skip fun _ => .choose follows_type follows_none fun result => ?_
  exact follows_node start rfl (by simp)

/-- A mark before a type adds no landmark. -/
theorem follows_markedType (mark : String) :
    Follows source [] (markedType mark) Node.landmarks := by
  refine .fromWord fun start => .step follows_type fun inner => ?_
  exact follows_node start rfl (by simp)

/-- A word that is no type of its own uses a name. -/
theorem follows_wordType (name : String) : Follows source [] (wordType name) Node.landmarks := by
  refine .ite follows_typeReference (.skip fun isDotted => ?_)
  exact .ite follows_typeReference (follows_keywordType name)

protected instance Quiet.beforeNumber : Quiet beforeNumber := by
  unfold Parser.beforeNumber
  infer_instance

/-- A single type is passed as the type it is. -/
theorem follows_plainType : Follows source [] plainType Node.landmarks := by
  refine .skip fun l => ?_
  split
  iterate 5 exact follows_literalType
  · exact follows_templateType
  · exact .skip fun _ => .ite follows_literalType follows_typeReference
  · exact .skip fun _ => .ite follows_mappedType follows_typeLiteral
  · exact follows_tupleType
  · exact follows_parenType
  · exact follows_markedType "?"
  · exact follows_markedType "!"
  · exact follows_keywordType _
  · exact follows_keywordType _
  · exact follows_thisType
  · exact follows_typeQuery
  · exact follows_importType
  · exact .skip fun _ => .ite follows_assertion follows_typeReference
  · exact follows_wordType _
  · exact follows_typeReference

/-! ## The places of types with words and symbols around them -/

protected instance Quiet.canBeginType : Quiet canBeginType := by
  refine .skip fun l => ?_
  split <;> infer_instance

protected instance Quiet.atConditionalMark : Quiet atConditionalMark :=
  Quiet.lookahead _

/-- A mark behind a type adds no landmark. -/
theorem follows_markType (mark : String) (start : Nat) (inner : Node) :
    Follows source inner.landmarks (markType mark start inner) Node.landmarks :=
  .skip fun _ => follows_node start rfl (by simp)

/-- An index is passed behind the type it belongs to. -/
theorem follows_indexType (start : Nat) (inner : Node) :
    Follows source inner.landmarks (indexType start inner) Node.landmarks := by
  refine .skip fun _ => .skip fun hasIndex => .ite ?_ ?_
  · refine .step follows_type fun index => .skip fun _ => ?_
    exact follows_node start rfl (by simp)
  · exact .skip fun _ => follows_node start rfl (by simp)

/-- Suffixes are passed one behind the other. -/
theorem follows_typeSuffixes (start fuel : Nat) (inner : Node) :
    Follows source inner.landmarks (typeSuffixes start fuel inner) Node.landmarks := by
  induction fuel generalizing inner with
  | zero => exact .pure (List.Sublist.refl _)
  | succ fuel ih =>
      have hinner : Follows source inner.landmarks (return inner) Node.landmarks :=
        .pure (List.Sublist.refl _)
      refine .skip fun t => .ite hinner ?_
      split
      · exact .bind (follows_markType "!" start inner) ih
      · refine .skip fun isConditional => .ite hinner ?_
        exact .bind (follows_markType "?" start inner) ih
      · exact .bind (follows_indexType start inner) ih
      · exact hinner

/-- A type is passed before its suffixes. -/
theorem follows_suffixedType : Follows source [] suffixedType Node.landmarks := by
  refine .skip fun start => .skip fun s => ?_
  exact .step follows_plainType fun inner => follows_typeSuffixes start _ inner

/-- The bound of an inferred type is passed if it is kept. -/
theorem follows_inferBound? :
    Follows source [] inferBound? fun bound => bound.elim [] Node.landmarks := by
  refine .skip fun hasBound => .ite (.pure (by simp)) ?_
  refine .step follows_unconditionalType fun bound => .skip fun s => .skip fun _ => ?_
  exact .ite (.pure (List.Sublist.refl _)) (.pure (by simp))

/-- A missing bound has no landmarks. -/
theorem follows_inferBound : Follows source [] inferBound Node.landmarks := by
  refine .step (follows_attempt follows_inferBound?) fun bound => .pure ?_
  cases bound <;> simp

/-- The landmarks of a parameter that is inferred are those of its bound. -/
theorem follows_inferParameter : Follows source [] inferParameter Node.landmarks := by
  refine .skip fun start => .step follows_bindingName fun name => ?_
  exact .step follows_inferBound fun bound => follows_node start rfl (by simp)

/-- An inferred type has the landmarks of its parameter. -/
theorem follows_inferType : Follows source [] inferType Node.landmarks := by
  refine .fromWord fun start => .step follows_inferParameter fun parameter => ?_
  exact follows_node start rfl (by simp)

protected instance Quiet.checkReadonly (word : String) (start : Nat) (inner : Node) :
    Quiet (checkReadonly word start inner) := by
  unfold Parser.checkReadonly
  infer_instance

/-- The words before a type have no landmarks. -/
theorem follows_operated (fuel : Nat) : Follows source [] (operated fuel) Node.landmarks := by
  have hsuffixed : Follows source [] (conditionalAllowed suffixedType) Node.landmarks :=
    follows_conditionalAllowed follows_suffixedType
  induction fuel with
  | zero => exact follows_unexpected
  | succ fuel ih =>
      refine .skip fun start => .skip fun l => ?_
      split
      · exact follows_inferType
      · refine .ite (.skip fun _ => .step ih fun inner => ?_) hsuffixed
        exact .skip fun _ => follows_node start rfl (by simp)
      · exact hsuffixed

/-- A type with words before it is passed as it is without them. -/
theorem follows_operatedType : Follows source [] operatedType Node.landmarks :=
  .skip fun _ => follows_operated _

/-- Types with a symbol between them are passed one behind the other. -/
theorem follows_joinMembers {member : Parser Node} (symbol : String) (fuel : Nat)
    (members : List Node) (h : Follows source [] member Node.landmarks) :
    Follows source (members.reverse.flatMap Node.landmarks)
      (joinMembers symbol member fuel members) (·.flatMap Node.landmarks) := by
  induction fuel generalizing members with
  | zero => exact .pure (List.Sublist.refl _)
  | succ fuel ih =>
      refine .skip fun hasMore => .ite ?_ (.pure (List.Sublist.refl _))
      exact .step h fun next => .drop (by simp) (ih (next :: members))

/-- The symbols between types have no landmarks. -/
theorem follows_joinedType {member : Parser Node} (symbol : String) {kind : Kind}
    (hkind : kind.landmarks = fun _ => []) (h : Follows source [] member Node.landmarks) :
    Follows source [] (joinedType symbol kind member) Node.landmarks := by
  refine .skip fun start => .skip fun leading => .step h fun first => .skip fun _ => ?_
  refine .ite (.skip fun s => ?_) (.pure (by simp))
  have hmembers := follows_joinMembers symbol (stepsLeft s) [first] h
  refine .bind (.drop (by simp) hmembers) fun members => ?_
  exact follows_node start hkind (by simp)

/-- A union has the landmarks of its members. -/
theorem follows_unionType : Follows source [] unionType Node.landmarks :=
  follows_joinedType "|" rfl (follows_joinedType "&" rfl follows_operatedType)

protected instance Quiet.atFunctionType : Quiet atFunctionType := by
  unfold Parser.atFunctionType
  infer_instance

/-- The result of a function type is passed behind its parameters. -/
theorem follows_functionType : Follows source [] functionType Node.landmarks := by
  refine .skip fun start => .skip fun isAbstract => .skip fun constructs => ?_
  refine .step follows_typeParameters fun generics => ?_
  refine .step (follows_parametersOf false) fun ⟨this, parameters⟩ => ?_
  refine .skip fun _ => .step follows_returnType fun result => .ite (.check ?_) ?_
  · exact follows_node start rfl (by simp)
  · exact follows_node start rfl (by simp)

/-- The bound of a conditional type is passed before its first branch. -/
theorem follows_conditionalParts (start : Nat) :
    Follows source [] (conditionalParts start) Node.landmarks := by
  refine .step follows_unconditionalType fun bound => .skip fun _ => ?_
  refine .step (follows_conditionalAllowed follows_type) fun first => ?_
  exact follows_node start rfl (by simp)

/-- A conditional type is passed in the order in which it is written. -/
theorem follows_typeRule : Follows source [] typeRule Node.landmarks := by
  refine .skip fun _ => .ite follows_functionType (.skip fun start => ?_)
  refine .step follows_unionType fun checked => .skip fun s => .skip fun t => ?_
  refine .ite (.pure (by simp)) (.skip fun partsStart => .skip fun isConditional => ?_)
  refine .ite (.pure (by simp)) ?_
  refine .step (follows_conditionalParts partsStart) fun parts => .skip fun _ => ?_
  refine .step (follows_conditionalAllowed follows_type) fun second => ?_
  exact follows_node start rfl (by simp)

/-- What is taken for type arguments is passed where it stands. -/
theorem follows_argumentsBefore (canFollow : Parser Bool) [Quiet canFollow] :
    Follows source [] (argumentsBefore canFollow) fun found => found.elim [] Node.landmarks := by
  refine .skip fun _ => .skip fun start => .skip fun _ => ?_
  refine .step (follows_commaList ">" follows_type) fun ⟨types, comma⟩ => ?_
  refine .skip fun _ => .skip fun isComparison => .ite (.pure (by simp)) ?_
  refine .skip fun _ => .check (.skip fun follows => .ite ?_ (.pure (by simp)))
  exact .piece start [] rfl (by simp) fun arguments => .pure (by simp)

/-- An attempt that is given up leaves reading where it was. -/
theorem follows_typeArgumentsInExpression (canFollow : Parser Bool) [Quiet canFollow] :
    Follows source [] (typeArgumentsInExpression canFollow)
      fun found => found.elim [] Node.landmarks := by
  refine .skip fun _ => .skip fun _ => .ite (.pure (by simp)) ?_
  exact follows_attempt (follows_argumentsBefore canFollow)

end JsxTidy.Parser
