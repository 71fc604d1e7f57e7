import JsxTidy.Printer.Class
import JsxTidy.Printer.Expression
import JsxTidy.Printer.Markup
import JsxTidy.Proofs.Printer.Uniform

/-!
# Values are written the same on different grounds

The printers of literals, patterns, functions, classes, markup and expressions are uniform. Each
of them is put together from uniform ones; only the marks that some of them set need an argument.
-/

namespace JsxTidy.Printer

open Syntax

-- A printer of many steps needs an instance for each of them.
set_option synthInstance.maxSize 20000

/-! ## Literals -/

instance stringLiteral_uniform (value : String) (lone : Bool) :
    Uniform (stringLiteral value lone) := by
  unfold stringLiteral
  infer_instance

instance numberLiteral_uniform (raw : String) : Uniform (numberLiteral raw) := by
  have hmark : Uniform (modify fun s => { s with integerMark := some s.length } : Printer Unit) :=
    modify_uniform _ fun _ _ _ h => { h with integerMark := h.end_marks }
  unfold numberLiteral
  infer_instance

instance regExpLiteral_uniform (pattern flags : String) :
    Uniform (regExpLiteral pattern flags) := by
  have hmark : Uniform (modify fun s => { s with regExpMark := some s.length } : Printer Unit) :=
    modify_uniform _ fun _ _ _ h => { h with regExpMark := h.end_marks }
  unfold regExpLiteral
  refine @bind_uniform _ _ _ _ inferInstance fun last => ?_
  dsimp only
  split <;> infer_instance

instance templateParts_uniform (write : Node → Printer Unit) [∀ node, Uniform (write node)]
    (quasis nodes : List Node) : Uniform (templateParts write quasis nodes) := by
  fun_induction templateParts write quasis nodes with
  | case1 | case3 => infer_instance
  | case2 =>
      refine @bind_uniform _ _ _ _ inferInstance fun _ => ?_
      split <;> infer_instance

instance templateLiteral_uniform (write : Node → Printer Unit) [∀ node, Uniform (write node)]
    (quasis nodes : List Node) : Uniform (templateLiteral write quasis nodes) := by
  unfold templateLiteral
  infer_instance

/-! ## Patterns -/

instance key_uniform (isComputed : Bool) (node : Node) : Uniform (key isComputed node) := by
  unfold key
  infer_instance

instance initializer_uniform (value : Node) : Uniform (initializer value) := by
  unfold initializer
  infer_instance

instance declaredType_uniform (type : Node) : Uniform (declaredType type) := by
  unfold declaredType
  infer_instance

instance patternProperty_uniform (isComputed : Bool) (keyNode pattern : Node) :
    Uniform (patternProperty isComputed keyNode pattern) := by
  unfold patternProperty
  infer_instance

instance objectPattern_uniform (properties : List Node) (rest : Node) :
    Uniform (objectPattern properties rest) := by
  unfold objectPattern
  infer_instance

instance arrayPattern_uniform (elements : List Node) (rest : Node) :
    Uniform (arrayPattern elements rest) := by
  unfold arrayPattern
  infer_instance

instance targetProperty_uniform (isComputed : Bool) (keyNode target : Node) :
    Uniform (targetProperty isComputed keyNode target) := by
  unfold targetProperty
  infer_instance

instance pattern_uniform (kind : Kind) (parts : List Node) : Uniform (pattern kind parts) := by
  unfold pattern
  split <;> infer_instance

/-! ## Functions -/

instance statementList_uniform (write : Node → Printer Unit) [∀ node, Uniform (write node)]
    (directives statements : List Node) : Uniform (statementList write directives statements) := by
  unfold statementList
  refine @bind_uniform _ _ _ _ inferInstance fun _ => ?_
  split <;> infer_instance

instance functionBody_uniform (span : Span) (directives statements : List Node) :
    Uniform (functionBody span directives statements) := by
  unfold functionBody
  infer_instance

instance decorators_uniform (nodes : List Node) : Uniform (decorators nodes) := by
  unfold decorators
  infer_instance

instance decorator_uniform (e : Node) : Uniform (decorator e) := by
  unfold decorator
  infer_instance

instance access_uniform (shape : MemberShape) : Uniform (access shape) := by
  unfold access
  split <;> infer_instance

instance parameter_uniform (shape : MemberShape) (decorated : List Node)
    (pattern type value : Node) : Uniform (parameter shape decorated pattern type value) := by
  unfold parameter
  infer_instance

instance parameterList_uniform (this parameters : Node) :
    Uniform (parameterList this parameters) := by
  unfold parameterList
  infer_instance

instance functionRest_uniform (generics this parameters result body : Node) :
    Uniform (functionRest generics this parameters result body) := by
  unfold functionRest
  infer_instance

instance function_uniform (shape : FunctionShape) (parts : List Node) :
    Uniform (function shape parts) := by
  unfold function
  split <;> infer_instance

instance functionValue_uniform (kept : Bool) (shape : FunctionShape) (parts : List Node) :
    Uniform (functionValue kept shape parts) := by
  unfold functionValue
  infer_instance

instance arrow_uniform (place : Place) (kept : Bool) (shape : ArrowShape) (parts : List Node) :
    Uniform (arrow place kept shape parts) := by
  have hmark : Uniform (modify fun s => { s with arrowMark := some s.length } : Printer Unit) :=
    modify_uniform _ fun _ _ _ h => { h with arrowMark := h.end_marks }
  unfold arrow
  split
  · split <;> infer_instance
  · infer_instance

instance methodRest_uniform (isComputed isOptional : Bool) (keyNode function : Node)
    (ending : String) : Uniform (methodRest isComputed isOptional keyNode function ending) := by
  unfold methodRest
  split <;> infer_instance

/-! ## Classes -/

instance classBody_uniform (shape : ClassShape) (decorated : List Node) (name : Node)
    (parts : List Node) : Uniform (classBody shape decorated name parts) := by
  unfold classBody
  split <;> infer_instance

instance classLike_uniform (shape : ClassShape) (parts : List Node) :
    Uniform (classLike shape parts) := by
  unfold classLike
  split <;> infer_instance

instance classMember_uniform (node : Node) : Uniform (classMember node) := by
  unfold classMember
  split <;> infer_instance

instance memberModifiers_uniform (shape : MemberShape) : Uniform (memberModifiers shape) := by
  unfold memberModifiers
  infer_instance

instance method_uniform (role : MethodRole) (shape : MemberShape) (decorated : List Node)
    (keyNode function : Node) : Uniform (method role shape decorated keyNode function) := by
  unfold method
  infer_instance

instance fieldRest_uniform (shape : MemberShape) (keyNode type value : Node) :
    Uniform (fieldRest shape keyNode type value) := by
  unfold fieldRest
  infer_instance

instance field_uniform (shape : MemberShape) (decorated : List Node)
    (keyNode type value : Node) : Uniform (field shape decorated keyNode type value) := by
  unfold field
  infer_instance

instance accessor_uniform (shape : MemberShape) (decorated : List Node)
    (keyNode type value : Node) : Uniform (accessor shape decorated keyNode type value) := by
  unfold accessor
  infer_instance

instance classPart_uniform (kind : Kind) (parts : List Node) :
    Uniform (classPart kind parts) := by
  unfold classPart
  split <;> infer_instance

/-! ## Markup -/

instance attributeText_uniform (text : String) : Uniform (attributeText text) := by
  unfold attributeText
  infer_instance

instance markupAttribute_uniform (name value : Node) : Uniform (markupAttribute name value) := by
  unfold markupAttribute
  split <;> infer_instance

instance openingTag_uniform (name : Node) (attributes : List Node) (closes : Bool) :
    Uniform (openingTag name attributes closes) := by
  unfold openingTag
  infer_instance

instance element_uniform (opening : Node) (children : List Node) (closing : Node) :
    Uniform (element opening children closing) := by
  unfold element
  split <;> split <;> infer_instance

instance markup_uniform (kind : Kind) (span : Span) (parts : List Node) :
    Uniform (markup kind span parts) := by
  unfold markup
  split <;> infer_instance

/-! ## Expressions -/

instance operation_uniform (place : Place) (p : Precedence) (hidden : Bool)
    (leftAbove rightAbove : Precedence) (text : String) (left right : Node) :
    Uniform (operation place p hidden leftAbove rightAbove text left right) := by
  unfold operation
  infer_instance

instance binary_uniform (place : Place) (op : BinaryOp) (left right : Node) :
    Uniform (binary place op left right) := by
  unfold binary
  infer_instance

instance logical_uniform (place : Place) (op : LogicalOp) (left right : Node) :
    Uniform (logical place op left right) := by
  unfold logical
  infer_instance

instance unary_uniform (place : Place) (op : UnaryOp) (e : Node) : Uniform (unary place op e) := by
  unfold unary
  infer_instance

instance update_uniform (place : Place) (op : UpdateOp) (before : Bool) (e : Node) :
    Uniform (update place op before e) := by
  unfold update
  infer_instance

instance assign_uniform (place : Place) (op : AssignOp) (target value : Node) :
    Uniform (assign place op target value) := by
  unfold assign
  infer_instance

instance conditional_uniform (place : Place) (test first second : Node) :
    Uniform (conditional place test first second) := by
  unfold conditional
  infer_instance

instance arguments_uniform (span : Span) (nodes : List Node) :
    Uniform (arguments span nodes) := by
  unfold arguments
  infer_instance

instance call_uniform (place : Place) (span : Span) (isOptional isPure : Bool)
    (callee types : Node) (nodes : List Node) :
    Uniform (call place span isOptional isPure callee types nodes) := by
  have hmark : ∀ atStatement atExport : Bool, Uniform (modify fun s =>
      if atExport then { s with exportMark := some s.length }
      else if atStatement then { s with statementMark := some s.length }
      else s : Printer Unit) := by
    intro atStatement atExport
    refine modify_uniform _ fun _ _ _ h => ?_
    split
    · exact { h with exportMark := h.end_marks }
    · split
      · exact { h with statementMark := h.end_marks }
      · exact h
  unfold call
  infer_instance

instance new_uniform (place : Place) (span : Span) (isPure : Bool) (callee types : Node)
    (nodes : List Node) : Uniform (new place span isPure callee types nodes) := by
  unfold new
  infer_instance

instance memberObject_uniform (place : Place) (object : Node) :
    Uniform (memberObject place object) := by
  unfold memberObject
  infer_instance

instance member_uniform (place : Place) (isOptional : Bool) (object name : Node) :
    Uniform (member place isOptional object name) := by
  unfold member
  infer_instance

instance index_uniform (place : Place) (isOptional : Bool) (object e : Node) :
    Uniform (index place isOptional object e) := by
  unfold index
  infer_instance

instance importCall_uniform (place : Place) (span : Span) (phase : ImportPhase)
    (source options : Node) : Uniform (importCall place span phase source options) := by
  unfold importCall
  cases phase <;> infer_instance

instance valueProperty_uniform (isShorthand isComputed : Bool) (keyNode value : Node) :
    Uniform (valueProperty isShorthand isComputed keyNode value) := by
  unfold valueProperty
  infer_instance

instance property_uniform (role : PropertyRole) (isMethod isShorthand isComputed : Bool)
    (keyNode value : Node) :
    Uniform (property role isMethod isShorthand isComputed keyNode value) := by
  unfold property
  split <;> infer_instance

instance object_uniform (span : Span) (properties : List Node) :
    Uniform (object span properties) := by
  unfold object
  split <;> infer_instance

instance array_uniform (elements : List Node) : Uniform (array elements) := by
  unfold array
  infer_instance

instance paren_uniform (place : Place) (inner : Node) : Uniform (paren place inner) := by
  unfold paren
  split <;> infer_instance

instance expression_uniform (place : Place) (kind : Kind) (span : Span) (parts : List Node) :
    Uniform (expression place kind span parts) := by
  unfold expression
  split <;> infer_instance

end JsxTidy.Printer
