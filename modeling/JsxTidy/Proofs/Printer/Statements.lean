import JsxTidy.Printer.Program
import JsxTidy.Proofs.Printer.Values

/-!
# Statements are written the same on different grounds

The printers of types, statements and module items are uniform, and with them the rule for every
kind of syntax. By induction on the depth every piece of syntax is written the same on all grounds.
-/

namespace JsxTidy.Printer

open Syntax

-- A printer of many steps needs an instance for each of them.
set_option synthInstance.maxSize 20000

/-! ## Types -/

instance typeMember_uniform (node : Node) : Uniform (typeMember node) := by
  unfold typeMember
  infer_instance

instance typeMembers_uniform (members : List Node) : Uniform (typeMembers members) := by
  unfold typeMembers
  infer_instance

instance arrowResult_uniform (result : Node) : Uniform (arrowResult result) := by
  unfold arrowResult
  infer_instance

instance importType_uniform (source options qualifier arguments : Node) :
    Uniform (importType source options qualifier arguments) := by
  unfold importType
  infer_instance

instance mappedType_uniform (optionality readonlyness : MappedModifier)
    (name bound renamed type : Node) :
    Uniform (mappedType optionality readonlyness name bound renamed type) := by
  unfold mappedType
  infer_instance

instance typePredicate_uniform (asserts : Bool) (subject type : Node) :
    Uniform (typePredicate asserts subject type) := by
  unfold typePredicate
  infer_instance

instance typeParameters_uniform (parameters : List Node) :
    Uniform (typeParameters parameters) := by
  unfold typeParameters
  infer_instance

instance typeParameter_uniform (isConst isIn isOut : Bool) (name bound default : Node) :
    Uniform (typeParameter isConst isIn isOut name bound default) := by
  unfold typeParameter
  infer_instance

instance signatureRest_uniform (generics this parameters result : Node) :
    Uniform (signatureRest generics this parameters result) := by
  unfold signatureRest
  infer_instance

instance literalType_uniform (literal : Node) : Uniform (literalType literal) := by
  unfold literalType
  split <;> infer_instance

instance indexSignature_uniform (isReadonly : Bool) (parts : List Node) :
    Uniform (indexSignature isReadonly parts) := by
  unfold indexSignature
  split <;> infer_instance

instance signature_uniform (kind : Kind) (parts : List Node) :
    Uniform (signature kind parts) := by
  unfold signature
  split <;> infer_instance

instance type_uniform (kind : Kind) (parts : List Node) : Uniform (type kind parts) := by
  unfold type
  split <;> infer_instance

/-! ## Statements -/

instance block_uniform (statements : List Node) : Uniform (block statements) := by
  unfold block
  infer_instance

instance body_uniform (statement : Node) : Uniform (body statement) := by
  have hspace : Uniform (modify fun s => { s with indentAsSpace := true } : Printer Unit) :=
    modify_uniform _ fun _ _ _ h => { h with indentAsSpace := rfl }
  unfold body
  split <;> infer_instance

instance firstBranch_uniform (statement : Node) (hasElse : Bool) :
    Uniform (firstBranch statement hasElse) := by
  unfold firstBranch
  split <;> infer_instance

instance ifFrom_uniform (statement : Node) : Uniform (ifFrom statement) := by
  fun_induction ifFrom statement with
  | case1 =>
      split
      · split <;> infer_instance
      · infer_instance
  | case2 => infer_instance

instance loop_uniform (head : String) (inside : Printer Unit) [Uniform inside] (inner : Node) :
    Uniform (loop head inside inner) := by
  unfold loop
  infer_instance

instance variableDeclaration_uniform (place : Place) (word : VariableWord) (isDeclare : Bool)
    (declarators : List Node) : Uniform (variableDeclaration place word isDeclare declarators) := by
  unfold variableDeclaration
  infer_instance

instance loopStart_uniform (place : Place) (node : Node) : Uniform (loopStart place node) := by
  unfold loopStart
  split <;> infer_instance

instance loopTarget_uniform (left : Node) : Uniform (loopTarget left) := by
  unfold loopTarget
  infer_instance

instance loopPiece_uniform (node : Node) : Uniform (loopPiece node) := by
  unfold loopPiece
  infer_instance

instance switchCase_uniform (test : Node) (statements : List Node) :
    Uniform (switchCase test statements) := by
  unfold switchCase
  split <;> infer_instance

instance catchClause_uniform (span : Span) (caught handler : Node) :
    Uniform (catchClause span caught handler) := by
  unfold catchClause
  split <;> infer_instance

instance tryStatement_uniform (first handler last : Node) :
    Uniform (tryStatement first handler last) := by
  unfold tryStatement
  infer_instance

instance doWhileStatement_uniform (inner test : Node) :
    Uniform (doWhileStatement inner test) := by
  unfold doWhileStatement
  split <;> infer_instance

instance declarator_uniform (place : Place) (isDefinite : Bool) (pattern type value : Node) :
    Uniform (declarator place isDefinite pattern type value) := by
  unfold declarator
  infer_instance

instance jump_uniform (text : String) (label : Node) : Uniform (jump text label) := by
  unfold jump
  infer_instance

instance statementRest_uniform (kind : Kind) (parts : List Node) :
    Uniform (statementRest kind parts) := by
  have hmark : Uniform (modify fun s => { s with statementMark := some s.length } : Printer Unit) :=
    modify_uniform _ fun _ _ _ h => { h with statementMark := h.end_marks }
  unfold statementRest
  split <;> infer_instance

instance directive_uniform (raw : String) : Uniform (directive raw) := by
  unfold directive
  infer_instance

/-! ## Module items -/

instance namespaceFrom_uniform (node : Node) : Uniform (namespaceFrom node) := by
  fun_induction namespaceFrom node with
  | case1 =>
      refine @bind_uniform _ _ _ _ inferInstance fun _ => ?_
      split <;> infer_instance
  | case2 | case3 => infer_instance

instance enumMember_uniform (isComputed : Bool) (name value : Node) :
    Uniform (enumMember isComputed name value) := by
  unfold enumMember
  infer_instance

instance enumMembers_uniform (members : List Node) : Uniform (enumMembers members) := by
  induction members with
  | nil => exact pure_uniform ()
  | cons member rest ih =>
      unfold enumMembers
      infer_instance

instance interface_uniform (name : Node) (parts : List Node) :
    Uniform (interface name parts) := by
  unfold interface
  split <;> infer_instance

instance typedDeclaration_uniform (node : Node) : Uniform (typedDeclaration node) := by
  unfold typedDeclaration
  split <;> infer_instance

instance quietLine_uniform (node : Node) : Uniform (quietLine node) := by
  unfold quietLine
  infer_instance

instance declaration_uniform (node : Node) : Uniform (declaration node) := by
  unfold declaration
  split
  · infer_instance
  · infer_instance
  · infer_instance
  · split <;> infer_instance

instance declarationStatement_uniform (node : Node) : Uniform (declarationStatement node) := by
  unfold declarationStatement
  infer_instance

instance renamed_uniform (isType : Bool) (first second : Node) :
    Uniform (renamed isType first second) := by
  unfold renamed
  infer_instance

instance specifiers_uniform (nodes : List Node) : Uniform (specifiers nodes) := by
  unfold specifiers
  infer_instance

instance importClause_uniform (nodes : List Node) : Uniform (importClause nodes) := by
  unfold importClause
  infer_instance

instance attributesBehind_uniform (node : Node) : Uniform (attributesBehind node) := by
  unfold attributesBehind
  infer_instance

instance importDeclaration_uniform (isType : Bool) (phase : ImportPhase)
    (clause source attributes : Node) :
    Uniform (importDeclaration isType phase clause source attributes) := by
  unfold importDeclaration
  cases phase <;> infer_instance

instance expressionExport_uniform (exported : Node) :
    Uniform (exportDefault.expressionExport exported) := by
  have hmark : Uniform (modify fun s => { s with exportMark := some s.length } : Printer Unit) :=
    modify_uniform _ fun _ _ _ h => { h with exportMark := h.end_marks }
  unfold exportDefault.expressionExport
  infer_instance

instance exportDefault_uniform (exported : Node) : Uniform (exportDefault exported) := by
  unfold exportDefault
  split <;> infer_instance

instance exportNames_uniform (isType : Bool) (nodes : List Node) (source : Node) :
    Uniform (exportNames isType nodes source) := by
  unfold exportNames
  infer_instance

instance moduleItem_uniform (kind : Kind) (parts : List Node) :
    Uniform (moduleItem kind parts) := by
  unfold moduleItem
  split <;> infer_instance

instance modulePart_uniform (kind : Kind) (span : Span) (parts : List Node) :
    Uniform (modulePart kind span parts) := by
  unfold modulePart
  split <;> infer_instance

/-! ## All syntax -/

instance hashbangLine_uniform (text : String) : Uniform (hashbangLine text) := by
  unfold hashbangLine
  infer_instance

instance innerPart_uniform (place : Place) (kind : Kind) (span : Span) (parts : List Node) :
    Uniform (innerPart place kind span parts) := by
  unfold innerPart
  split <;> infer_instance

instance rule_uniform (place : Place) (node : Node) : Uniform (rule place node) := by
  cases node with
  | mk kind span parts =>
      unfold rule
      cases kind <;> infer_instance

/-- Every piece of syntax is written the same on all grounds. -/
theorem write_keepsLevel (depth : Nat) : PrinterEnv.KeepsLevel ⟨write depth⟩ := by
  induction depth with
  | zero => exact fun _ _ _ _ _ h => ⟨rfl, h⟩
  | succ depth ih => exact fun place node => (rule_uniform place node).keepsLevel _ ih

end JsxTidy.Printer
