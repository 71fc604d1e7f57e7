import JsxTidy.Printer.Expression
import JsxTidy.Printer.Markup
import JsxTidy.Printer.ModuleItem

/-!
# Writing programs

The pieces are put together. Each piece of syntax is written by the rule for its kind, and the
pieces inside it by their own rules.
-/

namespace JsxTidy

open Syntax

namespace Printer

/-- Writes a part of a statement or of a function. -/
def innerPart (place : Place) (kind : Kind) (span : Span) (parts : List Node) : Printer Unit :=
  match kind, parts with
  | .switchCase, [test, .mk .list _ statements] => switchCase test statements
  | .catchClause, [caught, handler] => catchClause span caught handler
  | .declarator isDefinite, [pattern, inner, value] =>
    declarator place isDefinite pattern inner value
  | .functionBody, [.mk .list _ directives, .mk .list _ statements] =>
    functionBody span directives statements
  | .parameter shape, [.mk .list _ decorated, pattern, inner, value] =>
    parameter shape decorated pattern inner value
  | .restParameter, [.mk .list _ decorated, element, inner] => do
    decorators decorated
    part element
    declaredType inner
  | .thisParameter, [inner] => do
    put "this"
    declaredType inner
  | _, _ => pure ()

/-- Writes a piece of syntax by the rule for its kind. -/
def rule (place : Place) (node : Node) : Printer Unit :=
  match node with
  | .mk kind span parts =>
    match kind with
    | .absent | .list | .hole => pure ()
    | .binding name => word name
    | .word name => put name
    | .privateName name => put ("#" ++ name)
    | .directive raw => do
      commentsAt span.start
      directive raw
    | .block | .breakStatement | .continueStatement | .debuggerStatement | .doWhileStatement
    | .emptyStatement | .expressionStatement | .forInStatement | .forOfStatement _
    | .forStatement | .ifStatement | .labeledStatement | .returnStatement | .switchStatement
    | .throwStatement | .tryStatement | .whileStatement | .withStatement => do
      commentsAt span.start
      indentation
      statementRest kind parts
    | .switchCase | .catchClause | .declarator _ | .functionBody | .parameter _ | .restParameter
    | .thisParameter => innerPart place kind span parts
    | .importDeclaration .. | .exportAll _ | .exportDefault | .exportNamed _ | .exportAssignment
    | .namespaceExport => do
      commentsAt span.start
      moduleItem kind parts
    | .importSpecifier _ | .importDefault | .importNamespace | .attributes _ | .attribute
    | .exportSpecifier _ | .externalModule | .moduleBlock | .parent | .enumMember _ =>
      modulePart kind span parts
    | .variables .. | .typeAlias _ | .interfaceDeclaration _ | .enumDeclaration ..
    | .namespaceDeclaration .. | .globalDeclaration .. | .importEquals _ =>
      declarationStatement node
    | .function shape =>
      if shape.form == .expression then functionValue false shape parts
      else declarationStatement node
    | .classLike shape =>
      if shape.isDeclaration then declarationStatement node else classLike shape parts
    | .classBody | .method .. | .field _ | .accessor _ | .staticBlock | .implemented
    | .decorator => classPart kind parts
    | .objectPattern | .patternProperty .. | .arrayPattern | .patternDefault | .restElement
    | .objectTarget | .targetName | .targetProperty _ | .arrayTarget | .targetDefault
    | .targetRest => pattern kind parts
    | .element | .fragment | .markupAttribute | .spreadAttribute | .container
    | .emptyExpression | .markupText _ | .spreadChild | .namespacedName | .memberName =>
      markup kind span parts
    | .keywordType _ | .thisType | .arrayType | .tupleType | .namedTupleMember _ | .optionalType
    | .restType | .conditionalType | .functionType | .constructorType _ | .importType
    | .indexedType | .inferType | .unionType | .intersectionType | .literalType | .templateType
    | .mappedType .. | .typePredicate _ | .typeOperator _ | .typeReference | .typeQuery
    | .parenType | .markedType .. | .qualifiedName | .typeLiteral | .typeParameters
    | .typeParameter .. | .typeArguments | .propertySignature .. | .callSignature
    | .constructSignature | .methodSignature .. | .indexSignature .. => type kind parts
    | _ => expression place kind span parts

/-- Writes a piece of syntax, descending at most `depth` pieces. -/
def write : Nat → Place → Node → StateM PrinterState Unit
  | 0, _, _ => pure ()
  | depth + 1, place, node => rule place node ⟨write depth⟩

mutual

/-- The number of pieces of syntax that lie one inside the other. -/
def height : Node → Nat
  | .mk _ _ parts => heights parts + 1

/-- The greatest height of some pieces. -/
def heights : List Node → Nat
  | [] => 0
  | node :: rest => max (height node) (heights rest)

end

/-- Writes the line for the shell. -/
def hashbangLine (text : String) : Printer Unit := do
  put "#!"
  put text
  newline

/-- Writes a program, each of its statements by `write`. -/
def programText (write : Node → Printer Unit) (p : Program) : Printer Unit := do
  commentsAt 0
  match p.hashbang with
  | some text => hashbangLine text
  | none => pure ()
  statementList write p.directives p.body
  commentsAt p.size

/-- The state before anything has been written. -/
def start (comments : List Comment) : PrinterState where
  reversed := []
  length := 0
  depth := 0
  indentAsSpace := false
  statementMark := none
  arrowMark := none
  exportMark := none
  signMark := none
  regExpMark := none
  integerMark := none
  comments :=
    comments.filter fun c => c.leads?.isSome && c.role != .pure && c.role != .quiet

end Printer

/-- The text of a program, with the comments that lead its statements and members. -/
def print (p : Program) (comments : List Comment) : String :=
  let depth := Printer.heights (p.directives ++ p.body) + 1
  let ((), s) := Printer.programText Printer.part p ⟨Printer.write depth⟩ (Printer.start comments)
  String.ofList s.reversed.reverse

end JsxTidy
