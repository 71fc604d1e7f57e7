import JsxTidy.Printer.Function

/-!
# Writing programs: expressions

The parentheses of the source are gone; an expression is wrapped where its place binds at least as
tightly as it does.
-/

namespace JsxTidy.Printer

open Syntax

/-- The precedence just below another one. -/
def below : Precedence → Precedence
  | .power => .product | .product => .sum | .sum => .shift | .shift => .comparison
  | .comparison => .equality | .equality => .bitAnd | .bitAnd => .bitXor | .bitXor => .bitOr
  | .bitOr => .logicalAnd | .logicalAnd => .logicalOr | .logicalOr => .coalesce
  | .coalesce => .conditional
  | p => p

/-- Whether an operand of `??` is another choice between values, which must be wrapped. -/
def isOtherChoice (e : Node) : Bool :=
  match e.withoutParens with
  | .mk (.logical .or) _ _ | .mk (.logical .and) _ _ => true
  | _ => false

/-- Whether the base of a power must be wrapped. -/
def isWrappedBase (e : Node) : Bool :=
  match e.withoutParens with
  | .mk (.unary _) _ _ | .mk .await _ _ => true
  | _ => false

/-- Writes two operands with an operator between them. -/
def operation (place : Place) (p : Precedence) (hidden : Bool) (leftAbove rightAbove : Precedence)
    (text : String) (left right : Node) : Printer Unit := do
  let isWrapped := place.above.atLeast p || (hidden && place.forbidIn)
  let inner := place.inside isWrapped
  wrapped isWrapped do
    child (inner.keep leftAbove) left
    put (" " ++ text ++ " ")
    child (inner.keepIn rightAbove) right

/-- Writes a binary operation. Powers group to the right, all others to the left. -/
def binary (place : Place) (op : BinaryOp) (left right : Node) : Printer Unit :=
  let p := op.precedence
  if op == .power then
    operation place p false (if isWrappedBase left then .call else p) (below p) op.text left right
  else operation place p (op == .isIn) (below p) p op.text left right

/-- Writes a choice between values. -/
def logical (place : Place) (op : LogicalOp) (left right : Node) : Printer Unit :=
  let p := op.precedence
  let wrap := fun (e : Node) (above : Precedence) =>
    if op == .coalesce && isOtherChoice e then .beforeUnary else above
  operation place p false (wrap left (below p)) (wrap right p) op.text left right

/-- Writes an operator before its operand. -/
def unary (place : Place) (op : UnaryOp) (e : Node) : Printer Unit :=
  wrapped (place.above.atLeast .beforeUnary) do
    if op.isWord then word (op.text ++ " ")
    else
      spaceBeforeSign (.unary op)
      put op.text
      rememberSign (.unary op)
    child (place.keep .power) e

/-- Writes a step of an operand. -/
def update (place : Place) (op : UpdateOp) (before : Bool) (e : Node) : Printer Unit :=
  if before then
    wrapped (place.above.atLeast .beforeUnary) do
      spaceBeforeSign (.update op)
      put op.text
      rememberSign (.update op)
      child (place.keep .beforeUnary) e
  else
    wrapped (place.above.atLeast .afterUnary) do
      spaceBeforeSign (.update op)
      child (place.keep .afterUnary) e
      put op.text
      rememberSign (.update op)

/-- Writes an assignment. An object on its left must not open a statement. -/
def assign (place : Place) (op : AssignOp) (target value : Node) : Printer Unit := do
  let atStart := (← isHere (← get).statementMark) || (← isHere (← get).arrowMark)
  let isObject := match target.kind with
    | .objectTarget => true
    | _ => false
  wrapped ((atStart && isObject) || place.above.atLeast .assign) do
    child (place.keep .comma) target
    put (" " ++ op.text ++ " ")
    child (place.keep .comma) value

/-- Writes a conditional expression. -/
def conditional (place : Place) (test first second : Node) : Printer Unit := do
  let isWrapped := place.above.atLeast .conditional
  let inner := place.inside isWrapped
  wrapped isWrapped do
    child (inner.keepIn .conditional) test
    put " ? "
    child (.within .yield) first
    put " : "
    child (inner.keepIn .yield) second

/-- Writes arguments in parentheses. When comments stand among them, each begins a line. -/
def arguments (span : Span) (nodes : List Node) : Printer Unit := do
  putChar '('
  let ending := span.stop - 1
  let atEnd ← hasComments ending
  let amid ← nodes.anyM fun node => hasComments node.span.start
  if atEnd || amid then
    deeper do
      separated (putChar ',') (fun node => do
        if !(← argumentComments node.span.start) then newline
        indentation
        child .piece node) nodes
      if !(← argumentComments ending) then newline
    indentation
  else commaSeparated (child .piece) nodes
  putChar ')'

/-- The comment that says that a call has no side effects. -/
def pureComment : String :=
  "/* @__PURE__ */ "

/-- Writes a call. -/
def call (place : Place) (span : Span) (isOptional isPure : Bool) (callee types : Node)
    (nodes : List Node) : Printer Unit := do
  let atStatement ← isHere (← get).statementMark
  let atExport ← isHere (← get).exportMark
  let isWrapped := place.above.atLeast .new || place.forbidCall
    || (isPure && place.above.atLeast .afterUnary)
  wrapped isWrapped do
    putIf isPure pureComment
    modify fun s =>
      if atExport then { s with exportMark := some s.length }
      else if atStatement then { s with statementMark := some s.length }
      else s
    child (.within .afterUnary) callee
    putIf isOptional "?."
    part types
    arguments span nodes

/-- Writes the making of an object. Its arguments are written even if there are none. -/
def new (place : Place) (span : Span) (isPure : Bool) (callee types : Node) (nodes : List Node) :
    Printer Unit :=
  wrapped (place.above.atLeast .call || (isPure && place.above.atLeast .afterUnary)) do
    putIf isPure pureComment
    word "new "
    child ⟨.new, false, true⟩ callee
    part types
    arguments span nodes

/-- Writes the object of a member access. -/
def memberObject (place : Place) (object : Node) : Printer Unit :=
  child ⟨.afterUnary, false, place.forbidCall⟩ object

/-- Writes the access to a named member. -/
def member (place : Place) (isOptional : Bool) (object name : Node) : Printer Unit := do
  memberObject place object
  if isOptional then put "?."
  else
    if ← isHere (← get).integerMark then putChar ' '
    putChar '.'
  part name

/-- Writes the access to a computed member. -/
def index (place : Place) (isOptional : Bool) (object e : Node) : Printer Unit := do
  memberObject place object
  putIf isOptional "?."
  putChar '['
  part e
  putChar ']'

/-- Writes the loading of a module. -/
def importCall (place : Place) (span : Span) (phase : ImportPhase) (source options : Node) :
    Printer Unit := do
  let ending := span.stop - 1
  let nodes := if options.isPresent then [source, options] else [source]
  let atEnd ← hasComments ending
  let amid ← nodes.anyM fun node => hasComments node.span.start
  wrapped (place.above.atLeast .new || place.forbidCall) do
    word "import"
    match phase with
    | .evaluation => pure ()
    | .deferred => put ".defer"
    | .source => put ".source"
    putChar '('
    if atEnd || amid then
      deeper do
        separated (putChar ',') (fun node => do
          if !(← argumentComments node.span.start) then newline
          indentation
          child .piece node) nodes
        if !(← argumentComments ending) then newline
      indentation
    else commaSeparated (child .piece) nodes
    putChar ')'

/-- Whether a key is a number too great to be written as one. -/
def isInfiniteKey : Node → Bool
  | .mk (.number raw) _ _ =>
    match Decimal.LiteralValue.ofRaw raw with
    | .infinite => true
    | _ => false
  | _ => false

/-- Writes a property with a value, by its name alone where that says the same. -/
def valueProperty (isShorthand isComputed : Bool) (keyNode value : Node) : Printer Unit := do
  let isShort := match keyNode with
    | .mk (.word name) _ _ =>
      if name == "__proto__" then isShorthand else isReferenceTo name value.withoutParens
    | _ => false
  if !isShort then
    key (isComputed || isInfiniteKey keyNode) keyNode
    put ": "
  child .piece value

/-- Writes a property of an object literal. -/
def property (role : PropertyRole) (isMethod isShorthand isComputed : Bool) (keyNode value : Node) :
    Printer Unit := do
  match role with
  | .getter =>
    put "get "
    methodRest isComputed false keyNode value ""
  | .setter =>
    put "set "
    methodRest isComputed false keyNode value ""
  | .value =>
    if isMethod then methodRest isComputed false keyNode value ""
    else valueProperty isShorthand isComputed keyNode value

/-- Writes an object literal, in parentheses where its brace would open a block. -/
def object (span : Span) (properties : List Node) : Printer Unit := do
  let commented ← hasComments span.start
  let atStart := (← isHere (← get).statementMark) || (← isHere (← get).arrowMark)
  wrapped (commented || atStart) do
    if commented then
      commentsAt span.start
      indentation
    putChar '\x7b'
    match properties with
    | [] => pure ()
    | [single] =>
      putChar ' '
      part single
      putChar ' '
    | several => lines part several
    putChar '\x7d'

/-- Writes an array literal. A hole at its end keeps its comma. -/
def array (elements : List Node) : Printer Unit := do
  putChar '['
  let ending := if endsInHole elements then [Node.none] else []
  if 2 < elements.length then
    deeper do
      newline
      indentation
      separated (put ",\n" *> indentation) (child .piece) elements
      putIf (!ending.isEmpty) ","
    newline
    indentation
  else
    commaSeparated (child .piece) elements
    putIf (!ending.isEmpty) ","
  putChar ']'

/-- Writes an expression that stood in parentheses. They are dropped, but not around a function. -/
def paren (place : Place) (inner : Node) : Printer Unit :=
  match inner with
  | .mk (.function shape) _ parts => functionValue true shape parts
  | .mk (.arrow shape) _ parts => arrow place true shape parts
  | _ => child place inner

/-- Writes an expression. -/
def expression (place : Place) (kind : Kind) (span : Span) (parts : List Node) : Printer Unit :=
  match kind, parts with
  | .reference name, _ => word name
  | .null, _ => word "null"
  | .boolean value, _ => word (if value then "true" else "false")
  | .number raw, _ => numberLiteral raw
  | .bigInt raw, _ => word (Decimal.bigIntText raw ++ "n")
  | .string value lone, _ => stringLiteral value lone
  | .regExp text flags, _ => regExpLiteral text flags
  | .template, [.mk .list _ quasis, .mk .list _ nodes] => templateLiteral part quasis nodes
  | .taggedTemplate, [tag, types, template] => do
    child (.within .afterUnary) tag
    part types
    part template
  | .this, _ => word "this"
  | .super, _ => word "super"
  | .array, elements => array elements
  | .spread, [e] => do
    put "..."
    child .piece e
  | .object, properties => object span properties
  | .property role isMethod isShorthand isComputed, keyNode :: value :: _ =>
    property role isMethod isShorthand isComputed keyNode value
  | .arrow shape, parts => arrow place false shape parts
  | .unary op, [e] => unary place op e
  | .update op before, [e] => update place op before e
  | .binary op, [left, right] => binary place op left right
  | .logical op, [left, right] => logical place op left right
  | .privateIn, [name, e] =>
    wrapped (place.above.atLeast .comparison) do
      part name
      put " in "
      child ⟨.equality, true, false⟩ e
  | .assign op, [target, value] => assign place op target value
  | .conditional, [test, first, second] => conditional place test first second
  | .sequence, nodes =>
    wrapped (place.above.atLeast .comma)
      (commaSeparated (child { place with above := .comma, forbidCall := false }) nodes)
  | .call isOptional isPure, [callee, types, .mk .list _ nodes] =>
    call place span isOptional isPure callee types nodes
  | .new isPure, [callee, types, .mk .list _ nodes] => new place span isPure callee types nodes
  | .member isOptional, [e, name] => member place isOptional e name
  | .index isOptional, [e, i] => index place isOptional e i
  | .chain, [e] => wrapped (place.above.atLeast .afterUnary) (child place e)
  | .metaProperty subject property, _ => word (subject ++ "." ++ property)
  | .importCall phase, [source, options] => importCall place span phase source options
  | .await, [e] =>
    wrapped (place.above.atLeast .beforeUnary) do
      word "await "
      child (place.keep .power) e
  | .yield delegates, [e] =>
    wrapped (place.above.atLeast .assign) do
      word "yield"
      putIf delegates "*"
      optionally e do
        putChar ' '
        child (place.keep .yield) e
  | .paren, [e] => paren place e
  | .asType, [e, type] =>
    wrapped (place.above.atLeast .shift) do
      child (place.keep .power) e
      put " as "
      part type
  | .satisfiesType, [e, type] =>
    wrapped (place.above.atLeast .shift) do
      child (place.keep .power) e
      put " satisfies "
      part type
  | .nonNull, [e] => do
    child (place.keep .afterUnary) e
    putChar '!'
  | .instantiation, [e, types] => do
    child place e
    part types
  | _, _ => pure ()

end JsxTidy.Printer
