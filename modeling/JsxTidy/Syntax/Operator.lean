/-!
# Operators

The operators of expressions with their spelling and how tightly they bind.
-/

namespace JsxTidy.Syntax

/-- How tightly an expression holds together, from the loosest to the tightest. -/
inductive Precedence where
  | lowest | comma | spread | yield | assign | conditional | coalesce | logicalOr | logicalAnd
  | bitOr | bitXor | bitAnd | equality | comparison | shift | sum | product | power | beforeUnary
  | afterUnary | new | call | member
deriving DecidableEq, Repr

namespace Precedence

/-- The rank of a precedence: a greater rank binds tighter. -/
def rank (p : Precedence) : Nat :=
  p.ctorIdx

/-- Whether `p` binds at least as tightly as `q`. -/
def atLeast (p q : Precedence) : Bool :=
  decide (q.rank ≤ p.rank)

/-- Whether `p` binds more tightly than `q`. -/
def above (p q : Precedence) : Bool :=
  decide (q.rank < p.rank)

end Precedence

/-- An operator between two operands that are both evaluated. -/
inductive BinaryOp where
  | looseEqual | looseUnequal | strictEqual | strictUnequal
  | less | lessEqual | greater | greaterEqual
  | shiftLeft | shiftRight | shiftRightZero
  | add | subtract | multiply | divide | remainder
  | bitOr | bitXor | bitAnd | isIn | instanceOf | power
deriving DecidableEq, Repr

/-- An operator that may leave its second operand unevaluated. -/
inductive LogicalOp where
  | or | and | coalesce
deriving DecidableEq, Repr

/-- An operator before its operand that yields a value. -/
inductive UnaryOp where
  | negate | plus | not | complement | typeOf | void | delete
deriving DecidableEq, Repr

/-- An operator that steps its operand. -/
inductive UpdateOp where
  | increment | decrement
deriving DecidableEq, Repr

/-- An assignment: plain, or through an operator. -/
inductive AssignOp where
  | plain
  | binary (op : BinaryOp)
  | logical (op : LogicalOp)
deriving DecidableEq, Repr

namespace BinaryOp

/-- The spelling of an operator. -/
def text : BinaryOp → String
  | looseEqual => "==" | looseUnequal => "!=" | strictEqual => "===" | strictUnequal => "!=="
  | less => "<" | lessEqual => "<=" | greater => ">" | greaterEqual => ">="
  | shiftLeft => "<<" | shiftRight => ">>" | shiftRightZero => ">>>"
  | add => "+" | subtract => "-" | multiply => "*" | divide => "/" | remainder => "%"
  | bitOr => "|" | bitXor => "^" | bitAnd => "&" | isIn => "in" | instanceOf => "instanceof"
  | power => "**"

/-- How tightly an operator binds. -/
def precedence : BinaryOp → Precedence
  | looseEqual | looseUnequal | strictEqual | strictUnequal => .equality
  | less | lessEqual | greater | greaterEqual | isIn | instanceOf => .comparison
  | shiftLeft | shiftRight | shiftRightZero => .shift
  | add | subtract => .sum
  | multiply | divide | remainder => .product
  | bitOr => .bitOr
  | bitXor => .bitXor
  | bitAnd => .bitAnd
  | power => .power

/-- The operator with a given spelling. -/
def ofText? : String → Option BinaryOp
  | "==" => some looseEqual | "!=" => some looseUnequal
  | "===" => some strictEqual | "!==" => some strictUnequal
  | "<" => some less | "<=" => some lessEqual | ">" => some greater | ">=" => some greaterEqual
  | "<<" => some shiftLeft | ">>" => some shiftRight | ">>>" => some shiftRightZero
  | "+" => some add | "-" => some subtract | "*" => some multiply | "/" => some divide
  | "%" => some remainder | "|" => some bitOr | "^" => some bitXor | "&" => some bitAnd
  | "**" => some power
  | _ => none

end BinaryOp

namespace LogicalOp

/-- The spelling of an operator. -/
def text : LogicalOp → String
  | or => "||" | and => "&&" | coalesce => "??"

/-- How tightly an operator binds. -/
def precedence : LogicalOp → Precedence
  | or => .logicalOr | and => .logicalAnd | coalesce => .coalesce

/-- The operator with a given spelling. -/
def ofText? : String → Option LogicalOp
  | "||" => some or | "&&" => some and | "??" => some coalesce
  | _ => none

end LogicalOp

namespace UnaryOp

/-- The spelling of an operator. -/
def text : UnaryOp → String
  | negate => "-" | plus => "+" | not => "!" | complement => "~"
  | typeOf => "typeof" | void => "void" | delete => "delete"

/-- Whether the operator is spelled as a word. -/
def isWord : UnaryOp → Bool
  | typeOf | void | delete => true
  | _ => false

end UnaryOp

namespace UpdateOp

/-- The spelling of an operator. -/
def text : UpdateOp → String
  | increment => "++" | decrement => "--"

end UpdateOp

namespace AssignOp

/-- The spelling of an assignment. -/
def text : AssignOp → String
  | plain => "="
  | binary op => op.text ++ "="
  | logical op => op.text ++ "="

/-- The assignment with a given spelling. -/
def ofText? : String → Option AssignOp
  | "=" => some plain
  | "+=" => some (binary .add) | "-=" => some (binary .subtract)
  | "*=" => some (binary .multiply) | "/=" => some (binary .divide)
  | "%=" => some (binary .remainder) | "<<=" => some (binary .shiftLeft)
  | ">>=" => some (binary .shiftRight) | ">>>=" => some (binary .shiftRightZero)
  | "&=" => some (binary .bitAnd) | "|=" => some (binary .bitOr) | "^=" => some (binary .bitXor)
  | "**=" => some (binary .power) | "&&=" => some (logical .and) | "||=" => some (logical .or)
  | "??=" => some (logical .coalesce)
  | _ => none

end AssignOp

end JsxTidy.Syntax
