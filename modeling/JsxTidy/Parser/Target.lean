import JsxTidy.Parser.Name

/-!
# Reading programs: assignment targets

What stands before an assignment is first read as an expression. This module turns it into the
target that it stands for, or complains about the part that cannot be assigned to.
-/

namespace JsxTidy.Parser

open Syntax

/-- An expression without the wrappers that keep its value. -/
def innermost : Node → Node
  | .mk .paren _ [e] => innermost e
  | .mk .asType _ [e, _] => innermost e
  | .mk .satisfiesType _ [e, _] => innermost e
  | .mk .nonNull _ [e] => innermost e
  | .mk .typeAssertion _ [_, e] => innermost e
  | .mk .instantiation _ [e, _] => innermost e
  | e => e

/-- Whether an expression names a place by itself. -/
def isPlace : Node → Bool
  | .mk (.reference _) _ _ => true
  | .mk (.member _) _ _ => true
  | .mk (.index _) _ _ => true
  | _ => false

/-- The expression as a target that is no pattern. -/
def simpleTarget : Node → Parser Node
  | .mk .paren span [inner] =>
    match inner with
    | .mk .object _ _ | .mk .array _ _ => failAt .cannotAssign span.start
    | _ => simpleTarget inner
  | e =>
    let wrapped : Bool := match e with
      | .mk .asType _ _ | .mk .satisfiesType _ _ | .mk .nonNull _ _ | .mk .typeAssertion _ _ => true
      | _ => false
    if isPlace e || (wrapped && isPlace (innermost e)) then return e
    else match e with
      | .mk .instantiation span _ => failAt .invalidAssignmentLeft span.start
      | _ => failAt .cannotAssign e.span.start

/-- Complains about a comma behind the last element of a pattern that ends in a rest. -/
def checkTrailingComma (start : Nat) : Parser Unit := do
  match (← get).trailingCommas.lookup start with
  | some comma => complainAt .restTrailingComma comma
  | none => pure ()

mutual

/-- The expression as a target. -/
def target : Node → Parser Node
  | .mk .array span elements => do
    let parts ← arrayTargets span elements
    return .mk .arrayTarget span parts
  | .mk .object span properties => do
    let parts ← objectTargets span properties
    return .mk .objectTarget span parts
  | e => simpleTarget e

/-- The expression as a target that may have a default. -/
def targetOrDefault : Node → Parser Node
  | .mk (.assign .plain) span parts => return .mk .targetDefault span parts
  | .mk .array span elements => do
    let parts ← arrayTargets span elements
    return .mk .arrayTarget span parts
  | .mk .object span properties => do
    let parts ← objectTargets span properties
    return .mk .objectTarget span parts
  | e => simpleTarget e

/-- The elements of an array as the parts of a target. -/
def arrayTargets (array : Span) : List Node → Parser (List Node)
  | [] => return []
  | .mk .spread span [e] :: rest => do
    if !rest.isEmpty then failAt .spreadLast span.start
    let inner ← target e
    checkTrailingComma array.start
    return [.mk .targetRest span [inner]]
  | .mk .hole span _ :: rest => do
    return .mk .hole span [] :: (← arrayTargets array rest)
  | e :: rest => do
    let first ← targetOrDefault e
    return first :: (← arrayTargets array rest)

/-- The properties of an object as the parts of a target. -/
def objectTargets (object : Span) : List Node → Parser (List Node)
  | [] => return []
  | .mk .spread span [e] :: rest => do
    if !rest.isEmpty then failAt .spreadLast span.start
    match e with
    | .mk .object _ _ | .mk .array _ _ => failAt .invalidRestTarget e.span.start
    | _ => pure ()
    let inner ← target e
    checkTrailingComma object.start
    return [.mk .targetRest span [inner]]
  | .mk (.property _ _ true _) span parts :: rest => do
    modify fun s => { s with covers := s.covers.filter fun c => c.1 != span.start }
    let first : Node := match parts with
      | [_, value, default] => .mk .targetName span [value, default]
      | [_, value] => .mk .targetName span [value, .none]
      | _ => .mk .targetName span parts
    return first :: (← objectTargets object rest)
  | .mk (.property _ _ _ isComputed) span [key, value] :: rest => do
    let inner ← targetOrDefault value
    return .mk (.targetProperty isComputed) span [key, inner] :: (← objectTargets object rest)
  | e :: rest => do
    return e :: (← objectTargets object rest)

end

end JsxTidy.Parser
