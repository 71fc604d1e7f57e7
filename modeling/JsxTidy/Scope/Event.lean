import JsxTidy.Scope.Basic

/-!
# What a program says about names

A program enters and leaves scopes, declares names and uses them. The events of a piece of syntax
are those of its parts in their order, between the entering and the leaving of the scope that the
piece opens, if it opens one.
-/

namespace JsxTidy

open Syntax

/-- What kind of declaration surrounds a name that is declared. -/
inductive DeclarationContext where
  | lexical | var | imported
deriving DecidableEq, Repr

namespace DeclarationContext

/-- How a name is declared inside a declaration. -/
def bindingKind : DeclarationContext → BindingKind
  | lexical => .lexical
  | var => .var
  | imported => .imported

end DeclarationContext

/-- Something that happens to scopes and names. -/
inductive NameEvent where
  | enter (flags : List ScopeFlag)
  | leave
  | declare (kind : BindingKind) (name : String) (span : Span)
  | use (name : String) (span : Span)
deriving DecidableEq, Repr

namespace NameEvent

/-- The flag of a scope that asks for strict mode. -/
def strictFlag (strict : Bool) : List ScopeFlag :=
  if strict then [.strictMode] else []

/-- The flag of a method's scope. -/
def roleFlag : MethodRole → List ScopeFlag
  | .method => []
  | .getter => [.getAccessor]
  | .setter => [.setAccessor]
  | .constructor => [.constructor]

/-- The flags of the scope that a piece of syntax opens, if it opens one. -/
def scopeOf? : Kind → Option (List ScopeFlag)
  | .function shape => some (strictFlag shape.strict ++ .function :: roleFlag shape.role)
  | .arrow shape => some (strictFlag shape.strict ++ [.function, .arrow])
  | .classParts => some [.strictMode]
  | .staticBlock => some [.classStaticBlock]
  | .moduleScope strict => some (strictFlag strict ++ [.moduleBlock])
  | .globalDeclaration _ strict => some (strictFlag strict ++ [.moduleBlock])
  | .catchClause => some [.catchClause]
  | .conditionalParts => some [.conditionalType]
  | .withBody => some [.with]
  | .block | .forStatement | .forInStatement | .forOfStatement _ | .switchCases => some []
  | .enumBody | .aliasParts | .interfaceParts | .mappedType .. => some []
  | .callSignature | .constructSignature | .methodSignature .. => some []
  | .functionType | .constructorType _ => some []
  | _ => none

/-- The events of a piece inside the scope that it opens. -/
def inScope (kind : Kind) (inner : List NameEvent) : List NameEvent :=
  match scopeOf? kind with
  | some flags => .enter flags :: inner ++ [.leave]
  | none => inner

/-- What declares the names inside a piece, seen from what declares those around it. -/
def contextIn (context : DeclarationContext) (kind : Kind) : DeclarationContext :=
  match kind with
  | .importDeclaration .. => .imported
  | .variables word _ => if word == .var then .var else .lexical
  | _ => if (scopeOf? kind).isSome then .lexical else context

/-- The declaration of a function or class that is a statement. -/
def ownName (isDeclared : Bool) (kind : BindingKind) : Node → List NameEvent
  | .mk (.binding name) span _ => if isDeclared then [.declare kind name span] else []
  | _ => []

/-- Whether a function of some form is declared where it stands. -/
def isDeclaredForm : FunctionForm → Bool
  | .declaration | .signature => true
  | .expression | .bodiless => false

end NameEvent

namespace Syntax.Node

mutual

/-- Whether a function or class with a name stands anywhere in a piece of syntax. -/
def namesFunction : Node → Bool
  | .mk (.function _) _ (name :: rest) => name.isPresent || anyNamesFunction rest
  | .mk (.classLike _) _ [decorators, name, parts] =>
    name.isPresent || namesFunction decorators || namesFunction parts
  | .mk _ _ parts => anyNamesFunction parts

/-- Whether a function or class with a name stands anywhere in some pieces of syntax. -/
def anyNamesFunction : List Node → Bool
  | [] => false
  | node :: rest => namesFunction node || anyNamesFunction rest

end

mutual

/-- The events of a piece of syntax. The name of a function or class is declared where it stands
if that is a statement. The name of a class is declared a second time, by what surrounds the
class, when one of its decorators holds a function or class with a name. -/
def events (context : DeclarationContext) : Node → List NameEvent
  | .mk (.binding name) span _ => [.declare context.bindingKind name span]
  | .mk (.reference name) span _ => [.use name span]
  | .mk (.function shape) _ (name :: rest) =>
    NameEvent.ownName (NameEvent.isDeclaredForm shape.form) .function name ++
      NameEvent.inScope (.function shape) (eventsOf .lexical rest)
  | .mk (.classLike shape) _ [decorators, name, parts] =>
    NameEvent.ownName shape.isDeclaration .classLike name ++
      (events context decorators ++
        (NameEvent.ownName (namesFunction decorators) context.bindingKind name ++
          events context parts))
  | .mk kind _ parts =>
    NameEvent.inScope kind (eventsOf (NameEvent.contextIn context kind) parts)

/-- The events of some pieces of syntax. -/
def eventsOf (context : DeclarationContext) : List Node → List NameEvent
  | [] => []
  | node :: rest => events context node ++ eventsOf context rest

end

end Syntax.Node

namespace Syntax.Program

/-- The events of a program. -/
def events (p : Program) : List NameEvent :=
  Node.eventsOf .lexical p.directives ++ Node.eventsOf .lexical p.body

end Syntax.Program

end JsxTidy
