import JsxTidy.Syntax.Operator

/-!
# Kinds of syntax

A kind says what a piece of syntax is and holds everything about it that is not itself a piece of
syntax. The comment behind a kind lists its parts in their order. A part that may be missing is
`absent` when it is; parts of which there may be any number are the parts of one `list`.
-/

namespace JsxTidy.Syntax

/-- What kind of method or accessor a function value serves. -/
inductive MethodRole where
  | method | getter | setter | constructor
deriving DecidableEq, Repr

/-- In what form a function is written. -/
inductive FunctionForm where
  /-- A statement with a body. -/
  | declaration
  /-- An expression, or the value of a method. -/
  | expression
  /-- A statement without a body. -/
  | signature
  /-- A method without a body. -/
  | bodiless
deriving DecidableEq, Repr

/-- What a function says besides its parts. `strict` holds when its body asks for strict mode. -/
structure FunctionShape where
  form : FunctionForm
  role : MethodRole
  isAsync : Bool
  isGenerator : Bool
  isDeclare : Bool
  strict : Bool
  quiet : Bool
deriving DecidableEq, Repr

/-- What an arrow function says besides its parts. -/
structure ArrowShape where
  isAsync : Bool
  bodyIsExpression : Bool
  strict : Bool
  quiet : Bool
deriving DecidableEq, Repr

/-- What a class says besides its parts. -/
structure ClassShape where
  isDeclaration : Bool
  isAbstract : Bool
  isDeclare : Bool
deriving DecidableEq, Repr

/-- Who may use a class member. -/
inductive Access where
  | publicAccess | protectedAccess | privateAccess
deriving DecidableEq, Repr

/-- The modifiers of a class member or parameter. -/
structure MemberShape where
  access : Option Access
  isStatic : Bool
  isAbstract : Bool
  isOverride : Bool
  isReadonly : Bool
  isDeclare : Bool
  isOptional : Bool
  isDefinite : Bool
  isComputed : Bool
deriving DecidableEq, Repr

/-- Which declaration keyword opens a variable declaration. -/
inductive VariableWord where
  | var | let | const | using | awaitUsing
deriving DecidableEq, Repr

/-- Whether a declaration declares resources that are disposed of at the end of their scope. -/
def VariableWord.isResource : VariableWord → Bool
  | .using | .awaitUsing => true
  | .var | .let | .const => false

/-- What a `+`, a `-` or nothing before a mapped type's modifier asks for. -/
inductive MappedModifier where
  | unchanged | plain | plus | minus
deriving DecidableEq, Repr

/-- When an imported module is wanted. -/
inductive ImportPhase where
  | evaluation | deferred | source
deriving DecidableEq, Repr

/-- The keyword that opens a namespace. -/
inductive NamespaceWord where
  | moduleWord | namespaceWord
deriving DecidableEq, Repr

/-- The kind of a property of an object literal. -/
inductive PropertyRole where
  | value | getter | setter
deriving DecidableEq, Repr

inductive Kind where
  /-- Stands where an optional part is missing. -/
  | absent
  /-- Any number of parts. -/
  | list
  -- names
  /-- A use of a name. -/
  | reference (name : String)
  /-- A place that declares a name. -/
  | binding (name : String)
  /-- A name that neither declares nor uses anything: a property, a label, an attribute. -/
  | word (name : String)
  /-- A private member name, without its mark. -/
  | privateName (name : String)
  -- literals
  | null
  | boolean (value : Bool)
  | number (raw : String)
  | bigInt (raw : String)
  | string (value : String) (loneSurrogates : Bool)
  | regExp (pattern flags : String)
  | template                              -- list of quasis, list of expressions
  | quasi (raw : String) (cooked : String)
  | taggedTemplate                        -- tag, type arguments, template
  -- expressions
  | this
  | super
  | array                                 -- elements
  | hole
  | spread                                -- argument
  | object                                -- properties
  | property (role : PropertyRole) (isMethod isShorthand isComputed : Bool)  -- key, value
  | function (shape : FunctionShape)
      -- name, type parameters, this parameter, parameters, return type, body
  | arrow (shape : ArrowShape)            -- type parameters, parameters, return type, body
  | classLike (shape : ClassShape)        -- list of decorators, name, class parts
  | classParts
      -- type parameters, heritage, type arguments, list of interfaces, class body
  | unary (op : UnaryOp)                  -- argument
  | update (op : UpdateOp) (before : Bool)  -- argument
  | binary (op : BinaryOp)                -- left, right
  | logical (op : LogicalOp)              -- left, right
  | assign (op : AssignOp)                -- target, value
  | conditional                           -- test, first, second
  | sequence                              -- expressions
  | call (isOptional isPure : Bool)       -- callee, type arguments, list of arguments
  | new (isPure : Bool)                   -- callee, type arguments, list of arguments
  | member (isOptional : Bool)            -- object, name
  | index (isOptional : Bool)             -- object, expression
  | chain                                 -- expression
  | metaProperty (subject property : String)
  | importCall (phase : ImportPhase)      -- source, options
  | await                                 -- argument
  | yield (delegates : Bool)              -- argument
  | paren                                 -- expression
  | privateIn                             -- private name, object
  | asType                                -- expression, type
  | satisfiesType                         -- expression, type
  | typeAssertion                         -- type, expression
  | nonNull                               -- expression
  | instantiation                         -- expression, type arguments
  -- binding patterns
  | objectPattern                         -- list of properties, rest
  | patternProperty (isShorthand isComputed : Bool)  -- key, pattern
  | arrayPattern                          -- list of elements, rest
  | patternDefault                        -- pattern, value
  | restElement                           -- pattern
  -- assignment targets
  | objectTarget                          -- properties, rest
  | targetName                            -- reference, default
  | targetProperty (isComputed : Bool)    -- key, target
  | arrayTarget                           -- elements, rest
  | targetDefault                         -- target, value
  | targetRest                            -- target
  -- functions and classes
  | parameters                            -- parameters
  | parameter (shape : MemberShape)       -- list of decorators, pattern, type, default
  | restParameter                         -- list of decorators, rest element, type
  | thisParameter                         -- type
  | functionBody                          -- list of directives, list of statements
  | classBody                             -- members
  | method (role : MethodRole) (shape : MemberShape)  -- list of decorators, key, function
  | field (shape : MemberShape)           -- list of decorators, key, type, value
  | accessor (shape : MemberShape)        -- list of decorators, key, type, value
  | staticBlock                           -- statements
  | decorator                             -- expression
  | implemented                           -- name, type arguments
  -- statements
  | directive (raw : String)
  | block                                 -- statements
  | breakStatement                        -- label
  | continueStatement                     -- label
  | debuggerStatement
  | doWhileStatement                      -- body, test
  | emptyStatement
  | expressionStatement                   -- expression
  | forInStatement                        -- left, right, body
  | forOfStatement (awaits : Bool)                 -- left, right, body
  | forStatement                          -- start, test, step, body
  | ifStatement                           -- test, first, second
  | labeledStatement                      -- label, body
  | returnStatement                       -- argument
  | switchStatement                       -- subject, switch cases
  | switchCases                           -- cases
  | switchCase                            -- test, statements
  | throwStatement                        -- argument
  | tryStatement                          -- block, handler, finalizer
  | catchClause                           -- parameter, body
  | catchParameter                        -- pattern, type
  | whileStatement                        -- test, body
  | withStatement                         -- object, with body
  | withBody                              -- statement
  | variables (word : VariableWord) (isDeclare : Bool)  -- declarators
  | declarator (isDefinite : Bool)        -- pattern, type, value
  -- modules
  | importDeclaration (isType : Bool) (phase : ImportPhase)  -- specifiers, source, attributes
  | importSpecifier (isType : Bool)       -- imported, local
  | importDefault                         -- local
  | importNamespace                       -- local
  | attributes (keyword : String)         -- attributes
  | attribute                             -- key, value
  | exportAll (isType : Bool)             -- exported, source, attributes
  | exportDefault                         -- declaration
  | exportNamed (isType : Bool)           -- declaration, specifiers, source, attributes
  | exportSpecifier (isType : Bool)       -- local, exported
  | exportAssignment                      -- expression
  | namespaceExport                       -- name
  | importEquals (isType : Bool)          -- name, module
  | externalModule                        -- source
  -- types
  | keywordType (name : String)
  | thisType
  | arrayType                             -- element
  | tupleType                             -- elements
  | namedTupleMember (isOptional : Bool)  -- label, type
  | optionalType                          -- type
  | restType                              -- type
  | conditionalType                       -- checked, conditional parts, second
  | conditionalParts                      -- bound, first
  | functionType                          -- type parameters, this parameter, parameters, result
  | constructorType (isAbstract : Bool)   -- type parameters, parameters, result
  | importType                            -- source, options, qualifier, type arguments
  | indexedType                           -- object, index
  | inferType                             -- type parameter
  | unionType                             -- members
  | intersectionType                      -- members
  | literalType                           -- literal
  | templateType                          -- list of quasis, list of types
  | mappedType (optionality readonlyness : MappedModifier)  -- key, bound, new name, type
  | typePredicate (asserts : Bool)        -- subject, type
  | typeOperator (word : String)          -- type
  | typeReference                         -- name, type arguments
  | typeQuery                             -- name, type arguments
  | parenType                             -- type
  | markedType (mark : String) (before : Bool)  -- type
  | qualifiedName                         -- left, right
  | typeLiteral                           -- members
  | typeParameters                        -- parameters
  | typeParameter (isConst isIn isOut : Bool)  -- name, bound, default
  | typeArguments                         -- types
  | propertySignature (isReadonly isOptional isComputed : Bool)  -- key, type
  | callSignature                         -- type parameters, this parameter, parameters, result
  | constructSignature                    -- type parameters, parameters, result
  | methodSignature (role : MethodRole) (isOptional isComputed : Bool)
      -- key, type parameters, this parameter, parameters, result
  | indexSignature (isReadonly isStatic : Bool)  -- parameter name, parameter type, type
  | typeAlias (isDeclare : Bool)          -- name, alias parts
  | aliasParts                            -- type parameters, type
  | interfaceDeclaration (isDeclare : Bool)          -- name, interface parts
  | interfaceParts                        -- type parameters, list of parents, interface body
  | interfaceBody                         -- members
  | parent                                -- expression, type arguments
  | enumDeclaration (isConst isDeclare : Bool)       -- name, enum body
  | enumBody                              -- members
  | enumMember (isComputed : Bool)        -- name, value
  | namespaceDeclaration (word : NamespaceWord) (isDeclare : Bool)  -- name, module scope
  | moduleScope (strict : Bool)           -- module block, or the nested module
  | moduleBlock                           -- list of directives, list of statements
  | globalDeclaration (isDeclare strict : Bool)      -- module block
  -- markup
  | element                               -- opening tag, list of children, closing tag
  | fragment                              -- children
  | openingTag                            -- name, type arguments, list of attributes
  | closingTag                            -- name
  | markupAttribute                       -- name, value
  | spreadAttribute                       -- expression
  | container                             -- expression
  | emptyExpression
  | markupText (raw : String)
  | spreadChild                           -- expression
  | namespacedName                        -- namespace, name
  | memberName                            -- object, property
deriving Repr

end JsxTidy.Syntax
