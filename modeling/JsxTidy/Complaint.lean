/-!
# Complaints

What can be wrong with a program's text, and the wording of each.
-/

namespace JsxTidy

/-- What is wrong with a text. -/
inductive Complaint where
  -- tokens
  | unterminatedString
  | unterminatedRegExp
  | unterminatedComment
  | invalidEscape
  | invalidUnicodeEscape
  | invalidCharacter (c : Char)
  | invalidNumberEnd
  | unexpectedEnd
  | regExpFlag (c : Char)
  | regExpFlagTwice (c : Char)
  | escapedKeyword
  | templateEscape
  | markupTextSymbol (symbol entity : String)
  -- structure
  | unexpectedToken
  | conflictMarker
  | expected (wanted found : String)
  | expectedEither (first second found : String)
  | expectedSemicolon
  | trailingComma (subject : String)
  | identifierExpected
  | reservedWord (word : String)
  | awaitName (word : String)
  | yieldName (word : String)
  -- expressions
  | emptyParentheses
  | cannotAssign
  | invalidAssignmentLeft
  | spreadLast
  | invalidRestTarget
  | invalidRest
  | coverDefault
  | newTarget
  | importMeta
  | newImport
  | importArguments
  | importTooMany
  | optionalTemplate
  | optionalNew
  | optionalName
  | mixedCoalesce
  | unexpectedPower
  | awaitOutside
  | yieldOutside
  | arrowNewline
  | unexpectedSuper
  -- statements
  | returnOutside
  | illegalNewline (word : String)
  | missingConstValue
  | missingPatternValue
  | missingResource
  | resourcePattern
  | resourceForIn (isAwaited : Bool)
  | resourceExport
  | lexicalAlone
  | classAlone
  | asyncFunctionAlone
  | generatorAlone
  | switchClause
  | catchOrFinally
  | forAwait
  | forOfAsync
  | forOfLet
  | optionalDeclaration
  | decoratorPlace
  -- functions and classes
  | functionName
  | restLast
  | restPatternLast
  | restTrailingComma
  | restOptional
  | restInitializer
  | restElementInitializer
  | parameterOptionalValue
  | thisInConstructor
  | thisInArrow
  | constructorTypeParameters
  | privateConstructor
  | staticPrototype
  | constructorAccessor
  | constructorAsync
  | constructorGenerator
  | constructorField
  | optionalDefinite
  | optionalAccessor
  | getterParameters
  | setterParameters
  | setterRest
  | accessSeen
  | accessOnPrivate
  | modifierSeen (word : String)
  | modifierOrder (word other : String)
  | modifierHere (word : String)
  | modifierOn (word subject : String)
  | modifierExclusive (word other : String)
  | abstractBody (subject name : String)
  | abstractValue (name : String)
  | classHeritage
  | clauseSeen (word : String)
  | extendsOrder
  | indexSignatureParameter
  | indexSignatureType
  -- modules
  | redeclared (name : String)
  | typeImportBoth
  | typeModifierTwice
  | typeExportModifierTwice
  | exportStringName
  | exportReserved
  | exportLoneSurrogate
  -- types
  | emptyTypeParameters
  | emptyTypeArguments
  | readonlyType
  | enumNumericName
  | enumComputedName
  -- markup
  | attributeExpression
  | closingTag (name : String)
  | closingFragment
  | markupHyphen
deriving DecidableEq, Repr

namespace Complaint

/-- The wording of a complaint. -/
def message : Complaint → String
  | unterminatedString => "Unterminated string"
  | unterminatedRegExp => "Unterminated regular expression"
  | unterminatedComment => "Unterminated multiline comment"
  | invalidEscape => "Invalid escape sequence"
  | invalidUnicodeEscape => "Invalid Unicode escape sequence"
  | invalidCharacter c => "Invalid Character \x60" ++ c.toString ++ "\x60"
  | invalidNumberEnd => "Invalid characters after number"
  | unexpectedEnd => "Unexpected end of file"
  | regExpFlag c => "Unexpected flag " ++ c.toString ++ " in regular expression literal"
  | regExpFlagTwice c =>
    "Flag " ++ c.toString ++ " is mentioned twice in regular expression literal"
  | escapedKeyword => "Keywords cannot contain escape characters"
  | templateEscape => "Bad escape sequence in untagged template literal"
  | markupTextSymbol symbol entity =>
    "Unexpected token. Did you mean \x60\x7b'" ++ symbol ++ "'\x7d\x60 or \x60&" ++ entity
      ++ ";\x60?"
  | unexpectedToken => "Unexpected token"
  | conflictMarker => "Encountered diff marker"
  | expected wanted found => "Expected \x60" ++ wanted ++ "\x60 but found \x60" ++ found ++ "\x60"
  | expectedEither first second found =>
    "Expected \x60" ++ first ++ "\x60 or \x60" ++ second ++ "\x60 but found \x60" ++ found
      ++ "\x60"
  | expectedSemicolon =>
    "Expected a semicolon or an implicit semicolon after a statement, but found none"
  | trailingComma subject => subject ++ " may not have a trailing comma."
  | identifierExpected => "Identifier expected."
  | reservedWord word =>
    "Identifier expected. '" ++ word ++ "' is a reserved word that cannot be used here."
  | awaitName word => "Cannot use \x60" ++ word ++ "\x60 as an identifier in an async context"
  | yieldName word => "Cannot use \x60" ++ word ++ "\x60 as an identifier in a generator context"
  | emptyParentheses => "Empty parenthesized expression"
  | cannotAssign => "Cannot assign to this expression"
  | invalidAssignmentLeft => "Invalid left-hand side in assignment"
  | spreadLast => "Spread must be last element"
  | invalidRestTarget => "Invalid rest operator's argument."
  | invalidRest => "Invalid rest element"
  | coverDefault => "Invalid assignment in object literal"
  | newTarget => "The only valid meta property for new is new.target"
  | importMeta => "The only valid meta property for import is import.meta"
  | newImport => "Cannot use new with dynamic import"
  | importArguments => "import() requires a specifier."
  | importTooMany =>
    "Dynamic imports can only accept a module specifier and an optional set of attributes as arguments"
  | optionalTemplate => "Tagged template expressions are not permitted in an optional chain"
  | optionalNew => "Invalid optional chain from new expression."
  | optionalName => "Identifier expected after '?.'"
  | mixedCoalesce => "Logical expressions and coalesce expressions cannot be mixed"
  | unexpectedPower => "Unexpected exponentiation expression"
  | awaitOutside =>
    "\x60await\x60 is only allowed within async functions and at the top levels of modules"
  | yieldOutside => "A 'yield' expression is only allowed in a generator body."
  | arrowNewline => "Line terminator not permitted before arrow"
  | unexpectedSuper => "'super' can only be used with function calls or in property accesses"
  | returnOutside => "A 'return' statement can only be used within a function body."
  | illegalNewline word => "Illegal newline after " ++ word
  | missingConstValue => "Missing initializer in const declaration"
  | missingPatternValue => "Missing initializer in destructuring declaration"
  | missingResource => "Using declarations must have an initializer."
  | resourcePattern => "Using declarations may not have destructuring patterns."
  | resourceForIn isAwaited =>
    "The left-hand side of a for...in statement cannot be an "
      ++ (if isAwaited then "await using" else "using") ++ " declaration."
  | resourceExport => "Using declarations cannot be exported directly."
  | lexicalAlone => "Lexical declaration cannot appear in a single-statement context"
  | classAlone => "Invalid class declaration"
  | asyncFunctionAlone =>
    "Async functions can only be declared at the top level or inside a block"
  | generatorAlone => "Generators can only be declared at the top level or inside a block"
  | switchClause => "Expected switch clause"
  | catchOrFinally => "Missing catch or finally clause"
  | forAwait => "await can only be used in conjunction with \x60for...of\x60 statements"
  | forOfAsync => "The left-hand side of a \x60for...of\x60 statement may not be \x60async\x60"
  | forOfLet => "The left-hand side of a \x60for...of\x60 statement may not be \x60let\x60"
  | optionalDeclaration => "Optional declaration is not allowed here"
  | decoratorPlace => "Decorators are not valid here."
  | functionName => "Expected function name"
  | restLast => "A rest parameter must be last in a parameter list"
  | restPatternLast => "A rest element must be last in a destructuring pattern"
  | restTrailingComma => "A rest parameter or binding pattern may not have a trailing comma."
  | restOptional => "A rest parameter cannot be optional"
  | restInitializer => "A rest parameter cannot have an initializer"
  | restElementInitializer => "A rest element cannot have an initializer."
  | parameterOptionalValue => "A parameter cannot have a question mark and an initializer."
  | thisInConstructor => "A constructor cannot have a 'this' parameter."
  | thisInArrow => "An arrow function cannot have a 'this' parameter."
  | constructorTypeParameters => "Type parameters cannot appear on a constructor declaration"
  | privateConstructor => "Classes can't have an element named '#constructor'"
  | staticPrototype => "Classes may not have a static property named 'prototype'"
  | constructorAccessor => "Constructor can't have get/set modifier"
  | constructorAsync => "Constructor can't be an async method"
  | constructorGenerator => "Constructor can't be a generator"
  | constructorField => "Classes can't have a field named 'constructor'"
  | optionalDefinite => "A property cannot be both optional and definite."
  | optionalAccessor => "An 'accessor' property cannot be declared optional."
  | getterParameters => "A 'get' accessor must not have any formal parameters."
  | setterParameters => "A 'set' accessor must have exactly one parameter."
  | setterRest => "A 'set' accessor cannot have rest parameter."
  | accessOnPrivate =>
    "An accessibility modifier cannot be used with a private identifier."
  | accessSeen => "Accessibility modifier already seen."
  | modifierSeen word => "'" ++ word ++ "' modifier already seen."
  | modifierOrder word other =>
    "'" ++ word ++ "' modifier must precede '" ++ other ++ "' modifier."
  | modifierHere word => "'" ++ word ++ "' modifier cannot be used here."
  | modifierOn word subject => "'" ++ word ++ "' modifier cannot appear on " ++ subject
  | modifierExclusive word other =>
    "'" ++ word ++ "' modifier cannot be used with '" ++ other ++ "' modifier."
  | abstractBody subject name =>
    subject ++ " '" ++ name ++ "' cannot have an implementation because it is marked abstract."
  | abstractValue name =>
    "Property '" ++ name ++ "' cannot have an initializer because it is marked abstract."
  | classHeritage => "Classes can only extend a single class."
  | clauseSeen word => "'" ++ word ++ "' clause already seen."
  | extendsOrder => "'extends' clause must precede 'implements' clause."
  | indexSignatureParameter => "An index signature must have exactly one parameter."
  | indexSignatureType => "An index signature must have a type annotation."
  | redeclared name => "Identifier \x60" ++ name ++ "\x60 has already been declared"
  | typeImportBoth =>
    "A type-only import can specify a default import or named bindings, but not both."
  | typeModifierTwice =>
    "The 'type' modifier cannot be used on a named import when 'import type' is used on its import statement."
  | typeExportModifierTwice =>
    "The 'type' modifier cannot be used on a named export when 'export type' is used on its export statement."
  | exportStringName => "A string literal cannot be used as an exported binding without \x60from\x60"
  | exportReserved => "A reserved word cannot be used as an exported binding without \x60from\x60"
  | exportLoneSurrogate => "An export name cannot include a unicode lone surrogate"
  | emptyTypeParameters => "Type parameter list cannot be empty."
  | emptyTypeArguments => "Type argument list cannot be empty."
  | readonlyType => "'readonly' type modifier is only permitted on array and tuple literal types."
  | enumNumericName => "An enum member cannot have a numeric name."
  | enumComputedName => "Computed property names are not allowed in enums."
  | attributeExpression => "JSX attributes must only be assigned a non-empty 'expression'."
  | closingTag name => "Expected corresponding JSX closing tag for '" ++ name ++ "'."
  | closingFragment => "Expected corresponding closing tag for JSX fragment."
  | markupHyphen => "Identifiers in JSX cannot contain hyphens"

end Complaint

/-- A complaint and the byte offset where it holds. -/
structure Diagnostic where
  complaint : Complaint
  offset : Nat
deriving DecidableEq, Repr

end JsxTidy
