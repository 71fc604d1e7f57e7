/-!
# Words with a meaning

Which words are reserved everywhere, and which only in some places.
-/

namespace JsxTidy.Words

/-- The words that can never name anything. -/
def reserved : List String :=
  ["break", "case", "catch", "class", "const", "continue", "debugger", "default", "delete", "do",
    "else", "enum", "export", "extends", "false", "finally", "for", "function", "if", "import",
    "in", "instanceof", "new", "null", "return", "super", "switch", "this", "throw", "true",
    "try", "typeof", "var", "void", "while", "with"]

/-- The words that have a meaning in some places only. -/
def contextual : List String :=
  ["await", "async", "let", "static", "yield", "implements", "interface", "package", "private",
    "protected", "public", "abstract", "accessor", "any", "as", "asserts", "assert", "bigint",
    "boolean", "constructor", "declare", "defer", "from", "get", "global", "infer", "intrinsic",
    "is", "keyof", "meta", "module", "namespace", "never", "number", "object", "of", "out",
    "override", "readonly", "require", "satisfies", "set", "source", "string", "symbol", "target",
    "type", "undefined", "unique", "unknown", "using"]

/-- Whether a word can never name anything. -/
def isReserved (word : String) : Bool :=
  reserved.contains word

/-- Whether a word has a meaning somewhere. -/
def isKeyword (word : String) : Bool :=
  reserved.contains word || contextual.contains word

end JsxTidy.Words
