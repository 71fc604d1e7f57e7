import JsxTidy.Parser.Name

/-!
# Reading programs: modifiers

A modifier is a word that could as well be a name. It is a modifier only if what follows it can
follow a modifier, for most of them on the same line.
-/

namespace JsxTidy

/-- A modifier and where it stands. -/
structure Modifier where
  word : String
  offset : Nat
deriving DecidableEq, Repr

/-- Whether a modifier stands in a list. -/
def Modifier.has (word : String) (modifiers : List Modifier) : Bool :=
  modifiers.any (·.word == word)

namespace Parser

open Syntax

/-- The words that may be modifiers. -/
def modifierWords : List String :=
  ["abstract", "accessor", "async", "const", "declare", "default", "export", "in", "out", "public",
    "private", "protected", "override", "readonly", "static"]

/-- Whether a token may be a modifier. -/
def isModifierWord : Lexeme → Bool
  | .word name => modifierWords.contains name
  | _ => false

/-- Whether a token can stand behind a modifier. -/
def canFollowModifier : Lexeme → Bool
  | .privateName _ => true
  | .symbol text => ["[", "\x7b", "*", "..."].contains text
  | lexeme => isLiteralPropertyName lexeme

/-- Whether the token behind the current one is a word on the same line. -/
def nextIsWordOnLine (name : String) : Parser Bool :=
  nextToken fun t => t.lexeme.isWord name && !t.onNewLine

/-- Whether `export default` can begin at the token behind `default`. -/
def canFollowDefault : Parser Bool := do
  match ← lexeme with
  | .word "class" | .word "function" | .word "interface" | .symbol "@" => return true
  | .word "abstract" => nextIsWordOnLine "class"
  | .word "async" => nextIsWordOnLine "function"
  | _ => return false

/-- Whether a token can stand behind `export` as a modifier. -/
def canFollowExport (lexeme : Lexeme) : Bool :=
  lexeme.isSymbol "@" ||
    (!(lexeme.isSymbol "*" || lexeme.isWord "as" || lexeme.isSymbol "\x7b")
      && canFollowModifier lexeme)

/-- Passes the current token if it is a modifier by what follows it. -/
def passModifier : Parser Bool := do
  let result ← attempt? do
    let first ← lexeme
    skipToken false
    let t ← token
    let fits ← match first with
      | .word "static" | .word "get" | .word "set" => pure (canFollowModifier t.lexeme)
      | .word "default" => canFollowDefault
      | .word "export" =>
        if t.lexeme.isWord "default" then
          lookahead do
            skipToken false
            canFollowDefault
        else if t.lexeme.isWord "type" then
          nextToken fun next => canFollowExport next.lexeme
        else pure (canFollowExport t.lexeme)
      | _ => pure (canFollowModifier t.lexeme && !t.onNewLine)
    return if fits then some () else none
  return result.isSome

/-- Passes `get` or `set` if it opens an accessor. -/
def passAccessorWord (word : String) : Parser Bool := do
  if ← atWord word then passModifier else return false

/-- Complains about a modifier that cannot stand behind those before it. -/
def checkModifier (before : List Modifier) (modifier : Modifier) : Parser Unit := do
  let complain := fun complaint => complainAt complaint modifier.offset
  let seen := fun word => Modifier.has word before
  let mustPrecede (others : List String) : Parser Unit :=
    match others.find? seen with
    | some other => complain (.modifierOrder modifier.word other)
    | none => pure ()
  match modifier.word with
  | "public" | "private" | "protected" =>
    if seen "public" || seen "private" || seen "protected" then complain .accessSeen
    else mustPrecede ["override", "static", "accessor", "readonly", "async"]
  | "static" =>
    if seen "static" then complain (.modifierSeen "static")
    else mustPrecede ["readonly", "async", "accessor", "override"]
  | "override" =>
    if seen "override" then complain (.modifierSeen "override")
    else if seen "declare" then complain (.modifierExclusive "override" "declare")
    else mustPrecede ["readonly", "accessor", "async"]
  | "abstract" =>
    if seen "abstract" then complain (.modifierSeen "abstract")
    else if seen "static" then complain (.modifierExclusive "static" "abstract")
    else if seen "private" then complain (.modifierExclusive "private" "abstract")
    else if seen "async" then complain (.modifierExclusive "async" "abstract")
    else mustPrecede ["override", "accessor"]
  | word => if seen word then complain (.modifierSeen word)

/-- Passes one modifier, if one stands here. -/
def modifier? (seenStatic allowConst beforeStaticBlock : Bool) : Parser (Option Modifier) := do
  let t ← token
  match t.lexeme with
  | .word word =>
    let isModifier ←
      if !modifierWords.contains word then pure false
      else if word == "const" && !allowConst then
        if ← nextToken fun next => next.lexeme.isWord "enum" then
          skipToken false
          pure true
        else pure false
      else if word == "static" && seenStatic then pure false
      else if word == "static" && beforeStaticBlock then
        if ← nextToken fun next => next.lexeme.isSymbol "\x7b" then pure false else passModifier
      else passModifier
    return if isModifier then some ⟨word, t.span.start⟩ else none
  | _ => return none

/-- Passes all modifiers that stand here. -/
def modifiers (allowConst beforeStaticBlock : Bool) : Parser (List Modifier) := do
  let rec go : Nat → List Modifier → Parser (List Modifier)
    | 0, found => return found.reverse
    | fuel + 1, found => do
      match ← modifier? (Modifier.has "static" found) allowConst beforeStaticBlock with
      | some m =>
        checkModifier found m
        go fuel (m :: found)
      | none => return found.reverse
  go (stepsLeft (← get)) []

/-- Complains about each modifier that is not among the allowed ones. -/
def allowModifiers (allowed : List String) (complaint : String → Complaint)
    (found : List Modifier) : Parser Unit :=
  found.forM fun m =>
    if allowed.contains m.word then pure () else complainAt (complaint m.word) m.offset

/-- Complains about each modifier. -/
def noModifiers (found : List Modifier) : Parser Unit :=
  allowModifiers [] .modifierHere found

end Parser

end JsxTidy
