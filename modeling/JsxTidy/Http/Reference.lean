import JsxTidy.Http.Url

/-!
# References

A server may point to another address by a reference, which leaves out what it has in common with
the address of the server itself.
-/

namespace JsxTidy.Http

namespace Reference

/-- Whether a character may stand in a reference. -/
def isAllowed (c : Char) : Bool :=
  c.isAlphanum || c ∈ "-._~:/?#[]@!$&'()*+,;=%".toList

/-- Whether all escapes in a text are complete. -/
def escapesComplete : List Char → Bool
  | [] => true
  | '%' :: a :: b :: rest =>
    (Url.digit? a).isSome && (Url.digit? b).isSome && escapesComplete rest
  | '%' :: _ => false
  | _ :: rest => escapesComplete rest

/-- Whether a part may stand outside of an authority. -/
def isPlain (part : List Char) : Bool :=
  part.all isAllowed && escapesComplete part && !part.any fun c => c ∈ ['[', ']', '#']

/-- A reference in its parts. -/
structure Parts where
  scheme : Option String
  authority : Option (List Char)
  path : List Char
  query : Option (List Char)
  fragment : Option (List Char)

/-- The parts of a reference. -/
def parts (text : List Char) : Parts :=
  let (scheme, rest) := match Url.scheme? text with
    | some (scheme, rest) => (some scheme, rest)
    | none => (none, text)
  match rest with
  | '/' :: '/' :: more =>
    let (authority, more) := Url.cut (fun c => c ∈ ['/', '?', '#']) more
    let (path, query, fragment) := Url.parts more
    ⟨scheme, some authority, path, query, fragment⟩
  | _ =>
    let (path, query, fragment) := Url.parts rest
    ⟨scheme, none, path, query, fragment⟩

/-- Whether the parts may stand in a reference. Without a scheme the first step of a path holds no
colon. -/
def Parts.isValid (p : Parts) : Bool :=
  isPlain p.path && isPlain (p.query.getD []) && isPlain (p.fragment.getD [])
    && !(p.path.contains '?')
    && (p.scheme.isSome || p.authority.isSome
      || !((p.path.takeWhile fun c => c != '/').contains ':'))

/-- The path of a reference, seen from the path of a base. -/
def mergedPath (base : Url) (path : List Char) : List Char :=
  if path.head? == some '/' then path
  else
    let front := (base.path.toList.reverse.dropWhile fun c => c != '/').reverse
    (if front.isEmpty then ['/'] else front) ++ path

/-- A path whose steps up and down have been carried out. -/
def resolvedPath (path : List Char) : String :=
  let isSeparator (c : Char) : Bool := c == '/'
  match path with
  | '/' :: rest =>
    String.ofList ((Url.walk [] (Url.split isSeparator rest)).flatMap fun step => '/' :: step)
  | _ => String.ofList path

/-- The text of a part that may be missing. -/
def textOf (part : Option (List Char)) : Option String :=
  part.map fun text => String.ofList text

end Reference

namespace Url

/-- The address that a reference names, seen from a base, if the reference is well formed. Its
fragment does not count. -/
def resolve? (base : Url) (reference : String) : Option Url := do
  let p := Reference.parts reference.toList
  if !p.isValid then none
  else
    match p.scheme, p.authority with
    | some scheme, some text =>
      let authority ← authority? scheme text
      if authority.host.isEmpty then none
      else
        return ⟨scheme, some authority, Reference.resolvedPath p.path, Reference.textOf p.query, none⟩
    | some scheme, none =>
      return ⟨scheme, none, Reference.resolvedPath p.path, Reference.textOf p.query, none⟩
    | none, some text =>
      let authority ← authority? base.scheme text
      return { base with
        authority := some authority
        path := Reference.resolvedPath p.path
        query := Reference.textOf p.query
        fragment := none }
    | none, none =>
      if p.path.isEmpty then
        return { base with
          query := if p.query.isSome then Reference.textOf p.query else base.query
          fragment := none }
      else
        return { base with
          path := Reference.resolvedPath (Reference.mergedPath base p.path)
          query := Reference.textOf p.query
          fragment := none }

end Url

end JsxTidy.Http
