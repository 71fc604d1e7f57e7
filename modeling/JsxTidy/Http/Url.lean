import JsxTidy.Text.Find
import JsxTidy.Text.Lowercase

/-!
# Addresses

An address names a scheme, an authority with a host, a path, a query and a fragment. Reading one
brings it into its normal form: letters that do not count are made small, an address by numbers
gets its four numbers, a usual port is left out, steps up and down a path are carried out, and
characters that may not stand in a part are escaped.
-/

namespace JsxTidy.Http

/-- Who and where: a name and password, a host and a port. -/
structure Authority where
  user : String
  password : Option String
  host : String
  port : Option Nat
deriving DecidableEq, Repr

/-- An address. -/
structure Url where
  scheme : String
  authority : Option Authority
  path : String
  query : Option String
  fragment : Option String
deriving DecidableEq, Repr

namespace Authority

/-- The name and password in front of a host. -/
def credentials (a : Authority) : String :=
  match a.password with
  | some password => a.user ++ ":" ++ password ++ "@"
  | none => if a.user.isEmpty then "" else a.user ++ "@"

/-- An authority as text. -/
def text (a : Authority) : String :=
  a.credentials ++ a.host ++ (match a.port with
    | some port => ":" ++ toString port
    | none => "")

/-- An authority without name and password. -/
def withoutCredentials (a : Authority) : Authority :=
  { a with user := "", password := none }

end Authority

namespace Url

/-- What a server is asked for: the path and the query. -/
def target (u : Url) : String :=
  (if u.path.isEmpty then "/" else u.path) ++ (match u.query with
    | some query => "?" ++ query
    | none => "")

/-- An address as text. -/
def text (u : Url) : String :=
  let front := match u.authority with
    | some authority => "//" ++ authority.text
    | none => if u.path.startsWith "//" then "/." else ""
  u.scheme ++ ":" ++ front ++ u.path
    ++ (match u.query with
      | some query => "?" ++ query
      | none => "")
    ++ (match u.fragment with
      | some fragment => "#" ++ fragment
      | none => "")

/-- Whether the address names a host. -/
def hasHost (u : Url) : Bool :=
  match u.authority with
  | some authority => !authority.host.isEmpty
  | none => false

/-- The schemes whose addresses have a host and a path of steps, with their usual ports. -/
def usualPorts : List (String × Option Nat) :=
  [ ("http", some 80), ("https", some 443), ("ws", some 80), ("wss", some 443), ("ftp", some 21),
    ("file", none) ]

/-- Whether the addresses of a scheme have a host and a path of steps. -/
def isSpecial (scheme : String) : Bool :=
  (usualPorts.lookup scheme).isSome

/-- The port of the server that an address names. -/
def port? (u : Url) : Option Nat :=
  match u.authority >>= Authority.port with
  | some port => some port
  | none => (usualPorts.lookup u.scheme).join

/-- The hexadecimal form of a byte. -/
def hexByte (n : Nat) : List Char :=
  [(Nat.digitChar (n / 16)).toUpper, (Nat.digitChar (n % 16)).toUpper]

/-- The bytes of a character as escapes. -/
def escapeChar (c : Char) : List Char :=
  (String.utf8EncodeChar c).flatMap fun byte => '%' :: hexByte byte.toNat

/-- A text with the characters escaped that may not stand in it. -/
def escape (forbidden : Char → Bool) (text : List Char) : List Char :=
  text.flatMap fun c => if c < ' ' || c > '~' || forbidden c then escapeChar c else [c]

/-- What is escaped in a fragment. -/
def fragmentSet (c : Char) : Bool :=
  c ∈ [' ', '"', '<', '>', '\x60']

/-- What is escaped in a query. -/
def querySet (special : Bool) (c : Char) : Bool :=
  c ∈ [' ', '"', '#', '<', '>'] || (special && c == '\'')

/-- What is escaped in a path. -/
def pathSet (c : Char) : Bool :=
  c ∈ [' ', '"', '#', '<', '>', '?', '^', '\x60', '\x7b', '\x7d']

/-- What is escaped in a name or password. -/
def credentialSet (c : Char) : Bool :=
  pathSet c || c ∈ ['/', ':', ';', '=', '@', '[', '\\', ']', '|']

/-- The parts of a text between separators. -/
def split (isSeparator : Char → Bool) : List Char → List (List Char)
  | [] => [[]]
  | c :: rest =>
    if isSeparator c then [] :: split isSeparator rest
    else
      match split isSeparator rest with
      | first :: others => (c :: first) :: others
      | [] => [[c]]

/-- Whether a step of a path stays where it is. -/
def isHere (step : List Char) : Bool :=
  step.map Char.toLower ∈ ["." , "%2e"].map String.toList

/-- Whether a step of a path goes up. -/
def isUp (step : List Char) : Bool :=
  step.map Char.toLower ∈ ["..", ".%2e", "%2e.", "%2e%2e"].map String.toList

/-- The steps of a path from where some steps, the last one first, have led. A step up or to the
same place at the end leaves an empty step. -/
def walk (taken : List (List Char)) : List (List Char) → List (List Char)
  | [] => taken.reverse
  | [last] =>
    if isUp last then ([] :: taken.drop 1).reverse
    else if isHere last then ([] :: taken).reverse
    else (last :: taken).reverse
  | step :: rest =>
    if isUp step then walk (taken.drop 1) rest
    else if isHere step then walk taken rest
    else walk (step :: taken) rest

/-- A path of steps in its normal form. -/
def normalPath (special : Bool) (path : List Char) : String :=
  let isSeparator (c : Char) : Bool := c == '/' || (special && c == '\\')
  let steps := match path with
    | c :: rest => split isSeparator (if isSeparator c then rest else c :: rest)
    | [] => if special then [[]] else []
  String.ofList ((walk [] steps).flatMap fun step => '/' :: escape pathSet step)

/-- The value of a digit. -/
def digit? (c : Char) : Option Nat :=
  if c.isDigit then some (c.toNat - '0'.toNat)
  else if 'a' ≤ c.toLower && c.toLower ≤ 'f' then some (c.toLower.toNat - 'a'.toNat + 10)
  else none

/-- The value of digits of a base. -/
def number? (base : Nat) (digits : List Char) : Option Nat :=
  digits.foldl (fun value c => do
    let n ← value
    let d ← digit? c
    if d < base then some (base * n + d) else none) (some 0)

/-- A number in an address by numbers: of base sixteen behind `0x`, of base eight behind `0`. -/
def addressNumber? : List Char → Option Nat
  | [] => none
  | '0' :: 'x' :: digits => number? 16 digits
  | '0' :: 'X' :: digits => number? 16 digits
  | '0' :: c :: digits => number? 8 (c :: digits)
  | digits => number? 10 digits

/-- The parts of a host name. A point at the end does not begin another part. -/
def hostParts (host : List Char) : List (List Char) :=
  let parts := split (· == '.') host
  if parts.length > 1 && parts.getLast? == some [] then parts.dropLast else parts

/-- Whether a host is an address by numbers. -/
def endsInNumber (host : List Char) : Bool :=
  match (hostParts host).getLast? with
  | some last => (!last.isEmpty && last.all Char.isDigit) || (addressNumber? last).isSome
  | none => false

/-- The number that an address by numbers is. The last part fills all bytes that are left. -/
def addressOf? : List Nat → Option Nat
  | [a] => if a < Nat.pow 256 4 then some a else none
  | [a, b] => if a < 256 && b < Nat.pow 256 3 then some (a * Nat.pow 256 3 + b) else none
  | [a, b, c] =>
    if a < 256 && b < 256 && c < Nat.pow 256 2 then
      some ((a * 256 + b) * Nat.pow 256 2 + c)
    else none
  | [a, b, c, d] =>
    if a < 256 && b < 256 && c < 256 && d < 256 then some (((a * 256 + b) * 256 + c) * 256 + d)
    else none
  | _ => none

/-- An address by four numbers. -/
def dotted (n : Nat) : String :=
  ".".intercalate
    ([n / Nat.pow 256 3, n / Nat.pow 256 2 % 256, n / 256 % 256, n % 256].map toString)

/-- The characters that no host name holds. -/
def isHostBreaker (c : Char) : Bool :=
  c ≤ ' ' || c == '\x7f'
    || c ∈ ['#', '%', '/', ':', '<', '>', '?', '@', '[', '\\', ']', '^', '\x60', '\x7b', '|', '\x7d']

/-- The characters of a text with escapes of one byte carried out. -/
def unescape : List Char → List Char
  | '%' :: a :: b :: rest =>
    match digit? a, digit? b with
    | some x, some y =>
      if x < 8 then Char.ofNat (16 * x + y) :: unescape rest else '%' :: unescape (a :: b :: rest)
    | _, _ => '%' :: unescape (a :: b :: rest)
  | c :: rest => c :: unescape rest
  | [] => []

/-- A host in its normal form. A host in brackets is kept. -/
def host? (special : Bool) (host : List Char) : Option String :=
  if host.head? == some '[' then
    let inner := (host.drop 1).dropLast
    if host.getLast? == some ']' && inner.contains ':'
        && inner.all (fun c => (digit? c).isSome || c == ':' || c == '.') then
      some (String.ofList (host.map Char.toLower))
    else none
  else if special then
    let name := (Text.lowercase (String.ofList (unescape host))).toList
    if name.isEmpty || name.any isHostBreaker then none
    else if endsInNumber name then
      (((hostParts name).mapM addressNumber?) >>= addressOf?).map dotted
    else some (String.ofList name)
  else if host.any (fun c => isHostBreaker c && c != '%') then none
  else some (String.ofList (escape (fun _ => false) host))

/-- A port, if it is not the usual one of a scheme. -/
def port (scheme : String) (digits : List Char) : Option (Option Nat) :=
  if digits.isEmpty then some none
  else if digits.all Char.isDigit then
    match number? 10 digits with
    | some n =>
      if 65535 < n then none
      else if (usualPorts.lookup scheme).join == some n then some none
      else some (some n)
    | none => none
  else none

/-- A host and a port. -/
def hostAndPort (text : List Char) : List Char × List Char :=
  match Text.splitLast? [':'] text with
  | some (host, rest) => if rest.contains ']' then (text, []) else (host, rest.drop 1)
  | none => (text, [])

/-- A name and password. -/
def credentials (text : List Char) : String × Option String :=
  let escaped (part : List Char) : String := String.ofList (escape credentialSet part)
  match Text.splitFirst? [':'] text with
  | some (user, rest) =>
    let password := rest.drop 1
    (escaped user, if password.isEmpty then none else some (escaped password))
  | none => (escaped text, none)

/-- An authority. -/
def authority? (scheme : String) (text : List Char) : Option Authority := do
  let (front, place) := match Text.splitLast? ['@'] text with
    | some (front, rest) => (front, rest.drop 1)
    | none => ([], text)
  let (user, password) := credentials front
  let (host, digits) := hostAndPort place
  if host.isEmpty && (isSpecial scheme || !front.isEmpty || !digits.isEmpty) then none
  else
    let host ← if host.isEmpty then some "" else host? (isSpecial scheme) host
    return { user, password, host, port := ← port scheme digits }

/-- The text before the first character of a kind, and the text from it on. -/
def cut (isEnd : Char → Bool) (text : List Char) : List Char × List Char :=
  (text.takeWhile fun c => !isEnd c, text.dropWhile fun c => !isEnd c)

/-- The path, query and fragment in a text. -/
def parts (text : List Char) : List Char × Option (List Char) × Option (List Char) :=
  let (front, fragment) := cut (· == '#') text
  let (path, query) := cut (· == '?') front
  let behind (part : List Char) : Option (List Char) :=
    if part.isEmpty then none else some (part.drop 1)
  (path, behind query, behind fragment)

/-- The scheme of an address and what follows its colon. -/
def scheme? (text : List Char) : Option (String × List Char) :=
  match text with
  | c :: _ =>
    let (name, rest) := cut (fun c => !(c.isAlphanum || c ∈ ['+', '-', '.'])) text
    if c.isAlpha && rest.head? == some ':' then
      some (String.ofList (name.map Char.toLower), rest.drop 1)
    else none
  | [] => none

/-- The address with a scheme and an authority, given its path, query and fragment. -/
def assemble (scheme : String) (authority : Option Authority) (path : String)
    (query fragment : Option (List Char)) : Url :=
  { scheme, authority, path
    query := query.map fun text => String.ofList (escape (querySet (isSpecial scheme)) text)
    fragment := fragment.map fun text => String.ofList (escape fragmentSet text) }

/-- The address behind a scheme. -/
def behindScheme (scheme : String) (text : List Char) : Option Url :=
  let special := isSpecial scheme
  let isSlash (c : Char) : Bool := c == '/' || (special && c == '\\')
  let isEnd (c : Char) : Bool := isSlash c || c == '?' || c == '#'
  let ofAuthority (scheme : String) (text : List Char) : Option Url := do
    let (place, rest) := cut isEnd text
    let (path, query, fragment) := parts rest
    let authority ← authority? scheme place
    return assemble scheme (some authority) (normalPath special path) query fragment
  if scheme == "file" then
    let (path, query, fragment) := parts (match text with
      | a :: b :: rest => if isSlash a && isSlash b then (cut isEnd rest).2 else text
      | _ => text)
    some (assemble scheme (some ⟨"", none, "", none⟩) (normalPath true path) query fragment)
  else if special then ofAuthority scheme (text.dropWhile isSlash)
  else
    match text with
    | '/' :: '/' :: rest => ofAuthority scheme rest
    | '/' :: _ =>
      let (path, query, fragment) := parts text
      some (assemble scheme none (normalPath false path) query fragment)
    | _ =>
      let (path, query, fragment) := parts text
      some (assemble scheme none (String.ofList (escape (fun _ => false) path)) query fragment)

/-- An address without the characters that do not count in it. -/
def clean (text : List Char) : List Char :=
  let isEdge (c : Char) : Bool := c ≤ ' '
  let inner := ((text.dropWhile isEdge).reverse.dropWhile isEdge).reverse
  inner.filter fun c => !(c == '\t' || c == '\n' || c == '\r')

/-- Reads an address. -/
def ofText? (text : String) : Option Url := do
  let (scheme, rest) ← scheme? (clean text.toList)
  behindScheme scheme rest

end Url

end JsxTidy.Http
