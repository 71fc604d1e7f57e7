import JsxTidy.Http.Url
import JsxTidy.Text.Base64

/-!
# Credentials in addresses

A name and password in an address are not sent as part of it, but in a header.
-/

namespace JsxTidy.Http

namespace Authority

/-- The bytes of a text with its escapes carried out. -/
def bytesOf : List Char → List Nat
  | '%' :: a :: b :: rest =>
    match Url.digit? a, Url.digit? b with
    | some x, some y => (16 * x + y) :: bytesOf rest
    | _, _ => '%'.toNat :: bytesOf (a :: b :: rest)
  | c :: rest => (String.utf8EncodeChar c).map UInt8.toNat ++ bytesOf rest
  | [] => []

/-- The header for a name and password, if there is one of them. -/
def authorization? (a : Authority) : Option String :=
  if a.user.isEmpty && a.password.isNone then none
  else
    let plain := bytesOf a.user.toList ++ ':'.toNat :: bytesOf (a.password.getD "").toList
    some ("Basic " ++ String.ofList (Text.base64 plain))

end Authority

namespace Url

/-- The address without a name and password. -/
def withoutCredentials (u : Url) : Url :=
  { u with authority := u.authority.map Authority.withoutCredentials }

/-- The header for the name and password in an address. -/
def authorization? (u : Url) : Option String :=
  u.authority >>= Authority.authorization?

end Url

end JsxTidy.Http
