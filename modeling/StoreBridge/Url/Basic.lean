import StoreBridge.Number.Digits
import StoreBridge.Text.Percent

/-!
# URLs

A `Url` is kept in parts, each as it is written: the scheme in lower case, everything else with the
characters that may not stand in it percent-encoded. `Url.text` puts the parts together.
-/

namespace StoreBridge

/-- Why a text is no URL. -/
inductive UrlFault where
  | relative
  | emptyHost
  | badPort
  | badIpv6
  | badIpv4
  | badDomain
  | badName
  deriving DecidableEq, Repr

/-- The wording of a fault. -/
def UrlFault.message : UrlFault → String
  | .relative => "relative URL without a base"
  | .emptyHost => "empty host"
  | .badPort => "invalid port number"
  | .badIpv6 => "invalid IPv6 address"
  | .badIpv4 => "invalid IPv4 address"
  | .badDomain => "invalid domain character"
  | .badName => "invalid international domain name"

/-- What stands between the two slashes and the path. An empty host is no host. -/
structure Authority where
  username : List Char
  password : Option (List Char)
  host : List Char
  port : Option Nat
  deriving DecidableEq, Repr

/-- A URL in parts. Without an authority, a path that does not begin with a slash is opaque. -/
structure Url where
  scheme : List Char
  authority : Option Authority
  path : List Char
  query : Option (List Char)
  fragment : Option (List Char)
  deriving DecidableEq, Repr

namespace Authority

/-- The user and password with the sign that ends them; nothing if there is neither. -/
def userinfo (a : Authority) : List Char :=
  match a.password with
  | some password => a.username ++ ':' :: password ++ ['@']
  | none => if a.username = [] then [] else a.username ++ ['@']

/-- The written form. -/
def text (a : Authority) : List Char :=
  a.userinfo ++ a.host ++
    match a.port with
    | some port => ':' :: natDigits port
    | none => []

end Authority

namespace Url

/-- A part that may be missing, with the sign in front of it. -/
def marked (sign : Char) : Option (List Char) → List Char
  | some cs => sign :: cs
  | none => []

/-- The written form. A path that begins with two slashes must not be taken for an authority, so a
dot is put in front of it. -/
def text (u : Url) : String :=
  let front :=
    match u.authority with
    | some a => '/' :: '/' :: a.text
    | none => if "//".toList.isPrefixOf u.path then "/.".toList else []
  String.ofList (u.scheme ++ ':' :: front ++ u.path ++ marked '?' u.query ++ marked '#' u.fragment)

/-- The host, if there is one. -/
def host? (u : Url) : Option (List Char) :=
  match u.authority with
  | some a => if a.host = [] then none else some a.host
  | none => none

/-- The user's name; empty if there is none. -/
def username (u : Url) : List Char :=
  match u.authority with
  | some a => a.username
  | none => []

/-- The password, if there is one. -/
def password? (u : Url) : Option (List Char) :=
  u.authority.bind Authority.password

/-- The port, if there is one. -/
def port? (u : Url) : Option Nat :=
  u.authority.bind Authority.port

/-- The path without the slashes in front. -/
def innerPath (u : Url) : List Char :=
  u.path.dropWhile (· == '/')

/-- The same URL with another password, if it has an authority. -/
def withPassword (u : Url) (password : List Char) : Url :=
  { u with authority := u.authority.map fun a => { a with password := some password } }

end Url

end StoreBridge
