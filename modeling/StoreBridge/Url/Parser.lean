import StoreBridge.Text.Blank
import StoreBridge.Url.Host
import StoreBridge.Url.Path

/-!
# Reading URLs

`Url.parse` reads an absolute URL. Blanks and control characters around it and tabs and line ends
anywhere in it are left out. A special scheme always has an authority, and the URL of a file has a
host and a path only. Any other scheme may do without an authority.
-/

namespace StoreBridge

/-- The schemes whose authority is a domain name, with their ports. -/
def specialSchemes : List (String × Nat) :=
  [("http", 80), ("https", 443), ("ws", 80), ("wss", 443), ("ftp", 21)]

namespace Url

/-- The port that a scheme has anyway. Only special schemes have one. -/
def defaultPort? (scheme : List Char) : Option Nat :=
  (specialSchemes.find? fun (name, _) => name.toList == scheme).map Prod.snd

/-- The text that counts. -/
def clean (cs : List Char) : List Char :=
  let outer (c : Char) : Bool := c.toNat ≤ 0x20
  (dropEndWhile outer (cs.dropWhile outer)).filter fun c => c != '\t' && c != '\n' && c != '\r'

/-- A character of a scheme after the first one. -/
def isSchemePart (c : Char) : Bool :=
  c.isAlphanum || c == '+' || c == '-' || c == '.'

/-- The scheme in lower case, and the text after its colon. -/
def splitScheme? (cs : List Char) : Option (List Char × List Char) :=
  match cs.dropWhile isSchemePart with
  | ':' :: rest =>
    if cs.head?.any Char.isAlpha then some ((cs.takeWhile isSchemePart).map asciiLower, rest)
    else none
  | _ => none

/-- The characters that stand for themselves in a name or password. -/
def keepsUserinfo (c : Char) : Bool :=
  UrlPath.keeps c && !"/:;=@[\\]^|".toList.contains c

/-- The characters that stand for themselves in a query. -/
def keepsQuery (special : Bool) (c : Char) : Bool :=
  0x20 < c.toNat && c.toNat < 0x7f && !"\"#<>".toList.contains c && !(special && c == '\'')

/-- Ends an authority. -/
def endsAuthority (special : Bool) (c : Char) : Bool :=
  c == '/' || c == '?' || c == '#' || (special && c == '\\')

/-- The name and the password of a user; an empty password is none. -/
def parseUserinfo (cs : List Char) : List Char × Option (List Char) :=
  let name := percentEncode keepsUserinfo (cs.takeWhile (· != ':'))
  match cs.dropWhile (· != ':') with
  | _ :: c :: rest => (name, some (percentEncode keepsUserinfo (c :: rest)))
  | _ => (name, none)

/-- Splits a host from its port; a colon between brackets belongs to the host. -/
def splitHost (inside : Bool) : List Char → List Char × List Char
  | [] => ([], [])
  | c :: cs =>
    if c = ':' ∧ !inside then ([], c :: cs)
    else
      let inside := c == '[' || (inside && c != ']')
      let (host, rest) := splitHost inside cs
      (c :: host, rest)

/-- A port in front of a text. Nothing but a slash, question mark or number sign may follow. -/
def parsePort (cs : List Char) : Except UrlFault (Option Nat × List Char) :=
  let ds := cs.takeWhile isDigit
  let rest := cs.dropWhile isDigit
  if 65535 < natOfDigits ds then .error .badPort
  else if rest.head?.any fun c => !(c == '/' || c == '\\' || c == '?' || c == '#') then
    .error .badPort
  else .ok (if ds = [] then none else some (natOfDigits ds), rest)

/-- The host and the port of an authority; the port a scheme has anyway is left out. -/
def parseHostPort (default : Option Nat) (cs : List Char) :
    Except UrlFault ((List Char × Option Nat) × List Char) := do
  let special := default.isSome
  let (hostText, rest) := splitHost false cs
  -- Only a host of an unknown scheme may be empty, and then it has no port.
  if special ∧ hostText = [] then .error .emptyHost
  else
    let host ← if special then Host.parseDomain hostText else Host.parseOpaque hostText
    match rest with
    | ':' :: rest =>
      if host = [] then .error .emptyHost
      else
        let (port, rest) ← parsePort rest
        return ((host, if port = default then none else port), rest)
    | rest => return ((host, none), rest)

/-- The authority in front of a text, whose two slashes are already read. -/
def parseAuthority (default : Option Nat) (cs : List Char) :
    Except UrlFault (Authority × List Char) := do
  let ends := endsAuthority default.isSome
  let whole := cs.takeWhile (!ends ·)
  let behind := cs.dropWhile (!ends ·)
  match splitAtLast '@' whole with
  | none =>
    let ((host, port), rest) ← parseHostPort default whole
    return (⟨[], none, host, port⟩, rest ++ behind)
  | some (userinfo, hostPort) =>
    -- A lone sign between nothing and a path leaves no host to reach.
    if userinfo = [] ∧ hostPort = [] ∧ behind ≠ [] then .error .emptyHost
    else
      let (username, password) := parseUserinfo userinfo
      let ((host, port), rest) ← parseHostPort default hostPort
      if host = [] ∧ (username ≠ [] ∨ password.isSome) then .error .emptyHost
      else return (⟨username, password, host, port⟩, rest ++ behind)

/-- Separates the query and the fragment from the text in front of them. -/
def splitTail (special : Bool) (cs : List Char) :
    List Char × Option (List Char) × Option (List Char) :=
  let front := cs.takeWhile fun c => c != '?' && c != '#'
  match cs.dropWhile fun c => c != '?' && c != '#' with
  | '?' :: rest =>
    let query := percentEncode (keepsQuery special) (rest.takeWhile (· != '#'))
    match rest.dropWhile (· != '#') with
    | _ :: fragment => (front, some query, some (percentEncode UrlPath.keepsFragment fragment))
    | [] => (front, some query, none)
  | _ :: fragment => (front, none, some (percentEncode UrlPath.keepsFragment fragment))
  | [] => (front, none, none)

/-- The path after an authority. -/
def parsePath (special : Bool) (cs : List Char) : List Char :=
  match cs with
  | [] => if special then ['/'] else []
  | '/' :: rest => UrlPath.parse special rest
  | '\\' :: rest => UrlPath.parse special (if special then rest else '\\' :: rest)
  | cs => UrlPath.parse special cs

/-- The path of a URL without an authority. -/
def parseBarePath : List Char → List Char
  | '/' :: rest => UrlPath.parse false rest
  | cs => percentEncode Host.isPlain cs

/-- A slash of either kind. -/
def isSlash (c : Char) : Bool := c == '/' || c == '\\'

/-- The host in front of the path of a file. A drive letter in its place belongs to the path, and
this machine is no host. -/
def parseFileHost (cs : List Char) : Except UrlFault (List Char × List Char) := do
  let whole := cs.takeWhile (!endsAuthority true ·)
  let behind := cs.dropWhile (!endsAuthority true ·)
  if UrlPath.isDriveLetter whole then return ([], cs)
  else if whole = [] then return ([], behind)
  else
    let host ← Host.parseDomain whole
    return (if host = "localhost".toList then [] else host, behind)

/-- The host and the path behind the colon of the URL of a file. There is a host only behind two
slashes. -/
def splitFileHost (cs : List Char) : Except UrlFault (List Char × List Char) :=
  match cs with
  | a :: b :: behind => if isSlash a && isSlash b then parseFileHost behind else .ok ([], cs)
  | _ => .ok ([], cs)

/-- The URL of a file. A path that begins with a drive letter needs no host. -/
def fileUrl (scheme host path : List Char) : Url :=
  let (front, query, fragment) := splitTail true path
  let (drive, path) := UrlPath.parseFile (if front.head?.any isSlash then front.drop 1 else front)
  ⟨scheme, some ⟨[], none, if drive then [] else host, none⟩, path, query, fragment⟩

/-- Reads an absolute URL. -/
def parse (s : String) : Except UrlFault Url := do
  match splitScheme? (clean s.toList) with
  | none => .error .relative
  | some (scheme, rest) =>
    let default := defaultPort? scheme
    let special := default.isSome
    if scheme = "file".toList then
      let (host, path) ← splitFileHost rest
      return fileUrl scheme host path
    -- A special scheme has an authority, however many slashes stand in front of it.
    else if special then
      let (authority, rest) ← parseAuthority default (rest.dropWhile isSlash)
      let (front, query, fragment) := splitTail true rest
      return ⟨scheme, some authority, parsePath true front, query, fragment⟩
    else
      match rest with
      -- Any other scheme has one only behind two slashes.
      | '/' :: '/' :: rest =>
        let (authority, rest) ← parseAuthority none rest
        let (front, query, fragment) := splitTail false rest
        return ⟨scheme, some authority, parsePath false front, query, fragment⟩
      | rest =>
        let (front, query, fragment) := splitTail false rest
        return ⟨scheme, none, parseBarePath front, query, fragment⟩

end Url

end StoreBridge
