import StoreBridge.Number.Reading
import StoreBridge.Url.Basic

/-!
# Hosts

A host in brackets is an IPv6 address and is written in its shortest form. The host of a special
scheme is a domain name in lower case or an IPv4 address; every other scheme keeps its host as it
is.
-/

namespace StoreBridge

namespace Ipv6

/-- The value of up to four hexadecimal digits in front of a text. -/
def readPiece : Nat → Nat → List Char → Nat × List Char
  | steps + 1, n, c :: cs =>
    match hexValue? c with
    | some d => readPiece steps (16 * n + d) cs
    | none => (n, c :: cs)
  | _, n, cs => (n, cs)

/-- A decimal number below 256 without superfluous zeros, in front of a text. -/
def readOctet? (cs : List Char) : Option (Nat × List Char) :=
  let ds := cs.takeWhile isDigit
  let n := natOfDigits ds
  if ds = [] ∨ (ds.length ≠ 1 ∧ ds.head? = some '0') ∨ 255 < n then none
  else some (n, cs.dropWhile isDigit)

/-- Four octets with points between them that fill a text, as two pieces. -/
def readEmbedded? (cs : List Char) : Option (List Nat) := do
  let (a, cs) ← readOctet? cs
  let (b, cs) ← readOctet? (← after cs)
  let (c, cs) ← readOctet? (← after cs)
  let (d, cs) ← readOctet? (← after cs)
  if cs = [] then return [256 * a + b, 256 * c + d] else none
where
  after : List Char → Option (List Char)
    | '.' :: rest => some rest
    | _ => none

/-- Pieces with colons between them. Returns the pieces before a double colon and, if there is one,
those after it. -/
def readPieces : Nat → List Nat → Option (List Nat) → List Char →
    Option (List Nat × Option (List Nat))
  | _, front, back, [] => some (front, back)
  | 0, _, _, _ :: _ => none
  | steps + 1, front, back, c :: cs =>
    let push (ps : List Nat) : List Nat × Option (List Nat) :=
      match back with
      | none => (front ++ ps, none)
      | some later => (front, some (later ++ ps))
    if c = ':' then
      -- There is room for one double colon.
      if back.isSome then none else readPieces steps front (some []) cs
    else if (hexValue? c).isNone then none
    else
      let (n, rest) := readPiece 4 0 (c :: cs)
      let (front', back') := push [n]
      match rest with
      | [] => some (front', back')
      -- The number is the first of an IPv4 address that makes up the rest.
      | '.' :: _ =>
        (readEmbedded? (c :: cs)).map push
      | [':'] => none
      | ':' :: rest => readPieces steps front' back' rest
      | _ => none

/-- The eight pieces of an address. A double colon stands for one or more zero pieces. -/
def parse? (cs : List Char) : Option (List Nat) := do
  let start ←
    match cs with
    | ':' :: ':' :: rest => some (some [], rest)
    | ':' :: _ => none
    | cs => some (none, cs)
  let (front, back) ← readPieces (cs.length + 1) [] start.1 start.2
  match back with
  | none => if front.length = 8 then return front else none
  | some later =>
    let n := front.length + later.length
    if n < 8 then return front ++ List.replicate (8 - n) 0 ++ later else none

/-- The lengths of the runs of zero pieces, each with its start. -/
def zeroRuns : Nat → List Nat → List (Nat × Nat)
  | _, [] => []
  | i, p :: ps =>
    let run := (p :: ps).takeWhile (· == 0)
    (i, run.length) :: zeroRuns (i + 1) ps

/-- The first of the longest runs of at least two zero pieces. -/
def longestRun (pieces : List Nat) : Option (Nat × Nat) :=
  (zeroRuns 0 pieces).foldl (fun best (i, n) =>
    match best with
    | some (_, m) => if m < n then some (i, n) else best
    | none => if 2 ≤ n then some (i, n) else none) none

/-- A piece without superfluous zeros. -/
def pieceText (n : Nat) : List Char :=
  if n < 16 then [hexChar n] else pieceText (n / 16) ++ [hexChar (n % 16)]
termination_by n

/-- Pieces with colons between them. -/
def piecesText (pieces : List Nat) : List Char :=
  joinWith [':'] (pieces.map pieceText)

/-- The shortest form of an address. -/
def text (pieces : List Nat) : List Char :=
  match longestRun pieces with
  | some (i, n) => piecesText (pieces.take i) ++ "::".toList ++ piecesText (pieces.drop (i + n))
  | none => piecesText pieces

end Ipv6

namespace Ipv4

/-- A number in decimal, octal or hexadecimal notation. -/
def number? : List Char → Option Nat
  | [] => none
  | '0' :: x :: ds =>
    if x = 'x' ∨ x = 'X' then
      (ds.mapM hexValue?).map fun vs => vs.foldl (fun n d => 16 * n + d) 0
    else if (x :: ds).all fun c => '0' ≤ c && c ≤ '7' then
      some ((x :: ds).foldl (fun n c => 8 * n + digitValue c) 0)
    else none
  | ds => natOfText? ds

/-- The parts of a name, without the empty one behind a final point. -/
def parts (cs : List Char) : List (List Char) :=
  let ps := splitOnChar '.' cs
  if 1 < ps.length ∧ ps.getLast? = some [] then ps.dropLast else ps

/-- Whether a name ends in a number, so that it has to be an address. -/
def endsInNumber (cs : List Char) : Bool :=
  match (parts cs).getLast? with
  | some p => (p ≠ [] ∧ p.all isDigit) || ("0x".toList.isPrefixOf p && (number? p).isSome)
  | none => false

/-- The address of up to four numbers; the last one fills the bytes that are left. -/
def address? : List Nat → Option Nat
  | [] => none
  | [a] => if a < pow2 32 then some a else none
  | [a, b] => if a < 256 ∧ b < pow2 24 then some (a * pow2 24 + b) else none
  | [a, b, c] =>
    if a < 256 ∧ b < 256 ∧ c < pow2 16 then some (a * pow2 24 + b * pow2 16 + c) else none
  | [a, b, c, d] =>
    if a < 256 ∧ b < 256 ∧ c < 256 ∧ d < 256 then
      some (a * pow2 24 + b * pow2 16 + c * pow2 8 + d)
    else none
  | _ => none

/-- The usual form of an address. -/
def text (n : Nat) : List Char :=
  joinWith ['.'] ([n / pow2 24, n / pow2 16 % 256, n / pow2 8 % 256, n % 256].map natDigits)

/-- The address that a name spells. -/
def parse? (cs : List Char) : Option Nat := do
  address? (← (parts cs).mapM number?)

end Ipv4

namespace Host

/-- The characters that no host may hold. -/
def isForbidden (c : Char) : Bool :=
  "\x00\t\n\r #/:<>?@[\\]^|".toList.contains c

/-- A visible ASCII character or a space. -/
def isPlain (c : Char) : Bool :=
  0x20 ≤ c.toNat && c.toNat < 0x7f

/-- An address in brackets. -/
def parseBracketed (cs : List Char) : Except UrlFault (List Char) :=
  if cs.getLast? = some ']' then
    match Ipv6.parse? (cs.drop 1).dropLast with
    | some pieces => .ok ('[' :: (Ipv6.text pieces ++ [']']))
    | none => .error .badIpv6
  else .error .badIpv6

/-- A host that is kept as it is. -/
def parseOpaque (cs : List Char) : Except UrlFault (List Char) :=
  if cs.head? = some '[' then parseBracketed cs
  else if cs.any isForbidden then .error .badDomain
  else .ok (percentEncode isPlain cs)

/-- A domain name or address. Names beyond ASCII are not supported, and their ASCII forms are not
checked. -/
def parseDomain (cs : List Char) : Except UrlFault (List Char) :=
  if cs.head? = some '[' then parseBracketed cs
  else
    match Bytes.toText? (percentDecode cs) with
    | none => .error .badName
    | some name =>
      let name := name.toList.map asciiLower
      if name = [] ∨ name.any fun c => isForbidden c || c == '%' || !isPlain c then .error .badName
      -- A name that ends in a number is an address, or nothing.
      else if Ipv4.endsInNumber name then
        match Ipv4.parse? name with
        | some n => .ok (Ipv4.text n)
        | none => .error .badIpv4
      else .ok name

end Host

end StoreBridge
