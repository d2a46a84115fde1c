import StoreBridge.Text.Fold
import StoreBridge.Text.Percent

/-!
# Paths

A path is a list of segments after slashes. A segment of one dot is left out, one of two dots takes
the segment before it away; at the end either of them leaves an empty segment. A drive letter is
never taken away.
-/

namespace StoreBridge

namespace UrlPath

/-- The characters that stand for themselves in a fragment. -/
def keepsFragment (c : Char) : Bool :=
  0x20 < c.toNat && c.toNat < 0x7f && !"\"<>\x60".toList.contains c

/-- The characters that stand for themselves in a path. -/
def keeps (c : Char) : Bool :=
  keepsFragment c && !"#?\x7b\x7d".toList.contains c

/-- A dot, possibly percent-encoded, in front of a text. -/
def readDot? : List Char → Option (List Char)
  | '.' :: rest => some rest
  | '%' :: '2' :: e :: rest => if e = 'e' ∨ e = 'E' then some rest else none
  | _ => none

/-- A segment of one dot. -/
def isDot (segment : List Char) : Bool :=
  readDot? segment == some []

/-- A segment of two dots. -/
def isTwoDots (segment : List Char) : Bool :=
  (readDot? segment).bind readDot? == some []

/-- A segment that begins with a drive letter. -/
def isDrive : List Char → Bool
  | letter :: sign :: rest =>
    letter.isAlpha && (sign == ':' || sign == '|') && (rest.isEmpty || rest.head? == some '\\')
  | _ => false

/-- Takes the last segment away, if it may go. -/
def shorten (done : List (List Char)) : List (List Char) :=
  match done.reverse with
  | last :: rest => if isDrive last then done else rest.reverse
  | [] => []

/-- The segments that remain of a list of segments, given those that are done. -/
def resolve : List (List Char) → List (List Char) → List (List Char)
  | done, [] => done
  | done, [last] =>
    if isTwoDots last then shorten done ++ [[]]
    else if isDot last then done ++ [[]]
    else done ++ [last]
  | done, segment :: rest =>
    if isTwoDots segment then resolve (shorten done) rest
    else if isDot segment then resolve done rest
    else resolve (done ++ [segment]) rest

/-- The written form of segments, each after a slash. -/
def text (segments : List (List Char)) : List Char :=
  segments.flatMap fun s => '/' :: s

/-- The segments of the text behind the first slash of a path; `special` schemes separate by
backslashes as well. -/
def segments (special : Bool) (cs : List Char) : List (List Char) :=
  let cs := if special then cs.map fun c => if c = '\\' then '/' else c else cs
  resolve [] ((splitOnChar '/' cs).map (percentEncode keeps))

/-- Reads the text behind the first slash of a path. -/
def parse (special : Bool) (cs : List Char) : List Char :=
  text (segments special cs)

/-- A drive letter with its sign, and nothing else. -/
def isDriveLetter : List Char → Bool
  | [letter, sign] => letter.isAlpha && (sign == ':' || sign == '|')
  | _ => false

/-- Reads the text behind the first slash of the path of a file, and says whether the path begins
with a drive letter. Its sign is a colon then; without one, all slashes in front of the path are
one. -/
def parseFile (cs : List Char) : Bool × List Char :=
  match segments true cs with
  | [] => (false, ['/'])
  | first :: rest =>
    if isDriveLetter first then (true, text ((first.take 1 ++ [':']) :: rest))
    else (false, '/' :: (text (first :: rest)).dropWhile (· == '/'))

end UrlPath

end StoreBridge
