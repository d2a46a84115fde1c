import StoreBridge.Number.Reading
import StoreBridge.Time.Calendar
import StoreBridge.Text.Blank

/-!
# Instants

Instants in milliseconds since 1970-01-01T00:00:00Z, written and read as internet date-times: a
date, one character, a time of day with an optional fraction, and the offset from UTC.
-/

namespace StoreBridge

namespace Instant

/-- Milliseconds of a day. -/
def dayMillis : Int := 86400000

/-- The largest instant of the year 9999. -/
def lastFourDigitMillis : Int := 253402300799999

/-- A fraction of a second in milliseconds without trailing zeros. -/
def millisText (millis : Nat) : List Char :=
  if millis = 0 then []
  else '.' :: dropEndWhile (· == '0') (natDigitsPadded 3 millis)

/-- An instant in UTC. -/
def text (millis : Int) : List Char :=
  let days := millis.fdiv dayMillis
  let rest := (millis - days * dayMillis).toNat
  (Date.ofDays days).text ++ 'T' :: clockText (rest / 1000) ++ millisText (rest % 1000) ++ ['Z']

/-- Exactly `n` digits in front of a text. -/
def readDigits? (n : Nat) (cs : List Char) : Option (Nat × List Char) :=
  let ds := cs.take n
  (if ds.length = n then natOfText? ds else none).map fun k => (k, cs.drop n)

/-- One character in front of a text. -/
def expect? (c : Char) : List Char → Option (List Char)
  | d :: rest => if d = c then some rest else none
  | [] => none

/-- A fraction of a second in nanoseconds; further digits are left out. -/
def readFraction? : List Char → Option (Nat × List Char)
  | '.' :: rest =>
    let ds := rest.takeWhile isDigit
    if ds = [] then none
    else
      let nine := (ds ++ List.replicate 9 '0').take 9
      some (natOfDigits nine, rest.dropWhile isDigit)
  | rest => some (0, rest)

/-- The offset from UTC in seconds, at the end of a text. -/
def readOffset? : List Char → Option Int
  | ['Z'] => some 0
  | ['z'] => some 0
  | sign :: rest => do
    let (hours, rest) ← readDigits? 2 rest
    let (minutes, rest) ← readDigits? 2 (← expect? ':' rest)
    let seconds : Int := ((hours * 60 + minutes) * 60 : Nat)
    if rest ≠ [] ∨ 23 < hours ∨ 59 < minutes then none
    else if sign = '+' then return seconds
    else if sign = '-' then return -seconds
    else none
  | [] => none

/-- Whether seconds since 1970 are the last second of the last day of a month. -/
def endsMonth (seconds : Int) : Bool :=
  let d := Date.ofDays (seconds.fdiv 86400)
  seconds.fmod 86400 == 86399 && d.day == Date.monthLength d.year d.month

/-- Reads an instant and cuts it to milliseconds. A leap second counts as the end of the second
before it and may only stand at the end of a month in UTC. -/
def parse? (cs : List Char) : Option Int := do
  let (year, cs) ← readDigits? 4 cs
  let (month, cs) ← readDigits? 2 (← expect? '-' cs)
  let (day, cs) ← readDigits? 2 (← expect? '-' cs)
  -- Any character may stand between the date and the time.
  let (hour, cs) ← readDigits? 2 (cs.drop 1)
  let (minute, cs) ← readDigits? 2 (← expect? ':' cs)
  let (second, cs) ← readDigits? 2 (← expect? ':' cs)
  let (nanos, cs) ← readFraction? cs
  let offset ← readOffset? cs
  let date : Date := ⟨year, month, day⟩
  if !date.isValid ∨ 23 < hour ∨ 59 < minute ∨ 60 < second then none
  else
    -- A leap second counts as the second before it, with all its nanoseconds over.
    let leap := second = 60
    let second := if leap then 59 else second
    let seconds := date.toDays * 86400 + ((hour * 60 + minute) * 60 + second : Nat) - offset
    if leap ∧ !endsMonth seconds then none
    else
      let nanos : Int := (if leap then 999999999 else nanos : Nat)
      return Int.tdiv (seconds * 1000000000 + nanos) 1000000

end Instant

end StoreBridge
