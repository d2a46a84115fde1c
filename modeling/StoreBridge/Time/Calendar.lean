import StoreBridge.Number.Digits

/-!
# Dates and times of day

Dates of the Gregorian calendar, extended to all years, as days since 1970-01-01, and times of day
as seconds since midnight.
-/

namespace StoreBridge

/-- A calendar date. -/
structure Date where
  year : Int
  month : Nat
  day : Nat
  deriving DecidableEq, Repr

namespace Date

def isLeap (year : Int) : Bool :=
  (year % 4 == 0 && year % 100 != 0) || year % 400 == 0

/-- The number of days of a month. -/
def monthLength (year : Int) (month : Nat) : Nat :=
  if month = 2 then (if isLeap year then 29 else 28)
  else if month = 4 ∨ month = 6 ∨ month = 9 ∨ month = 11 then 30
  else 31

/-- Whether the month and the day exist. -/
def isValid (d : Date) : Bool :=
  1 ≤ d.month && d.month ≤ 12 && 1 ≤ d.day && d.day ≤ monthLength d.year d.month

/-- Days since 1970-01-01. Years are counted from March, so that the leap day comes last, in eras of
400 years. -/
def toDays (d : Date) : Int :=
  let year : Int := if d.month ≤ 2 then d.year - 1 else d.year
  let era := year.fdiv 400
  let yearOfEra := year - era * 400
  let month : Int := ((d.month + 9) % 12 : Nat)
  let dayOfYear := (153 * month + 2) / 5 + d.day - 1
  let dayOfEra := yearOfEra * 365 + yearOfEra / 4 - yearOfEra / 100 + dayOfYear
  era * 146097 + dayOfEra - 719468

/-- The date that is so many days after 1970-01-01. -/
def ofDays (days : Int) : Date :=
  let n := days + 719468
  let era := n.fdiv 146097
  let dayOfEra := n - era * 146097
  let yearOfEra := (dayOfEra - dayOfEra / 1460 + dayOfEra / 36524 - dayOfEra / 146096) / 365
  let dayOfYear := dayOfEra - (365 * yearOfEra + yearOfEra / 4 - yearOfEra / 100)
  let m := (5 * dayOfYear + 2) / 153
  let day := (dayOfYear - (153 * m + 2) / 5 + 1).toNat
  let month := if m < 10 then (m + 3).toNat else (m - 9).toNat
  let year := yearOfEra + era * 400
  ⟨if month ≤ 2 then year + 1 else year, month, day⟩

/-- A year of at least four digits; one outside the four digits has a sign. -/
def yearText (year : Int) : List Char :=
  if 0 ≤ year ∧ year ≤ 9999 then natDigitsPadded 4 year.toNat
  else (if year < 0 then '-' else '+') :: natDigitsPadded 4 year.natAbs

/-- Year, month and day with hyphens. -/
def text (d : Date) : List Char :=
  yearText d.year ++ '-' :: natDigitsPadded 2 d.month ++ '-' :: natDigitsPadded 2 d.day

end Date

/-- Hours, minutes and seconds with colons, for seconds since midnight. -/
def clockText (seconds : Nat) : List Char :=
  natDigitsPadded 2 (seconds / 3600) ++ ':' :: natDigitsPadded 2 (seconds / 60 % 60) ++
    ':' :: natDigitsPadded 2 (seconds % 60)

end StoreBridge
