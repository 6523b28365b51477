import SnippetProfiler.Decimal.Text

/-!
# Moments

A moment is a number of milliseconds since the beginning of the year 1970.  `momentText` writes
its date and time of day in universal time.
-/

namespace SnippetProfiler.Calendar

/-- A date. -/
structure Date where
  year : Int
  month : Nat
  day : Nat
  deriving DecidableEq, Repr

/-- The days of four centuries. -/
def eraDays : Nat := 146097

/-- The days from the first of March of the year 0 to the first of January 1970. -/
def epochDays : Int := 719468

/-- The date of a day, counted from the first of January 1970.  Years begin in March here, so
that a leap day is the last day of its year; months of 31, 30, 31, 30 and 31 days come again
and again. -/
def dateOfDay (n : Int) : Date :=
  let days := n + epochDays
  let day := (days % eraDays).toNat
  let year := (day - day / 1460 + day / 36524 - day / 146096) / 365
  let day := day - (365 * year + year / 4 - year / 100)
  let month := (5 * day + 2) / 153
  let later := 10 ≤ month
  { year := 400 * (days / eraDays) + year + (if later then 1 else 0)
    month := if later then month - 9 else month + 3
    day := day - (153 * month + 2) / 5 + 1 }

/-- A number with at least `width` digits. -/
def padded (width n : Nat) : String :=
  let digits := Nat.toDigits 10 n
  .ofList (List.replicate (width - digits.length) '0' ++ digits)

/-- A year: with a sign and six digits unless four digits are enough. -/
def yearText (year : Int) : String :=
  if 0 ≤ year && year ≤ 9999 then padded 4 year.toNat
  else (if year < 0 then "-" else "+") ++ padded 6 year.natAbs

/-- The milliseconds of a day. -/
def dayLength : Int := 86400000

/-- The most milliseconds that a moment is away from the beginning of the year 1970. -/
def reach : Int := 100000000 * dayLength

/-- A moment as a text. -/
def momentText (ms : Int) : String :=
  let date := dateOfDay (ms / dayLength)
  let time := (ms % dayLength).toNat
  yearText date.year ++ "-" ++ padded 2 date.month ++ "-" ++ padded 2 date.day ++ "T"
    ++ padded 2 (time / 3600000) ++ ":" ++ padded 2 (time / 60000 % 60) ++ ":"
    ++ padded 2 (time / 1000 % 60) ++ "." ++ padded 3 (time % 1000) ++ "Z"

example : momentText 0 = "1970-01-01T00:00:00.000Z" := by cbv

example : momentText (-1) = "1969-12-31T23:59:59.999Z" := by cbv

example : momentText 951782400000 = "2000-02-29T00:00:00.000Z" := by cbv

end SnippetProfiler.Calendar
