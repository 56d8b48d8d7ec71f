import Krb5TokenService.Python.Text

/-! `datetime.fromtimestamp(seconds, tz=UTC).isoformat()` for whole seconds.
The calendar is the proleptic Gregorian one, counted from 1 March of year 0. -/
namespace Python.Datetime

structure Date where
  year : ℤ
  month : ℤ
  day : ℤ
deriving DecidableEq

/-- The date a number of days after 1 January 1970. Years of the count start
in March, so that the leap day comes last. -/
def Date.ofDays (days : ℤ) : Date :=
  let z := days + 719468
  let era := z / 146097
  let dayOfEra := z % 146097
  let yearOfEra :=
    (dayOfEra - dayOfEra / 1460 + dayOfEra / 36524 - dayOfEra / 146096) / 365
  let dayOfYear := dayOfEra - (365 * yearOfEra + yearOfEra / 4 - yearOfEra / 100)
  let shifted := (5 * dayOfYear + 2) / 153
  let month := if shifted < 10 then shifted + 3 else shifted - 9
  { year := yearOfEra + era * 400 + (if month ≤ 2 then 1 else 0)
    month := month
    day := dayOfYear - (153 * shifted + 2) / 5 + 1 }

/-- A number with leading zeros. -/
def padded (width : Nat) (n : ℤ) : PyStr :=
  let digits := py (toString n)
  py (String.ofList (List.replicate (width - digits.length) '0')) ++ digits

def isoformat (seconds : ℤ) : PyStr :=
  let date := Date.ofDays (seconds / 86400)
  let time := seconds % 86400
  padded 4 date.year ++ py "-" ++ padded 2 date.month ++ py "-" ++ padded 2 date.day ++
    py "T" ++ padded 2 (time / 3600) ++ py ":" ++ padded 2 (time % 3600 / 60) ++
    py ":" ++ padded 2 (time % 60) ++ py "+00:00"

example : isoformat 1709210096 = py "2024-02-29T12:34:56+00:00" := by decide

example : Date.ofDays (-1) = ⟨1969, 12, 31⟩ := by decide

end Python.Datetime
