/-!
# Time stamps

Every log line starts with the time it was written: the UTC date and time to the microsecond,
as `2024-02-29T08:30:00.123456Z`, then a space. The time is given in nanoseconds since the
Unix epoch, 1970-01-01 at midnight UTC.

Dates follow the proleptic Gregorian calendar. Days are counted in eras of 400 years, which
all have the same 146097 days, from 0000-03-01, so that the leap day is the last of its
year: the year, its day and the month then come from a few divisions.
-/

set_option autoImplicit false

namespace PathHierarchy.Log

/-- A number in decimal, padded with zeros to at least `width` digits. -/
def padded (width n : Nat) : String :=
  let digits := toString n
  String.ofList (List.replicate (width - digits.length) '0') ++ digits

/-- The date of the day `days` days after 1970-01-01: its year, month and day of month. -/
def civilDate (days : Nat) : Nat × Nat × Nat :=
  let shifted := days + 719468
  let era := shifted / 146097
  let dayOfEra := shifted % 146097
  let yearOfEra := (dayOfEra - dayOfEra / 1460 + dayOfEra / 36524 - dayOfEra / 146096) / 365
  let dayOfYear := dayOfEra - (365 * yearOfEra + yearOfEra / 4 - yearOfEra / 100)
  let shiftedMonth := (5 * dayOfYear + 2) / 153
  let day := dayOfYear - (153 * shiftedMonth + 2) / 5 + 1
  let month := if shiftedMonth < 10 then shiftedMonth + 3 else shiftedMonth - 9
  let year := era * 400 + yearOfEra + if month ≤ 2 then 1 else 0
  (year, month, day)

/-- The stamp of a log line written `nanos` nanoseconds after the Unix epoch. -/
def stamp (nanos : Nat) : String :=
  let seconds := nanos / 1000000000
  let micros := nanos % 1000000000 / 1000
  let (year, month, day) := civilDate (seconds / 86400)
  let time := seconds % 86400
  padded 4 year ++ "-" ++ padded 2 month ++ "-" ++ padded 2 day ++ "T" ++
    padded 2 (time / 3600) ++ ":" ++ padded 2 (time % 3600 / 60) ++ ":" ++ padded 2 (time % 60) ++
    "." ++ padded 6 micros ++ "Z"

example : stamp 0 = "1970-01-01T00:00:00.000000Z" := by decide
example : civilDate 11017 = (2000, 3, 1) ∧ civilDate 19782 = (2024, 2, 29) ∧
    civilDate 10956 = (1999, 12, 31) := by decide
example : stamp 1709194200123456789 = "2024-02-29T08:10:00.123456Z" := by decide

end PathHierarchy.Log
