import Cleave.Text.Basic

/-!
# Points in time

The time of a report is written as a date and a time of day in universal time.
-/

namespace Cleave.Command

/-- Year, month and day of a number of days since the first of March of year 0. Leap days end their year, so the
months before have fixed lengths. -/
def dateOf (days : Nat) : Nat × Nat × Nat :=
  let era := days / 146097
  let dayOfEra := days % 146097
  let yearOfEra := (dayOfEra - dayOfEra / 1460 + dayOfEra / 36524 - dayOfEra / 146096) / 365
  let dayOfYear := dayOfEra - (365 * yearOfEra + yearOfEra / 4 - yearOfEra / 100)
  let shifted := (5 * dayOfYear + 2) / 153
  let month := if shifted < 10 then shifted + 3 else shifted - 9
  let year := era * 400 + yearOfEra + if month ≤ 2 then 1 else 0
  (year, month, dayOfYear - (153 * shifted + 2) / 5 + 1)

/-- A number with at least `width` digits. -/
def padded (width n : Nat) : Text :=
  let digits := Text.ofNat n
  List.replicate (width - digits.length) '0' ++ digits

/-- A fraction of a second in billionths, with three, six or nine digits, or none at all. -/
def fraction (nanos : Nat) : Text :=
  if nanos = 0 then []
  else if nanos % 1000000 = 0 then '.' :: padded 3 (nanos / 1000000)
  else if nanos % 1000 = 0 then '.' :: padded 6 (nanos / 1000)
  else '.' :: padded 9 nanos

/-- The text of a point in time, given in billionths of a second since the beginning of 1970. -/
def timeText (nanos : Nat) : Text :=
  let seconds := nanos / 1000000000
  let (year, month, day) := dateOf (seconds / 86400 + 719468)
  let ofDay := seconds % 86400
  padded 4 year ++ ['-'] ++ padded 2 month ++ ['-'] ++ padded 2 day ++ ['T'] ++
    padded 2 (ofDay / 3600) ++ [':'] ++ padded 2 (ofDay / 60 % 60) ++ [':'] ++ padded 2 (ofDay % 60) ++
    fraction (nanos % 1000000000) ++ ['Z']

end Cleave.Command
