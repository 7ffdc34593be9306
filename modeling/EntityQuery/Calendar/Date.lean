/-!
# Calendar dates

A date of the proleptic Gregorian calendar is kept as its day count from 1970-01-01. The supported
years are -262143 to 262142, and the bounds on the day are part of the type.

* `Date.ofDay?` takes the days in that range;
* `Date.civil` is year, month and day: an era of 400 years has 146097 days, and years are counted
  from March, so that the leap day is the last of its year;
* `Date.text` is `YYYY-MM-DD`, with a sign where the year does not have four digits.
-/

namespace EntityQuery

/-- The day of -262143-01-01. -/
def Date.firstDay : Int := -96465292

/-- The day of 262142-12-31. -/
def Date.lastDay : Int := 95026236

/-- A calendar date, as days from 1970-01-01. -/
structure Date where
  /-- days from 1970-01-01 -/
  day : Int
  /-- not before the first supported day -/
  firstDay_le : Date.firstDay ≤ day
  /-- not after the last supported day -/
  le_lastDay : day ≤ Date.lastDay
  deriving DecidableEq, Repr

namespace Date

/-- The date of a day count, if it is supported. -/
def ofDay? (day : Int) : Option Date :=
  if h : firstDay ≤ day ∧ day ≤ lastDay then some ⟨day, h.1, h.2⟩ else none

/-- Year, month and day of the month. -/
structure Civil where
  /-- the year; 0 is the year before 1 -/
  year : Int
  /-- the month, from 1 -/
  month : Nat
  /-- the day of the month, from 1 -/
  day : Nat
  deriving DecidableEq, Repr

/-- The civil date of a day count. -/
def civil (d : Date) : Civil :=
  -- days from 0000-03-01
  let days := d.day + 719468
  let era := days / 146097
  let dayOfEra := (days % 146097).toNat
  let yearOfEra := (dayOfEra - dayOfEra / 1460 + dayOfEra / 36524 - dayOfEra / 146096) / 365
  let dayOfYear := dayOfEra - (365 * yearOfEra + yearOfEra / 4 - yearOfEra / 100)
  -- months from March
  let shifted := (5 * dayOfYear + 2) / 153
  let month := if shifted < 10 then shifted + 3 else shifted - 9
  { year := era * 400 + yearOfEra + (if month ≤ 2 then 1 else 0)
    month := month
    day := dayOfYear - (153 * shifted + 2) / 5 + 1 }

/-- `n` in decimal with at least `width` digits. -/
def padded (width n : Nat) : String :=
  let digits := Nat.toDigits 10 n
  String.ofList (List.replicate (width - digits.length) '0' ++ digits)

/-- `YYYY-MM-DD`; a year outside 0 to 9999 has a sign and at least four digits. -/
def text (d : Date) : String :=
  let c := d.civil
  let sign := if c.year < 0 then "-" else if 9999 < c.year then "+" else ""
  sign ++ padded 4 c.year.natAbs ++ "-" ++ padded 2 c.month ++ "-" ++ padded 2 c.day

@[simp] theorem ofDay?_day (d : Date) : ofDay? d.day = some d := by
  simp [ofDay?, d.firstDay_le, d.le_lastDay]

/-- Exactly the days between the bounds are dates. -/
theorem ofDay?_eq_some_iff {day : Int} {d : Date} : ofDay? day = some d ↔ d.day = day := by
  constructor
  · intro h
    unfold ofDay? at h
    split at h
    · exact (Option.some.inj h) ▸ rfl
    · simp at h
  · rintro rfl
    exact ofDay?_day d

end Date

end EntityQuery
