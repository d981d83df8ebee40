import PipelinesOperator.Timestamp.Basic

/-!
# Counting from the epoch

Clocks count the seconds since the start of 1970.  Years are counted from March here, so
that the leap day is the last day of its year and the calendar repeats every 146097 days.
-/

namespace PipelinesOperator.Timestamp

/-- The day that comes some days after the first of January 1970. -/
def Date.ofEpoch (days : Nat) : Date :=
  let count := days + 719468
  let era := count / 146097
  let inEra := count % 146097
  let yearOfEra := (inEra - inEra / 1460 + inEra / 36524 - inEra / 146096) / 365
  let inYear := inEra - (365 * yearOfEra + yearOfEra / 4 - yearOfEra / 100)
  let fromMarch := (5 * inYear + 2) / 153
  let day := inYear - (153 * fromMarch + 2) / 5 + 1
  let month := if fromMarch < 10 then fromMarch + 3 else fromMarch - 9
  let year := yearOfEra + era * 400 + (if month ≤ 2 then 1 else 0)
  ⟨year, month, day⟩

/-- The moment that comes some seconds and nanoseconds after the start of 1970, if the
calendar reaches it. -/
def ofEpoch? (seconds nanoseconds : Nat) : Option Timestamp :=
  let inDay := seconds % 86400
  of? (.ofEpoch (seconds / 86400))
    ⟨inDay / 3600, inDay / 60 % 60, inDay % 60, nanoseconds⟩

end PipelinesOperator.Timestamp
