import PipelinesOperator.Text.Character
import PipelinesOperator.Timestamp.Basic

/-!
# The text of a timestamp

A timestamp is written as `YYYY-MM-DDThh:mm:ss`, a fraction of three, six or nine digits if
there is one, and `Z`.  Reading is more generous: numbers may be short, blanks may stand
between the parts, and any offset from universal time may be given in place of `Z`.
-/

namespace PipelinesOperator.Timestamp

/-- A natural with at least `width` digits. -/
def padded (width n : Nat) : List Char :=
  let ds := Nat.toDigits 10 n
  List.replicate (width - ds.length) '0' ++ ds

/-- A year: four digits, with a sign when these do not hold it. -/
def yearText (year : Int) : List Char :=
  if 0 ≤ year ∧ year ≤ 9999 then padded 4 year.toNat
  else (if year < 0 then '-' else '+') :: padded 4 year.natAbs

/-- The day and the time up to the second. -/
def secondsText (t : Timestamp) : List Char :=
  yearText t.date.year ++ '-' :: padded 2 t.date.month ++ '-' :: padded 2 t.date.day ++
    'T' :: padded 2 t.clock.hour ++ ':' :: padded 2 t.clock.minute ++
    ':' :: padded 2 t.clock.second

/-- The fraction of a second, in the fewest of no, three, six and nine digits. -/
def fractionText (nanosecond : Nat) : List Char :=
  if nanosecond = 0 then []
  else if nanosecond % 1000000 = 0 then '.' :: padded 3 (nanosecond / 1000000)
  else if nanosecond % 1000 = 0 then '.' :: padded 6 (nanosecond / 1000)
  else '.' :: padded 9 nanosecond

/-- The text of a timestamp. -/
def text (t : Timestamp) : List Char := secondsText t ++ fractionText t.clock.nanosecond ++ ['Z']

/-- The text of a timestamp without its fraction. -/
def wholeText (t : Timestamp) : List Char := secondsText t ++ ['Z']

/-- Why a text is no timestamp. -/
inductive Fault where
  | premature
  | invalid
  | outOfRange
  | impossible
  | trailing
  deriving DecidableEq, Repr

/-- The wording of a fault. -/
def Fault.message : Fault → String
  | .premature => "premature end of input"
  | .invalid => "input contains invalid characters"
  | .outOfRange => "input is out of range"
  | .impossible => "no possible date and time matching input"
  | .trailing => "trailing input"

/-- The text behind its leading blanks. -/
def skipBlanks (cs : List Char) : List Char := cs.dropWhile Text.isBlank

/-- The leading digits, at most `width` of them if there is a width. -/
def leadingDigits (width : Option Nat) (cs : List Char) : List Char :=
  match width with
  | none => cs.takeWhile Char.isDigit
  | some w => (cs.take w).takeWhile Char.isDigit

/-- The number that digits write. -/
def valueOf (ds : List Char) : Nat := Text.ofDigits 10 (ds.filterMap Text.digit?)

/-- Reads a number. -/
def number (width : Option Nat) (cs : List Char) : Except Fault (Nat × List Char) :=
  let ds := leadingDigits width cs
  if cs.isEmpty then .error .premature
  else if ds.isEmpty then .error .invalid
  else .ok (valueOf ds, cs.drop ds.length)

/-- Reads a number of at most two digits behind any blanks, between two bounds. -/
def twoDigits (least greatest : Nat) (cs : List Char) : Except Fault (Nat × List Char) := do
  let (n, rest) ← number (some 2) (skipBlanks cs)
  if least ≤ n ∧ n ≤ greatest then .ok (n, rest) else .error .outOfRange

/-- Reads a year behind any blanks: of at most four digits, or with a sign of any length. -/
def year (cs : List Char) : Except Fault (Int × List Char) := do
  let (n, rest) ← match skipBlanks cs with
    | '-' :: rest => (number none rest).map fun (n, rest) => (-(n : Int), rest)
    | '+' :: rest => (number none rest).map fun (n, rest) => ((n : Int), rest)
    | rest => (number (some 4) rest).map fun (n, rest) => ((n : Int), rest)
  if -2147483648 ≤ n ∧ n ≤ 2147483647 then .ok (n, rest) else .error .outOfRange

/-- Reads one character behind any blanks. -/
def literal (c : Char) (cs : List Char) : Except Fault (List Char) :=
  match skipBlanks cs with
  | [] => .error .premature
  | d :: rest => if d = c then .ok rest else .error .invalid

/-- Reads a fraction of a second; digits behind the ninth are cut. -/
def fraction (cs : List Char) : Except Fault (Nat × List Char) :=
  match cs with
  | '.' :: rest =>
    let ds := leadingDigits (some 9) rest
    if rest.isEmpty then .error .premature
    else if ds.isEmpty then .error .invalid
    else .ok (valueOf ds * Nat.pow 10 (9 - ds.length), rest.dropWhile Char.isDigit)
  | _ => .ok (0, cs)

/-- The two digits that stand next. -/
def digitPair (cs : List Char) : Except Fault ((Nat × Nat) × List Char) :=
  match cs with
  | [] => .error .premature
  | [c] => .error (if c.utf8Size < 2 then .premature else .invalid)
  | a :: b :: rest =>
    match Text.digit? a, Text.digit? b with
    | some a, some b => .ok ((a, b), rest)
    | _, _ => .error .invalid

/-- Reads an offset from universal time, in minutes to the east. -/
def offset (cs : List Char) : Except Fault (Int × List Char) :=
  match cs with
  | [] => .error .premature
  | c :: rest =>
    if c = 'Z' ∨ c = 'z' then .ok (0, rest)
    else if c = '+' ∨ c = '-' ∨ c = '\u2212' then do
      let ((h, h'), rest) ← digitPair rest
      let rest := rest.dropWhile fun c => c = ':' ∨ Text.isBlank c
      let ((m, m'), rest) ← digitPair rest
      if 5 < m then .error .outOfRange
      else
        let minutes : Int := (h * 10 + h') * 60 + (m * 10 + m')
        .ok (if c = '+' then minutes else -minutes, rest)
    else .error .invalid

/-- Reads the name of universal time or an offset from it. -/
def zone (cs : List Char) : Except Fault (Int × List Char) :=
  match cs with
  | u :: t :: c :: rest =>
    if u.toUpper = 'U' ∧ t.toUpper = 'T' ∧ c.toUpper = 'C' then .ok (0, rest) else offset cs
  | _ => offset cs

/-- The moment at which a clock so many minutes to the east shows a day and a time. -/
def atOffset (date : Date) (clock : Clock) (east : Int) : Except Fault Timestamp :=
  if ¬ date.Valid then .error .outOfRange
  else if 1440 ≤ east.natAbs then .error .outOfRange
  else
    let minutes : Int := (clock.hour * 60 + clock.minute : Nat) - east
    let (date, minutes) :=
      if minutes < 0 then (date.previous, minutes + 1440)
      else if 1440 ≤ minutes then (date.next, minutes - 1440)
      else (date, minutes)
    let clock := { clock with hour := minutes.toNat / 60, minute := minutes.toNat % 60 }
    match of? date clock with
    | some t => .ok t
    | none => .error .impossible

/-- Reads a timestamp. -/
def read (cs : List Char) : Except Fault Timestamp := do
  let (y, cs) ← year cs
  let (month, cs) ← twoDigits 1 12 (← literal '-' cs)
  let (day, cs) ← twoDigits 1 31 (← literal '-' cs)
  let cs ← match cs with
    | [] => .error .premature
    | c :: rest => if c = 'T' ∨ c = 't' ∨ c = ' ' then .ok rest else .error .invalid
  let (hour, cs) ← twoDigits 0 23 cs
  let (minute, cs) ← twoDigits 0 59 (← literal ':' cs)
  let (second, cs) ← twoDigits 0 60 (← literal ':' cs)
  let (nanosecond, cs) ← fraction cs
  let (east, cs) ← zone (skipBlanks cs)
  if ¬ (skipBlanks cs).isEmpty then .error .trailing
  else atOffset ⟨y, month, day⟩ ⟨hour, minute, second, nanosecond⟩ east

end PipelinesOperator.Timestamp
