import PipelinesOperator.Double
import PipelinesOperator.Text.Character

/-!
# Numbers in texts

How the configuration writes numbers.  An integer is a run of digits; a double has digits on
one side of a point at least, and perhaps an exponent, or is one of a few words in any case.
-/

namespace PipelinesOperator

namespace Text

/-- The value of a digit in a base up to sixteen. -/
def digitIn? (base : Nat) (c : Char) : Option Nat := (hexDigit? c).filter (· < base)

/-- The natural of a run of digits, which has to be there. -/
def natural? (base : Nat) (cs : List Char) : Option Nat :=
  if cs.isEmpty then none else (cs.mapM (digitIn? base)).map (ofDigits base)

end Text

namespace Double

/-- The exponent of ten at the end of a text, zero if the text is empty. -/
def exponent? : List Char → Option Int
  | [] => some 0
  | e :: rest =>
    if e = 'e' ∨ e = 'E' then
      match rest with
      | '-' :: digits => (Text.natural? 10 digits).map fun n => -(n : Int)
      | '+' :: digits => (Text.natural? 10 digits).map fun n => (n : Int)
      | digits => (Text.natural? 10 digits).map fun n => (n : Int)
    else none

/-- The double that digits, a point and an exponent write. -/
def decimal? (negative : Bool) (cs : List Char) : Option Double :=
  let whole := cs.takeWhile Char.isDigit
  let rest := cs.dropWhile Char.isDigit
  let (fraction, rest) := match rest with
    | '.' :: rest => (rest.takeWhile Char.isDigit, rest.dropWhile Char.isDigit)
    | rest => ([], rest)
  let digits := (whole ++ fraction).filterMap Text.digit?
  if digits.isEmpty then none
  else (exponent? rest).map fun e =>
    ofDecimal negative (Text.ofDigits 10 digits) (e - fraction.length)

/-- The double without a sign that a text writes. -/
def unsigned? (negative : Bool) (cs : List Char) : Option Double :=
  let word := cs.map Char.toLower
  if word = ['i', 'n', 'f'] ∨ word = ['i', 'n', 'f', 'i', 'n', 'i', 't', 'y'] then
    some (.infinite negative)
  else if word = ['n', 'a', 'n'] then some .nan
  else decimal? negative cs

/-- The double that a text writes. -/
def ofText? : List Char → Option Double
  | '-' :: cs => unsigned? true cs
  | '+' :: cs => unsigned? false cs
  | cs => unsigned? false cs

end Double

end PipelinesOperator
