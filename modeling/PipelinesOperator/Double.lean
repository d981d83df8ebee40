/-!
# Doubles

A double is a finite number `± significand · 2 ^ exponent`, an infinity or the
number that is none.  `Double.round` gives the double nearest to a quotient of
naturals, a tie going to the even significand, and `Double.shortest` gives the
shortest decimal that rounds back, the nearest of those when there are two.

Both are exact: they compare natural numbers, and no floating operation of the
machine is used.
-/

namespace PipelinesOperator

/-- A double.  A finite one has a significand below `2 ^ 53`, which is at least
`2 ^ 52` unless the exponent is the least, `-1074`. -/
inductive Double where
  | finite (negative : Bool) (significand : Nat) (exponent : Int)
  | infinite (negative : Bool)
  | nan
  deriving DecidableEq, Repr, Inhabited

namespace Double

/-- The zero of either sign. -/
def zero (negative : Bool) : Double := .finite negative 0 (-1074)

/-- The quotient rounded to the nearest natural, a tie to the even one. -/
def roundQuotient (num den : Nat) : Nat :=
  let q := num / den
  let twice := 2 * (num % den)
  if twice < den then q
  else if den < twice then q + 1
  else if q % 2 = 0 then q else q + 1

/-- `num / den` scaled by a power of two, as a fraction. -/
def scale (num den : Nat) (power : Int) : Nat × Nat :=
  if 0 ≤ power then (num <<< power.toNat, den) else (num, den <<< (-power).toNat)

/-- The double nearest to `num / den`. -/
def round (negative : Bool) (num den : Nat) : Double :=
  if num = 0 then zero negative
  else
    let guess : Int := (Nat.log2 num : Int) - (Nat.log2 den : Int) - 52
    let scaled := scale num den (-guess)
    let fitted := if scaled.1 < scaled.2 <<< 52 then guess - 1 else guess
    let exponent := max fitted (-1074)
    let (n, d) := scale num den (-exponent)
    let m := roundQuotient n d
    let (m, exponent) := if m = 1 <<< 53 then (1 <<< 52, exponent + 1) else (m, exponent)
    if 971 < exponent then .infinite negative else .finite negative m exponent

/-- The double nearest to `significand · 10 ^ power`.  Powers far outside the
range of doubles are cut down first, which does not change the result: a
significand of `n` digits over `10 ^ (n + 400)` is zero and over `10 ^ -400` is
infinite. -/
def ofDecimal (negative : Bool) (significand : Nat) (power : Int) : Double :=
  if significand = 0 then zero negative
  else if 400 < power then .infinite negative
  else
    let size : Int := Nat.log2 significand
    if power < -(size + 400) then zero negative
    else if 0 ≤ power then round negative (significand * Nat.pow 10 power.toNat) 1
    else round negative significand (Nat.pow 10 (-power).toNat)

/-- Whether the value is a finite number. -/
def isFinite : Double → Bool
  | .finite .. => true
  | _ => false

/-- The same double with the other sign. -/
def neg : Double → Double
  | .finite s m q => .finite (!s) m q
  | .infinite s => .infinite (!s)
  | .nan => .nan

/-- The value as a fraction of naturals, the sign apart. -/
def fraction (significand : Nat) (exponent : Int) : Nat × Nat := scale significand 1 exponent

/-- The product of two finite doubles, rounded once. -/
def mul : Double → Double → Double
  | .finite s m q, .finite s' m' q' =>
    let (n, d) := fraction (m * m') (q + q')
    round (s != s') n d
  | a, _ => a

/-- The quotient of two finite doubles, the second not zero, rounded once. -/
def div : Double → Double → Double
  | .finite s m q, .finite s' m' q' =>
    let (n, d) := scale m m' (q - q')
    round (s != s') n d
  | a, _ => a

/-- Whether the double is a zero of either sign. -/
def isZero : Double → Bool
  | .finite _ m _ => m = 0
  | _ => false

/-- How many decimal digits a natural has; zero has none. -/
def digitCount (n : Nat) : Nat :=
  if n = 0 then 0 else
    let guess := Nat.log2 n * 1233 / 4096
    if Nat.pow 10 (guess + 1) ≤ n then guess + 2
    else if Nat.pow 10 guess ≤ n then guess + 1
    else guess

/-- A decimal `digits · 10 ^ power`. -/
structure Decimal where
  digits : Nat
  power : Int
  deriving DecidableEq, Repr

/-- The number `e` with `10 ^ (e - 1) ≤ num / den < 10 ^ e`. -/
def decimalExponent (num den : Nat) : Int :=
  if den ≤ num then digitCount (num / den)
  else
    -- below one: the quotient `den / num` is above `10 ^ (k - 1)` and at most `10 ^ k`
    let k := digitCount ((den - 1) / num)
    1 - (k : Int)

/-- One grid of decimals: the point below `num / den` and the point above it are
tried, and the nearer of those inside the bounds `[low / scale, high / scale]`
is kept. -/
def nearestOnGrid (value low high : Nat × Nat) (closed : Bool) (power : Int) : Option Nat :=
  let (num, den) := if 0 ≤ power then (value.1, value.2 * Nat.pow 10 power.toNat)
    else (value.1 * Nat.pow 10 (-power).toNat, value.2)
  -- The point below the value and the one above it are the only ones that can be nearest.
  let below := num / den
  let compare (bound : Nat × Nat) (point : Nat) : Ordering :=
    let (n, d) := if 0 ≤ power then (bound.1, bound.2 * Nat.pow 10 power.toNat)
      else (bound.1 * Nat.pow 10 (-power).toNat, bound.2)
    Ord.compare (point * d) n
  let inside (point : Nat) : Bool :=
    point != 0 &&
    (match compare low point with | .gt => true | .eq => closed | .lt => false) &&
    (match compare high point with | .lt => true | .eq => closed | .gt => false)
  let rest := num % den
  match inside below, inside (below + 1) with
  -- Both are inside: the nearer one, and of two as near the even one.
  | true, true =>
    if 2 * rest < den then some below
    else if den < 2 * rest then some (below + 1)
    else if below % 2 = 0 then some below else some (below + 1)
  | true, false => some below
  | false, true => some (below + 1)
  | false, false => none

/-- The shortest decimal that rounds back to `significand · 2 ^ exponent`. -/
def shortest (significand : Nat) (exponent : Int) : Decimal :=
  -- the value and its two bounds, all times four so that the bounds are whole
  let value := scale (4 * significand) 4 exponent
  let lowStep := if significand = 1 <<< 52 ∧ -1074 < exponent then 1 else 2
  let low := scale (4 * significand - lowStep) 4 exponent
  let high := scale (4 * significand + 2) 4 exponent
  let closed := significand % 2 == 0
  let e := decimalExponent value.1 value.2
  let tries := (List.range 17).findSome? fun n =>
    let power := e - (n + 1 : Nat)
    (nearestOnGrid value low high closed power).map fun k => (⟨k, power⟩ : Decimal)
  tries.getD ⟨0, 0⟩

/-- A natural without its trailing zeros, and how many there were. -/
def stripZeros : Nat → Nat → Nat × Nat
  | 0, n => (n, 0)
  | fuel + 1, n =>
    if n ≠ 0 ∧ n % 10 = 0 then
      let (m, k) := stripZeros fuel (n / 10)
      (m, k + 1)
    else (n, 0)

/-- The decimal with no trailing zero among its digits. -/
def Decimal.normal (d : Decimal) : Decimal :=
  let (m, k) := stripZeros 20 d.digits
  ⟨m, d.power + k⟩

/-- A decimal in positional notation: the digits with the point in their midst,
zeros filled in on either side. -/
def Decimal.positional (d : Decimal) : String :=
  let text := toString d.digits
  let point : Int := text.length + d.power
  let zeros (n : Nat) : String := String.ofList (List.replicate n '0')
  if 0 ≤ d.power then text ++ zeros d.power.toNat
  else if 0 < point then
    String.ofList (text.toList.take point.toNat) ++ "." ++ String.ofList (text.toList.drop point.toNat)
  else "0." ++ zeros (-point).toNat ++ text

/-- A decimal in scientific notation: one digit, the others behind the point,
and the exponent with its sign. -/
def Decimal.scientific (d : Decimal) : String :=
  let text := toString d.digits
  let exponent : Int := text.length + d.power - 1
  let head := String.ofList (text.toList.take 1)
  let tail := text.toList.drop 1
  let sign := if exponent < 0 then "e-" else "e+"
  head ++ (if tail.isEmpty then "" else "." ++ String.ofList tail) ++ sign ++ toString exponent.natAbs

/-- The sign as written. -/
def sign (negative : Bool) : String := if negative then "-" else ""

/-- The plain text: positional notation whatever the size, whole numbers without
a point. -/
def plain : Double → String
  | .finite s m q =>
    if m = 0 then sign s ++ "0" else sign s ++ (shortest m q).normal.positional
  | .infinite s => sign s ++ "inf"
  | .nan => "NaN"

/-- The positional text with a point in it, if the number is finite. -/
def pointed : Double → String
  | .finite s m q =>
    let text := plain (.finite s m q)
    if text.toList.contains '.' then text else text ++ ".0"
  | d => d.plain

/-- The text in a JSON document: positional while the point stands at most
sixteen places right of the first digit or five zeros left of it, scientific
otherwise.  JSON has no infinity and no NaN. -/
def json : Double → String
  | .finite s m q =>
    if m = 0 then sign s ++ "0.0"
    else
      let d := (shortest m q).normal
      let point : Int := (toString d.digits).length + d.power
      if -5 < point ∧ point ≤ 16 then
        let text := d.positional
        sign s ++ (if text.toList.contains '.' then text else text ++ ".0")
      else sign s ++ d.scientific
  | _ => "null"

end Double

end PipelinesOperator
