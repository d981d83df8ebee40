import PipelinesOperator.Document.Basic
import PipelinesOperator.JsonText.Cursor

/-!
# The numbers of a text

A number without fraction and exponent is an integer while it fits sixty-four bits.  Any
other is a double: the digits that fit sixty-four bits are kept, the number they make is
rounded, and the result is multiplied or divided by the double of the power of ten.  Each
step rounds, so a number of many digits may end one place beside the nearest double.
-/

namespace PipelinesOperator.JsonText

/-- The values of the digits that stand next. -/
def digits (cs : List Char) : List Nat := (cs.takeWhile Char.isDigit).filterMap Text.digit?

/-- The cursor behind the digits that stand next. -/
def Cursor.skipDigits (c : Cursor) : Cursor :=
  c.drop (c.rest.takeWhile Char.isDigit) (c.rest.dropWhile Char.isDigit)

/-- The greatest number of sixty-four bits without a sign. -/
def maxUnsigned : Nat := 18446744073709551615

/-- Appends digits to a number while it fits sixty-four bits; also says how many were left. -/
def keepDigits (value : Nat) : List Nat → Nat × Nat
  | [] => (value, 0)
  | d :: ds =>
    if value * 10 + d ≤ maxUnsigned then keepDigits (value * 10 + d) ds
    else (value, ds.length + 1)

/-- The double of a power of ten. -/
def powerOfTen (n : Nat) : Double := .ofDecimal false 1 n

/-- Brings a power of ten into the range of doubles, by division of the number while the
power is too small; three divisions leave zero. -/
def divideDown : Nat → Double → Int → Double × Int
  | 0, d, power => (d, power)
  | n + 1, d, power =>
    if power < -308 ∧ ¬ d.isZero then divideDown n (d.div (powerOfTen 308)) (power + 308)
    else (d, power)

/-- The double of a significand and a power of ten, if it is finite. -/
def ofParts (negative : Bool) (significand : Nat) (power : Int) : Option Double :=
  let (d, power) := divideDown 4 (.ofDecimal false significand 0) power
  let result :=
    if d.isZero then some d
    else if 308 < power then none
    else if 0 ≤ power then some (d.mul (powerOfTen power.toNat))
    else some (d.div (powerOfTen (-power).toNat))
  match result with
  | some d => if d.isFinite then some (if negative then d.neg else d) else none
  | none => none

/-- How many leading digits of an exponent make it exceed the greatest of thirty-two bits. -/
def exponentOverflow? (digits : List Nat) : Option Nat :=
  (List.range digits.length).findSome? fun n =>
    if 2147483647 < Text.ofDigits 10 (digits.take (n + 1)) then some (n + 1) else none

/-- A whole number clamped to thirty-two bits. -/
def clamp (n : Int) : Int := max (-2147483648) (min 2147483647 n)

/-- Reads an exponent behind its letter. -/
def exponent (negative : Bool) (significand : Nat) (power : Int) (c : Cursor) :
    Except Break (Numeral × Cursor) :=
  let (up, c) := match c.rest with
    | '+' :: rest => (true, (⟨c.index + 1, rest⟩ : Cursor))
    | '-' :: rest => (false, (⟨c.index + 1, rest⟩ : Cursor))
    | _ => (true, c)
  match c.rest with
  | [] => .error ⟨.endInValue, c.index⟩
  | d :: _ =>
    if ¬ d.isDigit then .error ⟨.invalidNumber, c.index + 1⟩
    else
      let ds := digits c.rest
      let behind := c.skipDigits
      match exponentOverflow? ds with
      | some taken =>
        -- A zero is not too large with any exponent, and a number too small to tell becomes one.
        if significand ≠ 0 ∧ up then .error ⟨.numberOutOfRange, c.index + taken⟩
        else .ok (.double (.zero negative), behind)
      | none =>
        let e : Int := Text.ofDigits 10 ds
        match ofParts negative significand (clamp (if up then power + e else power - e)) with
        | some d => .ok (.double d, behind)
        | none => .error ⟨.numberOutOfRange, behind.index⟩

/-- Reads what may follow the digits of a fraction. -/
def afterFraction (negative : Bool) (significand : Nat) (power : Int) (c : Cursor) :
    Except Break (Numeral × Cursor) :=
  match c.rest with
  | 'e' :: rest => exponent negative significand power ⟨c.index + 1, rest⟩
  | 'E' :: rest => exponent negative significand power ⟨c.index + 1, rest⟩
  | _ =>
    match ofParts negative significand power with
    | some d => .ok (.double d, c)
    | none => .error ⟨.numberOutOfRange, c.index⟩

/-- The integer of a sign and digits that fit sixty-four bits.  A negative zero is a
double, and so is a number below the least one with a sign. -/
def integer (negative : Bool) (n : Nat) : Numeral :=
  if ¬ negative then .unsigned n
  else if n = 0 then .double (.zero true)
  else if n ≤ 9223372036854775808 then .signed (-(n : Int))
  else .double (Double.ofDecimal true n 0)

/-- Reads what may follow the digits before the point. -/
def afterInteger (negative : Bool) (significand left : Nat) (c : Cursor) :
    Except Break (Numeral × Cursor) :=
  match c.rest with
  | '.' :: rest =>
    let c : Cursor := ⟨c.index + 1, rest⟩
    let ds := digits rest
    if ds.isEmpty then
      .error (if rest.isEmpty then ⟨.endInValue, c.peek⟩ else ⟨.invalidNumber, c.peek⟩)
    else
      let (significand, ignored) := keepDigits significand ds
      afterFraction negative significand ((left : Int) - (ds.length - ignored : Nat)) c.skipDigits
  | 'e' :: rest => exponent negative significand left ⟨c.index + 1, rest⟩
  | 'E' :: rest => exponent negative significand left ⟨c.index + 1, rest⟩
  | _ =>
    if left = 0 then .ok (integer negative significand, c)
    else match ofParts negative significand left with
      | some d => .ok (.double d, c)
      | none => .error ⟨.numberOutOfRange, c.index⟩

/-- Reads a number behind its sign. -/
def number (negative : Bool) (c : Cursor) : Except Break (Numeral × Cursor) :=
  match c.rest with
  | [] => .error ⟨.endInValue, c.index⟩
  | d :: rest =>
    if d = '0' then
      let behind : Cursor := ⟨c.index + 1, rest⟩
      if (digits rest).isEmpty then afterInteger negative 0 0 behind
      else .error (behind.broken .invalidNumber)
    else if d.isDigit then
      let (significand, left) := keepDigits 0 (digits c.rest)
      afterInteger negative significand left c.skipDigits
    else .error ⟨.invalidNumber, c.index + 1⟩

/-- Passes over an exponent behind its letter. -/
def passExponent (c : Cursor) : Except Break Cursor :=
  let c : Cursor := match c.rest with
    | '+' :: rest => ⟨c.index + 1, rest⟩
    | '-' :: rest => ⟨c.index + 1, rest⟩
    | _ => c
  match c.rest with
  | [] => .error ⟨.invalidNumber, c.index⟩
  | d :: _ => if d.isDigit then .ok c.skipDigits else .error ⟨.invalidNumber, c.index + 1⟩

/-- Passes over a number behind its sign. -/
def passNumber (c : Cursor) : Except Break Cursor := do
  let behind ← match c.rest with
    | [] => .error ⟨.invalidNumber, c.index⟩
    | d :: rest =>
      if d = '0' then
        -- No digit may follow a leading zero.
        let behind : Cursor := ⟨c.index + 1, rest⟩
        if (digits rest).isEmpty then .ok behind else .error (behind.broken .invalidNumber)
      else if d.isDigit then .ok c.skipDigits
      else .error ⟨.invalidNumber, c.index + 1⟩
  match behind.rest with
  | '.' :: rest =>
    let c : Cursor := ⟨behind.index + 1, rest⟩
    if (digits rest).isEmpty then .error (c.broken .invalidNumber)
    else
      let behind := c.skipDigits
      match behind.rest with
      | 'e' :: rest => passExponent ⟨behind.index + 1, rest⟩
      | 'E' :: rest => passExponent ⟨behind.index + 1, rest⟩
      | _ => .ok behind
  | 'e' :: rest => passExponent ⟨behind.index + 1, rest⟩
  | 'E' :: rest => passExponent ⟨behind.index + 1, rest⟩
  | _ => .ok behind

end PipelinesOperator.JsonText
