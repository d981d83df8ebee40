/-!
# Base64

Three bytes are written as four letters of an alphabet of sixty-four; one or two bytes left
at the end are written with padding.  Reading takes exactly what writing gives: letters in
fours, padding only at the end, and no bit set that stands for nothing.
-/

namespace PipelinesOperator.Base64

/-- The letter of a value below sixty-four. -/
def letter (n : Nat) : Char :=
  if n < 26 then Char.ofNat (65 + n)
  else if n < 52 then Char.ofNat (97 + (n - 26))
  else if n < 62 then Char.ofNat (48 + (n - 52))
  else if n = 62 then '+' else '/'

/-- The value of a letter. -/
def value? (c : Char) : Option Nat :=
  if 'A' ≤ c ∧ c ≤ 'Z' then some (c.toNat - 65)
  else if 'a' ≤ c ∧ c ≤ 'z' then some (c.toNat - 97 + 26)
  else if '0' ≤ c ∧ c ≤ '9' then some (c.toNat - 48 + 52)
  else if c = '+' then some 62
  else if c = '/' then some 63
  else none

/-- The letters of some bytes. -/
def encode : List UInt8 → List Char
  | [] => []
  | [a] =>
    let a := a.toNat
    [letter (a / 4), letter (a % 4 * 16), '=', '=']
  | [a, b] =>
    let a := a.toNat
    let b := b.toNat
    [letter (a / 4), letter (a % 4 * 16 + b / 16), letter (b % 16 * 4), '=']
  | a :: b :: c :: rest =>
    let n := a.toNat
    let m := b.toNat
    let k := c.toNat
    letter (n / 4) :: letter (n % 4 * 16 + m / 16) :: letter (m % 16 * 4 + k / 64) ::
      letter (k % 64) :: encode rest

/-- The bytes of some letters, if these are what `encode` writes. -/
def decode? : List Char → Option (List UInt8)
  | [] => some []
  | x :: y :: z :: w :: rest => do
    let a ← value? x
    let b ← value? y
    let first := UInt8.ofNat (a * 4 + b / 16)
    if z = '=' then
      if w = '=' ∧ rest = [] ∧ b % 16 = 0 then some [first] else none
    else
      let c ← value? z
      let second := UInt8.ofNat (b % 16 * 16 + c / 4)
      if w = '=' then
        if rest = [] ∧ c % 4 = 0 then some [first, second] else none
      else
        let d ← value? w
        let bytes ← decode? rest
        some (first :: second :: UInt8.ofNat (c % 4 * 64 + d) :: bytes)
  | _ => none

/-- Why a text is no base64. -/
inductive Fault where
  /-- A byte that cannot stand at its place. -/
  | symbol (byte : UInt8) (offset : Nat)
  /-- A number of letters that cannot be. -/
  | length (letters : Nat)
  /-- A last letter with bits that stand for nothing. -/
  | lastSymbol (byte : UInt8) (offset : Nat)
  /-- Padding that is missing. -/
  | padding
  deriving DecidableEq, Repr

/-- The wording of a fault. -/
def Fault.message : Fault → String
  | .symbol byte offset => "Invalid symbol " ++ toString byte ++ ", offset " ++ toString offset ++ "."
  | .length letters => "Invalid input length: " ++ toString letters
  | .lastSymbol byte offset =>
    "Invalid last symbol " ++ toString byte ++ ", offset " ++ toString offset ++ "."
  | .padding => "Invalid padding"

/-- The value of a byte as a letter. -/
def byteValue? (b : UInt8) : Option Nat := value? (Char.ofNat b.toNat)

/-- The first byte of some that is no letter, with its place. -/
def firstBad? (offset : Nat) : List UInt8 → Option Fault
  | [] => none
  | b :: rest => if (byteValue? b).isSome then firstBad? (offset + 1) rest else some (.symbol b offset)

/-- The fault in the last bytes of a text, at most four: `letters` counts those read and
`pad` is the place of the first padding. -/
def lastFault (offset letters : Nat) (pad : Option Nat) : List UInt8 → Option Fault
  | [] => none
  | b :: rest =>
    if b = 61 then
      if letters < 2 then some (.symbol b (offset + letters))
      else lastFault offset letters (some (pad.getD letters)) rest
    else match pad with
      | some p => some (.symbol 61 (offset + p))
      | none =>
        if (byteValue? b).isSome then lastFault offset (letters + 1) none rest
        else some (.symbol b (offset + letters))

/-- What is wrong with a text that is no base64. -/
def faultOf (text : List Char) : Fault :=
  let bytes := (String.ofList text).toUTF8.toList
  let size := bytes.length
  let left := size % 4
  let early := if left = 1 then
      match bytes.getLast? with
      | some b => if b ≠ 61 ∧ byteValue? b = none then some (Fault.symbol b (size - 1)) else none
      | none => none
    else none
  let whole := size - left - (if left = 0 then 4 else 0)
  let last := bytes.drop whole
  let letters := last.takeWhile (· ≠ 61)
  let rest :=
    if letters.length < 2 then Fault.length (whole + letters.length)
    else if last.length % 4 ≠ 0 then .padding
    else .lastSymbol (letters.getLastD 0) (whole + letters.length - 1)
  ((early.or (firstBad? 0 (bytes.take whole))).or (lastFault whole 0 none last)).getD rest

/-- The bytes of a text. -/
def decode (text : List Char) : Except Fault (List UInt8) :=
  match decode? text with
  | some bytes => .ok bytes
  | none => .error (faultOf text)

end PipelinesOperator.Base64
