/-!
# Characters

Digits in base ten and sixteen, the blanks, and the number of bytes a text takes.
-/

namespace PipelinesOperator.Text

/-- The value of a decimal digit. -/
def digit? (c : Char) : Option Nat :=
  if '0' ≤ c ∧ c ≤ '9' then some (c.toNat - '0'.toNat) else none

/-- The value of a hexadecimal digit of either case. -/
def hexDigit? (c : Char) : Option Nat :=
  if '0' ≤ c ∧ c ≤ '9' then some (c.toNat - '0'.toNat)
  else if 'a' ≤ c ∧ c ≤ 'f' then some (c.toNat - 'a'.toNat + 10)
  else if 'A' ≤ c ∧ c ≤ 'F' then some (c.toNat - 'A'.toNat + 10)
  else none

/-- The lower-case hexadecimal digit of a value below sixteen. -/
def hexDigit (n : Nat) : Char :=
  if n < 10 then Char.ofNat ('0'.toNat + n) else Char.ofNat ('a'.toNat + (n - 10))

/-- The lower-case hexadecimal text of a natural, without leading zeros. -/
def hex (n : Nat) : String := String.ofList (Nat.toDigits 16 n)

/-- The value of a run of digits. -/
def ofDigits (base : Nat) (digits : List Nat) : Nat :=
  digits.foldl (fun value d => value * base + d) 0

/-- A letter or a digit of ASCII. -/
def isAlphanumeric (c : Char) : Bool :=
  ('0' ≤ c ∧ c ≤ '9') ∨ ('a' ≤ c ∧ c ≤ 'z') ∨ ('A' ≤ c ∧ c ≤ 'Z')

/-- Whether a character lies in one of some ranges, which are given by first and last character
in increasing order. -/
def isIn (ranges : List (Nat × Nat)) (c : Char) : Bool :=
  (ranges.find? fun r => c.toNat ≤ r.2).any fun r => decide (r.1 ≤ c.toNat)

/-- A blank of ASCII: tab, line feed, form feed, carriage return or space. -/
def isAsciiBlank (c : Char) : Bool :=
  c = ' ' ∨ c = '\t' ∨ c = '\n' ∨ c = '\r' ∨ c = '\x0c'

/-- A character of Unicode's property White_Space. -/
def isBlank (c : Char) : Bool :=
  let n := c.toNat
  (0x9 ≤ n ∧ n ≤ 0xD) ∨ n = 0x20 ∨ n = 0x85 ∨ n = 0xA0 ∨ n = 0x1680 ∨ (0x2000 ≤ n ∧ n ≤ 0x200A) ∨
    n = 0x2028 ∨ n = 0x2029 ∨ n = 0x202F ∨ n = 0x205F ∨ n = 0x3000

/-- The characters without the blanks at either end. -/
def trim (cs : List Char) : List Char :=
  ((cs.dropWhile isBlank).reverse.dropWhile isBlank).reverse

/-- The lower-case form of an ASCII letter; other characters are kept. -/
def lowerAscii (s : String) : String := String.ofList (s.toList.map Char.toLower)

/-- The upper-case form of an ASCII letter; other characters are kept. -/
def upperAscii (s : String) : String := String.ofList (s.toList.map Char.toUpper)

/-- How many bytes some characters take. -/
def byteLength (cs : List Char) : Nat := cs.foldl (fun sum c => sum + c.utf8Size) 0

/-- The characters before and behind a number of bytes, unless one of them would be torn. -/
def splitBytes? : Nat → List Char → Option (List Char × List Char)
  | 0, cs => some ([], cs)
  | _ + 1, [] => none
  | n + 1, c :: cs =>
    if n + 1 < c.utf8Size then none
    else (splitBytes? (n + 1 - c.utf8Size) cs).map fun r => (c :: r.1, r.2)

/-- The pieces of a character list between the occurrences of one character; there is
always one more piece than occurrences. -/
def split (separator : Char) : List Char → List (List Char)
  | [] => [[]]
  | c :: cs =>
    if c = separator then [] :: split separator cs
    else match split separator cs with
      | [] => [[c]]
      | piece :: pieces => (c :: piece) :: pieces

/-- The texts between the occurrences of one character. -/
def splitOn (separator : Char) (s : String) : List String :=
  (split separator s.toList).map String.ofList

/-- The texts joined with a separator between them. -/
def join (separator : String) : List String → String
  | [] => ""
  | [s] => s
  | s :: rest => s ++ separator ++ join separator rest

end PipelinesOperator.Text
