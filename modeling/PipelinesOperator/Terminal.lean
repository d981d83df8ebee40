import PipelinesOperator.Text.Character

/-!
# Texts for a terminal

What is printed for a terminal may hold control sequences: orders to set a style, to give a
window a title, and so on.  Where no terminal shows it, it has to be plain.  `plain` leaves
out the sequences, and all control characters but those that are blanks.

A sequence starts with an escape character, and the characters behind it say how far it goes.
The state of the reader is how far it is in one.  A blank within a sequence is printed all the
same, and what follows the blank is taken for text until the next control character; only
then the sequence goes on.

## Main definitions

* `strong`, `title`: a text in a style
* `plain`: a text without control sequences
-/

namespace PipelinesOperator.Terminal

/-! ## Styles -/

/-- The order to take back all styles. -/
def reset : String := "\x1b[0m"

/-- A text in bold letters. -/
def strong (s : String) : String := "\x1b[1m" ++ s ++ reset

/-- A text in bold letters with a line below. -/
def title (s : String) : String := "\x1b[1m\x1b[4m" ++ s ++ reset

/-! ## Control sequences -/

/-- How far a text is in a control sequence. -/
inductive Progress where
  /-- In none. -/
  | ground
  /-- Behind the escape character. -/
  | escape
  /-- Behind an escape character and intermediate ones. -/
  | escapeIntermediate
  /-- At the start of an order. -/
  | order
  /-- In the parameters of an order. -/
  | orderParameter
  /-- In the intermediate characters of an order. -/
  | orderIntermediate
  /-- In an order that is not well formed. -/
  | orderIgnored
  /-- At the start of a device string. -/
  | device
  /-- In the parameters of a device string. -/
  | deviceParameter
  /-- In the intermediate characters of a device string. -/
  | deviceIntermediate
  /-- In the text of a device string, or in one that is not well formed. -/
  | deviceText
  /-- In an order to the operating system. -/
  | system
  /-- In a string of one of the other sorts. -/
  | other
  deriving DecidableEq, Repr

namespace Progress

/-- Whether a number lies between two others. -/
def between (low high n : Nat) : Bool := low ≤ n && n ≤ high

/-- What some control characters do anywhere: the escape character starts a new sequence, and
two others end any. -/
def anywhere? (n : Nat) : Option Progress :=
  if n = 0x1B then some .escape
  else if n = 0x18 || n = 0x1A then some .ground
  else none

/-- How far a text is behind one more character of ASCII. -/
def next (p : Progress) (n : Nat) : Progress :=
  match anywhere? n with
  | some p => p
  | none =>
    match p with
    | .ground => .ground
    | .escape =>
      if between 0x20 0x2F n then .escapeIntermediate
      else if n = 0x50 then .device
      else if n = 0x58 || n = 0x5E || n = 0x5F then .other
      else if n = 0x5B then .order
      else if n = 0x5D then .system
      else if between 0x30 0x7E n then .ground
      else .escape
    | .escapeIntermediate => if between 0x30 0x7E n then .ground else .escapeIntermediate
    | .order =>
      if between 0x20 0x2F n then .orderIntermediate
      else if between 0x30 0x3F n then .orderParameter
      else if between 0x40 0x7E n then .ground
      else .order
    | .orderParameter =>
      if between 0x20 0x2F n then .orderIntermediate
      else if between 0x3C 0x3F n then .orderIgnored
      else if between 0x40 0x7E n then .ground
      else .orderParameter
    | .orderIntermediate =>
      if between 0x30 0x3F n then .orderIgnored
      else if between 0x40 0x7E n then .ground
      else .orderIntermediate
    | .orderIgnored => if between 0x40 0x7E n then .ground else .orderIgnored
    | .device =>
      if between 0x20 0x2F n then .deviceIntermediate
      else if between 0x30 0x3F n then .deviceParameter
      else if between 0x40 0x7E n then .deviceText
      else .device
    | .deviceParameter =>
      if between 0x20 0x2F n then .deviceIntermediate
      else if between 0x3C 0x7E n then .deviceText
      else .deviceParameter
    | .deviceIntermediate => if between 0x30 0x7E n then .deviceText else .deviceIntermediate
    -- Strings end by the characters that act anywhere, and those of a system also by a bell.
    | .deviceText => .deviceText
    | .system => if n = 0x07 then .ground else .system
    | .other => .other

/-- How far a text is behind a character that is not of ASCII.  Such a character goes with the
sequence that it stands in; a byte 9C in it ends a string, unless that is one of a system. -/
def nextWide (p : Progress) (c : Char) : Progress :=
  let ends := (String.singleton c).toUTF8.toList.contains 0x9C
  match p with
  | .deviceText => if ends then .ground else p
  | .other => if ends then .ground else p
  | p => p

/-- Whether control characters are carried out rather than kept with the sequence. -/
def carriesOut : Progress → Bool
  | .device => false
  | .deviceParameter => false
  | .deviceIntermediate => false
  | .deviceText => false
  | .system => false
  | .other => false
  | _ => true

end Progress

/-- A control character that is a blank. -/
def isControlBlank (c : Char) : Bool := ['\t', '\n', '\x0c', '\r'].contains c

/-- Whether a character is printed where no sequence is going on. -/
def isPrinted (c : Char) : Bool := isControlBlank c || (0x20 ≤ c.toNat && c.toNat ≠ 0x7F)

/-- What is printed of some characters.  `printing` says that text is going on, be it within a
sequence; a character beyond ASCII in that text ends the sequence. -/
def plainChars : (p : Progress) → (printing : Bool) → List Char → List Char
  | _, _, [] => []
  | p, printing, c :: cs =>
    if printing && isPrinted c then
      c :: plainChars (if c.toNat < 0x80 then p else .ground) true cs
    else
      let p := if printing then (Progress.anywhere? c.toNat).getD p else p
      if p = .ground && isPrinted c then c :: plainChars .ground true cs
      else if 0x80 ≤ c.toNat then plainChars (p.nextWide c) false cs
      else if p.carriesOut && isControlBlank c then c :: plainChars (p.next c.toNat) true cs
      else plainChars (p.next c.toNat) false cs

/-- A text without control sequences. -/
def plain (s : String) : String := String.ofList (plainChars .ground false s.toList)

end PipelinesOperator.Terminal
