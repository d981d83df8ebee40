import PipelinesOperator.JsonText.Break
import PipelinesOperator.Text.Character

/-!
# Reading along a text

A cursor is what is left of a text together with the number of bytes taken.  The words,
strings and escapes of JSON are read here, both in earnest and in passing: a string that is
passed over has its surrogates unchecked.
-/

namespace PipelinesOperator.JsonText

/-- A place in a text: how many bytes were taken, and what is left. -/
structure Cursor where
  index : Nat
  rest : List Char
  deriving Repr

/-- The number of bytes of some characters. -/
def bytes (cs : List Char) : Nat := cs.foldr (fun c size => c.utf8Size + size) 0

namespace Cursor

/-- The start of a text. -/
def start (text : List Char) : Cursor := ⟨0, text⟩

/-- The place one byte on, where a reader stands that has looked at the next byte. -/
def peek (c : Cursor) : Nat := if c.rest.isEmpty then c.index else c.index + 1

/-- The cursor behind `taken`, when that is what stands next. -/
def drop (c : Cursor) (taken rest : List Char) : Cursor := ⟨c.index + bytes taken, rest⟩

/-- A blank of JSON. -/
def isBlank (c : Char) : Bool := c = ' ' ∨ c = '\n' ∨ c = '\t' ∨ c = '\r'

/-- The cursor behind any blanks. -/
def skipBlanks (c : Cursor) : Cursor :=
  c.drop (c.rest.takeWhile isBlank) (c.rest.dropWhile isBlank)

/-- The break of a reason noticed when looking at the next byte. -/
def broken (c : Cursor) (reason : Reason) : Break := ⟨reason, c.peek⟩

end Cursor

/-- Reads the rest of one of the words `null`, `true` and `false`. -/
def word (index : Nat) : List Char → List Char → Except Break Cursor
  | [], rest => .ok ⟨index, rest⟩
  | _ :: _, [] => .error ⟨.endInValue, index⟩
  | e :: expected, c :: rest =>
    if c = e then word (index + 1) expected rest else .error ⟨.identExpected, index + 1⟩

/-- The character of a one-letter escape. -/
def escape? (c : Char) : Option Char :=
  if c = '"' then some '"'
  else if c = '\\' then some '\\'
  else if c = '/' then some '/'
  else if c = 'b' then some '\x08'
  else if c = 'f' then some '\x0c'
  else if c = 'n' then some '\n'
  else if c = 'r' then some '\r'
  else if c = 't' then some '\t'
  else none

/-- The value of four hexadecimal digits. -/
def hexFour? (a b c d : Char) : Option Nat := do
  let a ← Text.hexDigit? a
  let b ← Text.hexDigit? b
  let c ← Text.hexDigit? c
  let d ← Text.hexDigit? d
  some (((a * 16 + b) * 16 + c) * 16 + d)

/-- The break of an escape by number whose four digits are not there. -/
def badHex (index : Nat) (rest : List Char) : Break :=
  let present := bytes (rest.take 4)
  if present < 4 then ⟨.endInString, index + present⟩ else ⟨.invalidEscape, index + 4⟩

/-- Whether a number is a leading surrogate. -/
def isLeading (n : Nat) : Bool := 0xD800 ≤ n ∧ n ≤ 0xDBFF

/-- Whether a number is a trailing surrogate. -/
def isTrailing (n : Nat) : Bool := 0xDC00 ≤ n ∧ n ≤ 0xDFFF

/-- The character that a leading and a trailing surrogate stand for. -/
def paired (leading trailing : Nat) : Char :=
  Char.ofNat ((leading - 0xD800) * 0x400 + (trailing - 0xDC00) + 0x10000)

/-- Reads the characters of a string up to its closing quote. -/
def stringBody (index : Nat) : List Char → Except Break (List Char × Cursor)
  | [] => .error ⟨.endInString, index⟩
  | c :: rest =>
    if c = '"' then .ok ([], ⟨index + 1, rest⟩)
    else if c = '\\' then
      match rest with
      | [] => .error ⟨.endInString, index + 1⟩
      | 'u' :: x₁ :: x₂ :: x₃ :: x₄ :: rest =>
        match hexFour? x₁ x₂ x₃ x₄ with
        | none => .error (badHex (index + 2) (x₁ :: x₂ :: x₃ :: x₄ :: rest))
        | some n =>
          -- The second half of a pair cannot stand first.
          if isTrailing n then .error ⟨.loneSurrogate, index + 6⟩
          else if isLeading n then
            -- The first half of a pair needs the second right behind it; each way to miss it is
            -- reported where the reader notices.
            match rest with
            | '\\' :: 'u' :: y₁ :: y₂ :: y₃ :: y₄ :: rest =>
              match hexFour? y₁ y₂ y₃ y₄ with
              | none => .error (badHex (index + 8) (y₁ :: y₂ :: y₃ :: y₄ :: rest))
              | some n' =>
                if isTrailing n' then do
                  let (cs, cursor) ← stringBody (index + 12) rest
                  .ok (paired n n' :: cs, cursor)
                else .error ⟨.loneSurrogate, index + 12⟩
            | [] => .error ⟨.endInString, index + 6⟩
            | ['\\'] => .error ⟨.endInString, index + 7⟩
            | '\\' :: 'u' :: rest => .error (badHex (index + 8) rest)
            | '\\' :: _ :: _ => .error ⟨.unfinishedEscape, index + 8⟩
            | _ :: _ => .error ⟨.unfinishedEscape, index + 7⟩
          else do
            let (cs, cursor) ← stringBody (index + 6) rest
            .ok (Char.ofNat n :: cs, cursor)
      | 'u' :: rest => .error (badHex (index + 2) rest)
      | e :: rest =>
        match escape? e with
        | none => .error ⟨.invalidEscape, index + 2⟩
        | some e => do
          let (cs, cursor) ← stringBody (index + 2) rest
          .ok (e :: cs, cursor)
    else if c.toNat < 0x20 then .error ⟨.controlCharacter, index + 1⟩
    else do
      let (cs, cursor) ← stringBody (index + c.utf8Size) rest
      .ok (c :: cs, cursor)

/-- Passes over the characters of a string and its closing quote. -/
def passString (index : Nat) : List Char → Except Break Cursor
  | [] => .error ⟨.endInString, index⟩
  | c :: rest =>
    if c = '"' then .ok ⟨index + 1, rest⟩
    else if c = '\\' then
      match rest with
      | [] => .error ⟨.endInString, index + 1⟩
      | 'u' :: x₁ :: x₂ :: x₃ :: x₄ :: rest =>
        match hexFour? x₁ x₂ x₃ x₄ with
        | none => .error (badHex (index + 2) (x₁ :: x₂ :: x₃ :: x₄ :: rest))
        | some _ => passString (index + 6) rest
      | 'u' :: rest => .error (badHex (index + 2) rest)
      | e :: rest =>
        match escape? e with
        | none => .error ⟨.invalidEscape, index + 2⟩
        | some _ => passString (index + 2) rest
    else if c.toNat < 0x20 then .error ⟨.controlCharacter, index⟩
    else passString (index + c.utf8Size) rest

end PipelinesOperator.JsonText
