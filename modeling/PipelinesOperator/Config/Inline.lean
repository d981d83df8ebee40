import PipelinesOperator.Document.Basic
import PipelinesOperator.Double.Notation

/-!
# Values in one line

The value of an environment variable may be more than a text: a boolean, a number, a list in
brackets, a table in braces, or a quoted text.  What does not read as one of these from its
first character to its last is the text that it is.

## Main definitions

* `value`: the value at the start of a text, and what follows it
* `read`: the value of a whole text
-/

namespace PipelinesOperator.Config.Inline

/-- The text behind its blanks. -/
def skipBlanks (cs : List Char) : List Char := cs.dropWhile Text.isAsciiBlank

/-- A character of a key without quotes. -/
def isKeyChar (c : Char) : Bool := Text.isAlphanumeric c ∨ c = '-' ∨ c = '_'

/-- A character that ends a value without quotes. -/
def isSeparator (c : Char) : Bool := [',', '\x7b', '\x7d', '[', ']'].contains c

/-- The character of an escape of one letter. -/
def escape? (c : Char) : Option Char :=
  if c = 'b' then some '\x08'
  else if c = 't' then some '\t'
  else if c = 'n' then some '\n'
  else if c = 'f' then some '\x0c'
  else if c = 'r' then some '\r'
  else if c = '"' then some '"'
  else if c = '\\' then some '\\'
  else none

/-- The character of an escape by number. -/
def numbered? (width : Nat) (digits : List Char) : Option Char :=
  if digits.length = width then
    (Text.natural? 16 digits).bind fun n =>
      if n < 0xD800 ∨ (0xDFFF < n ∧ n ≤ 0x10FFFF) then some (Char.ofNat n) else none
  else none

/-- Whether a character may stand between quotes as it is. -/
def isPrinted (c : Char) : Bool := c = '\t' ∨ (0x20 ≤ c.toNat ∧ c.toNat ≠ 0x7F)

/-- The rest of a quoted text, and what follows its closing quote.  Every step takes a
character. -/
def quoted : Nat → List Char → Option (List Char × List Char)
  | 0, _ => none
  | _ + 1, [] => none
  | n + 1, c :: rest =>
    let more (a : Char) (rest : List Char) : Option (List Char × List Char) :=
      (quoted n rest).map fun r => (a :: r.1, r.2)
    if c = '"' then some ([], rest)
    else if c = '\\' then
      match rest with
      | [] => none
      | 'u' :: rest => do more (← numbered? 4 (rest.take 4)) (rest.drop 4)
      | 'U' :: rest => do more (← numbered? 8 (rest.take 8)) (rest.drop 8)
      | e :: rest => do more (← escape? e) rest
    else if isPrinted c then more c rest
    else none

/-- The text between quotes that starts behind a quote. -/
def quotedText (cs : List Char) : Option (String × List Char) :=
  (quoted (cs.length + 1) cs).map fun r => (String.ofList r.1, r.2)

/-- The natural of a text with perhaps a plus sign. -/
def natural? (cs : List Char) : Option Nat :=
  match cs with
  | '+' :: digits => Text.natural? 10 digits
  | digits => Text.natural? 10 digits

/-- The integer of a text, of sixty-four bits. -/
def integer? (cs : List Char) : Option Numeral :=
  match cs with
  | '-' :: digits =>
    (Text.natural? 10 digits).bind fun n =>
      if n ≤ 0x8000000000000000 then some (.signed (-n)) else none
  | cs => (natural? cs).bind fun n => if n < 0x10000000000000000 then some (.unsigned n) else none

/-- What a text without quotes stands for. -/
def bare (cs : List Char) : Doc.Plain :=
  -- Only a text with a point is tried as a double, so whole numbers stay integers.
  match if cs.contains '.' then Double.ofText? cs else none with
  | some d => .num () (.double d)
  | none =>
    match integer? cs with
    | some n => .num () n
    | none => .str () (String.ofList cs)

/-- A key, and what follows it. -/
def key : List Char → Option (String × List Char)
  | '"' :: rest => quotedText rest
  | cs =>
    let taken := cs.takeWhile isKeyChar
    if taken.isEmpty then none else some (String.ofList taken, cs.dropWhile isKeyChar)

mutual

/-- The value at the start of a text, and what follows it. -/
def value : Nat → List Char → Option (Doc.Plain × List Char)
  | 0, _ => none
  | n + 1, cs =>
    let behind (r : Doc.Plain × List Char) : Doc.Plain × List Char := (r.1, skipBlanks r.2)
    match skipBlanks cs with
    | 't' :: 'r' :: 'u' :: 'e' :: rest => some (behind (.bool () true, rest))
    | 'f' :: 'a' :: 'l' :: 's' :: 'e' :: rest => some (behind (.bool () false, rest))
    | '\x7b' :: rest => (pairs n rest).map fun r => behind (.obj () r.1 none, r.2)
    | '[' :: rest => (items n rest).map fun r => behind (.arr () r.1 none, r.2)
    | '"' :: rest => (quotedText rest).map fun r => behind (.str () r.1, r.2)
    -- Single quotes hold one character, and nothing else.
    | '\'' :: c :: '\'' :: rest => some (behind (.str () (String.ofList [c]), rest))
    | '\'' :: _ => none
    | cs =>
      let taken := cs.takeWhile fun c => !isSeparator c
      some (bare (Text.trim taken), cs.drop taken.length)

/-- The items of a list up to its closing bracket, and what follows it. -/
def items : Nat → List Char → Option (List Doc.Plain × List Char)
  | 0, _ => none
  | n + 1, cs =>
    match cs with
    | ']' :: rest => some ([], rest)
    | cs => do
      let (item, rest) ← value n cs
      match rest with
      | ',' :: rest => (items n rest).map fun r => (item :: r.1, r.2)
      | ']' :: rest => some ([item], rest)
      | _ => none

/-- The pairs of a table up to its closing brace, and what follows it. -/
def pairs : Nat → List Char → Option (List (Key Unit Empty × Doc.Plain) × List Char)
  | 0, _ => none
  | n + 1, cs =>
    match cs with
    | '\x7d' :: rest => some ([], rest)
    | cs => do
      let (name, rest) ← key (skipBlanks cs)
      match skipBlanks rest with
      | '=' :: rest => do
        let (value, rest) ← value n rest
        let pair : Key Unit Empty × Doc.Plain := (⟨name, (), none⟩, value)
        match skipBlanks rest with
        | ',' :: rest => (pairs n rest).map fun r => (pair :: r.1, r.2)
        | '\x7d' :: rest => some ([pair], rest)
        | _ => none
      | _ => none

end

/-- The value of a whole text. -/
def read (text : String) : Doc.Plain :=
  match value (2 * text.length + 2) text.toList with
  -- A value has to take up the whole text; otherwise the text stands for itself.
  | some (d, []) => d
  | _ => .str () text

end PipelinesOperator.Config.Inline
