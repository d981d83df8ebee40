import PipelinesOperator.Yaml.Scalar
import PipelinesOperator.Yaml.Token

/-!
# The tokens of a text

Columns open and close block collections.  Whether a scalar is a key shows only at the colon
behind it, so the scanner remembers where a key may have started and puts the token there
when the colon comes.  A key of that sort ends in the line in which it starts, and within
1024 characters.

The tokens are found one by one, and only as far as they are needed to say what the next one
is.  So a text that breaks does so at the first place that a reader comes to.

## Main definitions

* `Scanner`: the state of the scanner
* `Scanner.ready`: the scanner with a token to take
-/

namespace PipelinesOperator.Yaml

/-- Where a key may have started: how many tokens stand before it, its place, and whether it
has to be one. -/
structure KeyStart where
  token : Nat
  index : Nat
  place : Place
  needed : Bool
  deriving Repr

/-- The state of the scanner. -/
structure Scanner where
  cursor : Cursor
  /-- The tokens that are found and not taken, in order. -/
  waiting : List Placed := []
  /-- How many tokens were taken. -/
  taken : Nat := 0
  /-- The columns of the open block collections, the innermost first. -/
  columns : List Nat := []
  /-- The open flow collections, the innermost first, each with the key start around it. -/
  flows : List (Option KeyStart) := []
  /-- Where a key may have started in the innermost collection. -/
  start : Option KeyStart := none
  /-- Whether a key may start here. -/
  keyAllowed : Bool := true

namespace Scanner

/-- Whether a flow collection is open. -/
def inFlow (s : Scanner) : Bool := !s.flows.isEmpty

/-- Adds a token that starts at a place. -/
def emit (s : Scanner) (token : Token) (place : Place) : Scanner :=
  { s with waiting := s.waiting ++ [⟨token, place⟩] }

/-- Puts a token behind the first `n` of all. -/
def emitAt (s : Scanner) (n : Nat) (token : Token) (place : Place) : Scanner :=
  let earlier := n - s.taken
  { s with waiting := s.waiting.take earlier ++ ⟨token, place⟩ :: s.waiting.drop earlier }

/-- How many tokens were found. -/
def count (s : Scanner) : Nat := s.taken + s.waiting.length

/-- The scanner some characters on. -/
def skip (s : Scanner) (n : Nat) : Scanner := { s with cursor := s.cursor.skip n }

/-- Adds a token of some characters. -/
def mark (s : Scanner) (token : Token) (size : Nat) : Scanner :=
  (s.emit token s.cursor.place).skip size

/-- A break at the cursor that is not part of anything. -/
def fails {α : Type} (s : Scanner) (problem : Problem) : Except Break α :=
  .error { problem, place := s.cursor.place }

/-- Ends the block collections that stand right of a column, or all of them. -/
def unroll (s : Scanner) (column : Option Nat) : Scanner :=
  if s.inFlow then s
  else
    let ended (n : Nat) : Bool := match column with
      | none => true
      | some c => decide (c < n)
    let count := (s.columns.takeWhile ended).length
    { s with
      columns := s.columns.drop count
      waiting := s.waiting ++ List.replicate count ⟨.blockEnd, s.cursor.place⟩ }

/-- Starts a block collection at a place, unless one is open in its column.  Its token goes
behind the first `n`. -/
def roll (s : Scanner) (place : Place) (n : Nat) (token : Token) : Scanner :=
  if s.inFlow || s.columns.head?.any (place.column ≤ ·) then s
  else { s.emitAt n token place with columns := place.column :: s.columns }

/-- A break because something has to be a key and is none. -/
def noKey {α : Type} (s : Scanner) (k : KeyStart) : Except Break α :=
  s.cursor.fails .noColon .simpleKey k.place

/-- Gives up the key that may have started, unless it has to be one. -/
def dropKey (s : Scanner) : Except Break Scanner :=
  match s.start.filter KeyStart.needed with
  | some k => s.noKey k
  | none => .ok { s with start := none }

/-- Remembers that a key may start here. -/
def saveKey (s : Scanner) : Except Break Scanner :=
  if s.keyAllowed then do
    let s ← s.dropKey
    let c := s.cursor
    let needed := !s.inFlow && s.columns.head? = some c.column
    .ok { s with start := some ⟨s.count, c.index, c.place, needed⟩ }
  else .ok s

/-- Whether what may have started as a key can be none any more. -/
def isPast (s : Scanner) (k : KeyStart) : Bool :=
  k.place.line < s.cursor.line || k.index + 1024 < s.cursor.index

/-- Gives up the keys that can be none any more, unless one of them has to be. -/
def settle (s : Scanner) : Except Break Scanner :=
  let starts := s.flows.reverse.filterMap id ++ s.start.toList
  match starts.find? fun k => k.needed && s.isPast k with
  | some k => s.noKey k
  | none =>
    let keep (k : Option KeyStart) : Option KeyStart := k.filter fun k => !s.isPast k
    .ok { s with flows := s.flows.map keep, start := keep s.start }

/-- Passes over blanks, comments and line ends, and over a byte order mark at the start of a
line, which takes a column.  A tab is no blank where a key may start in a block. -/
def toToken : Nat → Scanner → Scanner
  | 0, s => s
  | n + 1, s =>
    let s := if s.cursor.column = 0 ∧ s.cursor.rest.head? = some '\uFEFF' then s.skip 1 else s
    let blank (c : Char) : Bool := c = ' ' || (c = '\t' && (s.inFlow || !s.keyAllowed))
    let c := (s.cursor.span blank).2
    let c := if c.rest.head? = some '#' then c.toLineEnd else c
    match c.lineBreak? with
    | some (_, c) => toToken n { s with cursor := c, keyAllowed := s.keyAllowed || !s.inFlow }
    | none => { s with cursor := c }

/-! ## Directives, anchors and tags -/

/-- The number at a cursor, of at most nine digits. -/
def versionNumber (start : Place) (c : Cursor) : Except Break (Nat × Cursor) :=
  let (digits, behind) := c.span Char.isDigit
  if digits.isEmpty then c.fails .noVersion .version start
  else if 9 < digits.length then (c.skip 9).fails .longVersion .version start
  else .ok (Text.ofDigits 10 (digits.filterMap Text.digit?), behind)

/-- The handle of a tag at a cursor: an exclamation mark, or a word between two.  In a
directive it has to be complete. -/
def tagHandle (directive : Bool) (start : Place) (c : Cursor) :
    Except Break (List Char × Cursor) :=
  if c.rest.head? ≠ some '!' then
    c.fails .noExclamationMark (if directive then .handleStart else .tag) start
  else
    let (name, c) := (c.skip 1).span isWord
    if c.rest.head? = some '!' then .ok ('!' :: name ++ ['!'], c.skip 1)
    else if directive && !name.isEmpty then c.fails .noExclamationMark .handleEnd start
    else .ok ('!' :: name, c)

/-- What the text of a tag is part of. -/
def tagSetting (directive : Bool) : Setting := if directive then .handleText else .tagText

/-- One byte written as a percent sign and two digits. -/
def percent (directive : Bool) (start : Place) (c : Cursor) : Except Break UInt8 :=
  match c.rest with
  | '%' :: a :: b :: _ =>
    match Text.hexDigit? a, Text.hexDigit? b with
    | some a, some b => .ok (.ofNat (a * 16 + b))
    | _, _ => c.fails .noEscapedByte (tagSetting directive) start
  | _ => c.fails .noEscapedByte (tagSetting directive) start

/-- Some more bytes of a character. -/
def percents (directive : Bool) (start : Place) : Nat → Cursor → Except Break (Tag × Cursor)
  | 0, c => .ok ([], c)
  | n + 1, c => do
    let byte ← percent directive start c
    if byte.toNat / 64 = 2 then
      let (bytes, c) ← percents directive start n (c.skip 3)
      .ok (byte :: bytes, c)
    else c.fails .badFurtherByte (tagSetting directive) start

/-- The bytes of the character written in bytes at a cursor.  The first one says how many there
are.  No more is asked of them, so they need not spell a character. -/
def escaped (directive : Bool) (start : Place) (c : Cursor) : Except Break (Tag × Cursor) := do
  let first ← percent directive start c
  let further (n : Nat) : Except Break (Tag × Cursor) := do
    let (bytes, c) ← percents directive start n (c.skip 3)
    .ok (first :: bytes, c)
  if first.toNat < 0x80 then further 0
  else if first.toNat / 32 = 6 then further 1
  else if first.toNat / 16 = 14 then further 2
  else if first.toNat / 8 = 30 then further 3
  else c.fails .badFirstByte (tagSetting directive) start

/-- A character of the suffix of a tag; a verbatim tag may hold some more. -/
def isTagChar (verbatim : Bool) (c : Char) : Bool :=
  isWord c || [';', '/', '?', ':', '@', '&', '=', '+', '$', '.', '%', '!', '~', '*', '\'', '(',
    ')'].contains c || (verbatim && [',', '[', ']'].contains c)

/-- The characters of the text of a tag at a cursor. -/
def tagChars (verbatim directive : Bool) (start : Place) :
    Nat → Cursor → Except Break (Tag × Cursor)
  | 0, c => .ok ([], c)
  | n + 1, c =>
    match c.rest with
    | [] => .ok ([], c)
    | a :: _ =>
      if !isTagChar verbatim a then .ok ([], c)
      else do
        let (bytes, c) ← if a = '%' then escaped directive start c
          else .ok (Tag.ofAscii [a], c.skip 1)
        let (more, c) ← tagChars verbatim directive start n c
        .ok (bytes ++ more, c)

/-- The text of a tag at a cursor, behind what its handle gives to it. -/
def tagText (verbatim directive : Bool) (start : Place) (head : List Char) (c : Cursor) :
    Except Break (Tag × Cursor) := do
  let (bytes, c) ← tagChars verbatim directive start (c.rest.length + 1) c
  if head.isEmpty && bytes.isEmpty then c.fails .noTagText (tagSetting directive) start
  else .ok (Tag.ofAscii (head.drop 1) ++ bytes, c)

/-- The directive at a cursor. -/
def directiveToken (c : Cursor) : Except Break (Token × Cursor) := do
  let start := c.place
  let (name, c) := (c.skip 1).span isWord
  if name.isEmpty then c.fails .noDirectiveName .directive start
  else if !atGap c.rest then c.fails .badDirectiveName .directive start
  else if name = ['Y', 'A', 'M', 'L'] then do
    let (major, c) ← versionNumber start c.skipBlanks
    if c.rest.head? ≠ some '.' then c.fails .noVersionDot .version start
    else do
      let (minor, c) ← versionNumber start (c.skip 1)
      .ok (.version major minor, ← c.endLine .directive start)
  else if name = ['T', 'A', 'G'] then do
    let (handle, c) ← tagHandle true start c.skipBlanks
    if !(c.rest.head?.any isBlank) then c.fails .noBlank .handle start
    else do
      let (lead, c) ← tagText true true start [] c.skipBlanks
      if !atGap c.rest then c.fails .noGap .handle start
      else .ok (.handle (String.ofList handle) lead,
        ← c.endLine .directive start)
  else c.fails .unknownDirective .directive start

/-- Reads a directive. -/
def directive (s : Scanner) : Except Break Scanner := do
  let s ← (s.unroll none).dropKey
  let (token, c) ← directiveToken s.cursor
  .ok { s.emit token s.cursor.place with cursor := c, keyAllowed := false }

/-- Reads the name of an anchor or of a reference to one. -/
def named (s : Scanner) (setting : Setting) (token : String → Token) : Except Break Scanner := do
  let s ← s.saveKey
  let start := s.cursor.place
  let (name, c) := (s.cursor.skip 1).span isWord
  let ended := atGap c.rest || (['?', ':', ',', ']', '\x7d', '%', '@', '\x60'].any fun x =>
    c.rest.head? = some x)
  if name.isEmpty || !ended then c.fails .noName setting start
  else .ok { s.emit (token (String.ofList name)) start with cursor := c, keyAllowed := false }

/-- The handle and the suffix of the tag at a cursor.  An exclamation mark without a suffix is
a tag by itself, and so is one whose suffix starts with the byte that ends texts. -/
def tagParts (c : Cursor) : Except Break (List Char × Tag × Cursor) := do
  let start := c.place
  if (c.rest.drop 1).head? = some '<' then do
    let (suffix, c) ← tagText true false start [] (c.skip 2)
    if c.rest.head? = some '>' then .ok ([], suffix, c.skip 1) else c.fails .openTag .tag start
  else do
    let (handle, c) ← tagHandle false start c
    if 1 < handle.length && handle.getLast? = some '!' then do
      let (suffix, c) ← tagText false false start [] c
      .ok (handle, suffix, c)
    else do
      let (suffix, c) ← tagText false false start handle c
      if suffix.head?.all (· = 0) then .ok ([], Tag.ofAscii ['!'], c) else .ok (['!'], suffix, c)

/-- Reads a tag. -/
def tag (s : Scanner) : Except Break Scanner := do
  let s ← s.saveKey
  let start := s.cursor.place
  let (handle, suffix, c) ← tagParts s.cursor
  if atGap c.rest || (s.inFlow && c.rest.head? = some ',') then
    .ok { s.emit (.tag (String.ofList handle) suffix) start with
      cursor := c, keyAllowed := false }
  else c.fails .noGap .tag start

/-! ## Structure -/

/-- Reads a marker of a document. -/
def marker (s : Scanner) (token : Token) : Except Break Scanner := do
  let s ← (s.unroll none).dropKey
  .ok { s.mark token 3 with keyAllowed := false }

/-- Opens a flow collection. -/
def openFlow (s : Scanner) (token : Token) : Except Break Scanner := do
  let s ← s.saveKey
  .ok { s.mark token 1 with flows := s.start :: s.flows, start := none, keyAllowed := true }

/-- Closes a flow collection. -/
def closeFlow (s : Scanner) (token : Token) : Except Break Scanner := do
  let s ← s.dropKey
  .ok { s.mark token 1 with
    flows := s.flows.drop 1
    start := s.flows.head?.join
    keyAllowed := false }

/-- Reads the comma of a flow collection. -/
def flowEntry (s : Scanner) : Except Break Scanner := do
  let s ← s.dropKey
  .ok { s.mark .flowEntry 1 with keyAllowed := true }

/-- Starts a block collection at the cursor, where one may start. -/
def rollHere (s : Scanner) (token : Token) (problem : Problem) : Except Break Scanner :=
  if s.inFlow then .ok s
  else if s.keyAllowed then .ok (s.roll s.cursor.place s.count token)
  else s.fails problem

/-- Reads the dash of a block sequence. -/
def blockEntry (s : Scanner) : Except Break Scanner := do
  let s ← s.rollHere .blockSequence .sequenceEntryHere
  let s ← s.dropKey
  .ok { s.mark .blockEntry 1 with keyAllowed := true }

/-- Reads the question mark of a key. -/
def explicitKey (s : Scanner) : Except Break Scanner := do
  let s ← s.rollHere .blockMapping .keyHere
  let s ← s.dropKey
  .ok { s.mark .key 1 with keyAllowed := !s.inFlow }

/-- Reads the colon before a value, which may turn what stands before it into a key. -/
def value (s : Scanner) : Except Break Scanner := do
  match s.start with
  | some k =>
    let s := (s.emitAt k.token .key k.place).roll k.place k.token .blockMapping
    .ok { s.mark .value 1 with start := none, keyAllowed := false }
  | none =>
    let s ← s.rollHere .blockMapping .valueHere
    .ok { s.mark .value 1 with keyAllowed := !s.inFlow }

/-! ## Scalars -/

/-- Reads a plain scalar. -/
def plainScalar (s : Scanner) : Except Break Scanner := do
  let s ← s.saveKey
  let margin := match s.columns with
    | [] => 0
    | n :: _ => n + 1
  let (text, ended, c) ← plain s.inFlow margin s.cursor
  .ok { s.emit (.scalar .plain (String.ofList text)) s.cursor.place with
    cursor := c, keyAllowed := ended }

/-- Reads a quoted scalar. -/
def quotedScalar (s : Scanner) (double : Bool) : Except Break Scanner := do
  let s ← s.saveKey
  let (text, c) ← quoted double s.cursor
  .ok { s.emit (.scalar .quoted (String.ofList text)) s.cursor.place with
    cursor := c, keyAllowed := false }

/-- Reads a block scalar. -/
def blockScalar (s : Scanner) (folded : Bool) : Except Break Scanner := do
  let s ← s.dropKey
  let (text, c) ← block folded s.columns.head? s.cursor
  .ok { s.emit (.scalar .block (String.ofList text)) s.cursor.place with
    cursor := c, keyAllowed := true }

/-- The characters that a plain scalar does not start with. -/
def indicators : List Char :=
  ['-', '?', ':', ',', '[', ']', '\x7b', '\x7d', '#', '&', '*', '!', '|', '>', '\'', '"', '%',
    '@', '\x60']

/-- Reads the token that starts with a character. -/
def read (s : Scanner) (c : Char) (rest : List Char) : Except Break Scanner :=
  let first := s.cursor.column = 0
  if first ∧ c = '%' then s.directive
  else if first ∧ startsWith ['-', '-', '-'] (c :: rest) then s.marker .documentStart
  else if first ∧ startsWith ['.', '.', '.'] (c :: rest) then s.marker .documentEnd
  else if c = '[' then s.openFlow .flowSequence
  else if c = '\x7b' then s.openFlow .flowMapping
  else if c = ']' then s.closeFlow .flowSequenceEnd
  else if c = '\x7d' then s.closeFlow .flowMappingEnd
  else if c = ',' then s.flowEntry
  else if c = '-' ∧ atGap rest then s.blockEntry
  else if c = '?' ∧ (s.inFlow ∨ atGap rest) then s.explicitKey
  else if c = ':' ∧ (s.inFlow ∨ atGap rest) then s.value
  else if c = '*' then s.named .reference .reference
  else if c = '&' then s.named .anchor .anchor
  else if c = '!' then s.tag
  else if c = '|' ∧ ¬ s.inFlow then s.blockScalar false
  else if c = '>' ∧ ¬ s.inFlow then s.blockScalar true
  else if c = '\'' then s.quotedScalar false
  else if c = '"' then s.quotedScalar true
  else if ¬ (isBlank c ∨ isBreak c) ∧
      (¬ indicators.contains c ∨ c = '-' ∨ (¬ s.inFlow ∧ (c = '?' ∨ c = ':'))) then
    s.plainScalar
  else s.cursor.fails .noToken .nextToken s.cursor.place

/-- Ends the text.  If its last line has no end, the line is ended here. -/
def finish (s : Scanner) : Except Break Scanner := do
  let c := s.cursor
  let c := if c.column = 0 then c else { c with line := c.line + 1, column := 0 }
  let s ← ({ s with cursor := c }.unroll none).dropKey
  .ok { s.emit .finish c.place with keyAllowed := false }

/-- Finds some more tokens. -/
def next (s : Scanner) : Except Break Scanner := do
  let s ← (toToken (s.cursor.rest.length + 1) s).settle
  let s := s.unroll (some s.cursor.column)
  match s.cursor.rest with
  | [] => s.finish
  | c :: rest => s.read c rest

/-- Whether the next token may have to wait for one that goes before it. -/
def isOpen (s : Scanner) : Bool :=
  (s.start :: s.flows).any fun k => k.any fun k => k.token = s.taken

/-- The scanner once it has a token to take, and nothing can come before it any more. -/
def ready : Nat → Scanner → Except Break Scanner
  | 0, s => .ok s
  | n + 1, s => do
    if s.waiting.isEmpty then ready n (← s.next)
    else do
      let s ← s.settle
      if s.isOpen then ready n (← s.next) else .ok s

end Scanner

end PipelinesOperator.Yaml
