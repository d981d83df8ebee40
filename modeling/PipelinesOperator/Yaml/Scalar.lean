import PipelinesOperator.Yaml.Cursor

/-!
# Scalars of YAML

A plain scalar ends where an indicator stands, a quoted one at its quote, and a block scalar
where a line is indented less.  The first two fold the line ends within them; a block scalar
folds them only if it says so, and says what becomes of those at its end.

## Main definitions

* `plain`: a plain scalar, and whether a line ends behind it
* `quoted`: a scalar between single or double quotes
* `block`: a literal or a folded block
-/

namespace PipelinesOperator.Yaml

/-- The ends of empty lines from here on, in a plain scalar that started at a place.  A tab
must not stand left of the margin. -/
def emptyLines (start : Place) (margin : Nat) : Nat → Cursor → Except Break (List Char × Cursor)
  | 0, c => .ok ([], c)
  | n + 1, c =>
    let (blanks, behind) := c.span isBlank
    if (blanks.take (margin - c.column)).contains '\t' then
      (c.skip (blanks.takeWhile (· ≠ '\t')).length).fails .tabInScalar .plain start
    else match behind.lineBreak? with
      | none => .ok ([], behind)
      | some (b, c) => do
        let (breaks, c) ← emptyLines start margin n c
        .ok (b :: breaks, c)

/-! ## Plain scalars -/

/-- The characters of a plain scalar up to the next gap or indicator, and whether a colon
stops them that must not stand there: in a flow collection one before an indicator. -/
def plainRun (flow : Bool) : List Char → List Char × Bool
  | [] => ([], false)
  | c :: rest =>
    if isBlank c || isBreak c then ([], false)
    else if flow && c = ':' && ([',', '?', '[', ']', '\x7b', '\x7d'].any fun x => rest.head? = some x)
    then ([], true)
    else if (c = ':' && atGap rest) || (flow && [',', '[', ']', '\x7b', '\x7d'].contains c) then
      ([], false)
    else
      let (run, stopped) := plainRun flow rest
      (c :: run, stopped)

/-- The rest of a plain scalar from a part of it on, with what joins the part to the text
before it, and whether a line end was met since; then whether one was met behind the
scalar. -/
def plainParts (start : Place) (flow : Bool) (margin : Nat) :
    Nat → List Char → Bool → Cursor → Except Break (List Char × Bool × Cursor)
  | 0, _, ended, c => .ok ([], ended, c)
  | n + 1, joint, ended, c =>
    -- A marker of a document ends the scalar, and so does a comment, which starts behind a gap.
    if c.atMarker || c.rest.head? = some '#' then .ok ([], ended, c)
    else
      let (run, stopped) := plainRun flow c.rest
      let behind := c.skip run.length
      if stopped then behind.fails .colonInScalar .plain start
      else
        let text := if run.isEmpty then [] else joint ++ run
        let ended := ended && run.isEmpty
        if behind.rest.isEmpty || !atGap behind.rest then .ok (text, ended, behind)
        else
          let (spaces, c) := behind.span isBlank
          match c.lineBreak? with
          | none => do
            let (more, ended, c) ← plainParts start flow margin n spaces ended c
            .ok (text ++ more, ended, c)
          | some (b, c) => do
            let (breaks, c) ← emptyLines start margin (c.rest.length + 1) c
            -- A line that is not indented enough belongs to what is around the scalar.
            if !flow && c.column < margin then .ok (text, true, c)
            else do
              let (more, ended, c) ← plainParts start flow margin n (fold (b :: breaks)) true c
              .ok (text ++ more, ended, c)

/-- Reads a plain scalar: its text, whether a line ends behind it, and the cursor there. -/
def plain (flow : Bool) (margin : Nat) (c : Cursor) : Except Break (List Char × Bool × Cursor) :=
  plainParts c.place flow margin (c.rest.length + 1) [] false c

/-! ## Quoted scalars -/

/-- The character of an escape of one letter. -/
def escape? (c : Char) : Option Char :=
  if c = '0' then some '\x00'
  else if c = 'a' then some '\x07'
  else if c = 'b' then some '\x08'
  else if c = 't' ∨ c = '\t' then some '\t'
  else if c = 'n' then some '\n'
  else if c = 'v' then some '\x0b'
  else if c = 'f' then some '\x0c'
  else if c = 'r' then some '\r'
  else if c = 'e' then some '\x1b'
  else if c = ' ' then some ' '
  else if c = '"' then some '"'
  else if c = '/' then some '/'
  else if c = '\\' then some '\\'
  else if c = 'N' then some '\u0085'
  else if c = '_' then some '\u00a0'
  else if c = 'L' then some '\u2028'
  else if c = 'P' then some '\u2029'
  else none

/-- How many digits an escape by number has. -/
def escapeWidth? (c : Char) : Option Nat :=
  if c = 'x' then some 2
  else if c = 'u' then some 4
  else if c = 'U' then some 8
  else none

/-- The character of an escape by number, with the cursor at its digits. -/
def numbered (start : Place) (width : Nat) (c : Cursor) : Except Break Char :=
  let digits := c.rest.take width
  match digits.mapM Text.hexDigit? with
  | none => c.fails .noHexadecimal .escape start
  | some values =>
    let n := Text.ofDigits 16 values
    if values.length < width then c.fails .noHexadecimal .escape start
    -- The numbers between are halves of pairs, which are no characters by themselves.
    else if n < 0xD800 ∨ (0xDFFF < n ∧ n ≤ 0x10FFFF) then .ok (Char.ofNat n)
    else c.fails .noCharacter .escape start

/-- The characters between two quotes up to the next gap, quote or escaped line end. -/
def quotedRun (start : Place) (double : Bool) :
    Nat → Cursor → Except Break (List Char × Cursor)
  | 0, c => .ok ([], c)
  | n + 1, c =>
    let more (a : Char) (c : Cursor) : Except Break (List Char × Cursor) := do
      let (cs, c) ← quotedRun start double n c
      .ok (a :: cs, c)
    match c.rest with
    | [] => .ok ([], c)
    | a :: rest =>
      if isBlank a || isBreak a then .ok ([], c)
      else if double then
        if a = '"' then .ok ([], c)
        else if a = '\\' then
          match rest with
          | [] => c.fails .unknownEscape .escape start
          | e :: _ =>
            -- An escaped line end joins two lines, and is left to the caller.
            if isBreak e then .ok ([], c)
            else match escapeWidth? e, escape? e with
              | some width, _ => do
                let a ← numbered start width (c.skip 2)
                more a (c.skip (2 + width))
              | none, some a => more a (c.skip 2)
              | none, none => c.fails .unknownEscape .escape start
        else more a (c.skip 1)
      else if a = '\'' then
        -- Between single quotes only the quote is escaped, by another one.
        if rest.head? = some '\'' then more '\'' (c.skip 2) else .ok ([], c)
      else more a (c.skip 1)

/-- The rest of a quoted scalar, up to its closing quote. -/
def quotedParts (start : Place) (double : Bool) : Nat → Cursor → Except Break (List Char × Cursor)
  | 0, c => c.fails .openScalar .quoted start
  | n + 1, c =>
    if c.atMarker then c.fails .markerInScalar .quoted start
    else if c.rest.isEmpty then c.fails .openScalar .quoted start
    else do
      let (text, c) ← quotedRun start double (c.rest.length + 1) c
      match c.rest with
      | [] => c.fails .openScalar .quoted start
      | h :: _ =>
        if h = '\\' then do
          -- The line end is dropped with its escape, but empty lines behind it count.
          let c := (((c.skip 1).lineBreak?).map Prod.snd).getD c
          let (breaks, c) ← emptyLines start 0 (c.rest.length + 1) c
          let (more, c) ← quotedParts start double n c
          .ok (text ++ breaks ++ more, c)
        else if isBlank h || isBreak h then do
          let (spaces, c) := c.span isBlank
          match c.lineBreak? with
          | none => do
            let (more, c) ← quotedParts start double n c
            .ok (text ++ spaces ++ more, c)
          | some (b, c) => do
            let (breaks, c) ← emptyLines start 0 (c.rest.length + 1) c
            let (more, c) ← quotedParts start double n c
            .ok (text ++ fold (b :: breaks) ++ more, c)
        else .ok (text, c.skip 1)

/-- Reads a quoted scalar from its opening quote on. -/
def quoted (double : Bool) (c : Cursor) : Except Break (List Char × Cursor) :=
  quotedParts c.place double (c.rest.length + 1) (c.skip 1)

/-! ## Block scalars -/

/-- What becomes of the line ends at the end of a block. -/
inductive Chomp where
  | strip
  | clip
  | keep
  deriving DecidableEq, Repr

/-- The chomping indicator at a cursor. -/
def chomp? (c : Cursor) : Option (Chomp × Cursor) :=
  match c.rest with
  | '+' :: _ => some (.keep, c.skip 1)
  | '-' :: _ => some (.strip, c.skip 1)
  | _ => none

/-- The indentation indicator at a cursor, if there is one; it must not be zero. -/
def increment (start : Place) (c : Cursor) : Except Break (Option Nat × Cursor) :=
  match c.rest.head?.bind Text.digit? with
  | none => .ok (none, c)
  | some 0 => c.fails .zeroIndentation .block start
  | some n => .ok (some n, c.skip 1)

/-- The two indicators of a block, in either order. -/
def blockHeader (start : Place) (c : Cursor) : Except Break (Chomp × Option Nat × Cursor) :=
  match chomp? c with
  | some (chomp, c) => do
    let (n, c) ← increment start c
    .ok (chomp, n, c)
  | none => do
    let (n, c) ← increment start c
    match n, chomp? c with
    | some n, some (chomp, c) => .ok (chomp, some n, c)
    | n, _ => .ok (.clip, n, c)

/-- The ends of the empty lines of a block from here on, the largest column met among them,
and the cursor behind the indentation of the next line.  The margin is not known in the
first lines of a block. -/
def blockLines (start : Place) (margin : Option Nat) :
    Nat → Cursor → Except Break (List Char × Nat × Cursor)
  | 0, c => .ok ([], c.column, c)
  | n + 1, c =>
    let spaces := c.rest.takeWhile (· = ' ')
    let c := c.skip (match margin with
      | none => spaces.length
      | some m => min spaces.length (m - c.column))
    let inside := match margin with
      | none => true
      | some m => decide (c.column < m)
    if inside && c.rest.head? = some '\t' then c.fails .tabIndentation .block start
    else match c.lineBreak? with
      | none => .ok ([], c.column, c)
      | some (b, behind) => do
        let (breaks, widest, last) ← blockLines start margin n behind
        .ok (b :: breaks, max c.column widest, last)

/-- The lines of a block from a cursor on, given what stands before: the last line end,
whether the last line starts with a blank, and the ends of empty lines. -/
def blockParts (start : Place) (folded : Bool) (chomp : Chomp) (margin : Nat) :
    Nat → List Char → Bool → List Char → Cursor → Except Break (List Char × Cursor)
  | 0, _, _, _, c => .ok ([], c)
  | n + 1, lead, blank, empty, c =>
    if c.column ≠ margin ∨ c.rest.isEmpty then
      let tail := match chomp with
        | .strip => []
        | .clip => lead
        | .keep => lead ++ empty
      .ok (tail, c)
    else do
      let indented := c.rest.head?.any isBlank
      -- Lines are folded between two that start without a blank; others keep their ends.
      let joint :=
        if folded && lead = ['\n'] && !blank && !indented then
          if empty.isEmpty then [' '] else empty
        else lead ++ empty
      let (line, c) := c.span fun _ => true
      let (lead, c) := match c.lineBreak? with
        | some (b, c) => ([b], c)
        | none => ([], c)
      let (empty, _, c) ← blockLines start (some margin) (c.rest.length + 1) c
      let (more, c) ← blockParts start folded chomp margin n lead indented empty c
      .ok (joint ++ line ++ more, c)

/-- Reads a block scalar from its indicator on, inside a block of a given column. -/
def block (folded : Bool) (parent : Option Nat) (c : Cursor) :
    Except Break (List Char × Cursor) := do
  let start := c.place
  let (chomp, given, c) ← blockHeader start (c.skip 1)
  let c ← c.endLine .block start
  -- Without an indicator the first line that is not empty decides how deep the block is.
  let known := given.map fun n => parent.getD 0 + n
  let (empty, widest, c) ← blockLines start known (c.rest.length + 1) c
  let least := match parent with
    | none => 1
    | some n => n + 1
  let margin := known.getD (max widest least)
  blockParts start folded chomp margin (c.rest.length + 1) [] false empty c

end PipelinesOperator.Yaml
