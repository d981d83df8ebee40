import PipelinesOperator.Yaml.Fault
import PipelinesOperator.Yaml.Tokens

/-!
# The parts of a document

A document comes down to its parts in order: scalars, references, and where collections
start and end.  An anchor gets a number when it is met: as many as there are names so far.
A number stands for the part that got it last.

A text that breaks still has the parts before the break, and what is wrong with them is
noticed first.

## Main definitions

* `Part`: a scalar, a reference, or the start or the end of a collection
* `Composition`, `compose`: the parts of the first document of a text
-/

namespace PipelinesOperator.Yaml

/-- A part of a document. -/
inductive Part where
  | scalar (tag : Option Tag) (style : Style) (text : String)
  | sequence (tag : Option Tag)
  | mapping (tag : Option Tag)
  /-- The end of a sequence or of a mapping. -/
  | close
  /-- A reference to the anchor of a number. -/
  | reference (anchor : Nat)
  deriving DecidableEq, Repr

/-- The state of a composer. -/
structure Composer where
  scanner : Scanner
  /-- What the handles of tags stand for. -/
  handles : List (String × Tag) := []
  /-- The numbers of the names of anchors. -/
  names : List (String × Nat) := []
  /-- The numbers of anchors with the positions of their parts, the last first. -/
  anchors : List (Nat × Nat) := []
  /-- The parts with their places, the last first. -/
  parts : List (Part × Place) := []

/-- A computation that takes tokens and adds parts. -/
abbrev Composing := ExceptT Fault (StateM Composer)

namespace Composing

/-- The next token, left where it is. -/
def peek : Composing Placed := do
  let c ← get
  match c.scanner.ready (c.scanner.cursor.rest.length + 2) with
  | .error b => throw (.broken b)
  | .ok scanner => do
    set { c with scanner }
    return scanner.waiting.head?.getD ⟨.finish, scanner.cursor.place⟩

/-- Takes a token. -/
def take : Composing Unit :=
  modify fun c => { c with scanner := { c.scanner with
    waiting := c.scanner.waiting.drop 1, taken := c.scanner.taken + 1 } }

/-- A break at a place, in something that started at another. -/
def fails {α : Type} (problem : Problem) (place : Place) (setting : Option (Setting × Place)) :
    Composing α :=
  throw (.broken ⟨problem, place, setting⟩)

/-- Adds a part. -/
def add (part : Part) (place : Place) : Composing Unit :=
  modify fun c => { c with parts := (part, place) :: c.parts }

/-- Adds a part that may be anchored. -/
def addNamed (anchor : Option String) (part : Part) (place : Place) : Composing Unit := do
  match anchor with
  | some name =>
    modify fun c =>
      let number := c.names.length
      { c with
        names := (name, number) :: c.names.filter fun e => e.1 ≠ name
        anchors := (number, c.parts.length) :: c.anchors }
  | none => pure ()
  add part place

/-- Adds a scalar that is not written. -/
def addMissing (place : Place) : Composing Unit := add (.scalar none .plain "") place

/-- Adds a reference to an anchor, which has to be known by now. -/
def addReference (name : String) (place : Place) : Composing Unit := do
  match (← get).names.lookup name with
  | some number => add (.reference number) place
  | none => throw (.unknownAnchor place)

/-- Whether one of some tokens stands next. -/
def at? (tokens : List Token) : Composing Bool := do
  return tokens.contains (← peek).token

/-- The anchor at the next token. -/
def anchor? : Composing (Option String) := do
  match (← peek).token with
  | .anchor name => do take; return some name
  | _ => return none

/-- The tag at the next token, with its place. -/
def tag? : Composing (Option (String × Tag × Place)) := do
  match ← peek with
  | ⟨.tag handle suffix, place⟩ => do take; return some (handle, suffix, place)
  | _ => return none

/-- The full form of a tag of a node that starts at a place.  A zero byte ends each of its
parts. -/
def full (start : Place) (tag : Option (String × Tag × Place)) : Composing (Option Tag) := do
  let ended (part : Tag) : Tag := part.takeWhile (· ≠ 0)
  match tag with
  | none => return none
  | some (handle, suffix, place) =>
    if handle = "" then return some (ended suffix)
    else match (← get).handles.lookup handle with
      | some lead => return some (ended lead ++ ended suffix)
      | none => fails .unknownHandle place (some (.node, start))

/-- The anchor and the tag before a node, in either order. -/
def properties : Composing (Option String × Option (String × Tag × Place)) := do
  match ← anchor? with
  | some name => return (some name, ← tag?)
  | none => do
    let tag ← tag?
    return (← anchor?, tag)

/-- Takes the end of a flow collection. -/
def flowEnd : Composing Unit := do
  add .close (← peek).place
  take

/-- Takes the comma between two items of a flow collection that started at a place. -/
def flowComma (start : Place) (problem : Problem) (setting : Setting) : Composing Unit := do
  let next ← peek
  if next.token = .flowEntry then take else fails problem next.place (some (setting, start))

/-- What may stand where the value of a block mapping is left out. -/
def afterBlockValue : List Token := [.key, .value, .blockEnd]

mutual

/-- Reads a node.  Block collections are read only within blocks, and sequences without an
indentation of their own only as values of mappings. -/
def node : Nat → (block unindented : Bool) → Composing Unit
  | 0, _, _ => pure ()
  | n + 1, inBlock, unindented => do
    let first ← peek
    let start := first.place
    match first.token with
    -- A reference stands alone, without anchor and tag.
    | .reference name => do take; addReference name start
    | _ => do
      let (anchor, tag) ← properties
      let next ← peek
      let tag ← full start tag
      match next.token with
      | .scalar style text => do
        addNamed anchor (.scalar tag style text) start
        take
      | .flowSequence => do
        addNamed anchor (.sequence tag) start
        take
        flowItems n next.place true
      | .flowMapping => do
        addNamed anchor (.mapping tag) start
        take
        flowPairs n next.place true
      | token =>
        if unindented ∧ token = .blockEntry then do
          addNamed anchor (.sequence tag) start
          unindentedItems n
        else if inBlock ∧ token = .blockSequence then do
          addNamed anchor (.sequence tag) start
          take
          blockItems n next.place
        else if inBlock ∧ token = .blockMapping then do
          addNamed anchor (.mapping tag) start
          take
          blockPairs n next.place
        -- An anchor or a tag with nothing behind it is that of an empty scalar.
        else if anchor.isSome || tag.isSome then addNamed anchor (.scalar tag .plain "") start
        else
          fails .noContent next.place (some (if inBlock then .blockNode else .flowNode, start))

/-- Reads a node, unless one of some tokens says that it is not written. -/
def nodeUnless : Nat → (block unindented : Bool) → List Token → Composing Unit
  | 0, _, _, _ => pure ()
  | n + 1, inBlock, unindented, ends => do
    if ← at? ends then addMissing (← peek).place else node n inBlock unindented

/-- Reads the value of a key, if one is written. -/
def valueUnless : Nat → (block unindented : Bool) → List Token → Composing Unit
  | 0, _, _, _ => pure ()
  | n + 1, inBlock, unindented, ends => do
    if ← at? [.value] then do
      take
      nodeUnless n inBlock unindented ends
    else addMissing (← peek).place

/-- Reads the items of a block sequence up to its end. -/
def blockItems : Nat → Place → Composing Unit
  | 0, _ => pure ()
  | n + 1, start => do
    let next ← peek
    match next.token with
    | .blockEntry => do
      take
      nodeUnless n true false [.blockEntry, .blockEnd]
      blockItems n start
    | .blockEnd => do
      add .close next.place
      take
    | _ => fails .noDash next.place (some (.blockSequence, start))

/-- Reads the items of a sequence without an indentation of its own. -/
def unindentedItems : Nat → Composing Unit
  | 0 => pure ()
  | n + 1 => do
    if ← at? [.blockEntry] then do
      take
      nodeUnless n true false (.blockEntry :: afterBlockValue)
      unindentedItems n
    else add .close (← peek).place

/-- Reads the pairs of a block mapping up to its end. -/
def blockPairs : Nat → Place → Composing Unit
  | 0, _ => pure ()
  | n + 1, start => do
    let next ← peek
    match next.token with
    | .key => do
      take
      nodeUnless n true true afterBlockValue
      valueUnless n true true afterBlockValue
      blockPairs n start
    | .blockEnd => do
      add .close next.place
      take
    | _ => fails .noKey next.place (some (.blockMapping, start))

/-- Reads the items of a flow sequence up to its end.  An item may be a mapping of one pair
without braces. -/
def flowItems : Nat → Place → (first : Bool) → Composing Unit
  | 0, _, _ => pure ()
  | n + 1, start, first => do
    if ← at? [.flowSequenceEnd] then flowEnd
    else do
      unless first do flowComma start .noCommaOrBracket .flowSequence
      let next ← peek
      match next.token with
      | .flowSequenceEnd => flowEnd
      | .key => do
        -- A pair without braces is a mapping of its own, which ends with it.
        add (.mapping none) next.place
        take
        if ← at? [.value, .flowEntry, .flowSequenceEnd] then do
          addMissing (← peek).place
          take
        else node n false false
        valueUnless n false false [.flowEntry, .flowSequenceEnd]
        add .close (← peek).place
        flowItems n start false
      | _ => do
        node n false false
        flowItems n start false

/-- Reads the pairs of a flow mapping up to its end. -/
def flowPairs : Nat → Place → (first : Bool) → Composing Unit
  | 0, _, _ => pure ()
  | n + 1, start, first => do
    if ← at? [.flowMappingEnd] then flowEnd
    else do
      unless first do flowComma start .noCommaOrBrace .flowMapping
      match (← peek).token with
      | .flowMappingEnd => flowEnd
      | .key => do
        take
        nodeUnless n false false [.value, .flowEntry, .flowMappingEnd]
        valueUnless n false false [.flowEntry, .flowMappingEnd]
        flowPairs n start false
      | _ => do
        node n false false
        addMissing (← peek).place
        flowPairs n start false

end

/-- The handles that every document knows. -/
def standardHandles : List (String × Tag) :=
  [("!", Tag.ofAscii ['!']), ("!!", Tag.standardLead)]

/-- Reads the directives before a document: at most one version, which has to be 1.1 or 1.2,
and handles that differ. -/
def directives : Nat → (versioned : Bool) → Composing Unit
  | 0, _ => pure ()
  | n + 1, versioned => do
    let next ← peek
    match next.token with
    | .version major minor =>
      if versioned then fails .secondVersion next.place none
      else if major ≠ 1 ∨ (minor ≠ 1 ∧ minor ≠ 2) then fails .otherVersion next.place none
      else do
        take
        directives n true
    | .handle handle lead =>
      if ((← get).handles.lookup handle).isSome then fails .secondHandle next.place none
      else do
        take
        modify fun c => { c with handles := (handle, lead) :: c.handles }
        directives n versioned
    | _ => modify fun c => { c with handles := c.handles ++ standardHandles }

/-- Whether a token stands before the contents of a document, or behind a document. -/
def outside : Token → Bool
  | .version .. => true
  | .handle .. => true
  | .documentStart => true
  | .documentEnd => true
  | .finish => true
  | _ => false

/-- Reads the first document of a text, if there is one. -/
def document (n : Nat) : Composing Unit := do
  let first := (← peek).token
  if first = .finish then pure ()
  else do
    if outside first ∧ first ≠ .documentEnd then do
      directives n false
      let next ← peek
      if next.token = .documentStart then take else fails .noDocumentStart next.place none
      let next ← peek
      if outside next.token then addMissing next.place else node n true false
    else do
      directives n false
      node n true false
    if ← at? [.documentEnd] then take

/-- Whether anything stands behind the first document, markers that end a document aside. -/
def more : Nat → Composing Bool
  | 0 => return false
  | n + 1 => do
    match (← peek).token with
    | .documentEnd => do
      take
      more n
    | token => return token ≠ .finish

end Composing

/-- The first document of a text: its parts with their places, the numbers of its anchors
with the positions of their parts, the last first, the fault that ends it early, and whether
something stands behind it. -/
structure Composition where
  parts : List (Part × Place)
  anchors : List (Nat × Nat)
  fault : Option Fault
  more : Bool

/-- What stands from the part of an anchor on. -/
def Composition.target? (c : Composition) (number : Nat) : Option (List (Part × Place)) :=
  (c.anchors.lookup number).map c.parts.drop

/-- The first character that must not stand in a text, by the bytes before it. -/
def control? (text : List Char) : Option Nat :=
  let allowed := text.takeWhile isAllowed
  if allowed.length < text.length then
    some (Text.byteLength allowed)
  else none

/-- The first document of a text. -/
def compose (text : List Char) : Composition :=
  match control? text with
  | some offset => ⟨[], [], some (.control offset), false⟩
  | none =>
    -- No character gives more than four tokens, and no token takes more than four steps.
    let steps := 16 * (text.length + 1)
    let (result, c) := (Composing.document steps).run { scanner := { cursor := { rest := text } } }
    match result with
    | .error fault => ⟨c.parts.reverse, c.anchors, some fault, false⟩
    | .ok _ =>
      let more := match ((Composing.more steps).run c).1 with
        | .ok more => more
        | .error _ => true
      ⟨c.parts.reverse, c.anchors, none, more⟩

end PipelinesOperator.Yaml
