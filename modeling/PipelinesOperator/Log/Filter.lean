import PipelinesOperator.Log.Pattern
import PipelinesOperator.Log.Record

/-!
# Log filters

A filter is written as clauses with commas between them.  A clause gives the level from
which on records are kept: of every target, `info`, or of the targets that start with some
text, `target=info`.  It can ask for a field that the record has to have,
`target[\x7bfield\x7d]=info`.  Of the clauses that apply to a record the most specific one
counts; if none does, the record is dropped.

Clauses can also name spans of time within which records are kept.  The program has no such
spans, so these clauses keep nothing.

## Main definitions

* `Filter.read`: the filter of a text, or why it is none
* `Filter.keeps`: whether a record is kept
-/

namespace PipelinesOperator.Log

/-- What a clause says of records. -/
structure Directive where
  /-- What the target has to start with. -/
  target : Option String
  /-- The fields that the record has to have. -/
  fields : List String
  /-- The level from which on records are kept; without one, none is. -/
  threshold : Option Level
  deriving DecidableEq, Repr

namespace Directive

/-- Whether a directive says anything of a record. -/
def applies (d : Directive) (r : Record) : Bool :=
  (d.target.all fun target => target.toList.isPrefixOf r.target.toList) &&
    d.fields.all fun field => r.fields.any fun f => f.1 = field

/-- Whether a directive keeps the records of a level that it applies to. -/
def keeps (d : Directive) (level : Level) : Bool :=
  d.threshold.any fun threshold => threshold.rank ≤ level.rank

/-- The room that the target of a directive takes, more than none for an empty one. -/
def reach (d : Directive) : Nat := (d.target.map fun t => t.utf8ByteSize + 1).getD 0

/-- Whether a directive counts rather than one written before it: if it is at least as
specific.  A longer target is more specific, and then more fields are. -/
def outranks (d e : Directive) : Bool :=
  if d.reach ≠ e.reach then e.reach < d.reach
  else if d.fields.length ≠ e.fields.length then e.fields.length < d.fields.length
  else !d.fields.lex e.fields (· < ·)

end Directive

/-- What a clause is about. -/
inductive Clause where
  | records (directive : Directive)
  | spans
  deriving DecidableEq, Repr

/-- Why a text is no filter. -/
inductive Refusal where
  /-- A clause is not well written. -/
  | malformed
  /-- A part of a clause starts or ends within a character.  This ends the program. -/
  | torn
  deriving DecidableEq, Repr

namespace Clause

/-- A level, or `off`, by its name or number. -/
def threshold (cs : List Char) : Except Refusal (Option Level) :=
  let digits := if cs.head? = some '+' then cs.tail else cs
  let number := if digits.isEmpty then none else (digits.mapM Text.digit?).map (Text.ofDigits 10)
  match number with
  | some 0 => .ok none
  | some 1 => .ok (some .error)
  | some 2 => .ok (some .warn)
  | some 3 => .ok (some .info)
  | some 4 => .ok (some .debug)
  | some 5 => .ok (some .trace)
  | _ =>
    let name := Text.upperAscii (String.ofList cs)
    if name = "OFF" then .ok none
    else match [Level.trace, .debug, .info, .warn, .error].find? fun l => l.text = name with
      | some level => .ok (some level)
      | none => .error .malformed

/-- The level behind an equals sign, where none means all. -/
def openThreshold (cs : List Char) : Except Refusal (Option Level) :=
  if cs.isEmpty then .ok (some .trace) else threshold cs

/-- Whether a clause can start with a character. -/
def starts (c : Char) : Bool :=
  ['-', ':', '_'].contains c || Text.isLetter c || Text.isNumber c

/-- The two parts of a clause before and behind so many of its bytes. -/
def apart (raw : List Char) (size : Nat) : Except Refusal (List Char × List Char) :=
  match Text.splitBytes? size raw with
  | some parts => .ok parts
  | none => .error .torn

/-- A part of a clause from one place to another.  Here and below places are found in the
clause without the blanks around it, and texts are cut from the clause as it stands, as many
bytes from its start. -/
def cut (raw bare : List Char) (start stop : Nat) : Except Refusal (List Char) := do
  let (before, _) ← apart raw (Text.byteLength (bare.take stop))
  return (← apart before (Text.byteLength (bare.take start))).2

/-- The rest of a clause from some place on. -/
def cutFrom (raw bare : List Char) (start : Nat) : Except Refusal (List Char) := do
  return (← apart raw (Text.byteLength (bare.take start))).2

/-- What stands behind the part in brackets: nothing, or a level. -/
def tail (raw bare : List Char) (place : Nat) : Except Refusal (Option Level) := do
  match bare.drop place with
  | [] => return some .trace
  | '=' :: _ => openThreshold (← cutFrom raw bare (place + 1))
  | _ => throw .malformed

/-- A field that a clause asks for, with or without a value. -/
def field (text : List Char) : Except Refusal (String × Bool) :=
  match Text.split '=' text with
  | [[]] => .error .malformed
  | name :: value :: _ =>
    if isValue value then .ok (String.ofList name, true) else .error .malformed
  | name => .ok (String.ofList name.flatten, false)

/-- The part in brackets, which names a span or a field or both, and what stands behind it. -/
def bracketed (target : Option String) (raw bare : List Char) (place : Nat) :
    Except Refusal Clause := do
  let inside := bare.drop place
  match inside.findIdx? fun c => c = ']' ∨ c = '\x7b' with
  | none => throw .malformed
  | some size =>
    let span ← cut raw bare place (place + size)
    -- A span without a field; what stands behind it still has to be well written.
    if inside[size]? = some ']' then
      let _ ← tail raw bare (place + size + 1)
      return .spans
    else
      let start := place + size + 1
      match (bare.drop start).findIdx? (· = '\x7d') with
      | none => throw .malformed
      | some length =>
        let (name, hasValue) ← field (← cut raw bare start (start + length))
        if bare[start + length + 1]? = some ']' then
          let threshold ← tail raw bare (start + length + 2)
          -- Only a field by itself, without a span and a value, is about records.
          return if span.isEmpty && !hasValue then .records ⟨target, [name], threshold⟩
            else .spans
        else throw .malformed

/-- The clause of a text. -/
def read (raw : List Char) : Except Refusal Clause := do
  let bare := Text.trim raw
  match bare with
  | [] => throw .malformed
  | '[' :: _ => bracketed none raw bare 1
  | c :: rest =>
    if starts c then
      match rest.findIdx? fun c => c = '=' ∨ c = '[' with
      | none =>
        -- A word by itself is a level if it is one, and otherwise a target.
        match threshold raw with
        | .ok threshold => return .records ⟨none, [], threshold⟩
        | .error _ => return .records ⟨some (String.ofList raw), [], some .trace⟩
      | some i =>
        let target := some (String.ofList (← cut raw bare 0 (i + 1)))
        if rest[i]? = some '=' then
          return .records ⟨target, [], ← openThreshold (← cutFrom raw bare (i + 2))⟩
        else bracketed target raw bare (i + 2)
    else throw .malformed

/-- What a clause says of records, if it does. -/
def directive? : Clause → Option Directive
  | .records directive => some directive
  | .spans => none

end Clause

/-- A filter: its directives in the order in which they are written. -/
structure Filter where
  directives : List Directive
  deriving DecidableEq, Repr

namespace Filter

/-- The filter that is used if none is given. -/
def standard : Filter := ⟨[⟨none, [], some .info⟩]⟩

/-- The filter of a text.  Empty clauses are passed over. -/
def read (s : String) : Except Refusal Filter := do
  let clauses ← ((Text.split ',' s.toList).filter (! ·.isEmpty)).mapM Clause.read
  return ⟨clauses.filterMap Clause.directive?⟩

/-- The directive that counts for a record. -/
def directive? (f : Filter) (r : Record) : Option Directive :=
  (f.directives.filter (·.applies r)).foldl (fun best d =>
    match best with
    | none => some d
    | some e => if d.outranks e then some d else some e) none

/-- Whether a record is kept. -/
def keeps (f : Filter) (r : Record) : Bool :=
  (f.directive? r).any (·.keeps r.level)

/-- The filter of the environment: the standard one if the text of it is missing or
malformed.  There is none if the text is torn. -/
def ofVariable? (text : Option String) : Option Filter :=
  match text.map read with
  | none => some standard
  | some (.ok filter) => some filter
  | some (.error .malformed) => some standard
  | some (.error .torn) => none

end Filter

end PipelinesOperator.Log
