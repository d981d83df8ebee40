import PipelinesOperator.Cluster.Fault
import PipelinesOperator.Dialogue
import PipelinesOperator.Json.Canonical

/-!
# Requests to the API server

A request has a method, a target and perhaps a body.  Names stand in the target as they are:
a question mark in one starts the query, a number sign ends the target, and a character that
no target may hold makes the request impossible.

## Main definitions

* `Target.ofText?`: the path and the query of a target
* `Request`, `Reply`, `ClusterDialogue`: what is asked of the server and what it answers
-/

namespace PipelinesOperator

/-- Where a request goes: a path, and a query behind it. -/
structure Target where
  path : String
  query : String
  deriving DecidableEq, Repr

namespace Target

/-- Whether a character may stand in a path. -/
def inPath (c : Char) : Bool :=
  let n := c.toNat
  n = 0x21 ∨ n = 0x22 ∨ (0x24 ≤ n ∧ n ≤ 0x3B) ∨ n = 0x3D ∨ (0x40 ≤ n ∧ n ≤ 0x5F) ∨
    (0x61 ≤ n ∧ n ≠ 0x7F)

/-- Whether a character may stand in a query. -/
def inQuery (c : Char) : Bool :=
  let n := c.toNat
  n = 0x21 ∨ (0x24 ≤ n ∧ n ≤ 0x3B) ∨ n = 0x3D ∨ (0x3F ≤ n ∧ n ≠ 0x7F)

/-- The target of a text, if all its characters may stand where they do. -/
def ofText? (text : List Char) : Option Target :=
  -- What follows a number sign is dropped before anything is looked at.
  let kept := text.takeWhile (· ≠ '#')
  let path := kept.takeWhile (· ≠ '?')
  let query := (kept.dropWhile (· ≠ '?')).drop 1
  if path.all inPath ∧ query.all inQuery then some ⟨String.ofList path, String.ofList query⟩
  else none

/-- The names between the slashes of a path. -/
def segments (t : Target) : List String := Text.splitOn '/' t.path

end Target

/-- What a request does. -/
inductive Method where
  | get
  | post
  | patch
  deriving DecidableEq, Repr

/-- The name of a method. -/
def Method.text : Method → String
  | .get => "GET"
  | .post => "POST"
  | .patch => "PATCH"

/-- The body of a request with the type of its contents. -/
structure Body where
  contentType : String
  content : Json
  deriving Repr

/-- A request. -/
structure Request where
  method : Method
  target : Target
  body : Option Body
  deriving Repr

/-- A request whose target is given as a text. -/
def Request.of (method : Method) (target : String) (body : Option Body) :
    Except ClusterFault Request :=
  match Target.ofText? target.toList with
  | some target => .ok ⟨method, target, body⟩
  | none => .error .badPath

/-- What comes back. -/
inductive Reply where
  /-- Nobody answers. -/
  | unreachable (message : String)
  /-- A response with its code and its text. -/
  | response (code : UInt16) (text : String)
  deriving DecidableEq, Repr

/-- A dialogue with the API server. -/
abbrev ClusterDialogue := Dialogue Request fun _ => Reply

end PipelinesOperator
