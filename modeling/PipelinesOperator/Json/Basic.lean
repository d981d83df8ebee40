import PipelinesOperator.Double

/-!
# JSON documents

A JSON document, with the members of an object in the order in which they were given.
Numbers are integers or doubles; the two never mix, as `1` and `1.0` are different documents.
-/

namespace PipelinesOperator

/-- A JSON number. -/
inductive Json.Number where
  | integer (n : Int)
  | double (d : Double)
  deriving DecidableEq, Repr

/-- A JSON document. -/
inductive Json where
  | null
  | bool (b : Bool)
  | num (n : Json.Number)
  | str (s : String)
  | arr (items : List Json)
  | obj (members : List (String × Json))
  deriving Repr, Inhabited

namespace Json

/-- A natural as a document. -/
def ofNat (n : Nat) : Json := .num (.integer n)

/-- An integer as a document. -/
def ofInt (n : Int) : Json := .num (.integer n)

/-- An optional text: `null` if there is none. -/
def ofText? : Option String → Json
  | none => .null
  | some s => .str s

/-- The members of an object; other documents have none. -/
def members : Json → List (String × Json)
  | .obj ms => ms
  | _ => []

/-- The value of an object's member, the last one of its key. -/
def get? (j : Json) (key : String) : Option Json :=
  (j.members.reverse.find? (fun m => m.1 == key)).map Prod.snd

mutual

/-- Whether two documents are the same, members in order. -/
def same : Json → Json → Bool
  | .null, .null => true
  | .bool a, .bool b => a == b
  | .num a, .num b => a == b
  | .str a, .str b => a == b
  | .arr a, .arr b => sameItems a b
  | .obj a, .obj b => sameMembers a b
  | _, _ => false

/-- Whether two lists of documents are the same. -/
def sameItems : List Json → List Json → Bool
  | [], [] => true
  | a :: as, b :: bs => same a b && sameItems as bs
  | _, _ => false

/-- Whether two lists of members are the same. -/
def sameMembers : List (String × Json) → List (String × Json) → Bool
  | [], [] => true
  | a :: as, b :: bs => a.1 == b.1 && same a.2 b.2 && sameMembers as bs
  | _, _ => false

end

instance : BEq Json := ⟨same⟩

end Json

end PipelinesOperator
