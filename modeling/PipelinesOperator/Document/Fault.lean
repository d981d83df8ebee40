import PipelinesOperator.Document.Basic
import PipelinesOperator.Text.Quoted

/-!
# Faults of reading

A tree that is not what its reader expects is faulty: a value is of the wrong type, out of
range or spelled wrong, a member is missing or doubled, an array has the wrong length, or
the text breaks.  A fault says where it was noticed and along which keys it lies.
-/

namespace PipelinesOperator

/-- What stands where something else was expected. -/
inductive Found where
  | null
  | bool (b : Bool)
  | num (n : Numeral)
  | text (s : String)
  | sequence
  | map
  | unitVariant
  deriving DecidableEq, Repr

/-- What is wrong. -/
inductive Problem (φ : Type) where
  /-- The text breaks. -/
  | broken (fault : φ)
  /-- A value of one type where another is expected. -/
  | wrongType (found : Found) (expected : String)
  /-- A value of the right type that is none of those expected. -/
  | wrongValue (found : Found) (expected : String)
  /-- A member that has to be there is not. -/
  | missingField (key : String)
  /-- A member of a record is given twice. -/
  | duplicateField (key : String)
  /-- An array ends before all members of a record were given. -/
  | tooShort (length : Nat) (record : String) (size : Nat)
  /-- An array goes on behind the last member of a record. -/
  | tooLong (length : Nat)
  /-- The name of an alternative that does not exist. -/
  | unknownVariant (name : String) (names : List String)
  /-- A text that does not spell what it should. -/
  | misspelled (message : String)
  deriving Repr

/-- Where, at a node, a fault is noticed: before it, when it is opened and left at once, or
behind it. -/
inductive Site where
  | before
  | opened
  | past
  deriving DecidableEq, Repr

/-- A fault: what is wrong, the mark of the node and the site at it, and the keys that lead
there from the root. -/
structure Fault (μ φ : Type) where
  problem : Problem φ
  mark : μ
  site : Site
  path : List String
  deriving Repr

/-- The fault as seen from one key further out. -/
def Fault.within {μ φ : Type} (key : String) (f : Fault μ φ) : Fault μ φ :=
  { f with path := key :: f.path }

namespace Doc

variable {μ φ : Type}

/-- The mark of a node. -/
def mark : Doc μ φ → μ
  | .null m => m
  | .bool m _ => m
  | .num m _ => m
  | .str m _ => m
  | .arr m _ _ => m
  | .obj m _ _ => m
  | .bad m _ => m

/-- What was made of the parts of a node, unless there is a break behind them. -/
def unbroken {α : Type} (mark : μ) (broken : Option φ) (a : α) : Except (Fault μ φ) α :=
  match broken with
  | some f => .error ⟨.broken f, mark, .before, []⟩
  | none => .ok a

/-- The fault of a node that is not of the expected type.  A container is not entered to see
this, unless `entered` says so. -/
def wrong (expected : String) (entered : Bool) (d : Doc μ φ) : Fault μ φ :=
  let container := if entered then Site.opened else .before
  match d with
  | .null m => ⟨.wrongType .null expected, m, .past, []⟩
  | .bool m b => ⟨.wrongType (.bool b) expected, m, .past, []⟩
  | .num m n => ⟨.wrongType (.num n) expected, m, .past, []⟩
  | .str m s => ⟨.wrongType (.text s) expected, m, .past, []⟩
  | .arr m _ _ => ⟨.wrongType .sequence expected, m, container, []⟩
  | .obj m _ _ => ⟨.wrongType .map expected, m, container, []⟩
  | .bad m f => ⟨.broken f, m, .before, []⟩

end Doc

namespace Found

/-- What was found, in the words used for documents. -/
def inDocument : Found → String
  | .null => "null"
  | .bool b => "boolean `" ++ toString b ++ "`"
  | .num (.unsigned n) => "integer `" ++ toString n ++ "`"
  | .num (.signed n) => "integer `" ++ toString n ++ "`"
  | .num (.wide n) => "integer `" ++ toString n ++ "`"
  | .num (.double d) => "floating point `" ++ d.json ++ "`"
  | .text s => "string " ++ Text.quoted s
  | .sequence => "sequence"
  | .map => "map"
  | .unitVariant => "unit variant"

/-- What was found, in the words used for the configuration. -/
def inConfiguration : Found → String
  | .null => "unit"
  | .bool b => "bool " ++ toString b
  | .num (.unsigned n) => "unsigned int `" ++ toString n ++ "`"
  | .num (.signed n) => "signed int `" ++ toString n ++ "`"
  | .num (.wide n) => "integer `" ++ toString n ++ "` as " ++ (if 0 ≤ n then "u128" else "i128")
  | .num (.double d) => "float `" ++ d.plain ++ "`"
  | .text s => "string " ++ Text.quoted s
  | .sequence => "sequence"
  | .map => "map"
  | .unitVariant => "unit variant"

end Found

/-- Names between backticks, the last joined by "or". -/
def alternatives : List String → String
  | [] => "nothing"
  | [a] => "`" ++ a ++ "`"
  | [a, b] => "`" ++ a ++ "` or `" ++ b ++ "`"
  | names => "one of " ++ Text.join ", " (names.map fun n => "`" ++ n ++ "`")

/-- The wording of a problem in a document. -/
def Problem.message {φ : Type} (broken : φ → String) : Problem φ → String
  | .broken f => broken f
  | .wrongType found expected => "invalid type: " ++ found.inDocument ++ ", expected " ++ expected
  | .wrongValue found expected => "invalid value: " ++ found.inDocument ++ ", expected " ++ expected
  | .missingField key => "missing field `" ++ key ++ "`"
  | .duplicateField key => "duplicate field `" ++ key ++ "`"
  | .tooShort length record size =>
    "invalid length " ++ toString length ++ ", expected struct " ++ record ++ " with " ++
      toString size ++ (if size = 1 then " element" else " elements")
  | .tooLong length =>
    "invalid length " ++ toString length ++ ", expected fewer elements in array"
  | .unknownVariant name names =>
    "unknown variant `" ++ name ++ "`, expected " ++ alternatives names
  | .misspelled message => message

/-- The wording of a fault of a whole document. -/
def Fault.message {μ : Type} (f : Fault μ Empty) : String := f.problem.message (fun e => nomatch e)

end PipelinesOperator
