import PipelinesOperator.Json.Basic

/-!
# Document trees

A document tree is what a text or a layer of the configuration comes down to before it is
read as a value of the domain.  Its nodes carry a mark of where they come from, of a type
`μ` that the reader of the tree knows how to use.  A tree may stand for a text that is
broken: then a node carries the break, of type `φ`, and whoever reads it meets the break.
A tree over the empty type of breaks is whole.
-/

namespace PipelinesOperator

/-- A number as it was written: without a sign, with one, beyond sixty-four bits, or with a
fraction or an exponent. -/
inductive Numeral where
  | unsigned (n : Nat)
  | signed (n : Int)
  | wide (n : Int)
  | double (d : Double)
  deriving DecidableEq, Repr

/-- The number of a numeral. -/
def Numeral.number : Numeral → Json.Number
  | .unsigned n => .integer n
  | .signed n => .integer n
  | .wide n => .integer n
  | .double d => .double d

/-- A key of an object: its name, where it stands, and what stops a reader that passes over
its value unread. -/
structure Key (μ φ : Type) where
  name : String
  mark : μ
  skip : Option φ
  deriving Repr

/-- A document tree.  An array or an object that is broken inside says so behind the part
that can be read. -/
inductive Doc (μ φ : Type) where
  | null (mark : μ)
  | bool (mark : μ) (b : Bool)
  | num (mark : μ) (n : Numeral)
  | str (mark : μ) (s : String)
  | arr (mark : μ) (items : List (Doc μ φ)) (broken : Option φ)
  | obj (mark : μ) (members : List (Key μ φ × Doc μ φ)) (broken : Option φ)
  | bad (mark : μ) (fault : φ)

/-- A tree without marks that is whole. -/
abbrev Doc.Plain := Doc Unit Empty

namespace Doc

mutual

/-- The tree of a document. -/
def ofJson : Json → Doc Unit Empty
  | .null => .null ()
  | .bool b => .bool () b
  | .num (.integer n) => .num () (if 0 ≤ n then .unsigned n.toNat else .signed n)
  | .num (.double d) => .num () (.double d)
  | .str s => .str () s
  | .arr items => .arr () (ofItems items) none
  | .obj members => .obj () (ofMembers members) none

/-- The trees of the items of an array. -/
def ofItems : List Json → List (Doc Unit Empty)
  | [] => []
  | j :: js => ofJson j :: ofItems js

/-- The trees of the members of an object. -/
def ofMembers : List (String × Json) → List (Key Unit Empty × Doc Unit Empty)
  | [] => []
  | m :: ms => (⟨m.1, (), none⟩, ofJson m.2) :: ofMembers ms

end

variable {μ φ : Type}

/-- The tree with another mark at its root. -/
def withMark (mark : μ) : Doc μ φ → Doc μ φ
  | .null _ => .null mark
  | .bool _ b => .bool mark b
  | .num _ n => .num mark n
  | .str _ s => .str mark s
  | .arr _ items broken => .arr mark items broken
  | .obj _ members broken => .obj mark members broken
  | .bad _ fault => .bad mark fault

/-- A tree under a path of keys.  An empty key ends the path. -/
def nest (mark : μ) (value : Doc μ φ) : List String → Doc μ φ
  | [] => value
  | key :: rest =>
    if key = "" then value else .obj mark [(⟨key, mark, none⟩, nest mark value rest)] none

mutual

/-- The document of a tree, or the first break in it. -/
def toJson : Doc μ φ → Except φ Json
  | .null _ => .ok .null
  | .bool _ b => .ok (.bool b)
  | .num _ n => .ok (.num n.number)
  | .str _ s => .ok (.str s)
  | .arr _ items broken => do
    let items ← toItems items
    match broken with
    | some f => .error f
    | none => .ok (.arr items)
  | .obj _ members broken => do
    let members ← toMembers members
    match broken with
    | some f => .error f
    | none => .ok (.obj members)
  | .bad _ f => .error f

/-- The documents of the items of an array. -/
def toItems : List (Doc μ φ) → Except φ (List Json)
  | [] => .ok []
  | d :: ds => do
    let j ← toJson d
    let js ← toItems ds
    .ok (j :: js)

/-- The documents of the members of an object. -/
def toMembers : List (Key μ φ × Doc μ φ) → Except φ (List (String × Json))
  | [] => .ok []
  | m :: ms => do
    let j ← toJson m.2
    let js ← toMembers ms
    .ok ((m.1.name, j) :: js)

end

end Doc

end PipelinesOperator
