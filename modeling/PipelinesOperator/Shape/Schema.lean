import PipelinesOperator.Shape.Write

/-!
# The schema of a shape

The schema tells users and their tools what a shape takes: the types, what may be left out
and what is then assumed, and what a member is for.  It says of a member with a default that
it is written only if it is, so a member that is left out when it has its default is not
said to have one.

## Main definitions

* `Shape.schema`: the schema of a shape
* `Fields.schema`: the schema of a record
-/

namespace PipelinesOperator

/-- A schema. -/
structure Schema where
  members : Table Json

namespace Schema

/-- The schema with a member set. -/
def set (s : Schema) (key : String) (value : Json) : Schema := ⟨s.members.insert key value⟩

/-- The schema with a description, if there is one to give. -/
def describe (s : Schema) (note : Option String) : Schema :=
  match note with
  | some note => s.set "description" (.str note)
  | none => s

/-- The schema that takes null as well.  One that names no type is left as it is, since it
does not rule null out. -/
def nullable (s : Schema) : Schema :=
  if (s.members.get? "type").isSome then s.set "nullable" (.bool true) else s

/-- The schema of a type. -/
def ofType (type : String) : Schema := ⟨Table.ofList [("type", .str type)]⟩

/-- The schema of a type in some format. -/
def ofFormat (type format : String) : Schema := (ofType type).set "format" (.str format)

/-- A schema as a document. -/
def toJson (s : Schema) : Json := .obj s.members.entries

end Schema

/-- What is said of a quantity, unless its place says something of its own. -/
def Quantity.note : String :=
  "Quantity is a fixed-point representation of a number. It provides convenient " ++
    "marshaling/unmarshaling in JSON and YAML, in addition to String() and AsInt64() " ++
    "accessors.\n\nThe serialization format is:\n\n``` <quantity>        ::= " ++
    "<signedNumber><suffix>\n\n\t(Note that <suffix> may be empty, from the \"\" case in " ++
    "<decimalSI>.)\n\n<digit>           ::= 0 | 1 | ... | 9 <digits>          ::= " ++
    "<digit> | <digit><digits> <number>          ::= <digits> | <digits>.<digits> | " ++
    "<digits>. | .<digits> <sign>            ::= \"+\" | \"-\" <signedNumber>    ::= " ++
    "<number> | <sign><number> <suffix>          ::= <binarySI> | <decimalExponent> | " ++
    "<decimalSI> <binarySI>        ::= Ki | Mi | Gi | Ti | Pi | Ei\n\n\t(International " ++
    "System of units; See: http:/" ++ "/physics.nist.gov/cuu/Units/binary.html)\n\n" ++
    "<decimalSI>       ::= m | \"\" | k | M | G | T | P | E\n\n\t(Note that 1024 = 1Ki " ++
    "but 1000 = 1k; I didn't choose the capitalization.)\n\n<decimalExponent> ::= \"e\" " ++
    "<signedNumber> | \"E\" <signedNumber> ```\n\nNo matter which of the three exponent " ++
    "forms is used, no quantity may represent a number greater than 2^63-1 in magnitude, " ++
    "nor may it have more than 3 decimal places. Numbers larger or more precise will be " ++
    "capped or rounded up. (E.g.: 0.1m will rounded up to 1m.) This may be extended in " ++
    "the future if we require larger or smaller quantities.\n\nWhen a Quantity is parsed " ++
    "from a string, it will remember the type of suffix it had, and will use the same " ++
    "type again when it is serialized.\n\nBefore serializing, Quantity will be put in " ++
    "\"canonical form\". This means that Exponent/suffix will be adjusted up or down " ++
    "(with a corresponding increase or decrease in Mantissa) such that:\n\n- No " ++
    "precision is lost - No fractional digits will be emitted - The exponent (or suffix) " ++
    "is as large as possible.\n\nThe sign will be omitted unless the number is " ++
    "negative.\n\nExamples:\n\n- 1.5 will be serialized as \"1500m\" - 1.5Gi will be " ++
    "serialized as \"1536Mi\"\n\nNote that the quantity will NEVER be internally " ++
    "represented by a floating point number. That is the whole point of this " ++
    "exercise.\n\nNon-canonical values will still parse as long as they are well formed, " ++
    "but will be re-emitted in their canonical form. (So always use canonical form, or " ++
    "don't diff.)\n\nThis format is intended to make it difficult to use these numbers " ++
    "without writing some sort of special handling code in the hopes that that will " ++
    "cause implementors to also use a fixed point implementation."

/-- The schema of a quantity: an integer or a string. -/
def Quantity.schema : Schema :=
  ⟨Table.ofList [("description", .str note), ("x-kubernetes-int-or-string", .bool true)]⟩

namespace Fields

/-- The keys of the fields that have to be given. -/
def needed : {α : Type} → Fields α → List String
  | _, .nil => []
  | _, .cons field _ rest => if field.absent.isNone then field.key :: rest.needed else rest.needed

end Fields

namespace Shape

/-- The schema of an object with some properties, of which some have to be given. -/
def objectSchema (properties : List (String × Schema)) (needed : List String) : Schema :=
  let object := (Schema.ofType "object").set "properties"
    (.obj ((Table.ofList properties).map Schema.toJson).entries)
  if needed.isEmpty then object
  else object.set "required"
    (.arr ((Table.ofList (needed.map fun key => (key, ()))).keys.map .str))

mutual

/-- The schema of a shape. -/
def schema : {α : Type} → Shape α → Schema
  | _, .text => .ofType "string"
  | _, .flag => .ofType "boolean"
  | _, .int32 => .ofFormat "integer" "int32"
  | _, .int64 => .ofFormat "integer" "int64"
  | _, .nat16 => (Schema.ofFormat "integer" "uint16").set "minimum" (.ofNat 0)
  | _, .nat64 => (Schema.ofFormat "integer" "uint64").set "minimum" (.ofNat 0)
  | _, .quantity => Quantity.schema
  | _, .timestamp _ => .ofFormat "string" "date-time"
  | _, .bytes => .ofFormat "string" "byte"
  | _, .constant expected => (Schema.ofType "string").set "enum" (.arr [.str expected])
  | _, .word .. => .ofType "string"
  | _, .document => ⟨∅⟩
  | _, .optional shape => (schema shape).nullable
  | _, .orNull _ shape => schema shape
  | _, .list shape => (Schema.ofType "array").set "items" (schema shape).toJson
  | _, .table shape =>
    (Schema.ofType "object").set "additionalProperties" (schema shape).toJson
  | _, .either first left second right =>
    let alternative (key : String) (s : Schema) : Json := (objectSchema [(key, s)] [key]).toJson
    (⟨∅⟩ : Schema).set "oneOf"
      (.arr [alternative first (schema left), alternative second (schema right)])
  | _, .record _ note _ fields => (objectSchema (properties fields) fields.needed).describe note
  | _, .view shape _ _ _ => schema shape

/-- The schemas of the fields of a record: that of the value, with what is said of the field
and the default that is written for it. -/
def properties : {α : Type} → Fields α → List (String × Schema)
  | _, .nil => []
  | _, .cons field shape rest =>
    let described := (schema shape).describe field.note
    let s := match field.short with
      | some value =>
        if field.hidden value then described
        else described.set "default" (shape.write value)
      | none => described
    (field.key, s) :: properties rest

end

end Shape

end PipelinesOperator
