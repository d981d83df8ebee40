import PipelinesOperator.Application.Manifest
import PipelinesOperator.Shape.Schema
import PipelinesOperator.Yaml.Print

/-!
# The definition of the resource

The definition is what a cluster has to be given before it takes manifests.  Its schema is
that of the shape by which manifests are read.
-/

namespace PipelinesOperator.Manifest

/-- What the schema says of the resource. -/
def note : String :=
  "DataSciencePipelinesApplication describes a Data Science Pipelines deployment and its " ++
    "backing services."

/-- The schema of the resource.  The cluster knows the metadata of every object, so the
schema leaves them out. -/
def schema : Schema :=
  let own (key : String) : Bool := key ≠ "metadata"
  ((Shape.objectSchema ((Shape.properties fields).filter fun p => own p.1)
    (fields.needed.filter own)).describe (some note)).set "title" (.str kind)

/-- A column that lists of the resource show. -/
def column (name type path note : String) : Json :=
  .obj [("name", .str name), ("type", .str type), ("jsonPath", .str path),
    ("description", .str note)]

/-- The version of the resource that is served. -/
def servedVersion : Json :=
  .obj
    [("name", .str version),
      ("additionalPrinterColumns", .arr
        [column "Phase" "string" ".status.phase" "Current phase of the resource",
          column "Version" "string" ".spec.dspVersion" "Pipelines version",
          column "Last Updated" "date" ".status.lastUpdated"
            "Last time the resource was updated"]),
      ("schema", .obj [("openAPIV3Schema", schema.toJson)]),
      ("served", .bool true),
      ("storage", .bool true),
      ("subresources", .obj [("status", .obj [])])]

/-- The definition of the resource. -/
def definition : Json :=
  Json.canonical <| .obj
    [("apiVersion", .str "apiextensions.k8s.io/v1"),
      ("kind", .str "CustomResourceDefinition"),
      ("metadata", .obj [("name", .str (plural ++ "." ++ group))]),
      ("spec", .obj
        [("group", .str group),
          ("names", .obj
            [("categories", .arr []),
              ("kind", .str kind),
              ("plural", .str plural),
              ("shortNames", .arr [.str "dspa"]),
              ("singular", .str (Text.lowerAscii kind))]),
          ("scope", .str "Namespaced"),
          ("versions", .arr [servedVersion])])]

/-- The definitions of all resources of the operator. -/
def definitions : List Json := [definition]

/-- The definitions as YAML, each of them a document. -/
def definitionsText : String :=
  String.join (definitions.map fun d => "---\n" ++ Yaml.print d)

end PipelinesOperator.Manifest
