import PipelinesOperator.Shape.Write

/-!
# Metadata of objects

What the cluster keeps of every object beside its contents: its name and namespace, labels,
owners, and the record of who set which field.  Members that are unset are left out.
-/

namespace PipelinesOperator

/-- An object that another object belongs to. -/
structure OwnerReference where
  apiVersion : String
  blockOwnerDeletion : Option Bool
  controller : Option Bool
  kind : String
  name : String
  uid : String
  deriving DecidableEq, Repr

namespace OwnerReference

/-- The shape of an owner reference. -/
def shape : Shape OwnerReference :=
  .struct "OwnerReference"
    (.cons (.defaulted "apiVersion" "" none) (.orNull "" .text) <|
     .cons (.optional "blockOwnerDeletion" none) (.optional .flag) <|
     .cons (.optional "controller" none) (.optional .flag) <|
     .cons (.defaulted "kind" "" none) (.orNull "" .text) <|
     .cons (.defaulted "name" "" none) (.orNull "" .text) <|
     .cons (.defaulted "uid" "" none) (.orNull "" .text) .nil)
    (fun (a, b, c, d, e, f, _) => ⟨a, b, c, d, e, f⟩)
    (fun o => (o.apiVersion, o.blockOwnerDeletion, o.controller, o.kind, o.name, o.uid, ()))
    none .lenient

end OwnerReference

/-- A record of who set which fields of an object. -/
structure ManagedFields where
  apiVersion : Option String
  fieldsType : Option String
  fields : Option Json
  manager : Option String
  operation : Option String
  subresource : Option String
  time : Option Timestamp
  deriving Repr

namespace ManagedFields

/-- The shape of a record of set fields. -/
def shape : Shape ManagedFields :=
  .struct "ManagedFieldsEntry"
    (.cons (.optional "apiVersion" none) (.optional .text) <|
     .cons (.optional "fieldsType" none) (.optional .text) <|
     .cons (.optional "fieldsV1" none) (.optional .document) <|
     .cons (.optional "manager" none) (.optional .text) <|
     .cons (.optional "operation" none) (.optional .text) <|
     .cons (.optional "subresource" none) (.optional .text) <|
     .cons (.optional "time" none) (.optional (.timestamp false)) .nil)
    (fun (a, b, c, d, e, f, g, _) => ⟨a, b, c, d, e, f, g⟩)
    (fun m => (m.apiVersion, m.fieldsType, m.fields, m.manager, m.operation, m.subresource,
      m.time, ()))
    none .lenient

end ManagedFields

/-- The metadata of an object; `space` is its namespace. -/
structure Metadata where
  annotations : Option (Table String) := none
  creationTimestamp : Option Timestamp := none
  deletionGracePeriodSeconds : Option Int64 := none
  deletionTimestamp : Option Timestamp := none
  finalizers : Option (List String) := none
  generateName : Option String := none
  generation : Option Int64 := none
  labels : Option (Table String) := none
  managedFields : Option (List ManagedFields) := none
  name : Option String := none
  space : Option String := none
  ownerReferences : Option (List OwnerReference) := none
  resourceVersion : Option String := none
  selfLink : Option String := none
  uid : Option String := none
  deriving Repr

namespace Metadata

/-- The shape of metadata. -/
def shape : Shape Metadata :=
  .struct "ObjectMeta"
    (.cons (.optional "annotations" none) (.optional (.table .text)) <|
     .cons (.optional "creationTimestamp" none) (.optional (.timestamp false)) <|
     .cons (.optional "deletionGracePeriodSeconds" none) (.optional .int64) <|
     .cons (.optional "deletionTimestamp" none) (.optional (.timestamp false)) <|
     .cons (.optional "finalizers" none) (.optional (.list .text)) <|
     .cons (.optional "generateName" none) (.optional .text) <|
     .cons (.optional "generation" none) (.optional .int64) <|
     .cons (.optional "labels" none) (.optional (.table .text)) <|
     .cons (.optional "managedFields" none) (.optional (.list ManagedFields.shape)) <|
     .cons (.optional "name" none) (.optional .text) <|
     .cons (.optional "namespace" none) (.optional .text) <|
     .cons (.optional "ownerReferences" none) (.optional (.list OwnerReference.shape)) <|
     .cons (.optional "resourceVersion" none) (.optional .text) <|
     .cons (.optional "selfLink" none) (.optional .text) <|
     .cons (.optional "uid" none) (.optional .text) .nil)
    (fun (a, b, c, d, e, f, g, h, i, j, k, l, m, n, o, _) =>
      ⟨a, b, c, d, e, f, g, h, i, j, k, l, m, n, o⟩)
    (fun m => (m.annotations, m.creationTimestamp, m.deletionGracePeriodSeconds,
      m.deletionTimestamp, m.finalizers, m.generateName, m.generation, m.labels,
      m.managedFields, m.name, m.space, m.ownerReferences, m.resourceVersion, m.selfLink,
      m.uid, ()))
    none .lenient

end Metadata

end PipelinesOperator
