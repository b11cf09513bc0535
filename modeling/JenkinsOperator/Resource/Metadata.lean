import JenkinsOperator.Json.Fields
import JenkinsOperator.Json.Legible
import JenkinsOperator.Time.Rfc3339

/-!
# Metadata

What the cluster keeps of every object whatever its kind: what it is called, which state it is in,
whom it belongs to and who has set what. All of it is kept, also what the operator never looks at,
so that an object is written back as it was read.

Metadata is read from an object alone. A field may be missing or null, and may be written
repeatedly. Times are written to the second.
-/

namespace JenkinsOperator

open Json (optionalMember)

namespace Time

/-- The document of a moment. -/
def toJson (t : Time) : Json := .string t.rfc3339

/-- The document of a moment to the second. -/
def toJsonSeconds (t : Time) : Json := .string t.rfc3339Seconds

/-- The moment of a document. -/
def ofJson? (json : Json) : Option Time := json.string?.bind ofRfc3339?

end Time

/-- An owner that an object names. -/
structure OwnerReference where
  apiVersion : String
  kind : String
  name : String
  uid : String
  /-- Whether the owner manages the object. -/
  controller : Option Bool
  /-- Whether the owner cannot be deleted while the object is there. -/
  blockOwnerDeletion : Option Bool
  deriving DecidableEq

/-- Which fields of an object someone has set. -/
structure ManagedFields where
  apiVersion : Option String
  fieldsType : Option String
  /-- The fields, in the form that the type says. -/
  fields : Option Json
  manager : Option String
  operation : Option String
  subresource : Option String
  time : Option Time
  deriving DecidableEq

/-- What the cluster keeps of every object. -/
structure Metadata where
  name : Option String
  namespaceName : Option String
  generateName : Option String
  generation : Option Int
  resourceVersion : Option String
  uid : Option String
  labels : Option (OrderedMap String String)
  annotations : Option (OrderedMap String String)
  creationTime : Option Time
  deletionTime : Option Time
  /-- How long the deletion may take, in seconds. -/
  deletionGrace : Option Int
  finalizers : Option (List String)
  managedFields : Option (List ManagedFields)
  owners : Option (List OwnerReference)
  selfLink : Option String
  deriving DecidableEq

namespace OwnerReference

/-- The document of an owner. -/
def toJson (o : OwnerReference) : Json :=
  .object ([("apiVersion", .string o.apiVersion), ("kind", .string o.kind),
      ("name", .string o.name), ("uid", .string o.uid)]
    ++ optionalMember "controller" .bool o.controller
    ++ optionalMember "blockOwnerDeletion" .bool o.blockOwnerDeletion)

/-- The owner of a document; a missing text counts as empty. -/
def ofJson? (json : Json) : Option OwnerReference := do
  let members : Members ← json.object?
  let text (name : String) : Option String :=
    (members.optional name Json.string?).map fun value => value.getD ""
  return { apiVersion := ← text "apiVersion",
           kind := ← text "kind",
           name := ← text "name",
           uid := ← text "uid",
           controller := ← members.optional "controller" Json.bool?,
           blockOwnerDeletion := ← members.optional "blockOwnerDeletion" Json.bool? }

end OwnerReference

namespace ManagedFields

/-- The document of managed fields. -/
def toJson (m : ManagedFields) : Json :=
  .object (optionalMember "apiVersion" .string m.apiVersion
    ++ optionalMember "fieldsType" .string m.fieldsType
    ++ optionalMember "fieldsV1" id m.fields
    ++ optionalMember "manager" .string m.manager
    ++ optionalMember "operation" .string m.operation
    ++ optionalMember "subresource" .string m.subresource
    ++ optionalMember "time" Time.toJsonSeconds m.time)

/-- The managed fields of a document. They stand in a list of the metadata of an object, so that the
fields themselves are at the fourth level. -/
def ofJson? (json : Json) : Option ManagedFields := do
  let members : Members ← json.object?
  return { apiVersion := ← members.optional "apiVersion" Json.string?,
           fieldsType := ← members.optional "fieldsType" Json.string?,
           fields := ← members.optional "fieldsV1" (Json.anyAt? 4),
           manager := ← members.optional "manager" Json.string?,
           operation := ← members.optional "operation" Json.string?,
           subresource := ← members.optional "subresource" Json.string?,
           time := ← members.optional "time" Time.ofJson? }

end ManagedFields

namespace Metadata

/-- Metadata that says nothing. -/
def unset : Metadata :=
  ⟨none, none, none, none, none, none, none, none, none, none, none, none, none, none, none⟩

/-- The document of metadata. -/
def toJson (m : Metadata) : Json :=
  .object (optionalMember "name" .string m.name
    ++ optionalMember "namespace" .string m.namespaceName
    ++ optionalMember "generateName" .string m.generateName
    ++ optionalMember "generation" Json.int m.generation
    ++ optionalMember "resourceVersion" .string m.resourceVersion
    ++ optionalMember "uid" .string m.uid
    ++ optionalMember "labels" (Json.ofMap .string) m.labels
    ++ optionalMember "annotations" (Json.ofMap .string) m.annotations
    ++ optionalMember "creationTimestamp" Time.toJsonSeconds m.creationTime
    ++ optionalMember "deletionTimestamp" Time.toJsonSeconds m.deletionTime
    ++ optionalMember "deletionGracePeriodSeconds" Json.int m.deletionGrace
    ++ optionalMember "finalizers" (Json.ofList .string) m.finalizers
    ++ optionalMember "managedFields" (Json.ofList ManagedFields.toJson) m.managedFields
    ++ optionalMember "ownerReferences" (Json.ofList OwnerReference.toJson) m.owners
    ++ optionalMember "selfLink" .string m.selfLink)

/-- The metadata of a document. -/
def ofJson? (json : Json) : Option Metadata := do
  let members : Members ← json.object?
  return { name := ← members.optional "name" Json.string?,
           namespaceName := ← members.optional "namespace" Json.string?,
           generateName := ← members.optional "generateName" Json.string?,
           generation := ← members.optional "generation" Json.int64?,
           resourceVersion := ← members.optional "resourceVersion" Json.string?,
           uid := ← members.optional "uid" Json.string?,
           labels := ← members.optional "labels" (Json.map? Json.string?),
           annotations := ← members.optional "annotations" (Json.map? Json.string?),
           creationTime := ← members.optional "creationTimestamp" Time.ofJson?,
           deletionTime := ← members.optional "deletionTimestamp" Time.ofJson?,
           deletionGrace := ← members.optional "deletionGracePeriodSeconds" Json.int64?,
           finalizers := ← members.optional "finalizers" (Json.list? Json.string?),
           managedFields := ← members.optional "managedFields" (Json.list? ManagedFields.ofJson?),
           owners := ← members.optional "ownerReferences" (Json.list? OwnerReference.ofJson?),
           selfLink := ← members.optional "selfLink" Json.string? }

end Metadata

end JenkinsOperator
