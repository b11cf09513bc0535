import JenkinsOperator.Resource.Basic

/-!
# Jenkins objects as documents

The JSON form of a Jenkins object. Unset optional fields are left out when writing; when reading,
an optional field may be missing or null, a field with a default may be missing, and unknown members
are ignored. The group and the kind of the object are always written and never looked at.

The parts of specification and status may also be given as arrays of their fields in order, and so
may the object itself if it is complete. Its metadata may not.
-/

namespace JenkinsOperator

open Json (optionalMember)

/-- The API group and version of Jenkins objects. -/
def jenkinsApiVersion : String := "jenkins.io/v1alpha1"

/-- The kind of Jenkins objects. -/
def jenkinsKind : String := "Jenkins"

namespace ResourceQuantity

/-- The document of amounts. -/
def toJson (q : ResourceQuantity) : Json :=
  .object (optionalMember "cpu" .string q.cpu ++ optionalMember "memory" .string q.memory)

/-- The amounts of a document. -/
def ofJson? (json : Json) : Option ResourceQuantity := do
  let fields ← json.fields? ["cpu", "memory"]
  return { cpu := ← fields.optional "cpu" Json.string?,
           memory := ← fields.optional "memory" Json.string? }

end ResourceQuantity

namespace ResourceRequirements

/-- The document of requests and limits. -/
def toJson (r : ResourceRequirements) : Json :=
  .object (optionalMember "requests" ResourceQuantity.toJson r.requests
    ++ optionalMember "limits" ResourceQuantity.toJson r.limits)

/-- The requests and limits of a document. -/
def ofJson? (json : Json) : Option ResourceRequirements := do
  let fields ← json.fields? ["requests", "limits"]
  return { requests := ← fields.optional "requests" ResourceQuantity.ofJson?,
           limits := ← fields.optional "limits" ResourceQuantity.ofJson? }

end ResourceRequirements

namespace Declarations

/-- The document of declarations: a list of tokens for each root token. -/
def toJson (d : Declarations) : Json := Json.ofMap (Json.ofList .string) d

/-- The declarations of a document. -/
def ofJson? (json : Json) : Option Declarations := json.map? (Json.list? Json.string?)

end Declarations

namespace MasterSpec

/-- The document of a master. -/
def toJson (m : MasterSpec) : Json :=
  .object [("image", .string m.image),
    ("operatorPlugins", Declarations.toJson m.operatorPlugins),
    ("plugins", Declarations.toJson m.plugins),
    ("resources", m.resources.toJson)]

/-- The master of a document. -/
def ofJson? (json : Json) : Option MasterSpec := do
  let fields ← json.fields? ["image", "operatorPlugins", "plugins", "resources"]
  return { image := ← fields.defaulted "image" "" Json.string?,
           operatorPlugins := ← fields.defaulted "operatorPlugins" .empty Declarations.ofJson?,
           plugins := ← fields.defaulted "plugins" .empty Declarations.ofJson?,
           resources := ← fields.defaulted "resources" .unset ResourceRequirements.ofJson? }

end MasterSpec

namespace SecretKeySelector

/-- The document of a key reference. -/
def toJson (s : SecretKeySelector) : Json :=
  .object [("name", .string s.name), ("key", .string s.key)]

/-- The key reference of a document; both of its fields must be present. -/
def ofJson? (json : Json) : Option SecretKeySelector := do
  let fields ← json.fields? ["name", "key"]
  return { name := ← fields.required "name" Json.string?,
           key := ← fields.required "key" Json.string? }

/-- The document of the source of a deploy key. -/
def sourceToJson (s : Option SecretKeySelector) : Json :=
  .object (optionalMember "secretKeyRef" toJson s)

/-- The source of a deploy key of a document. -/
def sourceOfJson? (json : Json) : Option (Option SecretKeySelector) := do
  let fields ← json.fields? ["secretKeyRef"]
  fields.optional "secretKeyRef" ofJson?

end SecretKeySelector

namespace SeedJob

/-- The document of a seed job. -/
def toJson (job : SeedJob) : Json :=
  .object ([("id", .string job.id)]
    ++ optionalMember "targets" .string job.targets
    ++ optionalMember "description" .string job.description
    ++ optionalMember "repositoryBranch" .string job.repositoryBranch
    ++ [("repositoryUrl", .string job.repositoryUrl),
      ("privateKey", SecretKeySelector.sourceToJson job.privateKey)])

/-- The seed job of a document. -/
def ofJson? (json : Json) : Option SeedJob := do
  let fields ← json.fields?
    ["id", "targets", "description", "repositoryBranch", "repositoryUrl", "privateKey"]
  return { id := ← fields.defaulted "id" "" Json.string?,
           targets := ← fields.optional "targets" Json.string?,
           description := ← fields.optional "description" Json.string?,
           repositoryBranch := ← fields.optional "repositoryBranch" Json.string?,
           repositoryUrl := ← fields.defaulted "repositoryUrl" "" Json.string?,
           privateKey := ← fields.defaulted "privateKey" none SecretKeySelector.sourceOfJson? }

end SeedJob

namespace JenkinsSpec

/-- The document of a specification. -/
def toJson (s : JenkinsSpec) : Json :=
  .object ([("master", s.master.toJson)]
    ++ if s.seedJobs.isEmpty then [] else [("seedJobs", .array (s.seedJobs.map SeedJob.toJson))])

/-- The specification of a document. -/
def ofJson? (json : Json) : Option JenkinsSpec := do
  let fields ← json.fields? ["master", "seedJobs"]
  return { master := ← fields.defaulted "master" .unset MasterSpec.ofJson?,
           seedJobs := ← fields.defaulted "seedJobs" [] (Json.list? SeedJob.ofJson?) }

end JenkinsSpec

namespace JenkinsStatus

/-- The document of a status. -/
def toJson (s : JenkinsStatus) : Json :=
  .object (optionalMember "provisionStartTime" Time.toJson s.provisionStart
    ++ optionalMember "baseConfigurationCompletedTime" Time.toJson s.baseCompleted
    ++ optionalMember "userConfigurationCompletedTime" Time.toJson s.userCompleted
    ++ optionalMember "seedJobsHaltedGeneration" Json.int s.haltedGeneration)

/-- The status of a document. -/
def ofJson? (json : Json) : Option JenkinsStatus := do
  let fields ← json.fields? ["provisionStartTime", "baseConfigurationCompletedTime",
    "userConfigurationCompletedTime", "seedJobsHaltedGeneration"]
  return { provisionStart := ← fields.optional "provisionStartTime" Time.ofJson?,
           baseCompleted := ← fields.optional "baseConfigurationCompletedTime" Time.ofJson?,
           userCompleted := ← fields.optional "userConfigurationCompletedTime" Time.ofJson?,
           haltedGeneration := ← fields.optional "seedJobsHaltedGeneration" Json.int64? }

end JenkinsStatus

namespace Jenkins

/-- The document of an object. -/
def toJson (j : Jenkins) : Json :=
  .object ([("apiVersion", .string jenkinsApiVersion), ("kind", .string jenkinsKind),
      ("metadata", j.metadata.toJson), ("spec", j.spec.toJson)]
    ++ optionalMember "status" JenkinsStatus.toJson j.status)

/-- The fields of a document; as an array it has all three of them. -/
def fields? (json : Json) : Option Fields :=
  let names := ["metadata", "spec", "status"]
  match json with
  | .array items => if items.length = names.length then json.fields? names else none
  | _ => json.fields? names

/-- The object of a document. -/
def ofJson? (json : Json) : Option Jenkins := do
  let fields ← fields? json
  return { metadata := ← fields.required "metadata" Metadata.ofJson?,
           spec := ← fields.required "spec" JenkinsSpec.ofJson?,
           status := ← fields.optional "status" JenkinsStatus.ofJson? }

end Jenkins

end JenkinsOperator
