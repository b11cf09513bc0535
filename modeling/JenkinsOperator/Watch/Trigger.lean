import JenkinsOperator.Resource.Document

/-!
# Who is triggered

A change of a Jenkins object triggers a pass for that object. A change of another object triggers
passes for the Jenkins objects it belongs to, which are in its own namespace: the owners of a Pod,
and the one that the label of a Secret or ConfigMap names. Of such an object only the metadata is
looked at.
-/

namespace JenkinsOperator

/-- A reference to a Jenkins object, which may or may not be there. -/
structure JenkinsRef where
  namespaceName : Option String
  name : String
  deriving DecidableEq

/-- A missing namespace counts as empty. -/
def JenkinsRef.identity (r : JenkinsRef) : Identity := ⟨r.namespaceName.getD "", r.name⟩

/-- The reference to an object; a missing name counts as empty. -/
def Jenkins.ref (j : Jenkins) : JenkinsRef := ⟨j.metadata.namespaceName, j.metadata.name.getD ""⟩

/-- Whether an owner is a Jenkins object, of the same version of the API. -/
def OwnerReference.isJenkins (o : OwnerReference) : Bool :=
  o.apiVersion == jenkinsApiVersion && o.kind == jenkinsKind

namespace Metadata

/-- The metadata in the document of an object; an object may have none. -/
def ofDocument? (json : Json) : Option Metadata := do
  let fields ← Json.objectFields? ["metadata"] (← json.object?)
  fields.defaulted "metadata" .unset ofJson?

/-- The Jenkins objects that own the object. -/
def owningJenkins (m : Metadata) : List JenkinsRef :=
  ((m.owners.getD []).filter OwnerReference.isJenkins).map fun o => ⟨m.namespaceName, o.name⟩

/-- The Jenkins object that the label of the object names; an object outside every namespace belongs
to none. -/
def labelledJenkins? (m : Metadata) : Option JenkinsRef := do
  let name ← (← m.labels).find? ownerLabel
  let namespaceName ← m.namespaceName
  return ⟨some namespaceName, name⟩

end Metadata

end JenkinsOperator
