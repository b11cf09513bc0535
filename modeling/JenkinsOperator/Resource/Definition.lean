import JenkinsOperator.Resource.Document

/-!
# The definition of the Jenkins resource

What a cluster has to be told before it stores Jenkins objects: names, version, the status
subresource and the columns that listings show.
-/

namespace JenkinsOperator

/-- A column of listings. -/
structure PrinterColumn where
  name : String
  type : String
  path : String

/-- The definition of a custom resource with a single version. -/
structure ResourceDefinition where
  group : String
  version : String
  kind : String
  plural : String
  singular : String
  shortNames : List String
  namespaced : Bool
  served : Bool
  stored : Bool
  statusSubresource : Bool
  columns : List PrinterColumn

/-- The full name of the definition. -/
def ResourceDefinition.name (d : ResourceDefinition) : String := d.plural ++ "." ++ d.group

/-- Where the objects live. -/
def ResourceDefinition.scope (d : ResourceDefinition) : String :=
  if d.namespaced then "Namespaced" else "Cluster"

/-- The definition of Jenkins objects. -/
def jenkinsDefinition : ResourceDefinition where
  group := "jenkins.io"
  version := "v1alpha1"
  kind := jenkinsKind
  plural := "jenkins"
  singular := "jenkins"
  shortNames := ["jk"]
  namespaced := true
  served := true
  stored := true
  statusSubresource := true
  columns :=
    [⟨"Base", "date", ".status.baseConfigurationCompletedTime"⟩,
      ⟨"User", "date", ".status.userConfigurationCompletedTime"⟩,
      ⟨"Age", "date", ".metadata.creationTimestamp"⟩]

end JenkinsOperator
