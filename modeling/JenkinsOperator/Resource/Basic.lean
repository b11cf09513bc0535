import JenkinsOperator.Plugin.Graph
import JenkinsOperator.Resource.Metadata

/-!
# The Jenkins resource

What a user asks for, and what has been reached. The specification may be incomplete; the status
records four facts, and the presence of a time is the only sign that a phase has ever completed.
-/

namespace JenkinsOperator

/-- The name under which the operator reports, also the first part of names it derives. -/
def operatorName : String := "jenkins-operator"

/-- The label of Secrets and ConfigMaps that belong to a Jenkins object; its value is the name of
that object. -/
def ownerLabel : String := "steward.dev/jenkins"

/-- Amounts of processor and memory. -/
structure ResourceQuantity where
  cpu : Option String
  memory : Option String
  deriving DecidableEq

/-- Amounts that a container asks for and amounts it is held to. -/
structure ResourceRequirements where
  requests : Option ResourceQuantity
  limits : Option ResourceQuantity
  deriving DecidableEq

/-- The Jenkins master. -/
structure MasterSpec where
  image : String
  operatorPlugins : Declarations
  plugins : Declarations
  resources : ResourceRequirements
  deriving DecidableEq

/-- One key of a Secret in the namespace of the object. -/
structure SecretKeySelector where
  name : String
  key : String
  deriving DecidableEq

/-- A repository that Jenkins clones to set up jobs. -/
structure SeedJob where
  id : String
  targets : Option String
  description : Option String
  repositoryBranch : Option String
  repositoryUrl : String
  /-- The deploy key of the repository. -/
  privateKey : Option SecretKeySelector
  deriving DecidableEq

/-- What a user asks for. -/
structure JenkinsSpec where
  master : MasterSpec
  seedJobs : List SeedJob
  deriving DecidableEq

/-- What has been reached. -/
structure JenkinsStatus where
  /-- When provisioning of the master first started. -/
  provisionStart : Option Time
  /-- When the base phase first completed. -/
  baseCompleted : Option Time
  /-- When the user phase first completed. -/
  userCompleted : Option Time
  /-- The generation whose seed jobs failed for good. -/
  haltedGeneration : Option Int
  deriving DecidableEq

/-- A Jenkins object. -/
structure Jenkins where
  metadata : Metadata
  spec : JenkinsSpec
  status : Option JenkinsStatus
  deriving DecidableEq

/-- No amounts. -/
def ResourceQuantity.unset : ResourceQuantity := ⟨none, none⟩

/-- Neither requests nor limits. -/
def ResourceRequirements.unset : ResourceRequirements := ⟨none, none⟩

/-- A master of which nothing is said. -/
def MasterSpec.unset : MasterSpec := ⟨"", .empty, .empty, .unset⟩

/-- A status that records nothing. -/
def JenkinsStatus.unset : JenkinsStatus := ⟨none, none, none, none⟩

/-- Whether the repository is reached over SSH. -/
def SeedJob.usesSsh (job : SeedJob) : Bool := Text.contains "git@".toList job.repositoryUrl.toList

/-- The identity of an object in the cluster. -/
structure Identity where
  namespaceName : String
  name : String
  deriving DecidableEq

/-- The identity in one text. -/
def Identity.text (i : Identity) : String := i.namespaceName ++ "/" ++ i.name

namespace Jenkins

/-- The name of the object, or the one its name is generated from. -/
def name (j : Jenkins) : String :=
  match j.metadata.name with
  | some name => name
  | none => j.metadata.generateName.getD ""

/-- Namespace and name; a missing namespace counts as empty. -/
def identity (j : Jenkins) : Identity := ⟨j.metadata.namespaceName.getD "", j.name⟩

/-- The name of the ConfigMap with the user's configuration scripts. -/
def configMapName (j : Jenkins) : String := s!"{operatorName}-user-configuration-{j.name}"

/-- The status, with nothing recorded if there is none. -/
def statusOrUnset (j : Jenkins) : JenkinsStatus := j.status.getD .unset

/-- Whether the seed jobs have failed for good in the generation of the object. -/
def isHalted (j : Jenkins) : Bool :=
  match j.status.bind JenkinsStatus.haltedGeneration with
  | some generation => j.metadata.generation == some generation
  | none => false

end Jenkins

end JenkinsOperator
