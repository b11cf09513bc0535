import JenkinsOperator.Resource.Basic

/-!
# Defaults of a specification

Whatever a user leaves open is filled in before anything else happens, so that validation and
provisioning see a complete specification. A value that is already given is kept; an empty text and
an empty group of plugins count as not given.

Filling in says of each part whether it changed. What comes of it in the end is `withDefaults`, and
something changed if and only if something was open (`JenkinsSpec.applyDefaults_eq`).
-/

namespace JenkinsOperator

/-- Declarations from a table of root tokens and dependents. -/
def Declarations.ofTable (table : List (String × List String)) : Declarations := .ofList table

/-- The plugins that the operator itself needs to configure Jenkins. -/
def basePlugins : Declarations := .ofTable
  [("configuration-as-code:1.4", ["configuration-as-code-support:1.4"]),
    ("git:3.9.1",
      ["apache-httpcomponents-client-4-api:4.5.5-3.0", "credentials:2.1.18",
        "display-url-api:2.3.0", "git-client:2.7.3", "jsch:0.1.54.2", "junit:1.24", "mailer:1.22",
        "matrix-project:1.13", "scm-api:2.3.0", "script-security:1.49", "ssh-credentials:1.14",
        "structs:1.17", "workflow-api:2.31", "workflow-scm-step:2.7", "workflow-step-api:2.16"]),
    ("job-dsl:1.70", ["script-security:1.49", "structs:1.17"]),
    ("kubernetes:1.13.8",
      ["apache-httpcomponents-client-4-api:4.5.5-3.0", "cloudbees-folder:6.7",
        "credentials:2.1.18", "durable-task:1.28", "jackson2-api:2.9.8",
        "kubernetes-credentials:0.4.0", "plain-credentials:1.5", "structs:1.17", "variant:1.1",
        "workflow-step-api:2.16"]),
    ("kubernetes-credentials-provider:0.11", ["credentials:2.1.18", "structs:1.17", "variant:1.1"]),
    ("workflow-job:2.30",
      ["scm-api:2.3.0", "script-security:1.49", "structs:1.17", "workflow-api:2.31",
        "workflow-step-api:2.16", "workflow-support:3.0"])]

/-- The token of the plugin that stands in for an empty group of the user. -/
def defaultUserPlugin : String := "simple-theme-plugin:0.5.1"

/-- The declarations that stand in for an empty group of the user. -/
def defaultUserPlugins : Declarations := .ofTable [(defaultUserPlugin, [])]

/-- The image that stands in for an empty one. -/
def defaultImage : String := "jenkins/jenkins:lts"

/-- Amounts of processor and memory that are both given. -/
structure FullQuantity where
  cpu : String
  memory : String
  deriving DecidableEq

/-- What a master asks for unless the user says otherwise. -/
def defaultRequests : FullQuantity := ⟨"1", "500Mi"⟩

/-- What a master is held to unless the user says otherwise. -/
def defaultLimits : FullQuantity := ⟨"1500m", "3Gi"⟩

/-- Whether a text is missing or empty. -/
def isOpen : Option String → Bool
  | some s => s.isEmpty
  | none => true

/-- A text, or the one that stands in for an open one. -/
def fillText (default : String) (value : Option String) : Option String :=
  if isOpen value then some default else value

theorem fillText_eq_self {default : String} {value : Option String} (given : isOpen value = false) :
    fillText default value = value := by
  rw [fillText, given]
  rfl

/-- A value with its default in place if it is open, and whether it was. -/
def orDefault {α : Type} (isOpen : Bool) (default value : α) : α × Bool :=
  if isOpen then (default, true) else (value, false)

theorem orDefault_eq {α : Type} (isOpen : Bool) (default value : α) :
    orDefault isOpen default value = (if isOpen then default else value, isOpen) := by
  cases isOpen <;> rfl

namespace ResourceQuantity

/-- Fills in the amounts that are open, and says whether one was. -/
def applyDefaults (default : FullQuantity) (q : ResourceQuantity) : ResourceQuantity × Bool :=
  let (cpu, cpuChanged) := orDefault (isOpen q.cpu) (some default.cpu) q.cpu
  let (memory, memoryChanged) := orDefault (isOpen q.memory) (some default.memory) q.memory
  (⟨cpu, memory⟩, cpuChanged || memoryChanged)

/-- Whether one of the amounts is open. -/
def isIncomplete (q : ResourceQuantity) : Bool := isOpen q.cpu || isOpen q.memory

/-- The amounts with defaults in place of open ones. -/
def fill (default : FullQuantity) (q : ResourceQuantity) : ResourceQuantity :=
  ⟨fillText default.cpu q.cpu, fillText default.memory q.memory⟩

theorem applyDefaults_eq (default : FullQuantity) (q : ResourceQuantity) :
    q.applyDefaults default = (q.fill default, q.isIncomplete) := by
  simp only [applyDefaults, orDefault_eq]
  rfl

theorem fill_eq_self {default : FullQuantity} {q : ResourceQuantity}
    (complete : q.isIncomplete = false) : q.fill default = q := by
  obtain ⟨cpu, memory⟩ := Bool.or_eq_false_iff.1 complete
  rw [fill, fillText_eq_self cpu, fillText_eq_self memory]

end ResourceQuantity

namespace ResourceRequirements

/-- Fills in the amounts that are open, and says whether one was. Requests and limits that are
missing are put there without amounts first, which does not count as a change by itself. -/
def applyDefaults (r : ResourceRequirements) : ResourceRequirements × Bool :=
  let (requests, requestsChanged) := (r.requests.getD .unset).applyDefaults defaultRequests
  let (limits, limitsChanged) := (r.limits.getD .unset).applyDefaults defaultLimits
  (⟨some requests, some limits⟩, requestsChanged || limitsChanged)

/-- Whether an amount is open. -/
def isIncomplete (r : ResourceRequirements) : Bool :=
  (r.requests.getD .unset).isIncomplete || (r.limits.getD .unset).isIncomplete

/-- The requirements with defaults in place of open amounts. -/
def fill (r : ResourceRequirements) : ResourceRequirements :=
  ⟨some ((r.requests.getD .unset).fill defaultRequests),
    some ((r.limits.getD .unset).fill defaultLimits)⟩

theorem applyDefaults_eq (r : ResourceRequirements) :
    r.applyDefaults = (r.fill, r.isIncomplete) := by
  simp only [applyDefaults, ResourceQuantity.applyDefaults_eq]
  rfl

/-- Amounts that are missing altogether are open. -/
theorem some_getD_unset {q : Option ResourceQuantity}
    (complete : (q.getD .unset).isIncomplete = false) : some (q.getD .unset) = q := by
  cases q with
  | none => cases complete
  | some q => rfl

theorem fill_eq_self {r : ResourceRequirements} (complete : r.isIncomplete = false) :
    r.fill = r := by
  obtain ⟨requests, limits⟩ := Bool.or_eq_false_iff.1 complete
  rw [fill, ResourceQuantity.fill_eq_self requests, ResourceQuantity.fill_eq_self limits,
    some_getD_unset requests, some_getD_unset limits]

end ResourceRequirements

namespace JenkinsSpec

/-- Fills in what is left open, one thing after another, and says whether something was. -/
def applyDefaults (s : JenkinsSpec) : JenkinsSpec × Bool :=
  let (image, imageChanged) := orDefault s.master.image.isEmpty defaultImage s.master.image
  let (operatorPlugins, operatorPluginsChanged) :=
    orDefault s.master.operatorPlugins.isEmpty basePlugins s.master.operatorPlugins
  let (plugins, pluginsChanged) :=
    orDefault s.master.plugins.isEmpty defaultUserPlugins s.master.plugins
  let (resources, resourcesChanged) := s.master.resources.applyDefaults
  ({ s with master := { image, operatorPlugins, plugins, resources } },
    imageChanged || operatorPluginsChanged || pluginsChanged || resourcesChanged)

/-- Whether something is left open. -/
def isIncomplete (s : JenkinsSpec) : Bool :=
  s.master.image.isEmpty || s.master.operatorPlugins.isEmpty || s.master.plugins.isEmpty
    || s.master.resources.isIncomplete

/-- The specification with defaults for all that is left open. -/
def withDefaults (s : JenkinsSpec) : JenkinsSpec where
  master := {
    image := if s.master.image.isEmpty then defaultImage else s.master.image
    operatorPlugins :=
      if s.master.operatorPlugins.isEmpty then basePlugins else s.master.operatorPlugins
    plugins := if s.master.plugins.isEmpty then defaultUserPlugins else s.master.plugins
    resources := s.master.resources.fill }
  seedJobs := s.seedJobs

/-- Filling in the defaults tells whether anything was missing. -/
theorem applyDefaults_eq (s : JenkinsSpec) :
    s.applyDefaults = (s.withDefaults, s.isIncomplete) := by
  simp only [applyDefaults, orDefault_eq, ResourceRequirements.applyDefaults_eq]
  rfl

/-- A complete specification is left as it is. -/
theorem withDefaults_eq_self {s : JenkinsSpec} (complete : s.isIncomplete = false) :
    s.withDefaults = s := by
  simp only [isIncomplete, Bool.or_eq_false_iff] at complete
  obtain ⟨⟨⟨image, operatorPlugins⟩, plugins⟩, resources⟩ := complete
  rw [withDefaults, image, operatorPlugins, plugins, ResourceRequirements.fill_eq_self resources]
  rfl

end JenkinsSpec

end JenkinsOperator
