import JenkinsOperator.Api.Client
import JenkinsOperator.Watch.Subscription
import JenkinsOperator.Watch.Trigger

/-!
# What the server lists

Before the controller watches a kind of objects it asks the server for all of them. The answer is
read as a whole: one document that does not read, and the controller has no listing of that kind.
-/

namespace JenkinsOperator

/-- The documents on a server. -/
structure Inventory where
  documents : WatchedKind → List Json

/-- What the controller has read of each kind, where it could. -/
structure Listing where
  jenkins : Option (List Jenkins)
  pods : Option (List Metadata)
  secrets : Option (List Metadata)
  configMaps : Option (List Metadata)

namespace Inventory

/-- The objects that a watch covers, as read by `decode?`. -/
def list? {α : Type} (i : Inventory) (s : Subscription) (decode? : Json → Option α) :
    Option (List α) := do
  let target ← s.target?
  let kind ← WatchedKind.ofPath? target.path
  ((i.documents kind).filter s.covers).mapM decode?

/-- The listing of a server. Of a Secret or ConfigMap the data must be readable too. -/
def listing (i : Inventory) (settings : ControllerSettings) : Listing where
  jenkins := i.list? (settings.subscription .jenkins) Jenkins.ofJson?
  pods := i.list? (settings.subscription .pod) Metadata.ofDocument?
  secrets := i.list? (settings.subscription .secret) fun document => do
    let _ ← Client.secretOfJson? document
    Metadata.ofDocument? document
  configMaps := i.list? (settings.subscription .configMap) fun document => do
    let _ ← Client.scriptsOfJson? document
    Metadata.ofDocument? document

end Inventory

namespace Listing

/-- The Jenkins objects that the objects of a kind trigger, if the kind was read. -/
def triggers? (l : Listing) : WatchedKind → Option (List JenkinsRef)
  | .jenkins => l.jenkins.map fun objects => objects.map Jenkins.ref
  | .pod => l.pods.map fun objects => objects.flatMap Metadata.owningJenkins
  | .secret => l.secrets.map fun objects => objects.filterMap Metadata.labelledJenkins?
  | .configMap => l.configMaps.map fun objects => objects.filterMap Metadata.labelledJenkins?

/-- The last Jenkins object listed of a reference. -/
def last? (l : Listing) (r : JenkinsRef) : Option Jenkins :=
  (l.jenkins.getD []).reverse.find? fun j => j.ref == r

/-- The Jenkins object of a reference. One outside every namespace stands in for all of its name. -/
def find? (l : Listing) (r : JenkinsRef) : Option Jenkins :=
  match l.last? r with
  | some object => some object
  | none => l.last? { r with namespaceName := none }

end Listing

end JenkinsOperator
