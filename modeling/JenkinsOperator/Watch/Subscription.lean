import JenkinsOperator.Api.Url
import JenkinsOperator.Resource.Document
import JenkinsOperator.Settings.Basic

/-!
# What is watched

The controller watches four kinds of objects, in one namespace or in all of them: Jenkins objects,
Pods, and of Secrets and ConfigMaps those that are labelled as belonging to a Jenkins object.
-/

namespace JenkinsOperator

/-- The kinds of objects that are watched. -/
inductive WatchedKind where
  | jenkins
  | pod
  | secret
  | configMap
  deriving DecidableEq

namespace WatchedKind

/-- Every kind. -/
def all : List WatchedKind := [.jenkins, .pod, .secret, .configMap]

/-- The path of the API of a kind. -/
def apiPath : WatchedKind → String
  | .jenkins => "/apis/" ++ jenkinsApiVersion
  | _ => "/api/v1"

/-- The word for many objects of a kind. -/
def plural : WatchedKind → String
  | .jenkins => "jenkins"
  | .pod => "pods"
  | .secret => "secrets"
  | .configMap => "configmaps"

/-- The label that watched objects of a kind must have. -/
def label? : WatchedKind → Option String
  | .jenkins => none
  | .pod => none
  | .secret => some ownerLabel
  | .configMap => some ownerLabel

/-- The kind whose objects the server lists at a path, by the last part of the path. Every other
path is one of a single object. -/
def ofPath? (path : String) : Option WatchedKind :=
  all.find? fun kind => ('/' :: kind.plural.toList).isSuffixOf path.toList

end WatchedKind

/-- A watch on the objects of a kind. -/
structure Subscription where
  kind : WatchedKind
  /-- The namespace of the objects; all of them if there is none. -/
  namespaceName : Option String
  /-- How long the server keeps the watch open. -/
  timeoutSeconds : Nat
  deriving DecidableEq

namespace Subscription

/-- The path of the objects. -/
def path (s : Subscription) : String :=
  match s.namespaceName with
  | some namespaceName =>
    s.kind.apiPath ++ "/namespaces/" ++ namespaceName ++ "/" ++ s.kind.plural
  | none => s.kind.apiPath ++ "/" ++ s.kind.plural

/-- The timeout, in seconds, that requests must stay below. -/
def timeoutLimit : Nat := 295

/-- What the server is asked for, if it can be asked: for no longer than allowed, and for a target
that is valid. -/
def target? (s : Subscription) : Option Target :=
  if s.timeoutSeconds < timeoutLimit then Target.ofText? s.path else none

/-- The namespace that the server lists. Of a name with slashes in it that is the first part. -/
def listedNamespace (s : Subscription) : Option String :=
  s.namespaceName.map fun name => String.ofList (name.toList.takeWhile (· != '/'))

/-- Whether a document is among those that the server lists for the watch. -/
def covers (s : Subscription) (document : Json) : Bool :=
  let inMetadata (name : String) : Option Json :=
    (document.member? "metadata").bind fun metadata => metadata.member? name
  let inNamespace := match s.listedNamespace with
    | some namespaceName => (inMetadata "namespace").bind Json.string? == some namespaceName
    | none => true
  let hasLabel := match s.kind.label? with
    | some label => ((inMetadata "labels").bind fun labels => labels.member? label).isSome
    | none => true
  inNamespace && hasLabel

end Subscription

namespace ControllerSettings

/-- The watch on a kind. -/
def subscription (s : ControllerSettings) (kind : WatchedKind) : Subscription :=
  ⟨kind, s.watchNamespace, s.watchTimeoutSeconds⟩

end ControllerSettings

end JenkinsOperator
