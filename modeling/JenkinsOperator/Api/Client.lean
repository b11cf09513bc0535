import JenkinsOperator.Api.Exchange
import JenkinsOperator.DeployKey.Base64
import JenkinsOperator.Pass.Program
import JenkinsOperator.Resource.Document

/-!
# Calls on the API server as exchanges

Objects, ConfigMaps and Secrets are read by their path. The specification is written by replacing
the whole document; the status is written by a merge patch that carries the version the writer
holds, so that the server refuses a stale one.
-/

namespace JenkinsOperator.Client

/-- The path of the Jenkins objects of a namespace. -/
def jenkinsPath (namespaceName : String) : String :=
  "/apis/" ++ jenkinsApiVersion ++ "/namespaces/" ++ namespaceName ++ "/jenkins"

/-- The path of the ConfigMaps of a namespace. -/
def configMapsPath (namespaceName : String) : String :=
  "/api/v1/namespaces/" ++ namespaceName ++ "/configmaps"

/-- The path of the Secrets of a namespace. -/
def secretsPath (namespaceName : String) : String :=
  "/api/v1/namespaces/" ++ namespaceName ++ "/secrets"

/-- An exchange about a named object; a name must not be empty. -/
def named {α : Type} (operation name : String) (exchange : Exchange α) : Exchange α :=
  if name.isEmpty then .impossible (.api operation .unsendable) else exchange

/-- Reads an object by its name below a path. -/
def read {α : Type} (operation path name : String) (decode? : Json → Option α) :
    Exchange (Option α) :=
  named operation name <|
    .toTarget operation .get (path ++ "/" ++ name) none fun response =>
      during operation (response.documentIfFound decode?)

/-- Reads a Jenkins object. -/
def fetch (i : Identity) : Exchange (Option Jenkins) :=
  read s!"get jenkins {i.text}" (jenkinsPath i.namespaceName) i.name Jenkins.ofJson?

/-- Writes to the path of a Jenkins object. -/
def write (operation : String) (object : Jenkins) (method : Method) (below : String)
    (content : String × Json) : Exchange WriteOutcome :=
  match object.metadata.namespaceName with
  | none => .impossible (.noNamespace "kube-client")
  | some namespaceName =>
    named operation object.name <|
      .toTarget operation method (jenkinsPath namespaceName ++ "/" ++ object.name ++ below ++ "?")
        (some content) fun response =>
          WriteOutcome.ofWrite operation (response.document Jenkins.ofJson?)

/-- Replaces an object. -/
def writeSpec (object : Jenkins) : Exchange WriteOutcome :=
  write s!"update jenkins {object.identity.text}" object .put "" (documentType, object.toJson)

/-- The merge patch of a status: the version that the writer holds, and the whole status. -/
def statusPatch (object : Jenkins) : Json :=
  .object [
    ("metadata", .object
      [("resourceVersion", Json.optionalString object.metadata.resourceVersion)]),
    ("status", match object.status with
      | some status => status.toJson
      | none => .null)]

/-- Writes the status of an object. -/
def writeStatus (object : Jenkins) : Exchange WriteOutcome :=
  write s!"update jenkins status {object.identity.text}" object .patch "/status"
    (mergePatchType, statusPatch object)

/-- Bytes in Base64; null is no bytes. -/
def bytesOfJson? (json : Json) : Option (List UInt8) :=
  (json.nullable fun text => text.string?.bind fun s => Base64.decode? s.toList).map (·.getD [])

/-- The scripts of a ConfigMap document. -/
def scriptsOfJson? (json : Json) : Option Scripts := do
  let members : Members ← json.object?
  guard (members.agrees "apiVersion" "v1")
  guard (members.agrees "kind" "ConfigMap")
  let _ ← members.optional "metadata" Metadata.ofJson?
  let _ ← members.optional "immutable" Json.bool?
  let _ ← members.optional "binaryData" (Json.map? bytesOfJson?)
  return (← members.optional "data" (Json.map? Json.string?)).getD .empty

/-- Reads the scripts of a ConfigMap. -/
def readConfigMap (i : Identity) : Exchange (Option Scripts) :=
  read s!"get configmap {i.text}" (configMapsPath i.namespaceName) i.name scriptsOfJson?

/-- The data of a Secret from its two maps, of which that of bytes counts before that of texts. -/
def secretData (data : OrderedMap String (List UInt8)) (texts : OrderedMap String String) :
    SecretData :=
  (texts.mapValues fun s => s.toUTF8.toList).merge data

/-- The data of a Secret document. -/
def secretOfJson? (json : Json) : Option SecretData := do
  let members : Members ← json.object?
  guard (members.agrees "apiVersion" "v1")
  guard (members.agrees "kind" "Secret")
  let _ ← members.optional "metadata" Metadata.ofJson?
  let _ ← members.optional "immutable" Json.bool?
  let _ ← members.optional "type" Json.string?
  let data ← members.optional "data" (Json.map? bytesOfJson?)
  let texts ← members.optional "stringData" (Json.map? Json.string?)
  return secretData (data.getD .empty) (texts.getD .empty)

/-- Reads the data of a Secret. -/
def readSecret (i : Identity) : Exchange (Option SecretData) :=
  read s!"get secret {i.text}" (secretsPath i.namespaceName) i.name secretOfJson?

end JenkinsOperator.Client
