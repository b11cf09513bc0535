import JenkinsOperator.Json.Shape
import JenkinsOperator.Notification
import JenkinsOperator.Resource.Document
import JenkinsOperator.Text.Quoted

/-!
# Events

A notification is published as an Event object. `Event.toJson` is the document that is sent. The
server answers with the document that it stored, of which only matters that it is an event:
`Event.check?` looks at the shapes of all of its fields and keeps none.
-/

namespace JenkinsOperator

/-- The object that an event is about. -/
structure EventSubject where
  name : Option String
  namespaceName : Option String
  uid : Option String
  deriving DecidableEq

/-- An event as it is sent. -/
structure Event where
  kind : String
  reason : String
  action : String
  note : String
  regarding : EventSubject
  instanceName : String
  /-- When the first of the series happened. -/
  time : Time
  /-- How often it has happened, and when it last did, from the second time on. -/
  series : Option (Nat × Time)

namespace EventSubject

/-- The subject of an object. -/
def ofJenkins (j : Jenkins) : EventSubject :=
  ⟨j.metadata.name, j.metadata.namespaceName, j.metadata.uid⟩

/-- The document of a subject. -/
def toJson (s : EventSubject) : Json :=
  .object ([("apiVersion", .string jenkinsApiVersion), ("kind", .string jenkinsKind)]
    ++ Json.optionalMember "name" .string s.name
    ++ Json.optionalMember "namespace" .string s.namespaceName
    ++ Json.optionalMember "uid" .string s.uid)

end EventSubject

/-- The API group and version of events. -/
def eventApiVersion : String := "events.k8s.io/v1"

namespace Event

/-- Whether one event is a repeat of another. -/
def repeats (e other : Event) : Bool :=
  e.kind == other.kind && e.action == other.action && e.reason == other.reason
    && decide (e.regarding = other.regarding)

/-- The seconds since the beginning of 1970. -/
def unixSeconds (t : Time) : Int := (t.date.dayNumber - 719163) * 86400 + t.secondOfDay

/-- The number by which the name of an event tells it from others: its time in nanoseconds, or in
seconds where those do not fit in 64 bits. -/
def stamp (t : Time) : Nat :=
  let nanos := unixSeconds t * 1000000000 + t.sinceSecond
  ((if fitsSignedWord nanos then nanos else unixSeconds t) % UInt64.size).toNat

/-- The name of the Event object. -/
def name (e : Event) : String :=
  e.regarding.name.getD operatorName ++ "." ++ String.ofList (Text.hexDigits (stamp e.time))

/-- The document of an event. -/
def toJson (e : Event) : Json :=
  .object ([("apiVersion", .string eventApiVersion), ("kind", .string "Event"),
      ("action", .string e.action), ("eventTime", e.time.toJson),
      ("metadata", .object (("name", .string e.name)
        :: Json.optionalMember "namespace" .string e.regarding.namespaceName)),
      ("note", .string e.note), ("reason", .string e.reason), ("regarding", e.regarding.toJson),
      ("reportingController", .string operatorName),
      ("reportingInstance", .string e.instanceName)]
    ++ Json.optionalMember "series" (fun (count, last) =>
      .object [("count", .int count), ("lastObservedTime", last.toJson)]) e.series
    ++ [("type", .string e.kind)])

/-- A reference to an object. -/
def reference : Shape :=
  .fields (["apiVersion", "fieldPath", "kind", "name", "namespace", "resourceVersion", "uid"].map
    fun name => (name, .text))

/-- Where an event comes from. -/
def source : Shape := .fields [("component", .text), ("host", .text)]

/-- A moment. -/
def moment : Shape := .readable Time.ofJson?

/-- The count of a series and the time of its last event, which must be there. -/
def seriesShape : Shape := fun json =>
  Shape.fields [("count", .int32)] json
    && Shape.required "lastObservedTime" moment json

/-- The fields of an event. -/
def shape : Shape :=
  .fields [("action", .text), ("deprecatedCount", .int32),
    ("deprecatedFirstTimestamp", moment), ("deprecatedLastTimestamp", moment),
    ("deprecatedSource", source), ("eventTime", moment),
    ("metadata", .readable Metadata.ofJson?), ("note", .text), ("reason", .text),
    ("regarding", reference), ("related", reference), ("reportingController", .text),
    ("reportingInstance", .text), ("series", seriesShape), ("type", .text)]

/-- Whether a document is an event. -/
def check? (json : Json) : Option Unit := do
  let members : Members ← json.object?
  guard (members.agrees "apiVersion" eventApiVersion && members.agrees "kind" "Event"
    && shape json)

end Event

end JenkinsOperator
