import JenkinsOperator.Api.Event
import JenkinsOperator.Api.Exchange

/-!
# Publishing events

A notification becomes an Event object on the API server. A repeat of one that was published before
does not become a second Event: it is a patch of the first one that counts the series up. What
counts as a repeat is the kind, action and reason of the notification and the object it is about;
the note is that of the first.

Only what was published successfully is remembered, and publishing never fails.
-/

namespace JenkinsOperator

/-- Who reports, and which events were published. -/
structure Recorder where
  instanceName : String
  /-- The published events, the last one first. -/
  published : List Event

namespace Recorder

/-- A recorder that has published nothing. -/
def start (instanceName : Option String) : Recorder := ⟨instanceName.getD operatorName, []⟩

/-- The event of a notification at a time: the first of its kind, or one more of a series. -/
def eventOf (r : Recorder) (now : Time) (object : Jenkins) (n : Notification) : Event :=
  let fresh : Event := ⟨n.kind, n.reason.word, n.action.word, n.note, .ofJenkins object,
    r.instanceName, now, none⟩
  match r.published.find? fresh.repeats with
  | none => fresh
  | some earlier =>
    let count := match earlier.series with
      | some (count, _) => count + 1
      | none => 2
    { earlier with series := some (count, now) }

/-- The path of the events of a namespace. -/
def eventsPath (namespaceName : String) : String :=
  "/apis/" ++ eventApiVersion ++ "/namespaces/" ++ namespaceName ++ "/events"

/-- The exchange that publishes an event. -/
def exchange (e : Event) : Exchange Unit :=
  let operation := "publish event"
  let path := eventsPath (e.regarding.namespaceName.getD "default")
  let read (response : Response) := during operation (response.document Event.check?)
  match e.series with
  | none => .toTarget operation .post (path ++ "?") (some (documentType, e.toJson)) read
  | some _ =>
    .toTarget operation .patch (path ++ "/" ++ e.name ++ "?") (some (mergePatchType, e.toJson)) read

/-- The recorder after an event was published. -/
def remember (r : Recorder) (e : Event) : Recorder := { r with published := e :: r.published }

end Recorder

end JenkinsOperator
