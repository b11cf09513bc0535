import JenkinsOperator.Api.Session
import JenkinsOperator.Pass.Reconcile
import JenkinsOperator.Watch.Intake
import JenkinsOperator.Watch.Listing

/-!
# The first round

When the controller starts, everything that the server lists counts as changed. Every Jenkins object
that is triggered gets one pass, however many changes trigger it. A trigger for an object that the
server did not list fails without a pass, and so does a listing that could not be had. Nothing is
done before the listing of the Jenkins objects was taken up to its end.

The server of a round lists objects and has no single one of them. By the time of a pass its object
is gone, and the pass ends there.
-/

namespace JenkinsOperator

/-- What goes wrong in a round. -/
inductive RoundFailure where
  /-- The objects of a kind could not be listed. -/
  | unlisted (kind : WatchedKind)
  /-- There is no object for a trigger. -/
  | notFound (trigger : JenkinsRef)
  /-- The pass of a trigger failed. -/
  | passFailed (trigger : JenkinsRef) (failure : Failure)
  deriving DecidableEq

/-- What came of a round. -/
structure Round where
  /-- The watches that were opened. -/
  watches : List Subscription
  /-- The paths of the single objects that the server was asked for. -/
  fetched : List String
  failures : List RoundFailure
  deriving DecidableEq

namespace Session

/-- Follows a trigger. -/
def follow (s : Session) (l : Listing) (r : JenkinsRef) : Except RoundFailure Directive × Session :=
  match l.find? r with
  | none => (.error (.notFound r), s)
  | some object =>
    match s.run (reconcile object) with
    | (.ok directive, s) => (.ok directive, s)
    | (.error failure, s) => (.error (.passFailed r failure), s)

/-- Follows triggers one after another, and keeps the failures. -/
def followAll (s : Session) (l : Listing) : List JenkinsRef → List RoundFailure × Session
  | [] => ([], s)
  | r :: rest =>
    let (result, s) := s.follow l r
    let (failures, s) := s.followAll l rest
    match result with
    | .ok _ => (failures, s)
    | .error failure => (failure :: failures, s)

end Session

namespace Listing

/-- The body of a listing. -/
def document : Json := .object [("kind", .string "List"), ("items", .array [])]

/-- The response of the server of a round: a listing where there is one, and nothing otherwise. -/
def serve (target : Target) : Response :=
  match WatchedKind.ofPath? target.path with
  | some _ => ⟨200, document.text⟩
  | none => Session.absent

/-- The Jenkins objects to be followed, each once. -/
def followed (intake : Intake) : List JenkinsRef :=
  if intake.finished.contains .jenkins then intake.triggers.reverse.eraseDups else []

end Listing

namespace ControllerSettings

/-- The first round of a controller. -/
def firstRound (settings : ControllerSettings) (collaborators : Rehearsal) (i : Inventory) :
    Round :=
  let subscriptions := WatchedKind.all.map settings.subscription
  let listing := i.listing settings
  let intake := (Intake.start listing.triggers?).run
  let (failures, session) :=
    (Session.ofServer collaborators Listing.serve).followAll listing (Listing.followed intake)
  let targets := subscriptions.filterMap Subscription.target?
    ++ session.requests.reverse.map Request.target
  { watches := intake.watched.reverse.map settings.subscription
    fetched := (targets.map Target.path).filter fun path => (WatchedKind.ofPath? path).isNone
    failures := intake.unlisted.reverse.map .unlisted ++ failures }

end ControllerSettings

end JenkinsOperator
