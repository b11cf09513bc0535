import JenkinsOperator.Resource.Defaults
import JenkinsOperator.Validation.Base
import JenkinsOperator.Validation.User

/-!
# A reconcile pass

A pass reads the object, fills in defaults, validates and provisions the master, and then validates
and applies what the user configured on it. It stops at the first step that is not ready. Nothing is
kept between passes: each one reads the object anew and goes by what is stored.

Every write is made at the version that was read. A write that loses against another writer ends
the pass, to be run again at once. A notification about a write is published only after the write
was accepted.
-/

namespace JenkinsOperator

/-- How a pass ends. -/
inductive Outcome where
  /-- Nothing is left to do until something changes. -/
  | done
  /-- Run again after a delay. -/
  | requeue (delay : Milliseconds)
  /-- Run again at once, against what is stored now. -/
  | requeueNow
  deriving DecidableEq

/-- What the runtime is told to do next. -/
inductive Directive where
  | awaitChange
  | requeue (delay : Milliseconds)
  deriving DecidableEq

/-- The directive of an outcome. -/
def Outcome.directive : Outcome → Directive
  | .done => .awaitChange
  | .requeue delay => .requeue delay
  | .requeueNow => .requeue 0

/-- Why a pass leaves before its last step. -/
inductive Exit where
  | failed (failure : Failure)
  | ended (outcome : Outcome)
  deriving DecidableEq

/-- A part of a pass. -/
abbrev Pass := Program Exit

instance : MonadLift (Program Failure) Pass := ⟨Program.mapExit .failed⟩

/-- How long to wait for scripts, or for the ConfigMap that holds them. -/
def scriptRequeueDelay : Milliseconds := 10000

namespace Pass

/-- Ends the pass with an outcome. -/
def stop {α : Type} (outcome : Outcome) : Pass α := .exit (.ended outcome)

/-- The object of an accepted write; a lost one ends the pass. -/
def accepted : WriteOutcome → Pass Jenkins
  | .updated stored => .done stored
  | .conflict => stop .requeueNow

/-- Writes the status of an object. -/
def saveStatus (object : Jenkins) (status : JenkinsStatus) : Pass Jenkins := do
  accepted (← writeStatus { object with status := some status })

/-- Fills in what the specification leaves open, and stores it if that changed anything. -/
def persistDefaults (object : Jenkins) : Pass Jenkins :=
  let (spec, changed) := object.spec.applyDefaults
  let object := { object with spec }
  if changed then do accepted (← writeSpec object) else .done object

/-- A complete specification is not stored again, and the pass goes on with the object it read. -/
theorem persistDefaults_eq (object : Jenkins) :
    persistDefaults object = if object.spec.isIncomplete then do
        accepted (← writeSpec { object with spec := object.spec.withDefaults })
      else .done object := by
  rw [persistDefaults, JenkinsSpec.applyDefaults_eq]
  cases complete : object.spec.isIncomplete with
  | true => rfl
  | false => rw [JenkinsSpec.withDefaults_eq_self complete]

/-- Goes on if nothing was found; else tells the user and ends the pass. -/
def require (object : Jenkins) (subject : String) (report : Report) : Pass Unit :=
  if report.isValid then .done ()
  else do
    publish object (.validationFailed s!"{subject} CR validation failed: {report.message}")
    stop .done

/-- Stamps the start of provisioning, unless it is stamped. -/
def markStart (object : Jenkins) : Pass Jenkins :=
  if object.statusOrUnset.provisionStart.isSome then .done object
  else do
    let now ← clock
    saveStatus object { object.statusOrUnset with provisionStart := some now }

/-- Stamps a phase as completed and tells the user, unless it is stamped. -/
def completePhase (phase : Phase) (object : Jenkins) : Pass Jenkins :=
  if (object.statusOrUnset.completedAt phase).isSome then .done object
  else do
    let now ← clock
    let stored ← saveStatus object (object.statusOrUnset.stamp phase now)
    publish stored (.completed phase)
    return stored

/-- Records that the seed jobs of this generation have failed for good, and tells the user. -/
def haltSeedJobs (object : Jenkins) (message : String) : Pass Unit := do
  let stored ← saveStatus object
    { object.statusOrUnset with haltedGeneration := object.metadata.generation }
  publish stored (.seedJobsHalted message)
  stop .done

/-- The base phase: validate and provision the master. -/
def basePhase (object : Jenkins) : Pass (Jenkins × ServerHandle) := do
  require object "Base" (← validateBase object)
  let object ← markStart object
  match ← provision object with
  | .inProgress delay => stop (.requeue delay)
  | .ready server => return (← completePhase .base object, server)

/-- Goes on once the seed jobs are done. -/
def awaitSeedJobs (object : Jenkins) (server : ServerHandle) : Pass Unit := do
  match (← ensureSeedJobs server object).decide with
  | .proceed => return ()
  | .requeue delay => stop (.requeue delay)
  | .halt message => haltSeedJobs object message

/-- Goes on once the configuration scripts have been applied. -/
def awaitScripts (object : Jenkins) (server : ServerHandle) : Pass Unit := do
  configureScripts server
  let namespaceName := object.metadata.namespaceName.getD ""
  match ← readConfigMap ⟨namespaceName, object.configMapName⟩ with
  | none => stop (.requeue scriptRequeueDelay)
  | some scripts =>
    if ← runScripts server scripts object then return ()
    else stop (.requeue scriptRequeueDelay)

/-- The user phase: seed jobs and configuration scripts on a running master. -/
def userPhase (object : Jenkins) (server : ServerHandle) : Pass Outcome := do
  require object "User" (← validateUser object)
  if object.isHalted then stop .done
  else do
    awaitSeedJobs object server
    awaitScripts object server
    discard <| completePhase .user object
    return .done

/-- All steps of a pass. -/
def steps (identity : Identity) : Pass Outcome := do
  match ← fetch identity with
  | none => return .done
  | some object =>
    let object ← persistDefaults object
    let (object, server) ← basePhase object
    userPhase object server

/-- An early end is an outcome like any other. -/
def settle : Exit → Except Failure Outcome
  | .failed failure => .error failure
  | .ended outcome => .ok outcome

end Pass

/-- One pass for an object. -/
def reconcilePass (identity : Identity) : Program Failure Outcome :=
  (Pass.steps identity).handle Pass.settle

/-- A pass for the identity of an object that was handed in; nothing else of it is looked at. -/
def reconcile (trigger : Jenkins) : Program Failure Directive :=
  match trigger.metadata.namespaceName with
  | none => .exit (.noNamespace "reconciler")
  | some namespaceName => do
    return (← reconcilePass ⟨namespaceName, trigger.name⟩).directive

/-- What to do after a failed pass: a conflict is run again at once, anything else after a delay. -/
def errorPolicy (errorRequeue : Milliseconds) (failure : Failure) : Directive :=
  if failure.isConflict then .requeue 0 else .requeue errorRequeue

end JenkinsOperator
