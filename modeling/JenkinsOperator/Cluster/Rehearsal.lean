import JenkinsOperator.Cluster.Store
import JenkinsOperator.Pass.Program

/-!
# Rehearsing passes

A `Rehearsal` answers every external call from a store in memory and from a script: how each
collaborator behaves, which Secrets and which ConfigMap there are, what becomes of the next writes,
and one disturbance that strikes when a given call is made. It keeps a record of the calls and of
the notifications.
-/

namespace JenkinsOperator

/-- The calls that a disturbance can wait for. -/
inductive CallKind where
  | fetch
  | writeSpec
  | writeStatus
  | readConfigMap
  | readSecret
  | acceptsSpec
  | provision
  | ensureSeedJobs
  | configureScripts
  | runScripts
  deriving DecidableEq

/-- The kind of a call. -/
def Call.kind? : Call → Option CallKind
  | .fetch _ => some .fetch
  | .writeSpec _ => some .writeSpec
  | .writeStatus _ => some .writeStatus
  | .readConfigMap _ => some .readConfigMap
  | .readSecret _ => some .readSecret
  | .acceptsSpec _ => some .acceptsSpec
  | .provision _ => some .provision
  | .ensureSeedJobs _ _ => some .ensureSeedJobs
  | .configureScripts _ => some .configureScripts
  | .runScripts _ _ _ => some .runScripts
  | .publish _ _ => none
  | .clock => none

/-- What becomes of a write. -/
inductive WriteFate where
  | normal
  | conflict
  | failure (failure : Failure)

/-- What happens to the store behind the back of a pass. -/
inductive Disturbance where
  /-- All objects are deleted. -/
  | deleteAll
  /-- All objects get their next version. -/
  | touchAll

/-- How the collaborators behave. -/
structure Behaviour where
  fetch : Except Failure Unit
  writeSpec : Except Failure Unit
  writeStatus : Except Failure Unit
  configMap : Except Failure (Option Scripts)
  secrets : Except Failure (OrderedMap String SecretData)
  acceptsSpec : Except Failure Bool
  provision : Except Failure Provisioning
  seedJobs : Except Failure SeedStatus
  configureScripts : Except Failure Unit
  runScripts : Except Failure Bool

/-- Everything goes well. -/
def Behaviour.standard : Behaviour where
  fetch := .ok ()
  writeSpec := .ok ()
  writeStatus := .ok ()
  configMap := .ok (some (.ofList [("1-configure-theme.groovy", "println 'theme'")]))
  secrets := .ok .empty
  acceptsSpec := .ok true
  provision := .ok (.ready
    ⟨"http://ci-jenkins-http.default.svc:8080", "jenkins-operator-credentials-ci"⟩)
  seedJobs := .ok .done
  configureScripts := .ok ()
  runScripts := .ok true

/-- A cluster under a script, with the record of what was done to it. -/
structure Rehearsal where
  store : Store
  behaviour : Behaviour
  /-- The fates of the next specification writes. -/
  specWrites : List WriteFate
  /-- The fates of the next status writes. -/
  statusWrites : List WriteFate
  /-- What happens once, when a call of a kind is next made. -/
  disturbance : Option (CallKind × Disturbance)
  /-- The reading of the clock. -/
  now : Time
  /-- The calls so far, the last one first. -/
  calls : List Call
  /-- The notifications so far with their objects, the last one first. -/
  events : List (Jenkins × Notification)

namespace Rehearsal

/-- An undisturbed rehearsal in which everything goes well. -/
def start (now : Time) : Rehearsal := ⟨.empty, .standard, [], [], none, now, [], []⟩

/-- The store after a disturbance. -/
def disturb (s : Store) : Disturbance → Store
  | .deleteAll => .empty
  | .touchAll => s.touchAll

/-- The rehearsal after a call was made and before it is answered. -/
def record (r : Rehearsal) (c : Call) : Rehearsal :=
  let r := { r with calls := c :: r.calls }
  match r.disturbance with
  | some (kind, what) =>
    if c.kind? = some kind then { r with disturbance := none, store := disturb r.store what }
    else r
  | none => r

/-- A write whose fate is decided by the script, and by the store if the script lets it through. -/
def settleWrite (r : Rehearsal) (fate : WriteFate)
    (write : Store → Except Failure WriteOutcome × Store) :
    Except Failure WriteOutcome × Rehearsal :=
  match fate with
  | .conflict => (.ok .conflict, r)
  | .failure failure => (.error failure, r)
  | .normal =>
    let (outcome, store) := write r.store
    (outcome, { r with store })

/-- The first of the fates that are left. -/
def nextFate (fates : List WriteFate) : WriteFate := fates.head?.getD .normal

/-- A specification write; one that fails by its behaviour leaves the script as it is. -/
def performSpecWrite (r : Rehearsal) (object : Jenkins) :
    Except Failure WriteOutcome × Rehearsal :=
  match r.behaviour.writeSpec with
  | .error failure => (.error failure, r)
  | .ok () =>
    settleWrite { r with specWrites := r.specWrites.tail } (nextFate r.specWrites)
      fun store => store.writeSpec object

/-- A status write; one that fails by its behaviour leaves the script as it is. -/
def performStatusWrite (r : Rehearsal) (object : Jenkins) :
    Except Failure WriteOutcome × Rehearsal :=
  match r.behaviour.writeStatus with
  | .error failure => (.error failure, r)
  | .ok () =>
    settleWrite { r with statusWrites := r.statusWrites.tail } (nextFate r.statusWrites)
      fun store => store.writeStatus object

/-- The answer to a call, without its record. -/
def respond (r : Rehearsal) : (c : Call) → c.Answer × Rehearsal
  | .fetch identity => (r.behaviour.fetch.map fun _ => r.store.find? identity, r)
  | .writeSpec object => r.performSpecWrite object
  | .writeStatus object => r.performStatusWrite object
  | .readConfigMap _ => (r.behaviour.configMap, r)
  | .readSecret identity => (r.behaviour.secrets.map fun all => all.find? identity.name, r)
  | .acceptsSpec _ => (r.behaviour.acceptsSpec, r)
  | .provision _ => (r.behaviour.provision, r)
  | .ensureSeedJobs _ _ => (r.behaviour.seedJobs, r)
  | .configureScripts _ => (r.behaviour.configureScripts, r)
  | .runScripts _ _ _ => (r.behaviour.runScripts, r)
  | .publish object notification => ((), { r with events := (object, notification) :: r.events })
  | .clock => (r.now, r)

/-- The answer to a call. Notifications and looks at the clock are not among the recorded calls. -/
def answer (r : Rehearsal) (c : Call) : c.Answer × Rehearsal :=
  match c.kind? with
  | some _ => (r.record c).respond c
  | none => r.respond c

/-- The result of a program in the rehearsal. -/
def perform {ε α : Type} (r : Rehearsal) (program : Program ε α) : Except ε α × Rehearsal :=
  program.run (fun c r => r.answer c) r

end Rehearsal

end JenkinsOperator
