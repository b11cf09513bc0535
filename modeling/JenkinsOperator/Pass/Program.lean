import JenkinsOperator.Failure
import JenkinsOperator.Notification
import JenkinsOperator.SeedJobs

/-!
# Programs over external calls

Everything that the operator does to the world goes through a `Call`: it reads and writes objects on
the API server, asks the provisioner, the runner of seed jobs and the runner of scripts, publishes
notifications and looks at the clock. A `Program` is a tree of calls. It names its next call and
says, for each answer, how it goes on. It touches nothing itself, so whatever answers the calls (a
store in memory, a server, a list of faults) is a separate thing, and an interleaving of programs is
a choice of whose next call is answered.
-/

namespace JenkinsOperator

/-- Where a running master is reached. -/
structure ServerHandle where
  url : String
  /-- The Secret with the credentials of the master. -/
  credentialsSecret : String
  deriving DecidableEq

/-- The result of provisioning. -/
inductive Provisioning where
  /-- The master is not ready; look again after the delay. -/
  | inProgress (delay : Milliseconds)
  | ready (server : ServerHandle)
  deriving DecidableEq

/-- Configuration scripts by name. -/
abbrev Scripts := OrderedMap String String

/-- The bytes of a Secret by key. -/
abbrev SecretData := OrderedMap String (List UInt8)

/-- An external call. -/
inductive Call where
  /-- Read an object. -/
  | fetch (identity : Identity)
  /-- Replace the specification of an object at its version. -/
  | writeSpec (object : Jenkins)
  /-- Replace the status of an object at its version. -/
  | writeStatus (object : Jenkins)
  /-- Read a ConfigMap. -/
  | readConfigMap (identity : Identity)
  /-- Read a Secret. -/
  | readSecret (identity : Identity)
  /-- Ask the provisioner whether it accepts the specification. -/
  | acceptsSpec (object : Jenkins)
  /-- Drive the master toward the specification. -/
  | provision (object : Jenkins)
  /-- Make sure that every seed job is there and has been built. -/
  | ensureSeedJobs (server : ServerHandle) (object : Jenkins)
  /-- Make sure that the job that runs scripts is there. -/
  | configureScripts (server : ServerHandle)
  /-- Run the scripts; true once all have been applied. -/
  | runScripts (server : ServerHandle) (scripts : Scripts) (object : Jenkins)
  /-- Tell the user something about an object. -/
  | publish (object : Jenkins) (notification : Notification)
  /-- Look at the clock. -/
  | clock

/-- The answers of a call. Publishing never fails, and neither does the clock. -/
abbrev Call.Answer : Call → Type
  | .fetch _ => Except Failure (Option Jenkins)
  | .writeSpec _ => Except Failure WriteOutcome
  | .writeStatus _ => Except Failure WriteOutcome
  | .readConfigMap _ => Except Failure (Option Scripts)
  | .readSecret _ => Except Failure (Option SecretData)
  | .acceptsSpec _ => Except Failure Bool
  | .provision _ => Except Failure Provisioning
  | .ensureSeedJobs _ _ => Except Failure SeedStatus
  | .configureScripts _ => Except Failure Unit
  | .runScripts _ _ _ => Except Failure Bool
  | .publish _ _ => Unit
  | .clock => Time

/-- A program that ends with a value, or leaves early with a reason. -/
inductive Program (ε α : Type) where
  | done (value : α)
  | exit (reason : ε)
  | call (c : Call) (resume : c.Answer → Program ε α)

namespace Program

variable {ε δ α β σ : Type}

/-- The program that goes on with the value of another. -/
def bind : Program ε α → (α → Program ε β) → Program ε β
  | .done value, next => next value
  | .exit reason, _ => .exit reason
  | .call c resume, next => .call c fun answer => (resume answer).bind next

instance : Monad (Program ε) where
  pure := .done
  bind := bind

/-- The program with its reasons to leave replaced by their images. -/
def mapExit (f : ε → δ) : Program ε α → Program δ α
  | .done value => .done value
  | .exit reason => .exit (f reason)
  | .call c resume => .call c fun answer => (resume answer).mapExit f

/-- The program that turns reasons to leave into values or into other reasons. -/
def handle (f : ε → Except δ α) : Program ε α → Program δ α
  | .done value => .done value
  | .exit reason =>
    match f reason with
    | .ok value => .done value
    | .error reason' => .exit reason'
  | .call c resume => .call c fun answer => (resume answer).handle f

/-- One call whose failure ends the program. -/
def ask (c : Call) (view : c.Answer → Except Failure α) : Program Failure α :=
  .call c fun answer =>
    match view answer with
    | .ok value => .done value
    | .error failure => .exit failure

/-- The result of a program whose calls are answered one after another from a state. -/
def run (answer : (c : Call) → σ → c.Answer × σ) : Program ε α → σ → Except ε α × σ
  | .done value, s => (.ok value, s)
  | .exit reason, s => (.error reason, s)
  | .call c resume, s =>
    let (a, s') := answer c s
    (resume a).run answer s'

end Program

/-! ## Single calls -/

/-- Reads an object. -/
def fetch (identity : Identity) : Program Failure (Option Jenkins) := .ask (.fetch identity) id

/-- Replaces the specification of an object at its version. -/
def writeSpec (object : Jenkins) : Program Failure WriteOutcome := .ask (.writeSpec object) id

/-- Replaces the status of an object at its version. -/
def writeStatus (object : Jenkins) : Program Failure WriteOutcome := .ask (.writeStatus object) id

/-- Reads the scripts of a ConfigMap. -/
def readConfigMap (identity : Identity) : Program Failure (Option Scripts) :=
  .ask (.readConfigMap identity) id

/-- Reads the data of a Secret. -/
def readSecret (identity : Identity) : Program Failure (Option SecretData) :=
  .ask (.readSecret identity) id

/-- Asks the provisioner whether it accepts the specification. -/
def acceptsSpec (object : Jenkins) : Program Failure Bool := .ask (.acceptsSpec object) id

/-- Drives the master toward the specification. -/
def provision (object : Jenkins) : Program Failure Provisioning := .ask (.provision object) id

/-- Makes sure that every seed job is there and has been built. -/
def ensureSeedJobs (server : ServerHandle) (object : Jenkins) : Program Failure SeedStatus :=
  .ask (.ensureSeedJobs server object) id

/-- Makes sure that the job that runs scripts is there. -/
def configureScripts (server : ServerHandle) : Program Failure Unit :=
  .ask (.configureScripts server) id

/-- Runs the scripts. -/
def runScripts (server : ServerHandle) (scripts : Scripts) (object : Jenkins) :
    Program Failure Bool :=
  .ask (.runScripts server scripts object) id

/-- Tells the user something about an object. -/
def publish (object : Jenkins) (notification : Notification) : Program Failure Unit :=
  .call (.publish object notification) .done

/-- Looks at the clock. -/
def clock : Program Failure Time := .call .clock .done

end JenkinsOperator
