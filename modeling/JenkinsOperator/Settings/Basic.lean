import JenkinsOperator.Data.Bounds
import JenkinsOperator.SeedJobs
import JenkinsOperator.Settings.Logging
import JenkinsOperator.Text.Digits

/-!
# Settings

What can be set when the operator is started. Each setting has a flag and an environment variable,
and a value that holds if neither is given.
-/

namespace JenkinsOperator

/-- How long the server keeps a watch open, in seconds, unless set otherwise. -/
def defaultWatchTimeoutSeconds : Nat := 25

/-- How long to wait after a failure, in seconds, unless set otherwise. -/
def defaultErrorRequeueSeconds : Nat := 5

/-- A length of time in whole seconds. -/
def ofSeconds (seconds : Nat) : Milliseconds := seconds * 1000

/-- The settings of the controller. -/
structure ControllerSettings where
  /-- The namespace to watch; all of them if there is none. -/
  watchNamespace : Option String
  watchTimeoutSeconds : Nat
  /-- How long to wait after a failure. -/
  errorRequeue : Milliseconds
  deriving DecidableEq

/-- The settings unless chosen otherwise. -/
def ControllerSettings.standard : ControllerSettings where
  watchNamespace := none
  watchTimeoutSeconds := defaultWatchTimeoutSeconds
  errorRequeue := ofSeconds defaultErrorRequeueSeconds

/-- All settings. -/
structure Settings where
  log : LogSettings
  controller : ControllerSettings
  deriving DecidableEq

/-- The settings unless chosen otherwise. -/
def Settings.standard : Settings := ⟨.standard, .standard⟩

/-- What can be set. -/
inductive SettingKey where
  | logLevel
  | logFormat
  | watchNamespace
  | watchTimeout
  | errorRequeue
  deriving DecidableEq

namespace SettingKey

/-- Every key, in the order in which variables are looked at. -/
def all : List SettingKey := [.logLevel, .logFormat, .watchNamespace, .watchTimeout, .errorRequeue]

/-- The flag of a key, without the hyphens in front. -/
def flag : SettingKey → String
  | .logLevel => "log-level"
  | .logFormat => "log-format"
  | .watchNamespace => "watch-namespace"
  | .watchTimeout => "watch-timeout-secs"
  | .errorRequeue => "error-requeue-secs"

/-- The environment variable of a key. -/
def environmentVariable : SettingKey → String
  | .logLevel => "STEWARD_LOG_LEVEL"
  | .logFormat => "STEWARD_LOG_FORMAT"
  | .watchNamespace => "STEWARD_WATCH_NAMESPACE"
  | .watchTimeout => "STEWARD_WATCH_TIMEOUT_SECS"
  | .errorRequeue => "STEWARD_ERROR_REQUEUE_SECS"

/-- The key of a flag. -/
def ofFlag? (name : String) : Option SettingKey := all.find? fun key => key.flag == name

end SettingKey

/-- Why a value cannot be set. -/
inductive ValueError where
  /-- The value is none of the choices. -/
  | noChoice
  /-- The value is not a number within its limits. -/
  | noNumber
  deriving DecidableEq

/-- A number of seconds that fits in 32 bits; a minus before zero is let pass. -/
def shortSeconds? (value : String) : Option Nat :=
  match Text.signed? value.toList with
  | some n => if 0 ≤ n ∧ n < UInt32.size then some n.toNat else none
  | none => none

/-- A number of seconds that fits in 64 bits. -/
def longSeconds? (value : String) : Option Nat :=
  match Text.unsigned? value.toList with
  | some n => if fitsWord n then some n else none
  | none => none

/-- A value that was read, or the reason why it could not be. -/
def readOr {α : Type} (error : ValueError) : Option α → Except ValueError α
  | some value => .ok value
  | none => .error error

namespace Settings

/-- The settings with a value for one key. -/
def set (s : Settings) (key : SettingKey) (value : String) : Except ValueError Settings :=
  match key with
  | .logLevel =>
    (readOr .noChoice (Verbosity.ofText? false value)).map fun verbosity =>
      { s with log := { s.log with verbosity } }
  | .logFormat =>
    (readOr .noChoice (LogFormat.ofText? false value)).map fun format =>
      { s with log := { s.log with format } }
  | .watchNamespace =>
    .ok { s with controller := { s.controller with watchNamespace := some value } }
  | .watchTimeout =>
    (readOr .noNumber (shortSeconds? value)).map fun watchTimeoutSeconds =>
      { s with controller := { s.controller with watchTimeoutSeconds } }
  | .errorRequeue =>
    (readOr .noNumber (longSeconds? value)).map fun seconds =>
      { s with controller := { s.controller with errorRequeue := ofSeconds seconds } }

end Settings

end JenkinsOperator
