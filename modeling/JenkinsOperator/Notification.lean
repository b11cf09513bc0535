import JenkinsOperator.Completion

/-!
# Notifications

What the operator tells the user about an object: a phase completed for the first time, the
specification needs correction, or the seed jobs have failed for good.
-/

namespace JenkinsOperator

/-- The reason of a notification. -/
inductive Reason where
  | baseConfigurationSuccess
  | userConfigurationSuccess
  | validationFailure
  | seedJobUnrecoverable
  deriving DecidableEq

/-- The word for a reason. -/
def Reason.word : Reason → String
  | .baseConfigurationSuccess => "BaseConfigurationSuccess"
  | .userConfigurationSuccess => "UserConfigurationSuccess"
  | .validationFailure => "CRValidationFailure"
  | .seedJobUnrecoverable => "SeedJobUnrecoverable"

/-- What the operator was doing. -/
inductive Action where
  | reconcile
  | validate
  | seed
  deriving DecidableEq

/-- The word for an action. -/
def Action.word : Action → String
  | .reconcile => "Reconcile"
  | .validate => "Validate"
  | .seed => "Seed"

/-- One thing to tell the user. -/
structure Notification where
  warning : Bool
  reason : Reason
  action : Action
  note : String
  deriving DecidableEq

/-- The word for the kind of a notification. -/
def Notification.kind (n : Notification) : String := if n.warning then "Warning" else "Normal"

/-- The reason that goes with the completion of a phase. -/
def Phase.successReason : Phase → Reason
  | .base => .baseConfigurationSuccess
  | .user => .userConfigurationSuccess

/-- The note that goes with the completion of a phase. -/
def Phase.successNote : Phase → String
  | .base => "Base configuration completed"
  | .user => "User configuration completed"

namespace Notification

/-- A phase completed for the first time. -/
def completed (phase : Phase) : Notification :=
  ⟨false, phase.successReason, .reconcile, phase.successNote⟩

/-- The specification needs correction. -/
def validationFailed (note : String) : Notification := ⟨true, .validationFailure, .validate, note⟩

/-- The seed jobs have failed for good. -/
def seedJobsHalted (message : String) : Notification :=
  ⟨true, .seedJobUnrecoverable, .seed,
    s!"Seed job failed and will not be retried: {message}"⟩

end Notification

end JenkinsOperator
