import JenkinsOperator.Resource.Basic
import JenkinsOperator.Time.Span

/-!
# Phases and their completion

Reconciliation has two phases, the master itself and what is configured on it. Each is stamped once,
when it first completes, and a stamp is never moved.
-/

namespace JenkinsOperator

/-- A stage of reconciliation. -/
inductive Phase where
  /-- Provisioning the master. -/
  | base
  /-- Seed jobs and configuration scripts. -/
  | user
  deriving DecidableEq

/-- The name of a phase. -/
def Phase.label : Phase → String
  | .base => "base"
  | .user => "user"

namespace JenkinsStatus

/-- When a phase first completed. -/
def completedAt (s : JenkinsStatus) : Phase → Option Time
  | .base => s.baseCompleted
  | .user => s.userCompleted

/-- The status with a phase stamped at a time, whatever was there. -/
def stamp (s : JenkinsStatus) (phase : Phase) (now : Time) : JenkinsStatus :=
  match phase with
  | .base => { s with baseCompleted := some now }
  | .user => { s with userCompleted := some now }

/-- The status with a phase stamped, if it has no stamp yet. -/
def complete? (s : JenkinsStatus) (phase : Phase) (now : Time) : Option JenkinsStatus :=
  match s.completedAt phase with
  | some _ => none
  | none => some (s.stamp phase now)

/-- The status with the start of provisioning stamped, if it has no such stamp yet. -/
def start? (s : JenkinsStatus) (now : Time) : Option JenkinsStatus :=
  match s.provisionStart with
  | some _ => none
  | none => some { s with provisionStart := some now }

/-- From the start of provisioning to the completion of a phase, when both are known. -/
def phaseDuration (s : JenkinsStatus) (phase : Phase) : Option Span :=
  match s.provisionStart, s.completedAt phase with
  | some started, some completed => some (completed.since started)
  | _, _ => none

end JenkinsStatus

end JenkinsOperator
