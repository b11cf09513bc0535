import JenkinsOperator.Notification

/-!
# What a stamp changes

A stamp sets the time of its phase and leaves the rest of a status as it is.
-/

namespace JenkinsOperator

namespace JenkinsStatus

variable (s : JenkinsStatus) (phase : Phase) (now : Time)

/-- A stamped phase is completed at the time of the stamp. -/
theorem completedAt_stamp : (s.stamp phase now).completedAt phase = some now := by
  cases phase <;> rfl

/-- A stamp leaves the other phase as it was. -/
theorem completedAt_stamp_of_ne {other : Phase} (h : other ≠ phase) :
    (s.stamp phase now).completedAt other = s.completedAt other := by
  cases phase <;> cases other
  case base.user => rfl
  case user.base => rfl
  all_goals exact absurd rfl h

@[simp] theorem haltedGeneration_stamp :
    (s.stamp phase now).haltedGeneration = s.haltedGeneration := by
  cases phase <;> rfl

end JenkinsStatus

/-- Each phase has a reason of its own. -/
theorem Phase.successReason_inj {phase other : Phase}
    (h : phase.successReason = other.successReason) : phase = other := by
  cases phase <;> cases other
  case base.base => rfl
  case user.user => rfl
  all_goals exact Reason.noConfusion h

/-- No phase is completed for the reason of a failure. -/
theorem Phase.successReason_ne (phase : Phase) :
    phase.successReason ≠ .seedJobUnrecoverable ∧ phase.successReason ≠ .validationFailure := by
  cases phase <;> decide

end JenkinsOperator
