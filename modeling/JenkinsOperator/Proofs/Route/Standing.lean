import JenkinsOperator.Proofs.Resource.Defaults
import JenkinsOperator.Proofs.Route.Travel

/-!
# What is known of the object along the route

Each stage of the route was passed with the copy that is held, so the copy shows it: from the first
write on, its specification leaves nothing open; once the master is asked for, the start of
provisioning is stamped; once the seed jobs are looked at, the base phase is; and once they are
done, they have not failed for good (`Reaches.stands`). A write changes one of these and leaves the
others, so none is lost again further on.
-/

namespace JenkinsOperator

namespace Jenkins

/-- Whether nothing is left open, and the start of provisioning is stamped. -/
structure IsUnderway (j : Jenkins) : Prop where
  complete : j.spec.isIncomplete = false
  started : j.statusOrUnset.provisionStart.isSome = true

/-- Whether the base phase is stamped, too. -/
structure IsBased (j : Jenkins) : Prop extends j.IsUnderway where
  based : (j.statusOrUnset.completedAt .base).isSome = true

/-- Whether its seed jobs have not failed for good, either. -/
structure IsRunning (j : Jenkins) : Prop extends j.IsBased where
  running : j.isHalted = false

end Jenkins

/-- What the copy of the object shows at a stage. -/
def Stage.Stands : Stage → Prop
  | .read _ => True
  | .filled object => object.spec.isIncomplete = false
  | .approved object => object.spec.isIncomplete = false
  | .started object => object.IsUnderway
  | .achieved .base object _ => object.IsUnderway
  | .achieved .user object _ => object.IsRunning
  | .completed .base object _ => object.IsBased
  | .completed .user object _ =>
    object.IsBased ∧ (object.statusOrUnset.completedAt .user).isSome = true
  | .judging object _ _ _ => object.IsBased
  | .seeded object _ => object.IsRunning
  | .configured object _ => object.IsRunning
  | .equipped object _ _ => object.IsRunning

variable {server : Jenkins → Jenkins → Prop} {identity : Identity} {past : Past} {stage : Stage}
  {object stored : Jenkins} {c : Call}

/-! ## What a write does -/

theorem Accepted.of_spec
    (accepted : Accepted server object stored (.writeSpec object.withDefaults)) :
    stored.spec = object.spec.withDefaults ∧ stored.statusOrUnset = object.statusOrUnset ∧
      server object stored := by
  cases accepted with
  | spec _ _ spec status kept => exact ⟨spec, Jenkins.statusOrUnset_congr status, kept⟩

theorem Accepted.of_status {s : JenkinsStatus}
    (accepted : Accepted server object stored (.writeStatus { object with status := some s })) :
    stored.spec = object.spec ∧ stored.statusOrUnset = s ∧ server object stored := by
  cases accepted with
  | status _ _ spec status kept => exact ⟨spec, Jenkins.statusOrUnset_of_eq_some status, kept⟩

/-! ## Along the route -/

/-- A stamp of a phase is set, and no other. -/
theorem Jenkins.IsUnderway.stamped {phase : Phase} {now : Time} (underway : object.IsUnderway)
    (spec : stored.spec = object.spec)
    (status : stored.statusOrUnset = object.statusOrUnset.stamp phase now) :
    stored.IsUnderway ∧ (stored.statusOrUnset.completedAt phase).isSome = true := by
  refine ⟨⟨?_, ?_⟩, ?_⟩
  · rw [spec]
    exact underway.complete
  · rw [status]
    cases phase with
    | base => exact underway.started
    | user => exact underway.started
  · rw [status, JenkinsStatus.completedAt_stamp]
    rfl

/-- The copy held shows how far a pass has come. -/
theorem Reaches.stands (reached : Reaches server identity stage past) : stage.Stands := by
  induction reached with
  | read object => trivial
  | keepSpec _ complete _ => exact complete
  | @fill past object stored _ _ accepted _ =>
    show stored.spec.isIncomplete = false
    rw [accepted.of_spec.1]
    exact object.spec.isIncomplete_withDefaults
  | approve accepted _ _ ih => exact ih
  | keepStart _ started ih => exact ⟨ih, started⟩
  | start now stored _ _ accepted ih =>
    obtain ⟨spec, status, -⟩ := accepted.of_status
    refine ⟨?_, ?_⟩
    · rw [spec]
      exact ih
    · rw [status]
      rfl
  | provision handle _ ih => exact ih
  | @keepStamp past object handle phase _ completed ih =>
    cases phase with
    | base => exact ⟨ih, completed⟩
    | user => exact ⟨ih.toIsBased, completed⟩
  | @stamp past object handle phase now stored _ _ accepted ih =>
    obtain ⟨spec, status, -⟩ := accepted.of_status
    cases phase with
    | base =>
      obtain ⟨underway, completed⟩ := Jenkins.IsUnderway.stamped ih spec status
      exact ⟨underway, completed⟩
    | user =>
      obtain ⟨underway, completed⟩ := ih.toIsUnderway.stamped spec status
      refine ⟨⟨underway, ?_⟩, completed⟩
      -- The stamp of the base phase is another one.
      rw [status, JenkinsStatus.completedAt_stamp_of_ne _ _ _ Phase.noConfusion]
      exact ih.based
  | judge _ ih => exact ih
  | keyless _ _ ih => exact ih
  | keyed selector data _ _ ih => exact ih
  | seed _ running ih => exact ⟨ih, running⟩
  | configure _ ih => exact ih
  | equip scripts _ ih => exact ih
  | apply _ ih => exact ih

end JenkinsOperator
