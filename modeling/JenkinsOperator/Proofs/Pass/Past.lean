import Mathlib.Data.List.Forall2
import JenkinsOperator.Pass.Reconcile
import JenkinsOperator.Proofs.Completion
import JenkinsOperator.Proofs.Pass.Conduct

/-!
# What the exchanges of a pass tell

A pass keeps nothing but what it was told, so all that it knows at a point can be read off its past:
the copy of the object that the store returned last (`held?`), the verdicts of both validations, and
whether its last write has achieved something that the user is yet to be told of (`Milestone.owed`).
-/

namespace JenkinsOperator

namespace Jenkins

theorem statusOrUnset_of_eq_some {j : Jenkins} {s : JenkinsStatus} (h : j.status = some s) :
    j.statusOrUnset = s := by
  rw [statusOrUnset, h]
  rfl

theorem statusOrUnset_congr {j j' : Jenkins} (h : j'.status = j.status) :
    j'.statusOrUnset = j.statusOrUnset := by
  rw [statusOrUnset, h]
  rfl

/-- An object is halted if the generation recorded is the current one. -/
theorem isHalted_iff {j : Jenkins} :
    j.isHalted = true ↔
      ∃ generation, j.statusOrUnset.haltedGeneration = some generation ∧
        j.metadata.generation = some generation := by
  unfold isHalted statusOrUnset
  cases j.status with
  | none => simp [JenkinsStatus.unset]
  | some s =>
    cases h : s.haltedGeneration with
    | none => simp [h]
    | some generation => simp [h]

end Jenkins

/-! ## The copy that a pass holds -/

/-- The object that the store holds after an accepted write. -/
def Call.stored? : (c : Call) → c.Answer → Option Jenkins
  | .writeSpec _, .ok (.updated stored) => some stored
  | .writeStatus _, .ok (.updated stored) => some stored
  | _, _ => none

/-- The object that an answer returns, if it returns one. -/
def Call.returned? : (c : Call) → c.Answer → Option Jenkins
  | .fetch _, .ok found => found
  | c, answer => c.stored? answer

/-- The copy of the object that was returned last. -/
def held? : Past → Option Jenkins
  | [] => none
  | e :: past => (e.call.returned? e.answer).or (held? past)

/-- The object that a call is about, except for a specification that is yet to be stored. -/
def Call.subject? : Call → Option Jenkins
  | .writeStatus object => some object
  | .acceptsSpec object => some object
  | .provision object => some object
  | .ensureSeedJobs _ object => some object
  | .runScripts _ _ object => some object
  | .publish object _ => some object
  | _ => none

/-- Whether a call reads the object. -/
def Call.isFetch : Call → Bool
  | .fetch _ => true
  | _ => false

/-- Whether a call tells the user something. -/
def Call.isPublish : Call → Bool
  | .publish _ _ => true
  | _ => false

theorem Call.returned?_of_not_isFetch {c : Call} (h : c.isFetch = false) (answer : c.Answer) :
    c.returned? answer = c.stored? answer := by
  cases c with
  | fetch identity => cases h
  | _ => rfl

/-- What an accepted write has stored is returned. -/
theorem Call.returned?_of_stored? {c : Call} {answer : c.Answer} {j : Jenkins}
    (h : c.stored? answer = some j) : c.returned? answer = some j := by
  cases c with
  | fetch identity => cases h
  | _ => exact h

/-- After an accepted write, the copy held is the object as it was stored. -/
theorem held?_of_stored? {past : Past} {c : Call} {answer : c.Answer} {j : Jenkins}
    (h : c.stored? answer = some j) : held? (⟨c, answer⟩ :: past) = some j := by
  show (c.returned? answer).or (held? past) = some j
  rw [Call.returned?_of_stored? h]
  rfl

/-- The copy held after an exchange is the one returned, or the one held before. -/
theorem held?_cons {e : Call.Exchange} {past : Past} {j : Jenkins}
    (h : held? (e :: past) = some j) :
    e.call.returned? e.answer = some j ∨ held? past = some j :=
  Option.or_eq_some_iff.1 h |>.imp id And.right

/-- The copy held was returned by some exchange. -/
theorem exists_returned {past : Past} {j : Jenkins} (h : held? past = some j) :
    ∃ e ∈ past, e.call.returned? e.answer = some j := by
  induction past with
  | nil => cases h
  | cons last past ih =>
    rcases held?_cons h with returned | held
    · exact ⟨last, List.mem_cons_self, returned⟩
    · obtain ⟨e, member, returned⟩ := ih held
      exact ⟨e, List.mem_cons_of_mem last member, returned⟩

/-- The object whose seed jobs have failed for good, by the last exchange. -/
def failed? : Past → Option Jenkins
  | ⟨.ensureSeedJobs _ object, .ok (.unrecoverable _)⟩ :: _ => some object
  | _ => none

/-! ## Verdicts -/

/-- By these exchanges, validating the master of a specification finds violations. -/
def BaseVerdict (past : Past) (spec : JenkinsSpec) (violations : List String) : Prop :=
  ∃ object accepted, ⟨.acceptsSpec object, .ok accepted⟩ ∈ past ∧ object.spec = spec ∧
    violations = spec.master.violations ++ if accepted then [] else ["rejected by base provisioner"]

/-- By these exchanges, validating a seed job finds violations. -/
inductive JobVerdict (past : Past) (job : SeedJob) : List String → Prop where
  | keyless : job.privateKey = none → JobVerdict past job (job.ownViolations.map job.violation)
  | keyed (selector : SecretKeySelector) (identity : Identity) (data : Option SecretData) :
      job.privateKey = some selector → identity.name = selector.name →
      ⟨.readSecret identity, .ok data⟩ ∈ past →
      JobVerdict past job
        ((job.ownViolations ++ (keyViolation? selector data).toList).map job.violation)

/-- By these exchanges, validating the seed jobs of a specification finds violations. -/
def UserVerdict (past : Past) (spec : JenkinsSpec) (violations : List String) : Prop :=
  ∃ lists, List.Forall₂ (JobVerdict past) spec.seedJobs lists ∧ violations = lists.flatten

/-- A verdict on the master stands whatever is asked later. -/
theorem BaseVerdict.mono {past past' : Past} {spec : JenkinsSpec} {violations : List String}
    (h : BaseVerdict past spec violations) (grown : past ⊆ past') :
    BaseVerdict past' spec violations := by
  obtain ⟨object, accepted, asked, same, found⟩ := h
  exact ⟨object, accepted, grown asked, same, found⟩

theorem JobVerdict.mono {past past' : Past} {job : SeedJob} {violations : List String}
    (h : JobVerdict past job violations) (grown : past ⊆ past') :
    JobVerdict past' job violations := by
  cases h with
  | keyless none => exact .keyless none
  | keyed selector identity data named same read =>
    exact .keyed selector identity data named same (grown read)

theorem UserVerdict.mono {past past' : Past} {spec : JenkinsSpec} {violations : List String}
    (h : UserVerdict past spec violations) (grown : past ⊆ past') :
    UserVerdict past' spec violations := by
  obtain ⟨lists, judged, found⟩ := h
  exact ⟨lists, judged.imp fun job list verdict => verdict.mono grown, found⟩

/-- What the user is told of a specification with violations: a warning that has all of them, in
order. -/
def Notification.rejection (subject : String) (violations : List String) : Notification where
  warning := true
  reason := .validationFailure
  action := .validate
  note := subject ++ " CR validation failed: " ++ "; ".intercalate violations

/-- What a pass says of a report with violations is the rejection of these. -/
theorem Report.validationFailed_eq {report : Report} (invalid : report.isValid = false)
    (subject : String) :
    Notification.validationFailed s!"{subject} CR validation failed: {report.message}"
      = .rejection subject report.violations := by
  have message : report.message = "; ".intercalate report.violations :=
    if_neg (Bool.eq_false_iff.1 invalid)
  rw [message]
  rfl

/-- A rejection of a specification: a warning whose note has all that one of the two validations has
found, in order. -/
structure Rejects (past : Past) (spec : JenkinsSpec) (n : Notification) : Prop where
  warning : n.warning = true
  reason : n.reason = .validationFailure
  action : n.action = .validate
  note : ∃ subject violations, violations ≠ [] ∧
    (subject = "Base" ∧ BaseVerdict past spec violations ∨
      subject = "User" ∧ UserVerdict past spec violations) ∧
    n.note = subject ++ " CR validation failed: " ++ "; ".intercalate violations

/-- What has been found stays found, so a rejection stays one. -/
theorem Rejects.mono {past past' : Past} {spec : JenkinsSpec} {n : Notification}
    (h : Rejects past spec n) (grown : past ⊆ past') : Rejects past' spec n := by
  obtain ⟨warning, reason, action, subject, violations, found, verdict, note⟩ := h
  refine ⟨warning, reason, action, subject, violations, found, ?_, note⟩
  exact verdict.imp (And.imp_right (·.mono grown)) (And.imp_right (·.mono grown))

/-! ## What the user is told once -/

/-- Something that is recorded in the status, and of which the user is told. -/
inductive Milestone where
  /-- A phase has completed. -/
  | completed (phase : Phase)
  /-- The seed jobs of a generation have failed for good. -/
  | halted (generation : Int)

namespace Milestone

/-- Whether a status records a milestone. -/
def reachedIn : Milestone → JenkinsStatus → Bool
  | .completed phase, s => (s.completedAt phase).isSome
  | .halted generation, s => s.haltedGeneration == some generation

/-- Whether a call tells the user of a milestone. -/
def toldBy : Milestone → Call → Bool
  | .completed phase, .publish _ n => n.reason == phase.successReason
  | .halted generation, .publish object n =>
    n.reason == .seedJobUnrecoverable
      && reachedIn (.halted generation) object.statusOrUnset
  | _, _ => false

/-- Whether an answer means that a milestone has been reached, by the copy held before. -/
def achievedBy (m : Milestone) (before? : Option Jenkins) : (c : Call) → c.Answer → Bool
  | .writeStatus _, .ok (.updated stored) =>
    before?.any (fun before => !m.reachedIn before.statusOrUnset)
      && m.reachedIn stored.statusOrUnset
  | _, _ => false

/-- Whether the last exchange has reached a milestone, so that the user is to be told next. -/
def owed (m : Milestone) : Past → Bool
  | [] => false
  | e :: past => m.achievedBy (held? past) e.call e.answer

/-- Only notifications tell the user of something. -/
theorem toldBy_of_not_isPublish {c : Call} (h : c.isPublish = false) (m : Milestone) :
    m.toldBy c = false := by
  cases c with
  | publish object n => exact absurd h Bool.noConfusion
  | _ => cases m <;> rfl

/-- After an accepted status write, the milestones are owed that only the new status records. -/
theorem owed_writeStatus {past : Past} {object before stored : Jenkins}
    (held : held? past = some before) (m : Milestone) :
    m.owed (⟨.writeStatus object, .ok (.updated stored)⟩ :: past) =
      (!m.reachedIn before.statusOrUnset && m.reachedIn stored.statusOrUnset) := by
  show ((held? past).any _ && _) = _
  rw [held]
  rfl

/-- A completed phase is the only milestone that its stamp reaches, and the one that its
notification is about. -/
theorem toldBy_completed {stored : Jenkins} {s : JenkinsStatus} {phase : Phase} {now : Time}
    (unset : s.completedAt phase = none) (m : Milestone) :
    m.toldBy (.publish stored (.completed phase)) =
      (!m.reachedIn s && m.reachedIn (s.stamp phase now)) := by
  cases m with
  | completed other =>
    show (phase.successReason == other.successReason) =
      (!(s.completedAt other).isSome && ((s.stamp phase now).completedAt other).isSome)
    by_cases same : other = phase
    · subst same
      rw [unset, s.completedAt_stamp, beq_self_eq_true]
      rfl
    · -- The other phase keeps its stamp, and its success has another reason.
      rw [s.completedAt_stamp_of_ne phase now same, Bool.not_and_self]
      apply beq_eq_false_iff_ne.2
      intro h
      exact same (Phase.successReason_inj h).symm
  | halted generation =>
    show (phase.successReason == .seedJobUnrecoverable && _) =
      (!(s.haltedGeneration == _) && ((s.stamp phase now).haltedGeneration == _))
    rw [s.haltedGeneration_stamp, Bool.not_and_self,
      beq_eq_false_iff_ne.2 phase.successReason_ne.1]
    rfl

/-- A halt that was not recorded is the only milestone that recording it reaches, and the one that
its notification is about. -/
theorem toldBy_seedJobsHalted {j stored : Jenkins} {message : String} (running : j.isHalted = false)
    (status : stored.statusOrUnset =
      { j.statusOrUnset with haltedGeneration := j.metadata.generation })
    (m : Milestone) :
    m.toldBy (.publish stored (.seedJobsHalted message)) =
      (!m.reachedIn j.statusOrUnset && m.reachedIn stored.statusOrUnset) := by
  rw [status]
  cases m with
  | completed phase =>
    show (Reason.seedJobUnrecoverable == phase.successReason) =
      (!(j.statusOrUnset.completedAt phase).isSome &&
        (JenkinsStatus.completedAt { j.statusOrUnset with haltedGeneration := _ } phase).isSome)
    have same : (JenkinsStatus.completedAt { j.statusOrUnset with
        haltedGeneration := j.metadata.generation } phase) = j.statusOrUnset.completedAt phase := by
      cases phase <;> rfl
    rw [same, Bool.not_and_self]
    exact beq_eq_false_iff_ne.2 phase.successReason_ne.1.symm
  | halted generation =>
    show (stored.statusOrUnset.haltedGeneration == some generation) =
      (!(j.statusOrUnset.haltedGeneration == some generation) &&
        (j.metadata.generation == some generation))
    rw [status]
    by_cases current : j.metadata.generation = some generation
    · -- The generation recorded is the current one, so it was not recorded before.
      have unrecorded : j.statusOrUnset.haltedGeneration ≠ some generation := by
        intro recorded
        have halted : j.isHalted = true := Jenkins.isHalted_iff.2 ⟨generation, recorded, current⟩
        rw [running] at halted
        cases halted
      simp [current, unrecorded]
    · simp [current]

end Milestone

end JenkinsOperator
