import JenkinsOperator.Proofs.Pass.Past

/-!
# The protocol of a pass

Which calls a pass makes, by what it has been told so far (`Permitted`), and how it ends
(`Settled`). A pass writes only what it has computed from the copy that it holds, hands that copy to
every collaborator, and tells the user of exactly what its last write has achieved. Each part of a
pass keeps to the protocol (`steps_keeps`), and so does the whole (`reconcilePass_keeps`), whatever
it is told, as long as an accepted write returns the object that the store made of the copy.

`Lawful` collects what is known of the past of a pass that keeps to the protocol.
-/

namespace JenkinsOperator

/-! ## Writes -/

section Writes

variable (server : Jenkins → Jenkins → Prop)

/-- What the store makes of an object by accepting a write: it replaces either the specification or
the status, and does to the metadata what `server` says of it. -/
inductive Accepted (before after : Jenkins) : Call → Prop where
  | spec (object : Jenkins) :
      object.metadata.resourceVersion = before.metadata.resourceVersion →
      after.spec = object.spec → after.status = before.status → server before after →
      Accepted before after (.writeSpec object)
  | status (object : Jenkins) :
      object.metadata.resourceVersion = before.metadata.resourceVersion →
      after.spec = before.spec → after.status = object.status → server before after →
      Accepted before after (.writeStatus object)

/-- An accepted write is one of the copy that the pass holds. -/
def Credible (past : Past) (e : Call.Exchange) : Prop :=
  ∀ after, e.call.stored? e.answer = some after →
    ∃ before, held? past = some before ∧ Accepted server before after e.call

end Writes

/-! ## Which calls are in order -/

/-- By these exchanges, the master of a specification is valid and has been provisioned. -/
def Provisioned (past : Past) (spec : JenkinsSpec) : Prop :=
  BaseVerdict past spec [] ∧
    ∃ object server, ⟨.provision object, .ok (.ready server)⟩ ∈ past ∧ object.spec = spec

/-- By these exchanges, a phase is completed. -/
def PhaseDone (past : Past) (j : Jenkins) : Phase → Prop
  | .base => Provisioned past j.spec ∧ j.statusOrUnset.provisionStart.isSome
  | .user => Provisioned past j.spec ∧ j.statusOrUnset.baseCompleted.isSome ∧
      UserVerdict past j.spec [] ∧
      ∃ server scripts, ⟨.runScripts server scripts j, .ok true⟩ ∈ past

/-- A master that was provisioned counts as provisioned from then on. -/
theorem Provisioned.mono {past past' : Past} {spec : JenkinsSpec} (h : Provisioned past spec)
    (grown : past ⊆ past') : Provisioned past' spec := by
  obtain ⟨verdict, object, server, ready, same⟩ := h
  exact ⟨verdict.mono grown, object, server, grown ready, same⟩

theorem PhaseDone.mono {past past' : Past} {j : Jenkins} {phase : Phase}
    (h : PhaseDone past j phase) (grown : past ⊆ past') : PhaseDone past' j phase := by
  cases phase with
  | base => exact ⟨h.1.mono grown, h.2⟩
  | user =>
    obtain ⟨provisioned, completed, verdict, server, scripts, applied⟩ := h
    exact ⟨provisioned.mono grown, completed, verdict.mono grown, server, scripts, grown applied⟩

/-- The statuses that a pass may write, by the copy that it holds: each records one thing more. -/
inductive Advance (past : Past) (j : Jenkins) : JenkinsStatus → Prop where
  | start (now : Time) : j.statusOrUnset.provisionStart = none → BaseVerdict past j.spec [] →
      Advance past j { j.statusOrUnset with provisionStart := some now }
  | complete (phase : Phase) (now : Time) : j.statusOrUnset.completedAt phase = none →
      PhaseDone past j phase → Advance past j (j.statusOrUnset.stamp phase now)
  | halt (server : ServerHandle) (message : String) : j.isHalted = false →
      j.statusOrUnset.baseCompleted.isSome → Provisioned past j.spec →
      ⟨.ensureSeedJobs server j, .ok (.unrecoverable message)⟩ ∈ past →
      Advance past j { j.statusOrUnset with haltedGeneration := j.metadata.generation }

/-- What a pass may tell the user about the copy that it holds. -/
inductive Announces (past : Past) (j : Jenkins) : Notification → Prop where
  | completed (phase : Phase) : Announces past j (.completed phase)
  | rejected (n : Notification) : Rejects past j.spec n → Announces past j n
  | halted (message : String) (written before : Jenkins) (early : Past) :
      past = ⟨.writeStatus written, .ok (.updated j)⟩ :: early → held? early = some before →
      j.statusOrUnset.haltedGeneration = before.metadata.generation →
      Announces past j (.seedJobsHalted message)

/-- A notification of a rejection says what was found. -/
theorem Announces.rejects {past : Past} {j : Jenkins} {n : Notification} (h : Announces past j n)
    (rejection : n.reason = .validationFailure) : Rejects past j.spec n := by
  cases h with
  | completed phase => exact absurd rejection phase.successReason_ne.2
  | rejected _ found => exact found
  | halted message written before early _ _ _ => exact Reason.noConfusion rejection

/-- Whether a call fits what came before it. -/
def Fits (past : Past) : Call → Prop
  | .fetch _ => past = []
  | .writeSpec object => ∃ j, held? past = some j ∧ (∀ e ∈ past, e.call.isFetch) ∧
      j.spec.isIncomplete ∧ object = { j with spec := j.spec.withDefaults }
  | .writeStatus object => ∃ j s, held? past = some j ∧ Advance past j s ∧
      object = { j with status := some s }
  | .readConfigMap _ => ∃ server, ⟨.configureScripts server, .ok ()⟩ ∈ past
  | .readSecret identity => ∃ j job selector, held? past = some j ∧ job ∈ j.spec.seedJobs ∧
      job.privateKey = some selector ∧ identity.name = selector.name
  | .acceptsSpec object => held? past = some object ∧ object.spec.isIncomplete = false
  | .provision object => held? past = some object ∧ BaseVerdict past object.spec []
  | .ensureSeedJobs _ object => held? past = some object ∧ object.isHalted = false ∧
      Provisioned past object.spec ∧ UserVerdict past object.spec []
  | .configureScripts server => ∃ object, ⟨.ensureSeedJobs server object, .ok .done⟩ ∈ past
  | .runScripts server _ object => held? past = some object ∧
      ⟨.configureScripts server, .ok ()⟩ ∈ past
  | .publish object n => held? past = some object ∧ Announces past object n
  | .clock => True

/-- The object with its own generation recorded as halted. -/
def Jenkins.withHalt (j : Jenkins) : Jenkins :=
  { j with status := some { j.statusOrUnset with haltedGeneration := j.metadata.generation } }

/-- Whether a call is in order: it tells the user of what is owed and of nothing else, it fits what
came before, and a failure for good is recorded at once. -/
structure Permitted (past : Past) (c : Call) : Prop where
  told : ∀ m : Milestone, m.toldBy c = m.owed past
  fits : Fits past c
  halts : ∀ j, failed? past = some j → c = .writeStatus j.withHalt

/-! ## How a pass ends -/

/-- Whether an exchange keeps a pass from going on to the seed jobs: a failure, a lost write, a
master that is not ready, or a rejection. -/
def Call.Exchange.hinders : Call.Exchange → Bool
  | ⟨.fetch _, .error _⟩ => true
  | ⟨.writeSpec _, .error _⟩ => true
  | ⟨.writeSpec _, .ok .conflict⟩ => true
  | ⟨.writeStatus _, .error _⟩ => true
  | ⟨.writeStatus _, .ok .conflict⟩ => true
  | ⟨.readSecret _, .error _⟩ => true
  | ⟨.acceptsSpec _, .error _⟩ => true
  | ⟨.provision _, .error _⟩ => true
  | ⟨.provision _, .ok (.inProgress _)⟩ => true
  | ⟨.publish _ n, _⟩ => n.reason == .validationFailure
  | _ => false

/-- Whether the seed jobs have been looked after. -/
def Seeded (past : Past) : Prop :=
  ∃ server object answer, ⟨.ensureSeedJobs server object, answer⟩ ∈ past

/-- How a pass ends: it owes nothing, has no failure for good to record, and got to the seed jobs
unless it was hindered, or the object is halted or not there. -/
structure Settled (past : Past) : Prop where
  clear : ∀ m : Milestone, m.owed past = false
  calm : failed? past = none
  reason : (∃ e ∈ past, e.hinders) ∨ Seeded past ∨ (∃ j, held? past = some j ∧ j.isHalted) ∨
    held? past = none

/-- The protocol of a pass, as a conduct. -/
def protocol (server : Jenkins → Jenkins → Prop) (ε : Type) : Conduct ε where
  credible := Credible server
  permits := Permitted
  leaves := fun _ => Settled

/-- A pass that keeps to the protocol and has come to its end is settled. -/
theorem Program.Keeps.settled {server : Jenkins → Jenkins → Prop} {ε α : Type} {p : Program ε α}
    {past : Past} (h : p.Keeps (protocol server ε) (fun _ => Settled) past)
    (ended : p.hasEnded = true) : Settled past := by
  cases p with
  | done value => exact h
  | exit reason => exact h
  | call c resume => cases ended

/-- The past of a pass that has kept to the protocol. -/
def Lawful (server : Jenkins → Jenkins → Prop) : Past → Prop
  | [] => True
  | e :: past => Lawful server past ∧ Permitted past e.call ∧ Credible server past e

end JenkinsOperator
