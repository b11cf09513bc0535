import JenkinsOperator.Proofs.Cluster.Change
import JenkinsOperator.Proofs.Cluster.Schedule

/-!
# A pass works on one snapshot

Other parties may replace specification and status between any two calls of a pass. All that the
pass does is nevertheless about one specification of one generation (`Snapshot`), and whenever one
of its status writes is accepted, that is the specification that is stored. So nothing is recorded
for a specification that was replaced after the pass had validated and provisioned it
(`Run.one_snapshot`).
-/

namespace JenkinsOperator

/-- A past that is about one specification of one generation: it is what every call sees, and what
every verdict is of that the pass has gone by. -/
structure Snapshot (past : Past) (spec : JenkinsSpec) (generation : Option Int) : Prop where
  sees : ∀ e ∈ past, e.call.Sees spec generation
  validBase : ∀ object answer, ⟨.provision object, answer⟩ ∈ past → BaseVerdict past spec []
  validUser : ∀ server object answer, ⟨.ensureSeedJobs server object, answer⟩ ∈ past →
    UserVerdict past spec []
  rejected : ∀ object n answer, ⟨.publish object n, answer⟩ ∈ past →
    n.reason = .validationFailure → Rejects past spec n

variable {server : Jenkins → Jenkins → Prop} {past : Past} {j : Jenkins}

/-- A lawful past is about one snapshot: the specification and the generation of all copies that it
holds. -/
theorem Lawful.snapshot {spec : JenkinsSpec} {generation : Option Int}
    (steady : ∀ before after, server before after → SteadyGeneration before after)
    (lawful : Lawful server past)
    (agree : ∀ j, held? past = some j → j.spec = spec ∧ j.metadata.generation = generation) :
    Snapshot past spec generation := by
  have sees := lawful.sees steady agree
  refine ⟨sees, ?_, ?_, ?_⟩
  · intro object answer member
    obtain ⟨early, grown, -, verdict⟩ := lawful.exists_fits member
    rw [(sees _ member object rfl).1] at verdict
    exact verdict.mono grown
  · intro server object answer member
    obtain ⟨early, grown, -, -, -, verdict⟩ := lawful.exists_fits member
    rw [(sees _ member object rfl).1] at verdict
    exact verdict.mono grown
  · intro object n answer member rejection
    obtain ⟨early, grown, -, announces⟩ := lawful.exists_fits member
    have rejects := announces.rejects rejection
    rw [(sees _ member object rfl).1] at rejects
    exact rejects.mono grown

/-- Whatever else it records, a status is written for a specification that was found valid. -/
theorem Advance.baseVerdict {s : JenkinsStatus} (advance : Advance past j s) :
    BaseVerdict past j.spec [] := by
  cases advance with
  | start now _ verdict => exact verdict
  | complete phase now _ done =>
    cases phase with
    | base => exact done.1.1
    | user => exact done.1.1
  | halt server message _ _ provisioned _ => exact provisioned.1

/-- A milestone is recorded for a master that has been provisioned, and every milestone but the
completion of the base phase for seed jobs that were found valid. -/
theorem Advance.provisioned {s : JenkinsStatus} {generation : Option Int} {m : Milestone}
    (advance : Advance past j s) (snapshot : Snapshot past j.spec generation)
    (new : m.reachedIn j.statusOrUnset = false) (reached : m.reachedIn s = true) :
    Provisioned past j.spec ∧ (m = .completed .base ∨ UserVerdict past j.spec []) := by
  cases advance with
  | start now _ _ =>
    -- The start of provisioning is no milestone.
    have same : m.reachedIn { j.statusOrUnset with provisionStart := some now } =
        m.reachedIn j.statusOrUnset := by
      rcases m with (_ | _) | _ <;> rfl
    rw [same, new] at reached
    cases reached
  | complete phase now _ done =>
    cases phase with
    | base =>
      refine ⟨done.1, ?_⟩
      rcases m with (_ | _) | generation
      · exact .inl rfl
      · exact nomatch new.symm.trans reached
      · exact nomatch new.symm.trans reached
    | user => exact ⟨done.1, .inr done.2.2.1⟩
  | halt server message _ _ provisioned seeded =>
    exact ⟨provisioned, .inr (snapshot.validUser server j _ seeded)⟩

/-- Every pass works on one snapshot, and that is what is stored when a status write of the pass is
accepted. -/
theorem Run.one_snapshot {start : Jenkins} {moves : List Move} {w : World}
    (run : Run ⟨SteadyGeneration, fun _ _ => True⟩ start moves w) :
    (∀ pass ∈ w.passes, ∃ spec generation, Snapshot pass.past spec generation) ∧
    ∀ past object stored w',
      Step ⟨SteadyGeneration, fun _ _ => True⟩ w
        (.exchange past ⟨.writeStatus object, .ok (.updated stored)⟩) w' →
      Snapshot past w.object.spec w.object.metadata.generation ∧
        w'.object.spec = w.object.spec ∧
        w'.object.metadata.generation = w.object.metadata.generation ∧
        BaseVerdict past w.object.spec [] ∧
        ∀ m : Milestone, m.reachedIn w.object.statusOrUnset = false →
          m.reachedIn w'.object.statusOrUnset = true →
          Provisioned past w.object.spec ∧
            (m = .completed .base ∨ UserVerdict past w.object.spec []) := by
  have steady : ∀ before after, SteadyGeneration before after → SteadyGeneration before after :=
    fun _ _ => id
  constructor
  · intro pass member
    have lawful := (run.sound.passes pass member).lawful
    -- A pass that holds no copy has seen nothing, so any specification will do.
    cases held : held? pass.past with
    | none =>
      refine ⟨start.spec, start.metadata.generation, lawful.snapshot steady fun j held' => ?_⟩
      exact nomatch held.symm.trans held'
    | some j =>
      refine ⟨j.spec, j.metadata.generation, lawful.snapshot steady fun j' held' => ?_⟩
      cases held.symm.trans held'
      exact ⟨rfl, rfl⟩
  · -- The copy that the pass holds is what is stored, and the pass has seen what its copy says.
    intro past object stored w' step
    obtain ⟨now, held, lawful, advance, spec, kept⟩ := step.status_updated run.sound
    have snapshot : Snapshot past w.object.spec w.object.metadata.generation :=
      lawful.snapshot steady fun j held' => by
        cases held.symm.trans held'
        exact ⟨rfl, rfl⟩
    rw [now]
    refine ⟨snapshot, spec, kept spec, advance.baseVerdict, ?_⟩
    intro m new reached
    exact advance.provisioned snapshot new reached

/-- One pass is at work on a specification that another party has replaced since, and a second pass
has read the new one and is about to complete the base phase. -/
def stale : List Move × World :=
  play SteadyGeneration (fun _ _ => True) .created <| List.reverse <|
    .begin :: Turn.calls .standard 0 5
      ++ .editSpec { JenkinsSpec.plain with master.image := "jenkins:2" }
        :: Turn.calls .standard 0 1 ++ .begin :: Turn.calls .standard 0 5
      ++ Turn.calls .standard 1 1

theorem Run.one_snapshot_stale :
    Run ⟨SteadyGeneration, fun _ _ => True⟩ .created stale.1 stale.2 ∧
      stale.2.passes.length = 2 ∧
      (∀ pass ∈ stale.2.passes, ∃ spec generation, Snapshot pass.past spec generation) ∧
      ∃ past object stored w', Step ⟨SteadyGeneration, fun _ _ => True⟩ stale.2
          (.exchange past ⟨.writeStatus object, .ok (.updated stored)⟩) w' ∧
        Snapshot past stale.2.object.spec stale.2.object.metadata.generation := by
  have run : Run ⟨SteadyGeneration, fun _ _ => True⟩ .created stale.1 stale.2 := run_play _ _
  obtain ⟨two, next⟩ : stale.2.passes.length = 2 ∧
      (stale.2.turn SteadyGeneration (fun _ _ => True)
        (.answer 0 (Behaviour.standard.reply .noon))).any
          (fun taken => taken.1.isStatusUpdate) = true := by decide +kernel
  obtain ⟨passes, writes⟩ := run.one_snapshot
  obtain ⟨past, object, stored, w', step⟩ := World.exists_status_update next
  exact ⟨run, two, passes, past, object, stored, w', step,
    (writes past object stored w' step).1⟩

end JenkinsOperator
