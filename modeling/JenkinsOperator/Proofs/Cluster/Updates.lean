import JenkinsOperator.Proofs.Cluster.Change
import JenkinsOperator.Proofs.Cluster.Schedule

/-!
# No update of another party is lost

A pass sends a whole specification or a whole status that it has computed some calls ago. As each
write carries the version that it was computed from, what another party has stored since is never
written over: the stored specification is the one that was requested last, with or without its
defaults, and an accepted status write changes one field of the status as it is stored
(`Run.no_update_lost`).
-/

namespace JenkinsOperator

/-- The specification that another party has written last, or the first one. -/
def requested (opening : JenkinsSpec) : List Move → JenkinsSpec
  | [] => opening
  | .editSpec spec :: _ => spec
  | _ :: moves => requested opening moves

/-- Whether a specification is one that was requested, or that one with its defaults. -/
def JenkinsSpec.Meets (spec request : JenkinsSpec) : Prop :=
  spec = request ∨ spec = request.withDefaults

/-- One field of a status gets another value, and the others stay. -/
inductive ChangesOneField (s : JenkinsStatus) : JenkinsStatus → Prop where
  | provisionStart (now : Time) : s.provisionStart ≠ some now →
      ChangesOneField s { s with provisionStart := some now }
  | completedAt (phase : Phase) (now : Time) : s.completedAt phase ≠ some now →
      ChangesOneField s (s.stamp phase now)
  | haltedGeneration (generation : Int) : s.haltedGeneration ≠ some generation →
      ChangesOneField s { s with haltedGeneration := some generation }

/-- A write leaves an object that has a generation with one. -/
def KeepsGeneration (before after : Jenkins) : Prop :=
  before.metadata.generation.isSome → after.metadata.generation.isSome

instance : DecidableRel KeepsGeneration := fun _ _ => inferInstanceAs (Decidable (_ → _))

variable {past : Past} {j : Jenkins}

/-- Defaults leave nothing open, so they are never filled in twice. -/
theorem JenkinsSpec.Meets.withDefaults {spec request : JenkinsSpec} (h : spec.Meets request)
    (incomplete : spec.isIncomplete = true) : spec.withDefaults.Meets request := by
  rcases h with rfl | rfl
  · right
    rfl
  · exact nomatch incomplete.symm.trans request.isIncomplete_withDefaults

/-- Each step of a pass changes one field of the status. -/
theorem Advance.changesOneField {s : JenkinsStatus} (advance : Advance past j s)
    (set : j.metadata.generation.isSome) : ChangesOneField j.statusOrUnset s := by
  cases advance with
  | start now unset _ => exact .provisionStart now fun started => nomatch unset.symm.trans started
  | complete phase now unset _ =>
    exact .completedAt phase now fun completed => nomatch unset.symm.trans completed
  | halt server message running _ _ _ =>
    -- Without a generation nothing would be recorded, and with it recorded the copy would be halted.
    obtain ⟨generation, current⟩ := Option.isSome_iff_exists.1 set
    rw [current]
    apply ChangesOneField.haltedGeneration generation
    intro recorded
    exact Bool.eq_false_iff.1 running (Jenkins.isHalted_iff.2 ⟨generation, recorded, current⟩)

/-- Whoever writes, the specification goes on to meet the last request. -/
theorem Change.meets {regime : Regime} {opening : JenkinsSpec} {moves : List Move} {move : Move}
    {before after : Jenkins} (change : Change regime before move after)
    (h : before.spec.Meets (requested opening moves)) :
    after.spec.Meets (requested opening (move :: moves)) := by
  cases change with
  | started identity => exact h
  | spared past e _ => exact h
  | updated past e after _ _ _ update =>
    rcases update.defaults_or_advance with ⟨incomplete, spec, -⟩ | ⟨spec, -⟩
    · rw [spec]
      exact h.withDefaults incomplete
    · rw [spec]
      exact h
  | editedSpec after _ _ _ => exact .inl rfl
  | editedStatus after spec _ _ =>
    rw [spec]
    exact h

/-- The stored specification is the one that was last requested, or that one with its defaults. -/
theorem Run.meets {regime : Regime} {start : Jenkins} {moves : List Move} {w : World}
    (run : Run regime start moves w) : w.object.spec.Meets (requested start.spec moves) := by
  induction run with
  | nil => exact .inl rfl
  | cons run step ih => exact (step.change run.sound).meets ih

/-- No change takes the generation from an object that has one. -/
theorem Change.keepsGeneration {others : Jenkins → Jenkins → Prop} {move : Move}
    {before after : Jenkins} (change : Change ⟨KeepsGeneration, others⟩ before move after)
    (set : before.metadata.generation.isSome) : after.metadata.generation.isSome := by
  rcases change.kept with rfl | kept
  · exact set
  · exact kept set

/-- No pass alters what another party has written: the specification is the one requested last, with
or without its defaults; storing the defaults leaves the status as it is stored; and an accepted
status write changes one field of the status as it is stored. -/
theorem Run.no_update_lost {start : Jenkins} {moves : List Move} {w : World}
    (run : Run ⟨KeepsGeneration, fun _ _ => True⟩ start moves w)
    (set : start.metadata.generation.isSome) :
    w.object.spec.Meets (requested start.spec moves) ∧
    (∀ past object stored w',
      Step ⟨KeepsGeneration, fun _ _ => True⟩ w
        (.exchange past ⟨.writeSpec object, .ok (.updated stored)⟩) w' →
      w'.object = stored ∧ stored.spec = w.object.spec.withDefaults ∧
        stored.status = w.object.status) ∧
    ∀ past object stored w',
      Step ⟨KeepsGeneration, fun _ _ => True⟩ w
        (.exchange past ⟨.writeStatus object, .ok (.updated stored)⟩) w' →
      w'.object = stored ∧ stored.spec = w.object.spec ∧
        ChangesOneField w.object.statusOrUnset stored.statusOrUnset := by
  refine ⟨run.meets, ?_, ?_⟩
  · intro past object stored w' step
    obtain ⟨now, -, -, update⟩ := step.updated run.sound rfl
    cases update with
    | defaults _ _ _ spec status _ => exact ⟨now, spec, status⟩
  · intro past object stored w' step
    obtain ⟨now, -, -, advance, spec, -⟩ := step.status_updated run.sound
    have set : w.object.metadata.generation.isSome :=
      run.invariant set (fun _ _ _ change => change.keepsGeneration) _ List.mem_cons_self
    exact ⟨now, spec, advance.changesOneField set⟩

/-- A pass has stored defaults when another party asks for something else and sets the status; a
second pass stores defaults again and is about to complete the base phase. -/
def edited : List Move × World :=
  play KeepsGeneration (fun _ _ => True) .created <| List.reverse <|
    .begin :: Turn.calls .standard 0 4
      ++ .editSpec { JenkinsSpec.plain with master.image := "jenkins:2" }
        :: .editStatus (some { JenkinsStatus.unset with provisionStart := some .noon })
        :: .begin :: Turn.calls .standard 0 5 ++ Turn.calls .standard 1 1

theorem Run.no_update_lost_edited :
    Run ⟨KeepsGeneration, fun _ _ => True⟩ .created edited.1 edited.2 ∧
      Jenkins.created.metadata.generation.isSome ∧
      edited.2.object.spec.Meets { JenkinsSpec.plain with master.image := "jenkins:2" } ∧
      ∃ past object stored w', Step ⟨KeepsGeneration, fun _ _ => True⟩ edited.2
          (.exchange past ⟨.writeStatus object, .ok (.updated stored)⟩) w' ∧
        stored.spec = edited.2.object.spec ∧
        ChangesOneField edited.2.object.statusOrUnset stored.statusOrUnset := by
  have run : Run ⟨KeepsGeneration, fun _ _ => True⟩ .created edited.1 edited.2 := run_play _ _
  obtain ⟨asked, next⟩ :
      requested Jenkins.created.spec edited.1 =
        { JenkinsSpec.plain with master.image := "jenkins:2" } ∧
      (edited.2.turn KeepsGeneration (fun _ _ => True)
        (.answer 0 (Behaviour.standard.reply .noon))).any
          (fun taken => taken.1.isStatusUpdate) = true := by decide +kernel
  obtain ⟨meets, -, alone⟩ := run.no_update_lost rfl
  obtain ⟨past, object, stored, w', step⟩ := World.exists_status_update next
  obtain ⟨-, spec, field⟩ := alone past object stored w' step
  exact ⟨run, rfl, asked ▸ meets, past, object, stored, w', step, spec, field⟩

end JenkinsOperator
