import JenkinsOperator.Proofs.Cluster.Change
import JenkinsOperator.Proofs.Cluster.Schedule
import JenkinsOperator.Proofs.Pass.Halted
import JenkinsOperator.Proofs.Route.Travel
import JenkinsOperator.Proofs.Time.Order

/-!
# The status tells a consistent story

No write looks at more than one fact of a status, and the facts are written one by one, by passes that
may overlap, lose writes and fail. Still each fact is recorded only after those that it rests on
(`Jenkins.IsConsistent`), and no stamp stands before one that it follows (`JenkinsStatus.IsOrdered`),
if the clock never goes back.

For the second, passes have to be followed between two exchanges: a pass reads the clock while it
holds a copy, and stamps that copy with the reading. All stamps of the copy are readings of earlier
moves (`World.Timely`), whoever made them.
-/

namespace JenkinsOperator

variable {start before after j j' : Jenkins} {moves : List Move} {move : Move} {w w' : World}
  {past : Past} {s : JenkinsStatus}

/-! ## Facts and those that they rest on -/

/-- An object whose status records each fact only with those that it rests on. -/
structure Jenkins.IsConsistent (j : Jenkins) : Prop where
  user : j.statusOrUnset.userCompleted.isSome → j.statusOrUnset.baseCompleted.isSome
  base : j.statusOrUnset.baseCompleted.isSome → j.statusOrUnset.provisionStart.isSome
  halted : j.statusOrUnset.haltedGeneration.isSome →
    j.statusOrUnset.baseCompleted.isSome ∧ j.statusOrUnset.provisionStart.isSome
  reached : ∀ recorded, j.statusOrUnset.haltedGeneration = some recorded →
    ∃ generation, j.metadata.generation = some generation ∧ recorded ≤ generation

/-- An object without a status is consistent. -/
theorem Jenkins.isConsistent_of_status_eq_none (fresh : j.status = none) : j.IsConsistent := by
  have unset : j.statusOrUnset = .unset := by
    rw [Jenkins.statusOrUnset, fresh]
    rfl
  refine ⟨?_, ?_, ?_, ?_⟩
  all_goals rw [unset]
  · exact Bool.noConfusion
  · exact Bool.noConfusion
  · exact Bool.noConfusion
  · intro generation recorded
    cases recorded

/-- Generations only ever grow, so a status that stays remains consistent. -/
theorem Jenkins.IsConsistent.kept (consistent : j.IsConsistent)
    (same : j'.statusOrUnset = j.statusOrUnset) (counts : CountsGenerations j j') :
    j'.IsConsistent := by
  refine ⟨?_, ?_, ?_, ?_⟩
  all_goals rw [same]
  · exact consistent.user
  · exact consistent.base
  · exact consistent.halted
  · intro recorded halted
    obtain ⟨generation, current, bound⟩ := consistent.reached recorded halted
    obtain ⟨next, now, later⟩ := counts.mono current
    exact ⟨next, now, Int.le_trans bound later⟩

/-- A pass records a fact only where those that it rests on are recorded. -/
theorem Advance.isConsistent (advance : Advance past j j'.statusOrUnset)
    (consistent : j.IsConsistent)
    (same : j'.metadata.generation = j.metadata.generation) : j'.IsConsistent := by
  generalize written : j'.statusOrUnset = s at advance
  cases advance with
  | start now _ _ =>
    refine ⟨?_, ?_, ?_, ?_⟩
    all_goals rw [written]
    · exact consistent.user
    · exact fun _ => rfl
    · exact fun halted => ⟨(consistent.halted halted).1, rfl⟩
    · rw [same]
      exact consistent.reached
  | complete phase now _ done =>
    cases phase with
    | base =>
      have started : j.statusOrUnset.provisionStart.isSome := done.2
      refine ⟨?_, ?_, ?_, ?_⟩
      all_goals rw [written]
      · exact fun _ => rfl
      · exact fun _ => started
      · exact fun _ => ⟨rfl, started⟩
      · rw [same]
        exact consistent.reached
    | user =>
      have based : j.statusOrUnset.baseCompleted.isSome := done.2.1
      refine ⟨?_, ?_, ?_, ?_⟩
      all_goals rw [written]
      · exact fun _ => based
      · exact consistent.base
      · exact consistent.halted
      · rw [same]
        exact consistent.reached
  | halt server message _ based _ _ =>
    refine ⟨?_, ?_, ?_, ?_⟩
    all_goals rw [written]
    · exact consistent.user
    · exact consistent.base
    · exact fun _ => ⟨based, consistent.base based⟩
    · rw [same]
      exact fun recorded current => ⟨recorded, current, Int.le_refl recorded⟩

/-- Every change keeps the status consistent. -/
theorem Change.isConsistent (change : Change ⟨CountsGenerations, SparesStatus⟩ before move after)
    (consistent : before.IsConsistent) : after.IsConsistent := by
  rcases change.kept with rfl | counts
  · exact consistent
  · rcases change.status_or_advance with same | ⟨past, e, -, -, -, -, advance, spec⟩
    · exact consistent.kept same counts
    · exact advance.isConsistent consistent (counts.steady spec)

/-- Whatever state the object was in, its status was consistent. -/
theorem Run.isConsistent (run : Run ⟨CountsGenerations, SparesStatus⟩ start moves w)
    (fresh : start.status = none) : ∀ j ∈ w.history, j.IsConsistent := by
  apply run.invariant (Jenkins.isConsistent_of_status_eq_none fresh)
  intro before move after change
  exact change.isConsistent

/-! ## Readings of the clock -/

/-- What a move reads off the clock. -/
def Move.reading? : Move → Option Time
  | .exchange _ ⟨.clock, now⟩ => some now
  | _ => none

/-- All readings of the clock, the last one first. -/
def readings (moves : List Move) : List Time := moves.filterMap Move.reading?

/-- The clock has not gone back. -/
def RunsForward (moves : List Move) : Prop :=
  (readings moves).Pairwise fun later earlier => earlier ≤ later

/-- The clock has not been read within a leap second. -/
def SparesLeapSeconds (moves : List Move) : Prop := ∀ now ∈ readings moves, now.isLeap = false

instance (moves : List Move) : Decidable (RunsForward moves) :=
  inferInstanceAs (Decidable (List.Pairwise _ _))

instance (moves : List Move) : Decidable (SparesLeapSeconds moves) :=
  inferInstanceAs (Decidable (∀ now ∈ readings moves, _))

theorem readings_subset_cons (move : Move) (moves : List Move) :
    readings moves ⊆ readings (move :: moves) := by
  unfold readings
  rw [List.filterMap_cons]
  split
  · exact List.Subset.refl _
  · exact List.subset_cons_self _ _

theorem RunsForward.of_cons (forward : RunsForward (move :: moves)) : RunsForward moves := by
  unfold RunsForward readings at forward
  rw [List.filterMap_cons] at forward
  split at forward
  · exact forward
  · exact (List.pairwise_cons.1 forward).2

/-- A clock that runs forward shows no earlier time than before. -/
theorem RunsForward.le {now : Time}
    (forward : RunsForward (.exchange past ⟨.clock, now⟩ :: moves)) :
    ∀ earlier ∈ readings moves, earlier ≤ now :=
  (List.pairwise_cons.1 forward).1

/-! ## Stamps in order -/

/-- A status has a stamp with a time. -/
def JenkinsStatus.Records (s : JenkinsStatus) (time : Time) : Prop :=
  s.provisionStart = some time ∨ ∃ phase, s.completedAt phase = some time

/-- A status in which no stamp stands before one that it follows. -/
structure JenkinsStatus.IsOrdered (s : JenkinsStatus) : Prop where
  started : ∀ phase started completed, s.provisionStart = some started →
    s.completedAt phase = some completed → started ≤ completed
  based : ∀ based completed, s.baseCompleted = some based → s.userCompleted = some completed →
    based ≤ completed

/-- What a pass makes of the stamps of a status, at a time. -/
inductive JenkinsStatus.Stamps (s : JenkinsStatus) (now : Time) : JenkinsStatus → Prop where
  | start : s.provisionStart = none → Stamps s now { s with provisionStart := some now }
  | complete (phase : Phase) : s.completedAt phase = none → Stamps s now (s.stamp phase now)

/-- A stamp that is there afterwards was there before, or has been set now. -/
theorem JenkinsStatus.Stamps.records {s' : JenkinsStatus} {now time : Time}
    (stamps : s.Stamps now s') (recorded : s'.Records time) : s.Records time ∨ time = now := by
  cases stamps with
  | start _ =>
    rcases recorded with same | ⟨phase, same⟩
    · exact .inr (Option.some.inj same).symm
    · refine .inl (.inr ⟨phase, ?_⟩)
      cases phase <;> exact same
  | complete phase _ =>
    rcases recorded with same | ⟨other, same⟩
    · refine .inl (.inl ?_)
      cases phase <;> exact same
    · by_cases eq : other = phase
      · subst eq
        rw [completedAt_stamp] at same
        exact .inr (Option.some.inj same).symm
      · rw [completedAt_stamp_of_ne _ _ _ eq] at same
        exact .inl (.inr ⟨other, same⟩)

/-- A new stamp stands last, if the time is not before those of the others. -/
theorem JenkinsStatus.Stamps.isOrdered {s' : JenkinsStatus} {now : Time}
    (stamps : j.statusOrUnset.Stamps now s') (consistent : j.IsConsistent)
    (ordered : j.statusOrUnset.IsOrdered)
    (late : ∀ time, j.statusOrUnset.Records time → time ≤ now) : s'.IsOrdered := by
  cases stamps with
  | start unset =>
    -- Without a start no phase is completed, so the start is the only stamp.
    have based : j.statusOrUnset.baseCompleted = none := by
      by_contra some
      have started := consistent.base (Option.isSome_iff_ne_none.2 some)
      rw [unset] at started
      cases started
    have used : j.statusOrUnset.userCompleted = none := by
      by_contra some
      have base := consistent.user (Option.isSome_iff_ne_none.2 some)
      rw [based] at base
      cases base
    refine ⟨?_, ?_⟩
    · intro phase started completed _ stamped
      cases phase with
      | base => exact nomatch based.symm.trans stamped
      | user => exact nomatch used.symm.trans stamped
    · intro base completed stamped _
      exact nomatch based.symm.trans stamped
  | complete phase unset =>
    cases phase with
    | base =>
      have used : j.statusOrUnset.userCompleted = none := by
        by_contra some
        have base := consistent.user (Option.isSome_iff_ne_none.2 some)
        have unset : j.statusOrUnset.baseCompleted = none := unset
        rw [unset] at base
        cases base
      refine ⟨?_, ?_⟩
      · intro phase started completed start stamped
        cases phase with
        | base =>
          cases stamped
          exact late started (.inl start)
        | user => exact nomatch used.symm.trans stamped
      · intro base completed _ stamped
        exact nomatch used.symm.trans stamped
    | user =>
      refine ⟨?_, ?_⟩
      · intro phase started completed start stamped
        cases phase with
        | base => exact ordered.started .base started completed start stamped
        | user =>
          cases stamped
          exact late started (.inl start)
      · intro based completed base stamped
        cases stamped
        exact late based (.inr ⟨.base, base⟩)

/-- A status that is due to be written records a halt, or is stamped with what the clock has just
shown. -/
theorem Due.stamps {server : Jenkins → Jenkins → Prop} {identity : Identity}
    (due : Due server identity past (.writeStatus { j with status := some s }))
    (held : held? past = some j) :
    s = { j.statusOrUnset with haltedGeneration := j.metadata.generation } ∨
      ∃ now early, past = ⟨.clock, now⟩ :: early ∧ j.statusOrUnset.Stamps now s := by
  generalize written : Call.writeStatus { j with status := some s } = c at due
  cases due with
  | start now reached unset =>
    obtain rfl := reached.eq_held held
    cases written
    exact .inr ⟨now, _, rfl, .start unset⟩
  | @stamp _ object handle phase now reached unset =>
    obtain rfl : object = j := reached.eq_held held
    cases written
    exact .inr ⟨now, _, rfl, .complete phase unset⟩
  | halt message reached running =>
    obtain rfl := reached.eq_held held
    cases written
    exact .inl rfl
  | _ => cases written

/-! ## Passes between the clock and the store -/

/-- A world in which all stamps are readings of the clock and in order, and in which whoever has just
read the clock holds no copy with a later stamp. -/
structure World.Timely (w : World) (readings : List Time) : Prop where
  recorded : ∀ j ∈ w.history, ∀ time, j.statusOrUnset.Records time → time ∈ readings
  ordered : ∀ j ∈ w.history, j.statusOrUnset.IsOrdered
  ahead : ∀ pass ∈ w.passes, ∀ now early, pass.past = ⟨.clock, now⟩ :: early →
    now ∈ readings ∧
      ∀ j, held? early = some j → ∀ time, j.statusOrUnset.Records time → time ≤ now

/-- A copy that a pass holds is a state that the object was in. -/
theorem World.Sound.mem_history {server : Jenkins → Jenkins → Prop} {pass : Running}
    (sound : w.Sound server) (member : pass ∈ w.passes) (held : held? pass.past = some j) :
    j ∈ w.history := by
  obtain ⟨e, exchanged, returned⟩ := exists_returned held
  exact (sound.passes pass member).copies e exchanged j returned

/-- Each call of a pass was due when it was made. -/
theorem Step.due {regime : Regime} {e : Call.Exchange} (run : Run regime start moves w)
    (step : Step regime w (.exchange past e) w') :
    (∃ identity, Due regime.server identity past e.call) ∧
      ∃ resume : e.call.Answer → Program Failure Outcome, ⟨past, .call e.call resume⟩ ∈ w.passes := by
  obtain ⟨before, after, resume, split, -⟩ := step.exchange
  have member : ⟨past, .call e.call resume⟩ ∈ w.passes :=
    split ▸ List.mem_append_right before List.mem_cons_self
  obtain ⟨identity, comes⟩ := run.comes _ member
  have lawful := (run.sound.passes _ member).lawful
  obtain ⟨-, due, -⟩ := comes.onRoute (lawful.credible.imp fun _ _ credible _ => credible)
  exact ⟨⟨identity, due e.call resume rfl⟩, resume, member⟩

/-- What a step makes of the stamps: the stored object is stamped by a pass that has just read the
clock, or keeps its stamps. -/
theorem Step.stamps (run : Run ⟨CountsGenerations, SparesStatus⟩ start moves w)
    (step : Step ⟨CountsGenerations, SparesStatus⟩ w move w') :
    w'.object.statusOrUnset = { w.object.statusOrUnset with
        haltedGeneration := w'.object.statusOrUnset.haltedGeneration } ∨
      ∃ pass ∈ w.passes, ∃ now early, pass.past = ⟨.clock, now⟩ :: early ∧
        held? early = some w.object ∧ w.object.statusOrUnset.Stamps now w'.object.statusOrUnset := by
  rcases (step.change run.sound).status_or_advance with
    same | ⟨past, ⟨c, answer⟩, rfl, held, -, written, -, -⟩
  · left
    rw [same]
  · obtain ⟨⟨identity, due⟩, resume, member⟩ := step.due run
    have written : c = _ := written
    subst written
    rcases due.stamps held with halted | ⟨now, early, rfl, stamps⟩
    · left
      rw [halted]
    · exact .inr ⟨_, member, now, early, rfl, held, stamps⟩

/-- Only the record of a halt may differ, so the stamps are the same. -/
theorem JenkinsStatus.records_of_eq {s' : JenkinsStatus}
    (same : s' = { s with haltedGeneration := s'.haltedGeneration }) {time : Time} :
    s'.Records time ↔ s.Records time := by
  rw [same]
  apply or_congr Iff.rfl
  constructor
  · rintro ⟨phase, stamped⟩
    refine ⟨phase, ?_⟩
    cases phase <;> exact stamped
  · rintro ⟨phase, stamped⟩
    refine ⟨phase, ?_⟩
    cases phase <;> exact stamped

theorem JenkinsStatus.IsOrdered.of_eq {s' : JenkinsStatus} (ordered : s.IsOrdered)
    (same : s' = { s with haltedGeneration := s'.haltedGeneration }) : s'.IsOrdered := by
  rw [same]
  refine ⟨?_, ordered.based⟩
  intro phase started completed start stamped
  refine ordered.started phase started completed start ?_
  cases phase <;> exact stamped

/-- A step keeps the stamps in order: it sets none but a reading of the clock that none is after. -/
theorem Step.timely (run : Run ⟨CountsGenerations, SparesStatus⟩ start moves w)
    (fresh : start.status = none)
    (step : Step ⟨CountsGenerations, SparesStatus⟩ w move w')
    (forward : RunsForward (move :: moves)) (timely : w.Timely (readings moves)) :
    w'.Timely (readings (move :: moves)) := by
  have grown := readings_subset_cons move moves
  have current : w.object ∈ w.history := List.mem_cons_self
  -- The stamps of the object are readings in order, whether they were kept or one was set.
  have stored : (∀ time, w'.object.statusOrUnset.Records time → time ∈ readings moves) ∧
      w'.object.statusOrUnset.IsOrdered := by
    rcases step.stamps run with same | ⟨pass, member, now, early, exchanged, held, stamps⟩
    · refine ⟨fun time recorded => ?_, (timely.ordered _ current).of_eq same⟩
      exact timely.recorded _ current time ((JenkinsStatus.records_of_eq same).1 recorded)
    · obtain ⟨read, late⟩ := timely.ahead pass member now early exchanged
      constructor
      · intro time recorded
        rcases stamps.records recorded with old | rfl
        · exact timely.recorded _ current time old
        · exact read
      · exact stamps.isOrdered (run.isConsistent fresh _ current) (timely.ordered _ current)
          (late w.object held)
  refine ⟨?recorded, ?ordered, ?ahead⟩
  case recorded =>
    intro j member time recorded
    rcases step.mem_history j member with rfl | old
    · exact grown (stored.1 time recorded)
    · exact grown (timely.recorded j old time recorded)
  case ordered =>
    intro j member
    rcases step.mem_history j member with rfl | old
    · exact stored.2
    · exact timely.ordered j old
  case ahead =>
    intro pass member now early exchanged
    obtain old | ⟨identity, rfl⟩ | ⟨past, e, resume, rfl, old, rfl⟩ := step.mem_passes pass member
    · obtain ⟨read, late⟩ := timely.ahead pass old now early exchanged
      exact ⟨grown read, late⟩
    · cases exchanged
    · -- The clock was read in this very move, after all that was stamped before.
      cases exchanged
      refine ⟨List.mem_cons_self, fun j held time recorded => ?_⟩
      exact forward.le time (timely.recorded j (run.sound.mem_history old held) time recorded)

/-- As long as the clock runs forward, all stamps are readings of it, and in order. -/
theorem Run.timely (run : Run ⟨CountsGenerations, SparesStatus⟩ start moves w)
    (fresh : start.status = none) (forward : RunsForward moves) : w.Timely (readings moves) := by
  induction run with
  | nil =>
    have blank : ∀ time, ¬ start.statusOrUnset.Records time := by
      intro time
      rw [Jenkins.statusOrUnset, fresh]
      rintro (stamped | ⟨_ | _, stamped⟩) <;> cases stamped
    refine ⟨?_, ?_, ?_⟩
    · intro j member time recorded
      rw [List.mem_singleton.1 member] at recorded
      exact absurd recorded (blank time)
    · intro j member
      rw [List.mem_singleton.1 member]
      refine ⟨?_, ?_⟩
      · exact fun phase started _ stamped _ => absurd (.inl stamped) (blank started)
      · exact fun based _ stamped _ => absurd (.inr ⟨.base, stamped⟩) (blank based)
    · intro pass member
      cases member
  | cons run step ih => exact step.timely run fresh forward (ih forward.of_cons)

/-! ## The story -/

/-- Passes on an object that started without a status, with other parties that leave the status alone,
record each fact only with those that it rests on. If the clock does not go back, they do so in order,
and every phase that is completed took a time that can be told, and that is not negative. -/
theorem Run.consistent_story (run : Run ⟨CountsGenerations, SparesStatus⟩ start moves w)
    (fresh : start.status = none) :
    ∀ j ∈ w.history, j.IsConsistent ∧
      (RunsForward moves → SparesLeapSeconds moves → j.statusOrUnset.IsOrdered ∧
        ∀ phase, (j.statusOrUnset.completedAt phase).isSome →
          ∃ span, j.statusOrUnset.phaseDuration phase = some span ∧ 0 ≤ span.nanos) := by
  intro j member
  have consistent := run.isConsistent fresh j member
  refine ⟨consistent, fun forward regular => ?_⟩
  have timely := run.timely fresh forward
  have ordered := timely.ordered j member
  refine ⟨ordered, fun phase done => ?_⟩
  have started : j.statusOrUnset.provisionStart.isSome := by
    cases phase with
    | base => exact consistent.base done
    | user => exact consistent.base (consistent.user done)
  obtain ⟨start, started⟩ := Option.isSome_iff_exists.1 started
  obtain ⟨completed, done⟩ := Option.isSome_iff_exists.1 done
  refine ⟨completed.since start, ?_, ?_⟩
  · rw [JenkinsStatus.phaseDuration, started, done]
  · exact Time.since_nonneg (ordered.started phase start completed started done)
      (regular start (timely.recorded j member start (.inl started)))
      (regular completed (timely.recorded j member completed (.inr ⟨phase, done⟩)))

/-- Provisioning starts at noon, and the pass fails. The next pass at one loses the race for the base
phase to a third one, which then sees the seed jobs fail for good. Another party asks for another
image, and a last pass completes the user phase at two. -/
def eventful : List Move × World :=
  let failing := { Behaviour.standard with provision := .error (.internal "provisioner" "busy") }
  let hopeless := { Behaviour.standard with seedJobs := .ok (.unrecoverable "no such branch") }
  let calls (behaviour : Behaviour) (now : Time) (place number : Nat) : List Turn :=
    List.replicate number (.answer place (behaviour.reply now))
  play CountsGenerations SparesStatus .created <| List.reverse <|
    .begin :: calls failing .noon 0 6
      ++ .begin :: calls .standard .one 0 4 ++ .begin :: calls hopeless .one 0 9
      ++ calls .standard .one 1 1
      ++ .editSpec { JenkinsSpec.plain with master.image := "jenkins:2" }
        :: .begin :: calls .standard .two 0 11

theorem Run.consistent_story_eventful :
    Run ⟨CountsGenerations, SparesStatus⟩ .created eventful.1 eventful.2 ∧
      Jenkins.created.status = none ∧ RunsForward eventful.1 ∧ SparesLeapSeconds eventful.1 ∧
      eventful.2.object.statusOrUnset = ⟨some .noon, some .one, some .two, some 2⟩ ∧
      eventful.2.object.IsConsistent ∧ eventful.2.object.statusOrUnset.IsOrdered ∧
      ∃ span, eventful.2.object.statusOrUnset.phaseDuration .user = some span ∧ 0 ≤ span.nanos := by
  have run : Run ⟨CountsGenerations, SparesStatus⟩ .created eventful.1 eventful.2 := run_play _ _
  obtain ⟨forward, regular, status⟩ : RunsForward eventful.1 ∧ SparesLeapSeconds eventful.1 ∧
      eventful.2.object.statusOrUnset = ⟨some .noon, some .one, some .two, some 2⟩ := by
    decide +kernel
  obtain ⟨consistent, timed⟩ := run.consistent_story rfl _ List.mem_cons_self
  obtain ⟨ordered, took⟩ := timed forward regular
  have done : (eventful.2.object.statusOrUnset.completedAt .user).isSome := by
    rw [status]
    rfl
  exact ⟨run, rfl, forward, regular, status, consistent, ordered, took .user done⟩

end JenkinsOperator
