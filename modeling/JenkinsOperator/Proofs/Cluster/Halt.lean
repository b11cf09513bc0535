import JenkinsOperator.Proofs.Cluster.Ledger
import JenkinsOperator.Proofs.Cluster.Schedule
import JenkinsOperator.Proofs.Pass.Halted

/-!
# A failure for good halts its generation

Seed jobs that fail for good halt the generation that they were set up for, and no other: users and
the defaults that a pass stores count the generation up, and what is recorded is the generation of
the specification that failed. While it is the current one no pass works on the seed jobs, the user
is told once, and as soon as it is not the seed jobs are tried again (`Run.halts_generation`).
-/

namespace JenkinsOperator

/-- A write leaves the record of a halt as it is. -/
def SparesHalt (before after : Jenkins) : Prop :=
  after.statusOrUnset.haltedGeneration = before.statusOrUnset.haltedGeneration

instance : DecidableRel SparesHalt := fun _ _ => inferInstanceAs (Decidable (_ = _))

variable {start before after : Jenkins} {moves : List Move} {move : Move} {w w' : World}
  {past : Past}

/-! ## Halts -/

/-- A change records a halt at the generation of an object that is not halted, or none. -/
theorem Change.haltedGeneration
    (change : Change ⟨CountsGenerations, SparesHalt⟩ before move after) :
    after.statusOrUnset.haltedGeneration = before.statusOrUnset.haltedGeneration ∨
      before.isHalted = false ∧
        after.statusOrUnset.haltedGeneration = before.metadata.generation := by
  rcases change.status_cases with same | ⟨past, advance⟩ | spares
  · left
    rw [same]
  · rcases advance.haltedGeneration with same | ⟨running, recorded, -⟩
    · exact .inl same
    · exact .inr ⟨running, recorded⟩
  · exact .inl spares

/-- Every change keeps the record of a halt sound. -/
theorem Change.haltSound (change : Change ⟨CountsGenerations, SparesHalt⟩ before move after)
    (sound : HaltSound before) : HaltSound after := by
  cases change with
  | started identity => exact sound
  | spared past e _ => exact sound
  | updated past e after _ _ lawful update => exact update.haltSound lawful sound
  | editedSpec after _ counts spares => exact sound.kept counts spares
  | editedStatus after _ counts spares => exact sound.kept counts spares

/-- Whatever state the object was in, the record of a halt was sound. -/
theorem Run.haltSound (run : Run ⟨CountsGenerations, SparesHalt⟩ start moves w)
    (set : start.metadata.generation.isSome)
    (unrecorded : start.statusOrUnset.haltedGeneration = none) :
    ∀ j ∈ w.history, HaltSound j := by
  have opening : HaltSound start := by
    refine ⟨set, ?_, ?_⟩
    · intro generation recorded _ halted
      exact nomatch unrecorded.symm.trans halted
    · intro halted
      obtain ⟨generation, recorded, -⟩ := Jenkins.isHalted_iff.1 halted
      exact nomatch unrecorded.symm.trans recorded
  apply run.invariant opening
  intro before move after change
  exact change.haltSound

/-- An accepted write that changes the record of a halt does so for the specification that is
stored, and that was handed to the seed jobs. -/
theorem Step.halt_recorded {object stored : Jenkins}
    (step : Step ⟨CountsGenerations, SparesHalt⟩ w
      (.exchange past ⟨.writeStatus object, .ok (.updated stored)⟩) w')
    (worldSound : w.Sound CountsGenerations) (sound : HaltSound w.object)
    (changed : stored.statusOrUnset.haltedGeneration ≠ w.object.statusOrUnset.haltedGeneration) :
    ∃ generation, stored.statusOrUnset.haltedGeneration = some generation ∧
      stored.metadata.generation = some generation ∧ stored.spec = w.object.spec ∧
      (∃ server message, ⟨.ensureSeedJobs server w.object, .ok (.unrecoverable message)⟩ ∈ past) ∧
      ∀ server handed answer, ⟨.ensureSeedJobs server handed, answer⟩ ∈ past →
        handed.spec = w.object.spec ∧ handed.metadata.generation = some generation := by
  obtain ⟨-, held, lawful, advance, spec, counts⟩ := step.status_updated worldSound
  obtain ⟨generation, current⟩ := Option.isSome_iff_exists.1 sound.set
  rcases advance.haltedGeneration with same | ⟨-, recorded, -, seeded⟩
  · exact absurd same changed
  · refine ⟨generation, ?_, ?_, spec, seeded, ?_⟩
    · rw [recorded, current]
    · rw [counts.steady spec, current]
    · intro server handed answer member
      have agree : ∀ j, held? past = some j →
          j.spec = w.object.spec ∧ j.metadata.generation = some generation := by
        intro j held'
        cases held.symm.trans held'
        exact ⟨rfl, current⟩
      exact lawful.sees (fun _ _ => CountsGenerations.steady) agree _ member handed rfl

/-! ## Alarms -/

/-- Whether no halt is recorded of a generation or of a later one. -/
def Jenkins.mayHalt (j : Jenkins) (generation : Int) : Bool :=
  j.statusOrUnset.haltedGeneration.all fun recorded => recorded < generation

/-- A generation may halt if the one that is recorded as halted, if any, comes before it. -/
theorem Jenkins.mayHalt_iff {j : Jenkins} {generation : Int} :
    j.mayHalt generation = true ↔
      ∀ recorded, j.statusOrUnset.haltedGeneration = some recorded → recorded < generation := by
  rw [mayHalt, Option.all_eq_true]
  exact forall₂_congr fun recorded _ => decide_eq_true_iff

/-- What is recorded never goes back. -/
theorem Change.mayHalt (change : Change ⟨CountsGenerations, SparesHalt⟩ before move after)
    (sound : HaltSound before) {generation : Int} (h : after.mayHalt generation = true) :
    before.mayHalt generation = true := by
  rw [Jenkins.mayHalt_iff] at h ⊢
  rcases change.haltedGeneration with same | ⟨-, recorded⟩
  · exact same ▸ h
  · intro old halted
    obtain ⟨current, now⟩ := Option.isSome_iff_exists.1 sound.set
    have below : old ≤ current := sound.reached current old now halted
    have later : current < generation := h current (recorded.trans now)
    omega

/-- A generation is halted only where neither it nor a later one has been halted before. -/
theorem Change.achieves_halted (change : Change ⟨CountsGenerations, SparesHalt⟩ before move after)
    (sound : HaltSound before) {generation : Int}
    (achieves : move.achieves (.halted generation) = true) :
    before.mayHalt generation = true ∧ after.mayHalt generation = false := by
  rw [change.achieves (.halted generation) fun after spares => by
    rw [Milestone.reachedIn, Milestone.reachedIn, spares], Bool.and_eq_true] at achieves
  have unrecorded : before.statusOrUnset.haltedGeneration ≠ some generation := by
    intro recorded
    have reached : Milestone.reachedIn (.halted generation) before.statusOrUnset = true :=
      beq_iff_eq.2 recorded
    rw [reached] at achieves
    exact nomatch achieves.1
  have now : after.statusOrUnset.haltedGeneration = some generation := beq_iff_eq.1 achieves.2
  constructor
  · rw [Jenkins.mayHalt_iff]
    intro old halted
    rcases change.haltedGeneration with same | ⟨-, recorded⟩
    · exact absurd (same ▸ now) unrecorded
    · -- What was recorded before is not ahead of the object, and it is another generation.
      have below : old ≤ generation := sound.reached generation old (recorded ▸ now) halted
      have other : old ≠ generation := fun same => unrecorded (same ▸ halted)
      omega
  · apply Bool.eq_false_iff.2
    intro h
    exact Int.lt_irrefl generation (Jenkins.mayHalt_iff.1 h generation now)

/-- A generation is recorded as halted at most once, and not at all while it still may halt. -/
theorem Run.achieved_halted (run : Run ⟨CountsGenerations, SparesHalt⟩ start moves w)
    (set : start.metadata.generation.isSome)
    (unrecorded : start.statusOrUnset.haltedGeneration = none) (generation : Int) :
    moves.countP (Move.achieves (.halted generation)) +
      (if w.object.mayHalt generation then 1 else 0) ≤ 1 := by
  induction run with
  | nil =>
    rw [List.countP_nil, Nat.zero_add]
    split <;> decide
  | @cons moves move w w' run step ih =>
    have sound := run.haltSound set unrecorded w.object List.mem_cons_self
    have change := step.change run.sound
    rw [List.countP_cons]
    -- A halt of a generation uses up the chance of it, which no change gives back.
    cases achieves : move.achieves (.halted generation) with
    | true =>
      obtain ⟨opened, closed⟩ := change.achieves_halted sound achieves
      rw [opened, if_pos rfl] at ih
      rw [closed, if_pos rfl, if_neg Bool.false_ne_true]
      omega
    | false =>
      rw [if_neg Bool.false_ne_true, Nat.add_zero]
      by_cases opened : w'.object.mayHalt generation = true
      · rw [change.mayHalt sound opened] at ih
        rwa [opened]
      · rw [if_neg opened]
        omega

/-- Whether a move tells the user that the seed jobs of a generation have failed for good. -/
def Move.alarms (generation : Int) : Move → Bool
  | .exchange _ ⟨.publish object n, _⟩ =>
    n.reason == .seedJobUnrecoverable && object.metadata.generation == some generation
  | _ => false

/-- A notification of a halt follows the write that has recorded it, at the generation of the object
it is about. -/
theorem Lawful.alarm {object : Jenkins} {n : Notification} {answer : Unit}
    (lawful : Lawful CountsGenerations (⟨.publish object n, answer⟩ :: past))
    (alarm : n.reason = .seedJobUnrecoverable) :
    object.statusOrUnset.haltedGeneration = object.metadata.generation ∧
      ∃ written early, past = ⟨.writeStatus written, .ok (.updated object)⟩ :: early := by
  obtain ⟨lawful, ⟨-, ⟨held, announces⟩, -⟩, -⟩ := lawful
  cases announces with
  | completed phase => exact absurd alarm phase.successReason_ne.1
  | rejected _ rejects => exact Reason.noConfusion (rejects.reason.symm.trans alarm)
  | halted message written before early last held' recorded =>
    subst last
    obtain ⟨before', held'', accepted⟩ := lawful.2.2 object rfl
    cases held'.symm.trans held''
    cases accepted with
    | status _ _ spec _ counts =>
      exact ⟨recorded.trans (counts.steady spec).symm, written, early, rfl⟩

/-- A step tells of a halt of a generation if and only if it tells of that milestone. -/
theorem Step.alarms_eq (step : Step ⟨CountsGenerations, SparesHalt⟩ w move w')
    (sound : w.Sound CountsGenerations) (generation : Int) :
    move.alarms generation = move.tells (.halted generation) := by
  cases move with
  | exchange past e =>
    have lawful := step.lawful sound
    rcases e with ⟨c, answer⟩
    cases c with
    | publish object n =>
      show (n.reason == .seedJobUnrecoverable && object.metadata.generation == some generation) =
        (n.reason == .seedJobUnrecoverable &&
          object.statusOrUnset.haltedGeneration == some generation)
      by_cases alarm : n.reason = .seedJobUnrecoverable
      · rw [(lawful.alarm alarm).1]
      · rw [beq_eq_false_iff_ne.2 alarm, Bool.false_and, Bool.false_and]
    | _ => rfl
  | _ => rfl

theorem Run.countP_alarms (run : Run ⟨CountsGenerations, SparesHalt⟩ start moves w)
    (generation : Int) :
    moves.countP (Move.alarms generation) = moves.countP (Move.tells (.halted generation)) := by
  induction run with
  | nil => rfl
  | @cons moves move w w' run step ih =>
    rw [List.countP_cons, List.countP_cons, ih, step.alarms_eq run.sound generation]

/-- Whoever is told of a halt is told after the write that has recorded it. -/
theorem Step.alarm_recorded {object : Jenkins} {n : Notification} {answer : Unit}
    (step : Step ⟨CountsGenerations, SparesHalt⟩ w (.exchange past ⟨.publish object n, answer⟩) w')
    (run : Run ⟨CountsGenerations, SparesHalt⟩ start moves w)
    (halts : ∀ j ∈ w.history, HaltSound j) (alarm : n.reason = .seedJobUnrecoverable) :
    ∃ generation earlier, object.metadata.generation = some generation ∧ earlier ∈ moves ∧
      earlier.achieves (.halted generation) = true := by
  -- The pass has just written the record, and it has done so in a move of this run.
  have lawful := step.lawful run.sound
  obtain ⟨same, written, early, last⟩ := lawful.alarm alarm
  obtain ⟨before, after, resume, split, -⟩ := step.exchange
  have member : ⟨past, .call (.publish object n) resume⟩ ∈ w.passes :=
    split ▸ List.mem_append_right before List.mem_cons_self
  have copy : object ∈ w.history :=
    (run.sound.passes _ member).copies ⟨.writeStatus written, .ok (.updated object)⟩
      (last ▸ List.mem_cons_self) object rfl
  obtain ⟨generation, current⟩ := Option.isSome_iff_exists.1 (halts object copy).set
  refine ⟨generation, .exchange early ⟨.writeStatus written, .ok (.updated object)⟩, current,
    run.mem_moves _ member _ early (last ▸ List.suffix_rfl), ?_⟩
  -- It may tell of the halt only because that write has achieved it.
  have told : Milestone.toldBy (.halted generation) (.publish object n) = true := by
    show (n.reason == .seedJobUnrecoverable &&
      object.statusOrUnset.haltedGeneration == some generation) = true
    rw [alarm, same, current, beq_self_eq_true, beq_self_eq_true, Bool.and_self]
  have owed := lawful.2.1.told (.halted generation)
  rw [told, last] at owed
  exact owed.symm

/-! ## Passes after a halt -/

/-- A pass that has read an object which is not halted gets to the seed jobs, or is hindered. -/
theorem Run.seeded_or_hinders (run : Run ⟨CountsGenerations, SparesHalt⟩ start moves w)
    (halts : ∀ j ∈ w.history, HaltSound j) {pass : Running} (member : pass ∈ w.passes)
    (ended : pass.rest.hasEnded = true) {identity : Identity} {j : Jenkins}
    (read : ⟨.fetch identity, .ok (some j)⟩ ∈ pass.past) (running : j.isHalted = false) :
    Seeded pass.past ∨ ∃ e ∈ pass.past, e.hinders = true := by
  have sound := run.sound.passes pass member
  have held : ¬ Seeded pass.past →
      ∃ j', held? pass.past = some j' ∧ HaltSound j' ∧ j'.isHalted = false :=
    sound.lawful.running read (halts j (sound.copies _ read j rfl)) running
  by_cases seeded : Seeded pass.past
  · exact .inl seeded
  · right
    obtain ⟨j', held, -, running'⟩ := held seeded
    rcases (sound.keeps.settled ended).reason with hindered | seeded' | ⟨copy, held', halted⟩ | none
    · exact hindered
    · exact absurd seeded' seeded
    · cases held.symm.trans held'
      exact nomatch halted.symm.trans running'
    · exact nomatch none.symm.trans held

/-! ## The halt of a generation -/

/-- What is known of halts once the moves of a run have led to a world. -/
structure HaltsGenerations (moves : List Move) (w : World) : Prop where
  /-- An accepted write that changes the record of a halt records the generation of the
  specification that is stored, and that was handed to the seed jobs. -/
  recorded : ∀ past object stored w',
    Step ⟨CountsGenerations, SparesHalt⟩ w
      (.exchange past ⟨.writeStatus object, .ok (.updated stored)⟩) w' →
    stored.statusOrUnset.haltedGeneration ≠ w.object.statusOrUnset.haltedGeneration →
    ∃ generation, stored.statusOrUnset.haltedGeneration = some generation ∧
      stored.metadata.generation = some generation ∧ stored.spec = w.object.spec ∧
      (∃ server message,
        ⟨.ensureSeedJobs server w.object, .ok (.unrecoverable message)⟩ ∈ past) ∧
      ∀ server handed answer, ⟨.ensureSeedJobs server handed, answer⟩ ∈ past →
        handed.spec = w.object.spec ∧ handed.metadata.generation = some generation
  /-- A pass that has read a halted object leaves the seed jobs alone, and the record as it is. -/
  idle : ∀ pass ∈ w.passes, ∀ identity j, ⟨.fetch identity, .ok (some j)⟩ ∈ pass.past →
    j.isHalted = true → ∀ e ∈ pass.past, e.call.isSeeding = false ∧
      ∀ object, e.call = .writeStatus object →
        object.statusOrUnset.haltedGeneration = j.statusOrUnset.haltedGeneration
  /-- The user is told at most once of each generation. -/
  once : ∀ generation, moves.countP (Move.alarms generation) ≤ 1
  /-- The user is told only after the halt of the generation was recorded. -/
  after : ∀ past object n answer w',
    Step ⟨CountsGenerations, SparesHalt⟩ w (.exchange past ⟨.publish object n, answer⟩) w' →
    n.reason = .seedJobUnrecoverable →
    ∃ generation earlier, object.metadata.generation = some generation ∧ earlier ∈ moves ∧
      earlier.achieves (.halted generation) = true
  /-- Once all passes have ended, the user has been told of every halt that was recorded. -/
  told : w.isQuiet = true → ∀ generation,
    moves.countP (Move.alarms generation) = moves.countP (Move.achieves (.halted generation))
  /-- What is recorded never lies ahead of the object. -/
  bound : ∀ generation recorded, w.object.metadata.generation = some generation →
    w.object.statusOrUnset.haltedGeneration = some recorded → recorded ≤ generation
  /-- A pass that has read an object whose generation has moved on, and has ended, has looked after
  the seed jobs, unless it was hindered. -/
  retried : ∀ pass ∈ w.passes, pass.rest.hasEnded = true → ∀ identity j,
    ⟨.fetch identity, .ok (some j)⟩ ∈ pass.past → j.isHalted = false →
      Seeded pass.past ∨ ∃ e ∈ pass.past, e.hinders = true
  /-- The next call of a pass after a failure for good is the write that records it. -/
  next : ∀ past e w', Step ⟨CountsGenerations, SparesHalt⟩ w (.exchange past e) w' →
    ∀ j, failed? past = some j → e.call = .writeStatus j.withHalt
  /-- No pass ends before it has made that write. -/
  calm : ∀ pass ∈ w.passes, pass.rest.hasEnded = true → failed? pass.past = none

/-- Seed jobs that fail for good halt exactly their generation. -/
theorem Run.halts_generation (run : Run ⟨CountsGenerations, SparesHalt⟩ start moves w)
    (set : start.metadata.generation.isSome)
    (unrecorded : start.statusOrUnset.haltedGeneration = none) : HaltsGenerations moves w := by
  have halts := run.haltSound set unrecorded
  constructor
  case recorded =>
    intro past object stored w' step changed
    exact step.halt_recorded run.sound (halts w.object List.mem_cons_self) changed
  case idle =>
    intro pass member identity j read halted e exchanged
    have sound := run.sound.passes pass member
    have idle := sound.lawful.idle read (halts j (sound.copies _ read j rfl)) halted
    exact ⟨idle.quiet e exchanged, idle.kept e exchanged⟩
  case once =>
    intro generation
    have told := run.told_add_owing (.halted generation)
    have achieved := run.achieved_halted set unrecorded generation
    rw [run.countP_alarms generation]
    omega
  case after =>
    intro past object n answer w' step alarm
    exact step.alarm_recorded run halts alarm
  case told =>
    intro quiet generation
    have told := run.told_add_owing (.halted generation)
    rw [run.owing_eq_zero quiet] at told
    rw [run.countP_alarms generation]
    exact told
  case bound => exact (halts w.object List.mem_cons_self).reached
  case retried =>
    intro pass member rest identity j read running
    exact run.seeded_or_hinders halts member rest read running
  case next =>
    intro past e w' step j failed
    exact (step.lawful run.sound).2.1.halts j failed
  case calm =>
    intro pass member rest
    exact ((run.sound.passes pass member).keeps.settled rest).calm

/-- The seed jobs fail for good in two passes at once; a third one finds them halted; another party
asks for the first specification again, and a fourth pass sees them fail in its generation, too. -/
def relapse : List Move × World :=
  let hopeless := { Behaviour.standard with seedJobs := .ok (.unrecoverable "no such branch") }
  play CountsGenerations SparesHalt .created <| List.reverse <|
    .begin :: Turn.calls hopeless 0 10 ++ .begin :: Turn.calls hopeless 0 4
      ++ Turn.calls hopeless 1 2 ++ Turn.calls hopeless 0 1
      ++ .begin :: Turn.calls hopeless 0 3
      ++ .editSpec .plain :: .begin :: Turn.calls hopeless 0 7

theorem Run.halts_generation_relapse :
    Run ⟨CountsGenerations, SparesHalt⟩ .created relapse.1 relapse.2 ∧
      Jenkins.created.metadata.generation.isSome ∧
      Jenkins.created.statusOrUnset.haltedGeneration = none ∧
      relapse.2.passes.length = 4 ∧ relapse.2.isQuiet = true ∧
      relapse.1.countP (Move.alarms 2) = 1 ∧ relapse.1.countP (Move.alarms 3) = 0 ∧
      relapse.1.countP (Move.alarms 4) = 1 := by
  have run : Run ⟨CountsGenerations, SparesHalt⟩ .created relapse.1 relapse.2 := run_play _ _
  obtain ⟨four, quiet, two, three, last⟩ : relapse.2.passes.length = 4 ∧
      relapse.2.isQuiet = true ∧ relapse.1.countP (Move.achieves (.halted 2)) = 1 ∧
      relapse.1.countP (Move.achieves (.halted 3)) = 0 ∧
      relapse.1.countP (Move.achieves (.halted 4)) = 1 := by decide +kernel
  have told := (run.halts_generation rfl rfl).told quiet
  refine ⟨run, rfl, rfl, four, quiet, ?_, ?_, ?_⟩
  · rw [told 2, two]
  · rw [told 3, three]
  · rw [told 4, last]

end JenkinsOperator
