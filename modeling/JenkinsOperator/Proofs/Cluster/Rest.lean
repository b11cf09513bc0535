import Mathlib.Data.Finset.Card
import JenkinsOperator.Proofs.Cluster.Ledger
import JenkinsOperator.Proofs.Cluster.Schedule
import JenkinsOperator.Proofs.Pass.Halted

/-!
# Passes come to rest

Every accepted write is a change that starts another pass, so passes could keep each other going for
ever. They do not, whatever they are answered: each write of a pass uses up something that only other
parties can give back. A write of defaults uses up an incomplete specification, a stamp a stamp that
is missing, and the record of a halt a generation that is not halted; and a generation is not given
twice. So a run has not many more accepted writes than other parties have written specifications, and
only so many passes have written anything (`Run.comes_to_rest`).
-/

namespace JenkinsOperator

variable {start before after j : Jenkins} {moves : List Move} {move : Move} {w w' : World}
  {past : Past} {s : JenkinsStatus}

/-! ## Writes -/

/-- Whether a specification write of a pass is accepted in a move. -/
def Move.isSpecUpdate : Move → Bool
  | .exchange _ ⟨.writeSpec _, .ok (.updated _)⟩ => true
  | _ => false

/-- Whether another party writes the specification in a move. -/
def Move.isSpecEdit : Move → Bool
  | .editSpec _ => true
  | _ => false

/-- Whether a write is accepted. -/
def Call.Exchange.lands (e : Call.Exchange) : Bool := (e.call.stored? e.answer).isSome

/-- Whether a write of a pass has been accepted. -/
def Running.hasWritten (pass : Running) : Bool := pass.past.any Call.Exchange.lands

/-- A write that is accepted is one of the specification or one of the status. -/
theorem Move.updates_exchange (past : Past) (e : Call.Exchange) :
    (Move.exchange past e).isSpecUpdate.toNat + (Move.exchange past e).isStatusUpdate.toNat =
      e.lands.toNat := by
  rcases e with ⟨c, answer⟩
  cases c with
  | writeSpec object => rcases answer with failure | stored | _ <;> rfl
  | writeStatus object => rcases answer with failure | stored | _ <;> rfl
  | _ => rfl

/-- A write that was not accepted is no update. -/
theorem Move.updates_of_refused {e : Call.Exchange} (refused : e.call.stored? e.answer = none) :
    (Move.exchange past e).isSpecUpdate = false ∧
      (Move.exchange past e).isStatusUpdate = false := by
  have none : e.lands = false := by
    rw [Call.Exchange.lands, refused]
    rfl
  have updates := Move.updates_exchange past e
  rw [none] at updates
  obtain ⟨spec, status⟩ := Nat.add_eq_zero_iff.1 updates
  exact ⟨Bool.toNat_eq_zero.1 spec, Bool.toNat_eq_zero.1 status⟩

/-- Each pass that has written took an accepted write for it. -/
theorem Step.countP_hasWritten {regime : Regime} (step : Step regime w move w') :
    w'.passes.countP Running.hasWritten ≤
      w.passes.countP Running.hasWritten +
        (move.isSpecUpdate.toNat + move.isStatusUpdate.toNat) := by
  cases move with
  | start identity =>
    cases step
    exact Nat.le_of_eq (List.countP_cons_of_neg Bool.false_ne_true)
  | exchange past e =>
    obtain ⟨before, after, resume, split, split'⟩ := step.exchange
    have replaced := countP_replace Running.hasWritten before after
      ⟨past, .call e.call resume⟩ ⟨e :: past, resume e.answer⟩
    rw [Move.updates_exchange, split, split']
    have written : Running.hasWritten ⟨e :: past, resume e.answer⟩ =
        (e.lands || Running.hasWritten ⟨past, .call e.call resume⟩) := List.any_cons
    rw [written] at replaced
    cases lands : e.lands with
    | true =>
      rw [lands, Bool.true_or, if_pos rfl] at replaced
      show _ ≤ _ + 1
      omega
    | false =>
      rw [lands, Bool.false_or] at replaced
      show _ ≤ _ + 0
      omega
  | editSpec spec =>
    cases step
    exact Nat.le_refl _
  | editStatus status =>
    cases step
    exact Nat.le_refl _

/-! ## Incomplete specifications -/

/-- A pass completes what other parties left incomplete. -/
theorem Change.incomplete {regime : Regime} (change : Change regime before move after) :
    move.isSpecUpdate.toNat + after.spec.isIncomplete.toNat ≤
      move.isSpecEdit.toNat + before.spec.isIncomplete.toNat := by
  cases change with
  | started identity => exact Nat.le_refl _
  | spared past e refused =>
    rw [(Move.updates_of_refused refused).1]
    exact Nat.le_refl _
  | updated past e after accepted _ _ update =>
    rcases e with ⟨c, answer⟩
    cases update with
    | defaults object _ incomplete spec _ _ =>
      -- Defaults leave nothing open, and they are written only where something was.
      rw [spec, before.spec.isIncomplete_withDefaults, incomplete]
      exact Nat.add_le_add_right (Bool.toNat_le _) 0
    | status s _ spec _ _ =>
      rw [spec]
      exact Nat.le_refl _
  | editedSpec after _ _ _ =>
    have bound := Bool.toNat_le after.spec.isIncomplete
    show 0 + _ ≤ 1 + _
    omega
  | editedStatus after spec _ _ =>
    rw [spec]
    exact Nat.le_refl _

/-! ## Missing stamps and generations that are not halted -/

/-- The number of stamps that a status lacks. -/
def JenkinsStatus.missing (s : JenkinsStatus) : Nat :=
  s.provisionStart.isNone.toNat + s.baseCompleted.isNone.toNat + s.userCompleted.isNone.toNat

/-- A status has three times, so no more than three can be missing. -/
theorem JenkinsStatus.missing_le (s : JenkinsStatus) : s.missing ≤ 3 := by
  have start := Bool.toNat_le s.provisionStart.isNone
  have base := Bool.toNat_le s.baseCompleted.isNone
  have user := Bool.toNat_le s.userCompleted.isNone
  unfold missing
  omega

theorem JenkinsStatus.missing_start {s : JenkinsStatus} (now : Time)
    (unset : s.provisionStart = none) :
    JenkinsStatus.missing { s with provisionStart := some now } + 1 = s.missing := by
  cases s
  cases unset
  simp only [missing, Option.isNone_none, Option.isNone_some, Bool.toNat_true, Bool.toNat_false]
  omega

/-- A stamp of a phase that had none leaves one time fewer missing. -/
theorem JenkinsStatus.missing_stamp {s : JenkinsStatus} {phase : Phase} (now : Time)
    (unset : s.completedAt phase = none) : (s.stamp phase now).missing + 1 = s.missing := by
  cases s
  cases phase with
  | base =>
    cases unset
    simp only [missing, stamp, Option.isNone_none, Option.isNone_some, Bool.toNat_true,
      Bool.toNat_false]
    omega
  | user =>
    cases unset
    rfl

/-- A pass sets a stamp that was missing, or halts a generation that was not halted. -/
theorem Advance.missing (advance : Advance past j s) :
    s.missing + 1 = j.statusOrUnset.missing ∧
        s.haltedGeneration = j.statusOrUnset.haltedGeneration ∨
      s.missing = j.statusOrUnset.missing ∧ j.isHalted = false ∧
        s.haltedGeneration = j.metadata.generation := by
  cases advance with
  | start now unset _ => exact .inl ⟨JenkinsStatus.missing_start now unset, rfl⟩
  | complete phase now unset _ =>
    exact .inl ⟨JenkinsStatus.missing_stamp now unset,
      JenkinsStatus.haltedGeneration_stamp _ phase now⟩
  | halt server message running _ _ _ => exact .inr ⟨rfl, running, rfl⟩

/-- What is left for passes to record in the status, as long as no other generation comes. -/
def Jenkins.unrecorded (j : Jenkins) : Nat := j.statusOrUnset.missing + (!j.isHalted).toNat

/-- Besides the three times, at most the halt is unrecorded. -/
theorem Jenkins.unrecorded_le (j : Jenkins) : j.unrecorded ≤ 4 := by
  have stamps := j.statusOrUnset.missing_le
  have halt := Bool.toNat_le (!j.isHalted)
  unfold unrecorded
  omega

/-- Without an accepted status write, only another generation gives something to record. -/
theorem Jenkins.unrecorded_of_same {j' : Jenkins} (same : j'.statusOrUnset = j.statusOrUnset) :
    j'.unrecorded ≤ j.unrecorded +
      if j'.metadata.generation = j.metadata.generation then 0 else 1 := by
  unfold unrecorded
  rw [same]
  split
  case isTrue generation =>
    have halted : j'.isHalted = j.isHalted := by
      rw [Bool.eq_iff_iff, Jenkins.isHalted_iff, Jenkins.isHalted_iff, same, generation]
    rw [halted]
    exact Nat.le_refl _
  case isFalse =>
    have bound := Bool.toNat_le (!j'.isHalted)
    omega

/-- Each accepted status write records something that was not recorded. -/
theorem Change.unrecorded (change : Change ⟨CountsGenerations, SparesStatus⟩ before move after)
    (set : before.metadata.generation.isSome) :
    move.isStatusUpdate.toNat + after.unrecorded ≤ before.unrecorded +
      if after.metadata.generation = before.metadata.generation then 0 else 1 := by
  cases change with
  | started identity =>
    rw [if_pos rfl]
    exact Nat.le_of_eq (Nat.zero_add _)
  | spared past e refused =>
    rw [(Move.updates_of_refused refused).2, if_pos rfl]
    exact Nat.le_of_eq (Nat.zero_add _)
  | updated past e after accepted _ _ update =>
    rcases e with ⟨c, answer⟩
    cases update with
    | defaults object _ _ _ status _ =>
      have bound := Jenkins.unrecorded_of_same (Jenkins.statusOrUnset_congr status)
      show 0 + _ ≤ _
      omega
    | status s advance spec status counts =>
      have generation := counts.steady spec
      have status := Jenkins.statusOrUnset_of_eq_some status
      have update := Bool.toNat_le
        (Move.exchange past ⟨.writeStatus { before with status := some s }, answer⟩).isStatusUpdate
      rw [if_pos generation]
      unfold Jenkins.unrecorded
      rw [status]
      rcases advance.missing with ⟨stamped, recorded⟩ | ⟨same, running, recorded⟩
      · -- One stamp fewer is missing, and whether the generation is halted has not changed.
        rw [isHalted_of_same counts spec (by rw [status, recorded])]
        omega
      · -- The halt that is recorded is one of the generation that the object has.
        have halted : after.isHalted = true := by
          obtain ⟨current, now⟩ := Option.isSome_iff_exists.1 set
          exact Jenkins.isHalted_iff.2
            ⟨current, by rw [status, recorded, now], by rw [generation, now]⟩
        rw [halted, running, same]
        show _ + (_ + 0) ≤ _ + 1 + 0
        omega
  | editedSpec after status _ _ =>
    have bound := Jenkins.unrecorded_of_same (Jenkins.statusOrUnset_congr status)
    show 0 + _ ≤ _
    omega
  | editedStatus after _ _ spares =>
    have bound := Jenkins.unrecorded_of_same (Jenkins.statusOrUnset_congr spares)
    show 0 + _ ≤ _
    omega

/-! ## Generations -/

/-- The generations that the object has had. -/
def World.generations (w : World) : Finset (Option Int) :=
  (w.history.map fun j => j.metadata.generation).toFinset

theorem Step.generations {regime : Regime} (step : Step regime w move w') :
    w'.generations = insert w'.object.metadata.generation w.generations := by
  have current : w.object.metadata.generation ∈ w.generations :=
    List.mem_toFinset.2 (List.mem_map_of_mem List.mem_cons_self)
  cases step with
  | start identity => exact (Finset.insert_eq_of_mem current).symm
  | spared answer split spares => exact (Finset.insert_eq_of_mem current).symm
  | landed answer stored split accepted changes fresh => exact List.toFinset_cons
  | editSpec stored status fresh kept spares => exact List.toFinset_cons
  | editStatus stored spec fresh kept spares => exact List.toFinset_cons

/-- Only a write of the specification gives another generation, and that is a later one. -/
theorem Change.generation {others : Jenkins → Jenkins → Prop} {current : Int}
    (change : Change ⟨CountsGenerations, others⟩ before move after)
    (now : before.metadata.generation = some current) :
    after.metadata.generation = some current ∨
      move.isSpecUpdate.toNat + move.isSpecEdit.toNat = 1 ∧
        ∃ next, after.metadata.generation = some next ∧ current < next := by
  have kept (counts : CountsGenerations before after) (same : after.spec = before.spec) :
      after.metadata.generation = some current := (counts.steady same).trans now
  cases change with
  | started identity => exact .inl now
  | spared past e _ => exact .inl now
  | updated past e after accepted _ _ update =>
    by_cases same : after.spec = before.spec
    · exact .inl (kept update.kept same)
    · obtain ⟨next, later⟩ := update.kept.increases same now
      refine .inr ⟨?_, next, later⟩
      rcases e with ⟨c, answer⟩
      cases update with
      | defaults object _ _ _ _ _ =>
        rcases answer with failure | stored | _
        · cases accepted
        · rfl
        · cases accepted
      | status s _ spec _ _ => exact absurd spec same
  | editedSpec after _ counts _ =>
    by_cases same : after.spec = before.spec
    · exact .inl (kept counts same)
    · exact .inr ⟨rfl, counts.increases same now⟩
  | editedStatus after spec counts _ => exact .inl (kept counts spec)

/-- The generation of the object is the latest that it has had. -/
theorem Run.latest {others : Jenkins → Jenkins → Prop}
    (run : Run ⟨CountsGenerations, others⟩ start moves w)
    (set : start.metadata.generation.isSome) :
    ∃ current, w.object.metadata.generation = some current ∧
      ∀ generation ∈ w.generations, ∃ past, generation = some past ∧ past ≤ current := by
  induction run with
  | nil =>
    obtain ⟨current, now⟩ := Option.isSome_iff_exists.1 set
    refine ⟨current, now, fun generation member => ⟨current, ?_, Int.le_refl current⟩⟩
    exact (List.mem_singleton.1 (List.mem_toFinset.1 member)).trans now
  | cons run step ih =>
    obtain ⟨current, now, latest⟩ := ih
    rw [step.generations]
    rcases (step.change run.sound).generation now with same | ⟨-, next, later, less⟩
    · refine ⟨current, same, fun generation member => ?_⟩
      rcases Finset.mem_insert.1 member with rfl | old
      · exact ⟨current, same, Int.le_refl current⟩
      · exact latest generation old
    · refine ⟨next, later, fun generation member => ?_⟩
      rcases Finset.mem_insert.1 member with rfl | old
      · exact ⟨next, later, Int.le_refl next⟩
      · obtain ⟨past, same, bound⟩ := latest generation old
        exact ⟨past, same, Int.le_trans bound (Int.le_of_lt less)⟩

/-- Another generation is one that the object has not had. -/
theorem Step.card_generations {others : Jenkins → Jenkins → Prop}
    (run : Run ⟨CountsGenerations, others⟩ start moves w)
    (set : start.metadata.generation.isSome) (step : Step ⟨CountsGenerations, others⟩ w move w') :
    w'.generations.card = w.generations.card +
        (if w'.object.metadata.generation = w.object.metadata.generation then 0 else 1) ∧
      (if w'.object.metadata.generation = w.object.metadata.generation then 0 else 1) ≤
        move.isSpecUpdate.toNat + move.isSpecEdit.toNat := by
  obtain ⟨current, now, latest⟩ := run.latest set
  rw [step.generations, now]
  rcases (step.change run.sound).generation now with same | ⟨counted, next, later, less⟩
  · -- The generation stands in the history already.
    have old : w'.object.metadata.generation ∈ w.generations := by
      rw [same, ← now]
      exact List.mem_toFinset.2 (List.mem_map_of_mem List.mem_cons_self)
    rw [Finset.insert_eq_of_mem old, if_pos same]
    exact ⟨rfl, Nat.zero_le _⟩
  · -- It is later than all that stand in the history.
    have new : w'.object.metadata.generation ∉ w.generations := by
      intro old
      obtain ⟨past, same, bound⟩ := latest _ old
      cases later.symm.trans same
      omega
    have differs : w'.object.metadata.generation ≠ some current := by
      rw [later]
      rintro ⟨⟩
      omega
    rw [Finset.card_insert_of_notMem new, if_neg differs, counted]
    exact ⟨rfl, Nat.le_refl 1⟩

/-! ## Runs -/

/-- What has been used up by the moves of a run, and what is left. -/
structure Accounts (moves : List Move) (w : World) : Prop where
  spec : moves.countP Move.isSpecUpdate + w.object.spec.isIncomplete.toNat ≤
    moves.countP Move.isSpecEdit + 1
  status : moves.countP Move.isStatusUpdate + w.object.unrecorded ≤ 3 + w.generations.card
  generations : w.generations.card ≤
    1 + (moves.countP Move.isSpecUpdate + moves.countP Move.isSpecEdit)
  passes : w.passes.countP Running.hasWritten ≤
    moves.countP Move.isSpecUpdate + moves.countP Move.isStatusUpdate

theorem countP_cons_toNat {α : Type} (p : α → Bool) (x : α) (xs : List α) :
    (x :: xs).countP p = xs.countP p + (p x).toNat := by
  rw [List.countP_cons]
  cases p x <;> rfl

/-- In every run, what was written is accounted for by the edits, by the times that were missing and
by the generations that there have been. -/
theorem Run.accounts (run : Run ⟨CountsGenerations, SparesStatus⟩ start moves w)
    (set : start.metadata.generation.isSome) : Accounts moves w := by
  induction run with
  | nil =>
    have spec := Bool.toNat_le start.spec.isIncomplete
    have status := start.unrecorded_le
    refine ⟨?_, ?_, Nat.le_refl 1, Nat.le_refl 0⟩
    · show 0 + start.spec.isIncomplete.toNat ≤ 0 + 1
      omega
    · show 0 + start.unrecorded ≤ 3 + 1
      omega
  | @cons moves move w w' run step ih =>
    have change := step.change run.sound
    obtain ⟨current, now, -⟩ := run.latest set
    -- Each account is kept by a step; what is used up in one is what a write of its kind takes.
    have spec := change.incomplete
    have status := change.unrecorded (Option.isSome_iff_exists.2 ⟨current, now⟩)
    obtain ⟨card, bound⟩ := step.card_generations run set
    have passes := step.countP_hasWritten
    obtain ⟨specs, statuses, generations, writers⟩ := ih
    refine ⟨?_, ?_, ?_, ?_⟩
    · rw [countP_cons_toNat, countP_cons_toNat]
      omega
    · rw [countP_cons_toNat]
      omega
    · rw [countP_cons_toNat, countP_cons_toNat]
      omega
    · rw [countP_cons_toNat, countP_cons_toNat]
      omega

/-- If other parties write the specification so many times and leave the status alone, passes have at
most one more accepted specification write, and at most three more accepted status writes than the
object has had generations. So however long a run is, only so many passes in it have written. -/
theorem Run.comes_to_rest (run : Run ⟨CountsGenerations, SparesStatus⟩ start moves w)
    (set : start.metadata.generation.isSome) {edits : Nat}
    (few : moves.countP Move.isSpecEdit ≤ edits) :
    moves.countP Move.isSpecUpdate ≤ edits + 1 ∧
      moves.countP Move.isStatusUpdate ≤ 3 + w.generations.card ∧
      w.generations.card ≤ 2 * edits + 2 ∧
      w.passes.countP Running.hasWritten ≤ 3 * edits + 6 := by
  obtain ⟨spec, status, generations, passes⟩ := run.accounts set
  refine ⟨?_, ?_, ?_, ?_⟩
  all_goals omega

/-- A pass completes the base phase and halts, as the seed jobs fail for good. Another party asks for
another image and leaves the resources open again, so that a second pass fills them in once more and
halts once more. A third one has nothing to write. -/
def restless : List Move × World :=
  let hopeless := { Behaviour.standard with seedJobs := .ok (.unrecoverable "no such branch") }
  play CountsGenerations SparesStatus .created <| List.reverse <|
    .begin :: Turn.calls hopeless 0 12
      ++ .editSpec { JenkinsSpec.plain with master.image := "jenkins:2" }
        :: .begin :: Turn.calls hopeless 0 7 ++ .begin :: Turn.calls .standard 0 3

theorem Run.comes_to_rest_restless :
    Run ⟨CountsGenerations, SparesStatus⟩ .created restless.1 restless.2 ∧
      restless.1.countP Move.isSpecEdit = 1 ∧ restless.1.countP Move.isSpecUpdate = 2 ∧
      restless.1.countP Move.isStatusUpdate = 4 ∧ restless.2.generations.card = 4 ∧
      restless.2.passes.length = 3 ∧ restless.2.passes.countP Running.hasWritten = 2 ∧
      restless.1.countP Move.isSpecUpdate ≤ 1 + 1 ∧
      restless.1.countP Move.isStatusUpdate ≤ 3 + restless.2.generations.card ∧
      restless.2.generations.card ≤ 2 * 1 + 2 ∧
      restless.2.passes.countP Running.hasWritten ≤ 3 * 1 + 6 := by
  have run : Run ⟨CountsGenerations, SparesStatus⟩ .created restless.1 restless.2 := run_play _ _
  obtain ⟨edits, specs, statuses, generations, passes, written⟩ :
      restless.1.countP Move.isSpecEdit = 1 ∧ restless.1.countP Move.isSpecUpdate = 2 ∧
        restless.1.countP Move.isStatusUpdate = 4 ∧ restless.2.generations.card = 4 ∧
        restless.2.passes.length = 3 ∧ restless.2.passes.countP Running.hasWritten = 2 := by
    decide +kernel
  exact ⟨run, edits, specs, statuses, generations, passes, written,
    run.comes_to_rest rfl (Nat.le_of_eq edits)⟩

end JenkinsOperator
