import JenkinsOperator.Proofs.Cluster.Ledger
import JenkinsOperator.Proofs.Cluster.Schedule

/-!
# Each phase is announced once

A completion is a fact of the object and not of a pass: its stamp is set once and never moved, and
of all passes the one whose write set it tells the user (`Run.announced_once`). So passes that
overlap, lose a write, fail, or are started again announce each phase once between them.
-/

namespace JenkinsOperator

variable {past : Past} {j : Jenkins} {before after : Jenkins} {move : Move}

/-- A write neither sets nor clears the stamp of a phase. -/
def SparesCompletions (before after : Jenkins) : Prop :=
  after.statusOrUnset.baseCompleted = before.statusOrUnset.baseCompleted ∧
    after.statusOrUnset.userCompleted = before.statusOrUnset.userCompleted

instance : DecidableRel SparesCompletions := fun _ _ => instDecidableAnd

/-- Who spares the stamps leaves each phase stamped as it was. -/
theorem SparesCompletions.completedAt (h : SparesCompletions before after) (phase : Phase) :
    after.statusOrUnset.completedAt phase = before.statusOrUnset.completedAt phase := by
  cases phase with
  | base => exact h.1
  | user => exact h.2

/-- A status that a pass writes keeps each stamp there is. -/
theorem Advance.completedAt {s : JenkinsStatus} (advance : Advance past j s) {phase : Phase}
    {time : Time} (stamped : j.statusOrUnset.completedAt phase = some time) :
    s.completedAt phase = some time := by
  cases advance with
  | start now _ _ => cases phase <;> exact stamped
  | complete completed now unset _ =>
    -- A pass stamps only a phase that has no stamp, so this is another one.
    have other : phase ≠ completed := by
      rintro rfl
      exact nomatch unset.symm.trans stamped
    rw [JenkinsStatus.completedAt_stamp_of_ne _ _ _ other]
    exact stamped
  | halt server message _ _ _ _ => cases phase <;> exact stamped

/-- A stamp stays as it is, whoever changes the object. -/
theorem Change.completedAt {server : Jenkins → Jenkins → Prop}
    (change : Change ⟨server, SparesCompletions⟩ before move after) {phase : Phase} {time : Time}
    (stamped : before.statusOrUnset.completedAt phase = some time) :
    after.statusOrUnset.completedAt phase = some time := by
  rcases change.status_cases with same | ⟨past, advance⟩ | spares
  · rw [same, stamped]
  · exact advance.completedAt stamped
  · rw [spares.completedAt, stamped]

/-- Since stamps stay, a phase has been achieved once, if it is stamped and was not at the start. -/
theorem Run.achieved_completed {server : Jenkins → Jenkins → Prop} {start : Jenkins}
    {moves : List Move} {w : World} (run : Run ⟨server, SparesCompletions⟩ start moves w)
    (phase : Phase) :
    moves.countP (Move.achieves (.completed phase)) +
        (if (start.statusOrUnset.completedAt phase).isSome then 1 else 0) =
      if (w.object.statusOrUnset.completedAt phase).isSome then 1 else 0 := by
  induction run with
  | nil => exact Nat.zero_add _
  | @cons moves move w w' run step ih =>
    have change := step.change run.sound
    have achieves : move.achieves (.completed phase) =
        (!(w.object.statusOrUnset.completedAt phase).isSome &&
          (w'.object.statusOrUnset.completedAt phase).isSome) :=
      change.achieves (.completed phase) fun after spares =>
        congrArg Option.isSome (spares.completedAt phase)
    rw [List.countP_cons, achieves]
    cases stamped : w.object.statusOrUnset.completedAt phase with
    | none =>
      -- Nothing has been achieved so far; this move achieves the phase if it stamps it.
      rw [stamped] at ih
      simp only [Option.isSome_none, Bool.not_false, Bool.true_and, Bool.false_eq_true, if_false]
        at ih ⊢
      omega
    | some time =>
      rw [stamped] at ih
      rw [change.completedAt stamped]
      simpa using ih

/-- A phase is announced at most once, its stamp is never moved, and once all passes have ended it
has been announced if and only if they have set its stamp. -/
theorem Run.announced_once {start : Jenkins} {moves : List Move} {w : World}
    (run : Run ⟨fun _ _ => True, SparesCompletions⟩ start moves w) (phase : Phase) :
    moves.countP (Move.tells (.completed phase)) ≤ 1 ∧
    (∀ move w' time, Step ⟨fun _ _ => True, SparesCompletions⟩ w move w' →
      w.object.statusOrUnset.completedAt phase = some time →
      w'.object.statusOrUnset.completedAt phase = some time) ∧
    (w.isQuiet = true → moves.countP (Move.tells (.completed phase)) =
      if start.statusOrUnset.completedAt phase = none ∧
        w.object.statusOrUnset.completedAt phase ≠ none then 1 else 0) := by
  have told := run.told_add_owing (.completed phase)
  have achieved := run.achieved_completed phase
  refine ⟨?_, ?_, ?_⟩
  · -- What was told was achieved, and what is achieved is stamped now and was not at the start.
    split at achieved <;> split at achieved <;> omega
  · intro move w' time step stamped
    exact (step.change run.sound).completedAt stamped
  · intro quiet
    rw [run.owing_eq_zero quiet, Nat.add_zero] at told
    rw [← told] at achieved
    generalize start.statusOrUnset.completedAt phase = opening at achieved ⊢
    generalize w.object.statusOrUnset.completedAt phase = now at achieved ⊢
    rcases opening with _ | opened
    · rcases now with _ | time
      · simpa using achieved
      · simpa using achieved
    · rcases now with _ | time
      · simp at achieved
      · simpa using achieved

/-- Two passes race for the base phase, the winner loses the user phase to a write of another party,
and a third pass completes it. -/
def race : List Move × World :=
  play (fun _ _ => True) SparesCompletions .created <| List.reverse <|
    .begin :: Turn.calls .standard 0 5 ++ .begin :: Turn.calls .standard 0 3
      ++ Turn.calls .standard 1 4 ++ Turn.calls .standard 0 2
      ++ .editStatus (some { JenkinsStatus.unset with baseCompleted := some .noon })
        :: Turn.calls .standard 1 6 ++ .begin :: Turn.calls .standard 0 12

theorem Run.announced_once_race :
    Run ⟨fun _ _ => True, SparesCompletions⟩ .created race.1 race.2 ∧
      race.2.passes.length = 3 ∧ race.2.isQuiet = true ∧
      race.1.countP (Move.tells (.completed .base)) = 1 ∧
      race.1.countP (Move.tells (.completed .user)) = 1 := by
  have run : Run ⟨fun _ _ => True, SparesCompletions⟩ .created race.1 race.2 := run_play _ _
  obtain ⟨three, quiet, base, user⟩ : race.2.passes.length = 3 ∧ race.2.isQuiet = true ∧
      race.2.object.statusOrUnset.completedAt .base ≠ none ∧
      race.2.object.statusOrUnset.completedAt .user ≠ none := by decide +kernel
  refine ⟨run, three, quiet, ?_, ?_⟩
  · rw [(run.announced_once .base).2.2 quiet, if_pos ⟨rfl, base⟩]
  · rw [(run.announced_once .user).2.2 quiet, if_pos ⟨rfl, user⟩]

end JenkinsOperator
