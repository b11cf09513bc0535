import JenkinsOperator.Proofs.Route.Attempt
import JenkinsOperator.Proofs.Route.Resumption

/-!
# Interruptions leave no trace

Passes follow one another, each on the object that the one before has left, and in any of them calls
may fail and writes may be refused as lost. `Attempts.transparent` compares such a sequence,
followed by a pass that nothing interrupts, with a single pass of that kind on the first object:
they leave the same specification, the same stamps and the same halt, end with the same result, and
have told the user the same. Each attempt leaves the forecast as it is, less what it has told
(`Attempts.forecast_eq`).
-/

namespace JenkinsOperator

/-- Visits one after another that may be interrupted, with all that they have announced. -/
inductive Attempts (server : Jenkins → Jenkins → Prop) (env : Surroundings) (identity : Identity)
    (start : Jenkins) : List Notification → Jenkins → Prop where
  | nil : Attempts server env identity start [] start
  | cons {told : List Notification} {object after : Jenkins} {past : Past}
      {result : Except Failure Outcome} :
      Attempts server env identity start told object →
      Visit (Interrupts server env) identity object past result after →
      Attempts server env identity start (told ++ announced past) after

variable {env : Surroundings} {next : Int → Int} {identity : Identity} {past past' : Past}
  {start object after after' : Jenkins} {told : List Notification}
  {result result' : Except Failure Outcome}

theorem Attempts.isSome (attempts : Attempts (Tends next) env identity start told object)
    (set : start.metadata.generation.isSome = true) :
    object.metadata.generation.isSome = true := by
  induction attempts with
  | nil => exact set
  | cons _ visit ih => exact visit.leads.isSome ih

/-- What attempts have told and what is to come of the object add up. -/
theorem Attempts.forecast_eq (attempts : Attempts (Tends next) env identity start told object)
    (set : start.metadata.generation.isSome = true) :
    env.forecast next start.gist = (env.forecast next object.gist).after told := by
  induction attempts with
  | nil => rfl
  | cons attempts visit ih =>
    rw [ih, visit.forecast_eq (attempts.isSome set)]
    exact Forecast.after_after ..

/-- Attempts that were interrupted, and then one that was not, come to what a single one comes to
that was not interrupted. -/
theorem Attempts.transparent (attempts : Attempts (Tends next) env identity start told object)
    (set : start.metadata.generation.isSome = true)
    (last : Visit (Serves (Tends next) env) identity object past result after)
    (single : Visit (Serves (Tends next) env) identity start past' result' after') :
    after.spec = after'.spec ∧
    after.statusOrUnset.provisionStart.isSome = after'.statusOrUnset.provisionStart.isSome ∧
    (∀ phase, (after.statusOrUnset.completedAt phase).isSome =
      (after'.statusOrUnset.completedAt phase).isSome) ∧
    after.statusOrUnset.haltedGeneration = after'.statusOrUnset.haltedGeneration ∧
    result = result' ∧
    told ++ announced past = announced past' := by
  -- The last visit is foretold by what the attempts have left to come.
  have resumed : env.forecast next start.gist =
      ⟨after.gist, result, told ++ announced past, rejections past⟩ := by
    rw [attempts.forecast_eq set, last.foretold (attempts.isSome set)]
    rfl
  -- The single pass was foretold by the same forecast.
  rw [single.foretold set] at resumed
  obtain ⟨gist, result, announced, -⟩ := Forecast.mk.inj resumed
  refine ⟨?_, ?_, fun phase => ?_, ?_, result.symm, announced.symm⟩
  · exact (congrArg Gist.spec gist).symm
  · exact (congrArg Gist.started gist).symm
  · exact (congrFun (congrArg Gist.completed gist) phase).symm
  · exact (congrArg Gist.halted gist).symm

/-! ## Attempts that can be computed -/

/-- Attempts from an object, each with a plan of which of its calls go wrong: what they announce,
and the object that they leave. -/
def Surroundings.attempts (env : Surroundings) (now : Time) (identity : Identity)
    (start : Jenkins) :
    List (Nat → Option Mishap) → List Notification × Jenkins
  | [] => ([], start)
  | trouble :: earlier =>
    let before := env.attempts now identity start earlier
    let ran := env.attempt now trouble identity before.2
    (before.1 ++ announced ran.2.1, ran.2.2)

theorem attempts_attempts (env : Surroundings) (now : Time) (identity : Identity) (start : Jenkins)
    (plans : List (Nat → Option Mishap)) :
    Attempts (Tends nextGeneration) env identity start (env.attempts now identity start plans).1
      (env.attempts now identity start plans).2 := by
  induction plans with
  | nil => exact .nil
  | cons trouble earlier ih => exact .cons ih (visit_attempt env now trouble identity _)

/-- The write of defaults is lost, then the master cannot be asked for, then the record of the halt
is lost. -/
def thwarted : List Notification × Jenkins :=
  Surroundings.hopeless.attempts .noon ⟨"default", "ci"⟩ .created
    [Mishap.loses.atCall 7, (Mishap.fails (.internal "provision" "unreachable")).atCall 5,
      Mishap.loses.atCall 1]

/-- The pass that goes on from there. -/
def recovered : Except Failure Outcome × Past × Jenkins :=
  Surroundings.hopeless.attempt .noon (fun _ => none) ⟨"default", "ci"⟩ thwarted.2

theorem Attempts.transparent_thwarted :
    ∃ told object past result after past' result' after',
      Attempts (Tends nextGeneration) .hopeless ⟨"default", "ci"⟩ .created told object ∧
      Jenkins.created.metadata.generation.isSome = true ∧
      Visit (Serves (Tends nextGeneration) .hopeless) ⟨"default", "ci"⟩ object past result after ∧
      Visit (Serves (Tends nextGeneration) .hopeless) ⟨"default", "ci"⟩ .created past' result'
        after' ∧
      told = [.completed .base] ∧ announced past = [.seedJobsHalted "no such repository"] ∧
      after.spec = after'.spec ∧
      after.statusOrUnset.haltedGeneration = after'.statusOrUnset.haltedGeneration ∧
      result = result' ∧ told ++ announced past = announced past' := by
  have attempts : Attempts _ _ _ _ thwarted.1 thwarted.2 := attempts_attempts _ _ _ _ _
  have last : Visit _ _ _ recovered.2.1 recovered.1 recovered.2.2 := visit_serve _ _ _ _
  have single : Visit _ _ _ hopeless.2.1 hopeless.1 hopeless.2.2 := visit_serve _ _ _ _
  obtain ⟨told, announced⟩ : thwarted.1 = [.completed .base] ∧
      announced recovered.2.1 = [.seedJobsHalted "no such repository"] := by decide +kernel
  obtain ⟨spec, -, -, halted, result, same⟩ := attempts.transparent rfl last single
  exact ⟨_, _, _, _, _, _, _, _, attempts, rfl, last, single, told, announced, spec, halted, result,
    same⟩

end JenkinsOperator
