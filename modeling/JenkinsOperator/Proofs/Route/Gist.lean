import JenkinsOperator.Proofs.Route.Standing
import JenkinsOperator.Proofs.Route.Visit

/-!
# The gist of an object

A pass never goes by the time of a stamp, only by whether it is set, and nothing in the cluster goes
by the version of an object but the store. What is left of an object without them is its `Gist`.
Each write of a pass does one thing to the gist, whatever time it stamps; and the store sees to the
generation, which `next` counts on if the specification changes.
-/

namespace JenkinsOperator

/-- What a pass goes by in an object. -/
@[ext]
structure Gist where
  identity : Identity
  spec : JenkinsSpec
  generation : Option Int
  /-- Whether the start of provisioning is stamped. -/
  started : Bool
  /-- Whether a phase is stamped. -/
  completed : Phase → Bool
  halted : Option Int

/-- The gist of an object. -/
def Jenkins.gist (j : Jenkins) : Gist where
  identity := j.identity
  spec := j.spec
  generation := j.metadata.generation
  started := j.statusOrUnset.provisionStart.isSome
  completed := fun phase => (j.statusOrUnset.completedAt phase).isSome
  halted := j.statusOrUnset.haltedGeneration

namespace Gist

/-- The gist with defaults for all that the specification leaves open, of the next generation. -/
def fill (next : Int → Int) (g : Gist) : Gist :=
  { g with spec := g.spec.withDefaults, generation := g.generation.map next }

/-- The gist with the start of provisioning stamped. -/
def start (g : Gist) : Gist := { g with started := true }

/-- The gist with a phase stamped. -/
def stamp (g : Gist) (phase : Phase) : Gist :=
  { g with completed := fun other => other == phase || g.completed other }

/-- The gist with its own generation recorded as halted. -/
def halt (g : Gist) : Gist := { g with halted := g.generation }

/-- Whether the seed jobs have failed for good in this generation. -/
def isHalted (g : Gist) : Bool :=
  match g.halted with
  | some generation => g.generation == some generation
  | none => false

/-- Where the Secret of a deploy key is. -/
def secretIdentity (g : Gist) (selector : SecretKeySelector) : Identity :=
  ⟨g.identity.namespaceName, selector.name⟩

/-- Where the configuration scripts are. -/
def scriptsIdentity (g : Gist) : Identity :=
  ⟨g.identity.namespaceName, s!"{operatorName}-user-configuration-{g.identity.name}"⟩

/-- The same is asked for, and at least the same stamps are set. -/
structure Extends (g g' : Gist) : Prop where
  identity : g'.identity = g.identity
  spec : g'.spec = g.spec
  started : g.started = true → g'.started = true
  completed : ∀ phase, g.completed phase = true → g'.completed phase = true

variable {g g' g'' : Gist}

theorem Extends.refl (g : Gist) : g.Extends g := ⟨rfl, rfl, id, fun _ => id⟩

theorem Extends.trans (first : g.Extends g') (second : g'.Extends g'') : g.Extends g'' where
  identity := second.identity.trans first.identity
  spec := second.spec.trans first.spec
  started := second.started ∘ first.started
  completed := fun phase => second.completed phase ∘ first.completed phase

theorem extends_start (g : Gist) : g.Extends g.start := ⟨rfl, rfl, fun _ => rfl, fun _ => id⟩

theorem extends_stamp (g : Gist) (phase : Phase) : g.Extends (g.stamp phase) := by
  refine ⟨rfl, rfl, id, fun other completed => ?_⟩
  show (other == phase || g.completed other) = true
  rw [completed, Bool.or_true]

theorem extends_halt (g : Gist) : g.Extends g.halt := ⟨rfl, rfl, id, fun _ => id⟩

theorem completed_stamp (g : Gist) (phase : Phase) : (g.stamp phase).completed phase = true := by
  show (phase == phase || g.completed phase) = true
  rw [beq_self_eq_true, Bool.true_or]

theorem isHalted_halt (set : g.generation.isSome = true) : g.halt.isHalted = true := by
  obtain ⟨generation, current⟩ := Option.isSome_iff_exists.1 set
  show (match g.generation with
    | some generation => g.generation == some generation
    | none => false) = true
  rw [current]
  exact beq_self_eq_true _

end Gist

theorem Jenkins.isHalted_gist (j : Jenkins) : j.gist.isHalted = j.isHalted := by
  show (match j.statusOrUnset.haltedGeneration with
    | some generation => j.metadata.generation == some generation
    | none => false) = _
  unfold Jenkins.isHalted Jenkins.statusOrUnset
  cases j.status with
  | none => rfl
  | some s => rfl

theorem Jenkins.started_gist {j : Jenkins} (unset : j.statusOrUnset.provisionStart = none) :
    j.gist.started = false := by
  show j.statusOrUnset.provisionStart.isSome = false
  rw [unset]
  rfl

theorem Jenkins.completed_gist {j : Jenkins} {phase : Phase}
    (unset : j.statusOrUnset.completedAt phase = none) : j.gist.completed phase = false := by
  show (j.statusOrUnset.completedAt phase).isSome = false
  rw [unset]
  rfl

/-! ## What a write does -/

section Writes

variable {next : Int → Int} {object stored : Jenkins}

theorem Tends.gist_of_status {s : JenkinsStatus} (tends : Tends next object stored)
    (spec : stored.spec = object.spec) (status : stored.statusOrUnset = s) :
    stored.gist =
      { object.gist with
        started := s.provisionStart.isSome
        completed := fun phase => (s.completedAt phase).isSome
        halted := s.haltedGeneration } := by
  unfold Jenkins.gist
  rw [tends.identity, spec, tends.steady object stored spec, status]

/-- Defaults change the specification, so the generation is counted on. -/
theorem Accepted.gist_fill (incomplete : object.spec.isIncomplete = true)
    (accepted : Accepted (Tends next) object stored (.writeSpec object.withDefaults)) :
    stored.gist = object.gist.fill next := by
  obtain ⟨spec, status, tends⟩ := accepted.of_spec
  -- A specification with defaults is complete, so it is another one.
  have changed : stored.spec ≠ object.spec := by
    intro same
    have complete := object.spec.isIncomplete_withDefaults
    rw [← spec, same, incomplete] at complete
    cases complete
  have generation := tends.generation
  rw [if_neg changed] at generation
  unfold Jenkins.gist Gist.fill
  rw [tends.identity, spec, generation, status]

/-- An accepted start shows in the gist of what is stored. -/
theorem Accepted.gist_start {now : Time}
    (accepted : Accepted (Tends next) object stored (.writeStatus (object.withStart now))) :
    stored.gist = object.gist.start := by
  obtain ⟨spec, status, tends⟩ := accepted.of_status
  exact tends.gist_of_status spec status

theorem Accepted.gist_stamp {phase : Phase} {now : Time}
    (accepted : Accepted (Tends next) object stored (.writeStatus (object.withStamp phase now))) :
    stored.gist = object.gist.stamp phase := by
  obtain ⟨spec, status, tends⟩ := accepted.of_status
  rw [tends.gist_of_status spec status]
  refine Gist.ext rfl rfl rfl ?_ (funext fun other => ?_) (JenkinsStatus.haltedGeneration_stamp ..)
  · cases phase <;> rfl
  · show ((object.statusOrUnset.stamp phase now).completedAt other).isSome =
      (other == phase || (object.statusOrUnset.completedAt other).isSome)
    by_cases same : other = phase
    · subst same
      rw [JenkinsStatus.completedAt_stamp, beq_self_eq_true]
      rfl
    · rw [JenkinsStatus.completedAt_stamp_of_ne _ _ _ same, beq_eq_false_iff_ne.2 same]
      rfl

theorem Accepted.gist_halt
    (accepted : Accepted (Tends next) object stored (.writeStatus object.withHalt)) :
    stored.gist = object.gist.halt := by
  obtain ⟨spec, status, tends⟩ := accepted.of_status
  exact tends.gist_of_status spec status

end Writes

end JenkinsOperator
