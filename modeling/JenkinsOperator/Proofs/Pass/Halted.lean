import JenkinsOperator.Proofs.Pass.Lawful
import JenkinsOperator.Proofs.Resource.Defaults

/-!
# What a recorded halt does to a pass

A halt is recorded as the generation whose seed jobs have failed, and it holds as long as that is
the generation of the object. A recorded generation never lies ahead, and where it is the current
one the specification has no defaults left to store (`HaltSound`): a write of defaults would count
the generation up, and with that lift the halt.

So a pass that reads a halted object leaves the seed jobs alone (`Lawful.idle`). A pass that reads
any other object, and does not get to the seed jobs, goes on to hold such an object
(`Lawful.running`).
-/

namespace JenkinsOperator

variable {past : Past} {j j' : Jenkins} {identity : Identity}

/-! ## Generations -/

/-- A write counts the generation up if it changes the specification, and leaves it otherwise. -/
def CountsGenerations (before after : Jenkins) : Prop :=
  if after.spec = before.spec then after.metadata.generation = before.metadata.generation
  else before.metadata.generation.all fun generation =>
    after.metadata.generation.any fun next => generation < next

instance : DecidableRel CountsGenerations := fun _ _ => inferInstanceAs (Decidable (ite _ _ _))

/-- Who counts generations keeps one while the specification stays. -/
theorem CountsGenerations.steady (counts : CountsGenerations j j') : SteadyGeneration j j' := by
  intro same
  rwa [CountsGenerations, if_pos same] at counts

/-- A changed specification comes with a later generation. -/
theorem CountsGenerations.increases {generation : Int} (counts : CountsGenerations j j')
    (changed : j'.spec ≠ j.spec) (current : j.metadata.generation = some generation) :
    ∃ next, j'.metadata.generation = some next ∧ generation < next := by
  rw [CountsGenerations, if_neg changed, current] at counts
  obtain ⟨next, now, less⟩ := (Option.any_eq_true _ _).1 counts
  exact ⟨next, now, of_decide_eq_true less⟩

/-- Generations never go back. -/
theorem CountsGenerations.mono {generation : Int} (counts : CountsGenerations j j')
    (current : j.metadata.generation = some generation) :
    ∃ next, j'.metadata.generation = some next ∧ generation ≤ next := by
  by_cases same : j'.spec = j.spec
  · exact ⟨generation, (counts.steady same).trans current, Int.le_refl generation⟩
  · obtain ⟨next, now, less⟩ := counts.increases same current
    exact ⟨next, now, Int.le_of_lt less⟩

/-! ## Recorded halts -/

/-- What an accepted status write does to the record of a halt. -/
theorem Advance.haltedGeneration {s : JenkinsStatus} (advance : Advance past j s) :
    s.haltedGeneration = j.statusOrUnset.haltedGeneration ∨
      j.isHalted = false ∧ s.haltedGeneration = j.metadata.generation ∧ Provisioned past j.spec ∧
        ∃ server message, ⟨.ensureSeedJobs server j, .ok (.unrecoverable message)⟩ ∈ past := by
  cases advance with
  | start now _ _ => exact .inl rfl
  | complete phase now _ _ => exact .inl (JenkinsStatus.haltedGeneration_stamp _ phase now)
  | halt server message running _ provisioned seeded =>
    exact .inr ⟨running, rfl, provisioned, server, message, seeded⟩

/-- An object that has a generation, none recorded that lies ahead of it, and nothing open in its
specification if it is halted. -/
structure HaltSound (j : Jenkins) : Prop where
  set : j.metadata.generation.isSome
  reached : ∀ generation recorded, j.metadata.generation = some generation →
    j.statusOrUnset.haltedGeneration = some recorded → recorded ≤ generation
  filled : j.isHalted = true → j.spec.isIncomplete = false

/-- A write of a changed specification lifts a halt. -/
theorem HaltSound.lifted (sound : HaltSound j) (counts : CountsGenerations j j')
    (changed : j'.spec ≠ j.spec)
    (same : j'.statusOrUnset.haltedGeneration = j.statusOrUnset.haltedGeneration) :
    HaltSound j' ∧ j'.isHalted = false := by
  obtain ⟨generation, current⟩ := Option.isSome_iff_exists.1 sound.set
  obtain ⟨next, now, less⟩ := counts.increases changed current
  -- What is recorded does not lie ahead of the old generation, so it lies behind the new one.
  have below : ∀ recorded, j'.statusOrUnset.haltedGeneration = some recorded →
      recorded < next := by
    intro recorded halted
    rw [same] at halted
    have bound : recorded ≤ generation := sound.reached generation recorded current halted
    omega
  have running : j'.isHalted = false := by
    apply Bool.eq_false_iff.2
    intro halted
    obtain ⟨recorded, halted, latest⟩ := Jenkins.isHalted_iff.1 halted
    cases now.symm.trans latest
    exact Int.lt_irrefl _ (below _ halted)
  refine ⟨⟨?_, ?_, ?_⟩, running⟩
  · rw [now]
    rfl
  · intro generation' recorded latest halted
    cases now.symm.trans latest
    exact Int.le_of_lt (below recorded halted)
  · intro halted
    exact nomatch running.symm.trans halted

/-- A write of the status alone that keeps the record keeps a halt. -/
theorem isHalted_of_same (counts : CountsGenerations j j') (spec : j'.spec = j.spec)
    (same : j'.statusOrUnset.haltedGeneration = j.statusOrUnset.haltedGeneration) :
    j'.isHalted = j.isHalted := by
  rw [Bool.eq_iff_iff, Jenkins.isHalted_iff, Jenkins.isHalted_iff, counts.steady spec, same]

/-- A write that keeps the record of a halt keeps it sound. -/
theorem HaltSound.kept (sound : HaltSound j) (counts : CountsGenerations j j')
    (same : j'.statusOrUnset.haltedGeneration = j.statusOrUnset.haltedGeneration) :
    HaltSound j' := by
  by_cases spec : j'.spec = j.spec
  · have generation := counts.steady spec
    refine ⟨?_, ?_, ?_⟩
    · rw [generation]
      exact sound.set
    · rw [generation, same]
      exact sound.reached
    · rw [isHalted_of_same counts spec same, spec]
      exact sound.filled
  · exact (sound.lifted counts spec same).1

/-- What has been provisioned is complete. -/
theorem Lawful.isIncomplete_eq_false {server : Jenkins → Jenkins → Prop} {spec : JenkinsSpec}
    (lawful : Lawful server past) (provisioned : Provisioned past spec) :
    spec.isIncomplete = false := by
  obtain ⟨⟨object, accepted, asked, rfl, -⟩, -⟩ := provisioned
  obtain ⟨early, -, fits⟩ := lawful.exists_fits asked
  exact fits.2

/-- Writes of a pass keep the record sound: a halt is recorded at the generation of the object, and
for a specification that is complete. -/
theorem Update.haltSound {c : Call} (update : Update CountsGenerations past j j' c)
    (lawful : Lawful CountsGenerations past) (sound : HaltSound j) : HaltSound j' := by
  rcases update.defaults_or_advance with ⟨-, -, status⟩ | ⟨spec, advance⟩
  · apply sound.kept update.kept
    rw [status]
  · rcases advance.haltedGeneration with same | ⟨-, recorded, provisioned, -⟩
    · exact sound.kept update.kept same
    · -- A halt is recorded at the current generation, and only of what has been provisioned.
      have generation := update.kept.steady spec
      refine ⟨?_, ?_, ?_⟩
      · rw [generation]
        exact sound.set
      · rw [recorded, generation]
        intro current halted same same'
        exact Int.le_of_eq (Option.some.inj (same'.symm.trans same))
      · intro _
        rw [spec]
        exact lawful.isIncomplete_eq_false provisioned

/-! ## Passes -/

/-- Whether a call works on the seed jobs or on what comes after them. -/
def Call.isSeeding : Call → Bool
  | .ensureSeedJobs _ _ => true
  | .configureScripts _ => true
  | .runScripts _ _ _ => true
  | _ => false

/-- A past that has left the seed jobs alone and the record of a halt as it is. -/
structure Idle (past : Past) (recorded : Option Int) : Prop where
  held : ∃ j, held? past = some j ∧ j.isHalted = true ∧ j.spec.isIncomplete = false ∧
    j.statusOrUnset.haltedGeneration = recorded
  quiet : ∀ e ∈ past, e.call.isSeeding = false
  kept : ∀ e ∈ past, ∀ object, e.call = .writeStatus object →
    object.statusOrUnset.haltedGeneration = recorded

/-- With a halted copy, no call to the seed jobs fits, and after it none that would come later. -/
theorem Fits.isSeeding_eq_false {c : Call} (fits : Fits past c) (held : held? past = some j)
    (halted : j.isHalted = true) (quiet : ∀ e ∈ past, e.call.isSeeding = false) :
    c.isSeeding = false := by
  cases c with
  | ensureSeedJobs server object =>
    cases held.symm.trans fits.1
    exact nomatch halted.symm.trans fits.2.1
  | configureScripts server =>
    obtain ⟨object, seeded⟩ := fits
    exact nomatch quiet _ seeded
  | runScripts server scripts object => exact nomatch quiet _ fits.2
  | _ => rfl

/-- A pass that holds a halted copy stays idle with every further exchange. -/
theorem Idle.cons {e : Call.Exchange} {recorded : Option Int} (idle : Idle past recorded)
    (lawful : Lawful CountsGenerations (e :: past)) : Idle (e :: past) recorded := by
  obtain ⟨⟨j, held, halted, complete, same⟩, quiet, kept⟩ := idle
  have fits := lawful.2.1.fits
  refine ⟨?_, ?_, ?_⟩
  · rcases lawful.held?_cons held with unchanged | ⟨stored, held', update⟩
    · exact ⟨j, unchanged, halted, complete, same⟩
    · rcases update.defaults_or_advance with ⟨incomplete, -, -⟩ | ⟨spec, advance⟩
      · exact nomatch complete.symm.trans incomplete
      · -- A second halt is not recorded of a copy that is halted.
        rcases advance.haltedGeneration with unchanged | ⟨running, -⟩
        · refine ⟨stored, held', ?_, ?_, unchanged.trans same⟩
          · rw [isHalted_of_same update.kept spec unchanged, halted]
          · rw [spec, complete]
        · exact nomatch halted.symm.trans running
  · exact List.forall_mem_cons.2 ⟨fits.isSeeding_eq_false held halted quiet, quiet⟩
  · refine List.forall_mem_cons.2 ⟨fun object write => ?_, kept⟩
    rw [write] at fits
    obtain ⟨j', s, held', advance, rfl⟩ := fits
    cases held.symm.trans held'
    rcases advance.haltedGeneration with unchanged | ⟨running, -⟩
    · exact unchanged.trans same
    · exact nomatch halted.symm.trans running

/-- A pass that reads a halted object leaves the seed jobs alone. -/
theorem Lawful.idle (lawful : Lawful CountsGenerations past)
    (fetched : ⟨.fetch identity, .ok (some j)⟩ ∈ past) (sound : HaltSound j)
    (halted : j.isHalted = true) : Idle past j.statusOrUnset.haltedGeneration := by
  induction past with
  | nil => cases fetched
  | cons last past ih =>
    rcases List.mem_cons.1 fetched with rfl | earlier
    · -- A pass starts with its read, so nothing has been called before.
      have first := lawful.2.1.past_eq_nil rfl
      subst first
      refine ⟨⟨j, rfl, halted, sound.filled halted, rfl⟩, ?_, ?_⟩
      · exact fun e only => List.mem_singleton.1 only ▸ rfl
      · intro e only object write
        rw [List.mem_singleton.1 only] at write
        cases write
    · exact (ih lawful.1 earlier).cons lawful

/-- A pass that reads an object that is not halted, and has not got to the seed jobs, holds such an
object. -/
theorem Lawful.running (lawful : Lawful CountsGenerations past)
    (fetched : ⟨.fetch identity, .ok (some j)⟩ ∈ past) (sound : HaltSound j)
    (running : j.isHalted = false) (unseeded : ¬ Seeded past) :
    ∃ j', held? past = some j' ∧ HaltSound j' ∧ j'.isHalted = false := by
  induction past with
  | nil => cases fetched
  | cons last past ih =>
    rcases List.mem_cons.1 fetched with rfl | earlier
    · exact ⟨j, rfl, sound, running⟩
    · have unseeded' : ¬ Seeded past := by
        rintro ⟨server, object, answer, seeded⟩
        exact unseeded ⟨server, object, answer, List.mem_cons_of_mem last seeded⟩
      obtain ⟨j', held, sound', running'⟩ := ih lawful.1 earlier unseeded'
      rcases lawful.held?_cons held with unchanged | ⟨stored, held', update⟩
      · exact ⟨j', unchanged, sound', running'⟩
      · refine ⟨stored, held', update.haltSound lawful.1 sound', ?_⟩
        rcases update.defaults_or_advance with ⟨incomplete, spec, status⟩ | ⟨spec, advance⟩
        · -- Defaults change a specification that leaves something open.
          have changed : stored.spec ≠ j'.spec := by
            intro same
            have complete := j'.spec.isIncomplete_withDefaults
            rw [← spec, same] at complete
            exact nomatch complete.symm.trans incomplete
          have same : stored.statusOrUnset.haltedGeneration =
              j'.statusOrUnset.haltedGeneration := by
            rw [status]
          exact (sound'.lifted update.kept changed same).2
        · rcases advance.haltedGeneration with same | ⟨-, -, -, server, message, seeded⟩
          · rw [isHalted_of_same update.kept spec same, running']
          · exact absurd ⟨server, j', _, seeded⟩ unseeded'

end JenkinsOperator
