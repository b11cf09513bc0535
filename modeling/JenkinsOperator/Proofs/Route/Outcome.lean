import JenkinsOperator.Proofs.Pass.Steps
import JenkinsOperator.Proofs.Pass.Lawful
import JenkinsOperator.Proofs.Route.Attempt
import JenkinsOperator.Proofs.Route.Standing

/-!
# What a pass concludes

An answer on the way to the end lets a pass go on (`Due.leadsOn`), so it is the last exchange that
decides. A failure, a lost write and a wait each have a result of their own, and no answer is two of
them. If none of them occurs a pass is done, and then it has told the user what to correct, or the
object is not there, is halted, or has both phases stamped (`Rests`).

`reconcilePass_concludes` joins this: from the result of a pass it can be told what it was answered,
and the other way around.
-/

namespace JenkinsOperator

/-! ## Answers that lead on -/

/-- Whether a pass may go on after an exchange. -/
structure Call.Exchange.LeadsOn (e : Call.Exchange) : Prop where
  answered : e.failure? = none
  taken : e.isLost = false
  ready : e.delay? = none
  praised : e.call.word?.toList.filter (·.reason == .validationFailure) = []

variable {server : Jenkins → Jenkins → Prop} {identity : Identity} {past : Past} {stage : Stage}
  {object : Jenkins} {c : Call} {e : Call.Exchange} {result : Except Failure Outcome}

namespace Call.Exchange

/-- A lost write is neither a failure nor a wait. -/
theorem of_isLost (lost : e.isLost = true) : e.failure? = none ∧ e.delay? = none := by
  unfold isLost at lost
  split at lost
  case h_1 object => exact ⟨rfl, rfl⟩
  case h_2 object => exact ⟨rfl, rfl⟩
  case h_3 => cases lost

/-- A wait is neither a failure nor a lost write. -/
theorem of_delay? {delay : Milliseconds} (waits : e.delay? = some delay) :
    e.failure? = none ∧ e.isLost = false := by
  unfold delay? at waits
  split at waits
  case h_1 => exact ⟨rfl, rfl⟩
  case h_2 => exact ⟨rfl, rfl⟩
  case h_3 => exact ⟨rfl, rfl⟩
  case h_4 => exact ⟨rfl, rfl⟩
  case h_5 => exact ⟨rfl, rfl⟩
  case h_6 => cases waits

/-- A failure is neither a lost write nor a wait. -/
theorem of_failure? {failure : Failure} (failed : e.failure? = some failure) :
    e.isLost = false ∧ e.delay? = none := by
  constructor
  · apply Bool.eq_false_iff.2
    intro lost
    exact nomatch failed.symm.trans (of_isLost lost).1
  · apply Option.eq_none_iff_forall_ne_some.2
    intro delay waits
    exact nomatch failed.symm.trans (of_delay? waits).1

end Call.Exchange

/-- Every answer on the way to a stage has led on. -/
theorem Reaches.leadsOn (reached : Reaches server identity stage past) :
    ∀ e ∈ past, e.LeadsOn := by
  induction reached with
  | read object => exact List.forall_mem_singleton.2 ⟨rfl, rfl, rfl, rfl⟩
  | keepSpec _ _ ih => exact ih
  | fill stored _ _ _ ih => exact List.forall_mem_cons.2 ⟨⟨rfl, rfl, rfl, rfl⟩, ih⟩
  | approve accepted _ _ ih => exact List.forall_mem_cons.2 ⟨⟨rfl, rfl, rfl, rfl⟩, ih⟩
  | keepStart _ _ ih => exact ih
  | start now stored _ _ _ ih =>
    exact List.forall_mem_cons.2
      ⟨⟨rfl, rfl, rfl, rfl⟩, List.forall_mem_cons.2 ⟨⟨rfl, rfl, rfl, rfl⟩, ih⟩⟩
  | provision handle _ ih => exact List.forall_mem_cons.2 ⟨⟨rfl, rfl, rfl, rfl⟩, ih⟩
  | keepStamp _ _ ih => exact ih
  | @stamp past object handle phase now stored _ _ _ ih =>
    -- The word of a completed phase is no rejection, whichever phase it is.
    refine List.forall_mem_cons.2 ⟨⟨rfl, rfl, rfl, ?_⟩, ?_⟩
    · cases phase <;> rfl
    · exact List.forall_mem_cons.2
        ⟨⟨rfl, rfl, rfl, rfl⟩, List.forall_mem_cons.2 ⟨⟨rfl, rfl, rfl, rfl⟩, ih⟩⟩
  | judge _ ih => exact ih
  | keyless _ _ ih => exact ih
  | keyed selector data _ _ ih => exact List.forall_mem_cons.2 ⟨⟨rfl, rfl, rfl, rfl⟩, ih⟩
  | seed _ _ ih => exact List.forall_mem_cons.2 ⟨⟨rfl, rfl, rfl, rfl⟩, ih⟩
  | configure _ ih => exact List.forall_mem_cons.2 ⟨⟨rfl, rfl, rfl, rfl⟩, ih⟩
  | equip scripts _ ih => exact List.forall_mem_cons.2 ⟨⟨rfl, rfl, rfl, rfl⟩, ih⟩
  | apply _ ih => exact List.forall_mem_cons.2 ⟨⟨rfl, rfl, rfl, rfl⟩, ih⟩

/-- Every answer before a call that is due has led on. -/
theorem Due.leadsOn (due : Due server identity past c) : ∀ e ∈ past, e.LeadsOn := by
  cases due with
  | fetch => exact fun _ member => nomatch member
  | fill reached _ => exact reached.leadsOn
  | approve reached => exact reached.leadsOn
  | rejectBase accepted reached _ =>
    exact List.forall_mem_cons.2 ⟨⟨rfl, rfl, rfl, rfl⟩, reached.leadsOn⟩
  | startClock reached _ => exact reached.leadsOn
  | start now reached _ => exact List.forall_mem_cons.2 ⟨⟨rfl, rfl, rfl, rfl⟩, reached.leadsOn⟩
  | provision reached => exact reached.leadsOn
  | stampClock reached _ => exact reached.leadsOn
  | stamp now reached _ => exact List.forall_mem_cons.2 ⟨⟨rfl, rfl, rfl, rfl⟩, reached.leadsOn⟩
  | announce now stored reached _ _ =>
    exact List.forall_mem_cons.2
      ⟨⟨rfl, rfl, rfl, rfl⟩, List.forall_mem_cons.2 ⟨⟨rfl, rfl, rfl, rfl⟩, reached.leadsOn⟩⟩
  | readSecret reached _ => exact reached.leadsOn
  | rejectUser reached _ => exact reached.leadsOn
  | seed reached _ => exact reached.leadsOn
  | halt message reached _ =>
    exact List.forall_mem_cons.2 ⟨⟨rfl, rfl, rfl, rfl⟩, reached.leadsOn⟩
  | alarm message stored reached _ _ =>
    exact List.forall_mem_cons.2
      ⟨⟨rfl, rfl, rfl, rfl⟩, List.forall_mem_cons.2 ⟨⟨rfl, rfl, rfl, rfl⟩, reached.leadsOn⟩⟩
  | configure reached => exact reached.leadsOn
  | equip reached => exact reached.leadsOn
  | apply reached => exact reached.leadsOn

/-! ## The last exchange decides -/

/-- From the result of a pass it can be told what it was answered. -/
structure Decides (past : Past) (result : Except Failure Outcome) : Prop where
  failed : ∀ failure, result = .error failure ↔ ∃ e ∈ past, e.failure? = some failure
  lost : result = .ok .requeueNow ↔ ∃ e ∈ past, e.isLost = true
  delayed : ∀ delay, result = .ok (.requeue delay) ↔ ∃ e ∈ past, e.delay? = some delay
  done : result = .ok .done ↔
    ∀ e ∈ past, e.failure? = none ∧ e.isLost = false ∧ e.delay? = none

/-- A result is an error, one of the two ways to run again, or none of these. -/
theorem decides_of (failed : ∀ failure, result = .error failure ↔
      ∃ e ∈ past, e.failure? = some failure)
    (lost : result = .ok .requeueNow ↔ ∃ e ∈ past, e.isLost = true)
    (delayed : ∀ delay, result = .ok (.requeue delay) ↔ ∃ e ∈ past, e.delay? = some delay) :
    Decides past result := by
  refine ⟨failed, lost, delayed, ?_⟩
  constructor
  · rintro rfl e member
    refine ⟨Option.eq_none_iff_forall_ne_some.2 fun failure fails => ?_,
      Bool.eq_false_iff.2 fun loses => ?_,
      Option.eq_none_iff_forall_ne_some.2 fun delay waits => ?_⟩
    · exact nomatch (failed failure).2 ⟨e, member, fails⟩
    · exact nomatch lost.2 ⟨e, member, loses⟩
    · exact nomatch (delayed delay).2 ⟨e, member, waits⟩
  · -- Any other result has an answer behind it that does not lead on.
    intro leads
    match result with
    | .error failure =>
      obtain ⟨e, member, fails⟩ := (failed failure).1 rfl
      exact nomatch fails.symm.trans (leads e member).1
    | .ok .requeueNow =>
      obtain ⟨e, member, loses⟩ := lost.1 rfl
      exact nomatch loses.symm.trans (leads e member).2.1
    | .ok (.requeue delay) =>
      obtain ⟨e, member, waits⟩ := (delayed delay).1 rfl
      exact nomatch waits.symm.trans (leads e member).2.2
    | .ok .done => rfl

/-- A pass in which every answer led on is done. -/
theorem decides_done (leads : ∀ e ∈ past, e.LeadsOn) : Decides past (.ok .done) := by
  refine decides_of (fun failure => ?_) ?_ fun delay => ?_
  · refine iff_of_false nofun ?_
    rintro ⟨e, member, fails⟩
    exact nomatch fails.symm.trans (leads e member).answered
  · refine iff_of_false nofun ?_
    rintro ⟨e, member, loses⟩
    exact nomatch loses.symm.trans (leads e member).taken
  · refine iff_of_false nofun ?_
    rintro ⟨e, member, waits⟩
    exact nomatch waits.symm.trans (leads e member).ready

/-- What holds of none of the exchanges before the last one holds of some if it holds of that. -/
theorem exists_mem_cons_iff_last (holds : Call.Exchange → Prop) (none : ∀ e ∈ past, ¬ holds e) :
    (∃ e' ∈ e :: past, holds e') ↔ holds e := by
  rw [List.exists_mem_cons_iff, or_iff_left]
  rintro ⟨e', member, same⟩
  exact none e' member same

/-- If every answer before the last one led on, the last one decides. -/
theorem decides_cons (leads : ∀ e ∈ past, e.LeadsOn)
    (failed : ∀ failure, result = .error failure ↔ e.failure? = some failure)
    (lost : result = .ok .requeueNow ↔ e.isLost = true)
    (delayed : ∀ delay, result = .ok (.requeue delay) ↔ e.delay? = some delay) :
    Decides (e :: past) result := by
  refine decides_of (fun failure => ?_) ?_ fun delay => ?_
  · refine (failed failure).trans (exists_mem_cons_iff_last (·.failure? = some failure) ?_).symm
    intro e' member fails
    exact nomatch fails.symm.trans (leads e' member).answered
  · refine lost.trans (exists_mem_cons_iff_last (·.isLost = true) ?_).symm
    intro e' member loses
    exact nomatch loses.symm.trans (leads e' member).taken
  · refine (delayed delay).trans (exists_mem_cons_iff_last (·.delay? = some delay) ?_).symm
    intro e' member waits
    exact nomatch waits.symm.trans (leads e' member).ready

/-- However a pass ends, its result can be told from its last exchange. -/
theorem Ends.decides (ends : Ends server identity past result) : Decides past result := by
  -- The last exchange is of the kind that the result tells of, and so of no other kind.
  cases ends with
  | failed e failure due fails =>
    obtain ⟨taken, ready⟩ := Call.Exchange.of_failure? fails
    refine decides_cons due.leadsOn (fun other => ?_) ?_ fun delay => ?_
    · rw [fails, Option.some_inj, Except.error.injEq]
    · rw [taken]
      exact iff_of_false nofun nofun
    · rw [ready]
      exact iff_of_false nofun nofun
  | lost e due loses =>
    obtain ⟨answered, ready⟩ := Call.Exchange.of_isLost loses
    refine decides_cons due.leadsOn (fun other => ?_) (iff_of_true rfl loses) fun delay => ?_
    · rw [answered]
      exact iff_of_false nofun nofun
    · rw [ready]
      exact iff_of_false nofun nofun
  | delayed e delay due waits =>
    obtain ⟨answered, taken⟩ := Call.Exchange.of_delay? waits
    refine decides_cons due.leadsOn (fun other => ?_) ?_ fun other => ?_
    · rw [answered]
      exact iff_of_false nofun nofun
    · rw [taken]
      exact iff_of_false nofun nofun
    · rw [waits, Option.some_inj, Except.ok.injEq, Outcome.requeue.injEq]
  | missing =>
    refine decides_cons (fun _ member => nomatch member) ?_ ?_ ?_
    · exact fun _ => iff_of_false nofun nofun
    · exact iff_of_false nofun nofun
    · exact fun _ => iff_of_false nofun nofun
  | warned due warning =>
    refine decides_cons due.leadsOn ?_ ?_ ?_
    · exact fun _ => iff_of_false nofun nofun
    · exact iff_of_false nofun nofun
    · exact fun _ => iff_of_false nofun nofun
  | halted reached halted => exact decides_done reached.leadsOn
  | finished reached => exact decides_done reached.leadsOn

/-! ## Where a pass may rest -/

/-- Why a pass may wait until something changes. -/
inductive Rests (past : Past) : Prop where
  /-- The object does not exist. -/
  | missing (identity : Identity) : past = [⟨.fetch identity, .ok none⟩] → Rests past
  /-- Its specification was rejected, and the user has been told all that was found. -/
  | rejected (object : Jenkins) (n : Notification) : held? past = some object →
      Rejects past object.spec n → rejections past = [n] → Rests past
  /-- Its seed jobs have failed for good. -/
  | halted (object : Jenkins) : held? past = some object → object.isHalted = true → Rests past
  /-- Both phases are stamped. -/
  | completed (object : Jenkins) : held? past = some object →
      (∀ phase, (object.statusOrUnset.completedAt phase).isSome = true) → Rests past

/-- As long as every answer leads on, nothing has been rejected. -/
theorem rejections_eq_nil (leads : ∀ e ∈ past, e.LeadsOn) : rejections past = [] := by
  induction past with
  | nil => rfl
  | cons e past ih =>
    obtain ⟨last, leads⟩ := List.forall_mem_cons.1 leads
    have none : (words past).filter (·.reason == .validationFailure) = [] := ih leads
    show (words past ++ _).filter _ = []
    rw [List.filter_append, none, last.praised]
    rfl

theorem rejections_publish {n : Notification} (leads : ∀ e ∈ past, e.LeadsOn)
    (rejection : n.reason = .validationFailure) :
    rejections (⟨.publish object n, ()⟩ :: past) = [n] := by
  have none : (words past).filter (·.reason == .validationFailure) = [] := rejections_eq_nil leads
  have last : [n].filter (·.reason == .validationFailure) = [n] :=
    List.filter_eq_self.2 (List.forall_mem_singleton.2 (beq_iff_eq.2 rejection))
  show (words past ++ [n]).filter _ = [n]
  rw [List.filter_append, none, last]
  rfl

/-- A rejection that is the last word of a pass is the only one, and tells of what was found. -/
theorem rests_of_rejection {n : Notification}
    (due : Due server identity past (.publish object n))
    (permitted : Permitted past (.publish object n)) (rejection : n.reason = .validationFailure) :
    Rests (⟨.publish object n, ()⟩ :: past) := by
  obtain ⟨held, announces⟩ : held? past = some object ∧ Announces past object n := permitted.fits
  have rejects := (announces.rejects rejection).mono
    (List.subset_cons_self ⟨.publish object n, ()⟩ past)
  exact .rejected object n held rejects (rejections_publish due.leadsOn rejection)

/-- A halt that was recorded is one of the generation that is stored, as a status write leaves the
generation as it is. -/
theorem isHalted_of_accepted {stored : Jenkins}
    (steady : ∀ before after, server before after → SteadyGeneration before after)
    (accepted : Accepted server object stored (.writeStatus object.withHalt))
    (set : stored.metadata.generation.isSome) : stored.isHalted = true := by
  obtain ⟨spec, status, kept⟩ := accepted.of_status
  obtain ⟨generation, current⟩ := Option.isSome_iff_exists.1 set
  refine Jenkins.isHalted_iff.2 ⟨generation, ?_, current⟩
  rw [status, ← current]
  exact (steady object stored kept spec).symm

/-- A pass that ends with nothing to do may rest. -/
theorem Ends.rests
    (steady : ∀ before after, server before after → SteadyGeneration before after)
    (ends : Ends server identity past (.ok .done))
    (permitted : Along (fun early e => Permitted early e.call) past)
    (set : ∀ e ∈ past, ∀ j ∈ e.call.returned? e.answer, j.metadata.generation.isSome) :
    Rests past := by
  cases ends with
  | missing => exact .missing identity rfl
  | @warned past object n due warning =>
    cases due with
    | rejectBase accepted reached invalid =>
      exact rests_of_rejection (.rejectBase accepted reached invalid) permitted.2 rfl
    | rejectUser reached invalid =>
      exact rests_of_rejection (.rejectUser reached invalid) permitted.2 rfl
    | announce now stored reached unset accepted => cases warning
    | alarm message stored reached running accepted =>
      -- The object returned last is the one with the record of the halt.
      have set := set _ (List.mem_cons_of_mem _ List.mem_cons_self) object rfl
      exact .halted object rfl (isHalted_of_accepted steady accepted set)
  | halted reached halted => exact .halted _ reached.held halted
  | finished reached =>
    obtain ⟨based, completed⟩ := reached.stands
    refine .completed _ reached.held fun phase => ?_
    cases phase with
    | base => exact based.based
    | user => exact completed

/-! ## Every pass -/

/-- The result of a pass and its answers determine each other, and a pass that is done may rest. The
answers are arbitrary, except that an accepted write returns the object as it was stored, and that
the objects returned have a generation, which a status write leaves as it is. -/
theorem reconcilePass_concludes {rest : Program Failure Outcome}
    (comes : (reconcilePass identity).Comes past rest) (ended : rest.result? = some result)
    (credible : Along (Credible server) past)
    (steady : ∀ before after, server before after → SteadyGeneration before after)
    (set : ∀ e ∈ past, ∀ j ∈ e.call.returned? e.answer, j.metadata.generation.isSome) :
    Decides past result ∧ (result = .ok .done → Rests past) := by
  have credible {permits : Past → Call → Prop} :
      Along (fun early e => permits early e.call → Credible server early e) past :=
    credible.imp fun _ _ credible _ => credible
  obtain ⟨-, permitted⟩ := (reconcilePass_keeps server identity).comes comes credible
  have ends : Ends server identity past result := (comes.onRoute credible).2.2 result ended
  refine ⟨ends.decides, ?_⟩
  rintro rfl
  exact ends.rests steady permitted set

/-- A pass in which the seed jobs fail for good. -/
def hopeless : Except Failure Outcome × Past × Jenkins :=
  Surroundings.hopeless.attempt .noon (fun _ => none) ⟨"default", "ci"⟩ .created

theorem reconcilePass_concludes_hopeless :
    ∃ past rest, (reconcilePass ⟨"default", "ci"⟩).Comes past rest ∧
      rest.result? = some (.ok .done) ∧ Along (Credible (Tends nextGeneration)) past ∧
      (∀ e ∈ past, ∀ j ∈ e.call.returned? e.answer, j.metadata.generation.isSome) ∧
      words past = [.completed .base, .seedJobsHalted "no such repository"] ∧
      Decides past (.ok .done) ∧ Rests past := by
  have visit : Visit _ _ _ hopeless.2.1 hopeless.1 _ := visit_serve _ _ _ _
  obtain ⟨rest, comes, ended⟩ := visit.comes
  have credible := visit.interrupted.credible
  obtain ⟨done, set, told⟩ : hopeless.1 = .ok .done ∧
      (∀ e ∈ hopeless.2.1, ∀ j ∈ e.call.returned? e.answer, j.metadata.generation.isSome) ∧
      words hopeless.2.1 = [.completed .base, .seedJobsHalted "no such repository"] := by
    decide +kernel
  rw [done] at ended
  obtain ⟨decides, rests⟩ := reconcilePass_concludes comes ended credible Tends.steady set
  exact ⟨_, rest, comes, ended, credible, set, told, decides, rests rfl⟩

end JenkinsOperator
