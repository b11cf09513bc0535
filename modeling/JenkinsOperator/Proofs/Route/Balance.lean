import JenkinsOperator.Proofs.Route.Forecast
import JenkinsOperator.Proofs.Route.Outcome

/-!
# What is done and what is to come

On its way a pass tells the user of what it has recorded, and of that nothing more is to come: what
it has told and the forecast of the object that it holds always add up to the forecast of the object
that it has read (`Adds`). Each write is looked at once, with the word that follows it; from that
the sum is shown at every stage (`Reaches.adds`) and with the answer to every call that is due
(`Due.adds`).
-/

namespace JenkinsOperator

variable {env : Surroundings} {next : Int → Int} {identity : Identity} {past : Past} {stage : Stage}
  {c : Call} {e : Call.Exchange} {object : Jenkins}

/-! ## Words -/

theorem words_silent (silent : e.call.word? = none) : words (e :: past) = words past := by
  show words past ++ e.call.word?.toList = words past
  rw [silent]
  exact List.append_nil _

theorem announced_silent (silent : e.call.word? = none) :
    announced (e :: past) = announced past := by
  unfold announced
  rw [words_silent silent]

theorem announced_publish {n : Notification} (praise : n.reason ≠ .validationFailure) :
    announced (⟨.publish object n, ()⟩ :: past) = announced past ++ [n] := by
  have last : [n].filter (·.reason != .validationFailure) = [n] :=
    List.filter_eq_self.2 (List.forall_mem_singleton.2 (bne_iff_ne.2 praise))
  show (words past ++ [n]).filter _ = _
  rw [List.filter_append, last]
  rfl

/-! ## What a write does to the forecast -/

/-- The forecast at a stage is the one of its object. -/
theorem Reaches.outlook_self (reached : Reaches (Tends next) identity stage past)
    (gives : ∀ e ∈ past, env.Gives e) :
    env.forecast next stage.object.gist = env.outlook next stage stage.object.gist :=
  reached.forecast_eq gives _ (.refl _)

/-- Storing defaults leaves the forecast as it is. -/
theorem Accepted.forecast_fill {stored : Jenkins} (incomplete : object.spec.isIncomplete = true)
    (accepted : Accepted (Tends next) object stored (.writeSpec object.withDefaults)) :
    env.forecast next object.gist = env.forecast next stored.gist := by
  have complete : stored.gist.spec.isIncomplete = false := by
    rw [accepted.gist_fill incomplete]
    exact object.spec.isIncomplete_withDefaults
  rw [Surroundings.forecast_complete complete, accepted.gist_fill incomplete]
  exact congrArg env.fromComplete (if_pos incomplete)

/-- So does the stamp of the start. -/
theorem Reaches.forecast_start {stored : Jenkins} {now : Time}
    (reached : Reaches (Tends next) identity (.approved object) past)
    (gives : ∀ e ∈ past, env.Gives e) (unset : object.statusOrUnset.provisionStart = none)
    (accepted : Accepted (Tends next) object stored (.writeStatus (object.withStart now))) :
    env.forecast next object.gist = env.forecast next stored.gist := by
  have before : env.forecast next object.gist = env.fromApproval object.gist :=
    reached.outlook_self gives
  have after : env.forecast next stored.gist = env.fromApproval stored.gist := by
    rw [accepted.gist_start]
    exact reached.forecast_eq gives _ (Gist.extends_start _)
  rw [before, after, accepted.gist_start]
  show env.fromStart (if object.gist.started then _ else _) = env.fromStart (if true then _ else _)
  rw [Jenkins.started_gist unset]
  rfl

/-- With the stamp of a phase, one word less is to come. -/
theorem Reaches.forecast_stamp {phase : Phase} {handle : ServerHandle} {stored : Jenkins}
    {now : Time} (reached : Reaches (Tends next) identity (.achieved phase object handle) past)
    (gives : ∀ e ∈ past, env.Gives e) (unset : object.statusOrUnset.completedAt phase = none)
    (accepted : Accepted (Tends next) object stored (.writeStatus (object.withStamp phase now))) :
    env.forecast next object.gist = (env.forecast next stored.gist).after [.completed phase] := by
  have before := reached.outlook_self gives
  have after : env.forecast next stored.gist =
      env.outlook next (.completed phase stored handle) stored.gist := by
    rw [accepted.gist_stamp]
    refine (reached.forecast_eq gives _ (Gist.extends_stamp _ phase)).trans ?_
    exact Surroundings.outlook_completed (Gist.completed_stamp _ phase)
  have missing : ¬ object.gist.completed phase = true :=
    Bool.eq_false_iff.1 (Jenkins.completed_gist unset)
  rw [after, accepted.gist_stamp]
  refine before.trans ?_
  cases phase with
  | base => exact if_neg missing
  | user =>
    -- The scripts are applied only while the seed jobs have not failed for good.
    exact (Gist.unlessHalted_running reached.stands.running).trans (if_neg missing)

/-- With the record of a halt, there is nothing more to come than the word of it. -/
theorem Reaches.forecast_halt {handle : ServerHandle} {stored : Jenkins} {message : String}
    (reached : Reaches (Tends next) identity (.judging object handle [] []) past)
    (gives : ∀ e ∈ ⟨.ensureSeedJobs handle object, .ok (.unrecoverable message)⟩ :: past,
      env.Gives e)
    (running : object.isHalted = false)
    (accepted : Accepted (Tends next) object stored (.writeStatus object.withHalt))
    (set : stored.metadata.generation.isSome = true) :
    env.forecast next stored.gist = stored.gist.ends (.ok .done) ∧
    env.forecast next object.gist =
      (env.forecast next stored.gist).after [.seedJobsHalted message] := by
  obtain ⟨given, gives⟩ := List.forall_mem_cons.1 gives
  have current : stored.metadata.generation = object.metadata.generation :=
    congrArg Gist.generation accepted.gist_halt
  rw [current] at set
  have after : env.forecast next stored.gist = stored.gist.ends (.ok .done) := by
    rw [accepted.gist_halt]
    refine (reached.forecast_eq gives _ (Gist.extends_halt _)).trans ?_
    exact if_pos (Gist.isHalted_halt set)
  have before : env.forecast next object.gist = env.fromValidity handle object.gist :=
    (reached.outlook_self gives).trans (Gist.unlessHalted_running running)
  have given : env.ensureSeedJobs handle object.gist.spec = .ok (.unrecoverable message) :=
    given.symm
  refine ⟨after, ?_⟩
  rw [before, after, accepted.gist_halt, Surroundings.fromValidity, given]

/-! ## The sum -/

/-- What was told and what is to come of an object add up to the forecast of the object that was
read. -/
def Adds (env : Surroundings) (next : Int → Int) (identity : Identity) (past : Past)
    (object : Jenkins) : Prop :=
  ∃ j, ⟨.fetch identity, .ok (some j)⟩ ∈ past ∧
    env.forecast next j.gist = (env.forecast next object.gist).after (announced past)

/-- Something is told, and is not to come any more. -/
theorem Adds.step {stored : Jenkins} {told : List Notification}
    (adds : Adds env next identity past object)
    (words : announced (e :: past) = announced past ++ told)
    (same : env.forecast next object.gist = (env.forecast next stored.gist).after told) :
    Adds env next identity (e :: past) stored := by
  obtain ⟨j, read, whole⟩ := adds
  refine ⟨j, List.mem_cons_of_mem e read, ?_⟩
  rw [whole, same, words]
  exact Forecast.after_after ..

/-- Something is done of which nobody is told. -/
theorem Adds.quiet {stored : Jenkins} (adds : Adds env next identity past object)
    (words : announced (e :: past) = announced past)
    (same : env.forecast next object.gist = env.forecast next stored.gist) :
    Adds env next identity (e :: past) stored := by
  refine adds.step ?_ (same.trans (Forecast.after_nil _).symm)
  rw [words, List.append_nil]

theorem Adds.silent (adds : Adds env next identity past object) (silent : e.call.word? = none) :
    Adds env next identity (e :: past) object :=
  adds.quiet (announced_silent silent) rfl

/-- At every stage, what was told and what is to come add up. -/
theorem Reaches.adds (reached : Reaches (Tends next) identity stage past)
    (gives : ∀ e ∈ past, env.Gives e) : Adds env next identity past stage.object := by
  induction reached with
  | read object => exact ⟨object, List.mem_singleton_self _, rfl⟩
  | keepSpec _ _ ih => exact ih gives
  | fill stored _ incomplete accepted ih =>
    have adds := ih (List.forall_mem_cons.1 gives).2
    exact adds.quiet (announced_silent rfl) (accepted.forecast_fill incomplete)
  | approve accepted _ _ ih => exact (ih (List.forall_mem_cons.1 gives).2).silent rfl
  | keepStart _ _ ih => exact ih gives
  | start now stored reached unset accepted ih =>
    have gives := (List.forall_mem_cons.1 (List.forall_mem_cons.1 gives).2).2
    -- The clock is looked at before the write, and of neither is anyone told.
    have same := reached.forecast_start gives unset accepted
    exact ((ih gives).silent rfl).quiet (announced_silent rfl) same
  | provision handle _ ih => exact (ih (List.forall_mem_cons.1 gives).2).silent rfl
  | keepStamp _ _ ih => exact ih gives
  | @stamp _ _ _ phase now stored reached unset accepted ih =>
    have gives := (List.forall_mem_cons.1 (List.forall_mem_cons.1
      (List.forall_mem_cons.1 gives).2).2).2
    -- Until the word is said, the sum is the one of the copy before the stamp.
    have same := reached.forecast_stamp gives unset accepted
    refine Adds.step ?_ (announced_publish phase.successReason_ne.2) same
    exact ((ih gives).silent rfl).silent rfl
  | judge _ ih => exact ih gives
  | keyless _ _ ih => exact ih gives
  | keyed selector data _ _ ih => exact (ih (List.forall_mem_cons.1 gives).2).silent rfl
  | seed _ _ ih => exact (ih (List.forall_mem_cons.1 gives).2).silent rfl
  | configure _ ih => exact (ih (List.forall_mem_cons.1 gives).2).silent rfl
  | equip scripts _ ih => exact (ih (List.forall_mem_cons.1 gives).2).silent rfl
  | apply _ ih => exact (ih (List.forall_mem_cons.1 gives).2).silent rfl

/-! ## Calls that are due -/

/-- A rejection is not counted among what is announced once. -/
theorem announced_rejection {subject : String} {violations : List String} :
    announced (⟨.publish object (.rejection subject violations), ()⟩ :: past) = announced past := by
  show (words past ++ [_]).filter _ = (words past).filter _
  rw [List.filter_append]
  exact List.append_nil _

/-- A call at a stage that tells the user nothing leaves the sum as it is. -/
theorem Reaches.adds_silent (reached : Reaches (Tends next) identity stage past)
    (gives : ∀ e ∈ past, env.Gives e) (held : held? past = some object)
    (silent : e.call.word? = none) : Adds env next identity (e :: past) object := by
  obtain rfl := reached.eq_held held
  exact (reached.adds gives).silent silent

/-- When a call is answered, what was told and what is to come add up, counting what the call itself
tells, and for the copy that was held before. -/
theorem Due.adds (due : Due (Tends next) identity past c) (gives : ∀ e ∈ past, env.Gives e)
    (held : held? past = some object) (set : object.metadata.generation.isSome = true)
    (answer : c.Answer) : Adds env next identity (⟨c, answer⟩ :: past) object := by
  cases due with
  | fetch => cases held
  | fill reached _ => exact reached.adds_silent gives held rfl
  | approve reached => exact reached.adds_silent gives held rfl
  | rejectBase accepted reached _ =>
    refine Adds.quiet ?_ announced_rejection rfl
    exact reached.adds_silent (List.forall_mem_cons.1 gives).2 held rfl
  | startClock reached _ => exact reached.adds_silent gives held rfl
  | start now reached _ =>
    exact (reached.adds_silent (List.forall_mem_cons.1 gives).2 held rfl).silent rfl
  | provision reached => exact reached.adds_silent gives held rfl
  | stampClock reached _ => exact reached.adds_silent gives held rfl
  | stamp now reached _ =>
    exact (reached.adds_silent (List.forall_mem_cons.1 gives).2 held rfl).silent rfl
  | announce now stored reached unset accepted =>
    -- With its word, the stamp is a step of the way.
    cases held
    exact (Reaches.stamp now _ reached unset accepted).adds
      (List.forall_mem_cons.2 ⟨trivial, gives⟩)
  | readSecret reached _ => exact reached.adds_silent gives held rfl
  | rejectUser reached _ =>
    obtain rfl := reached.eq_held held
    exact (reached.adds gives).quiet announced_rejection rfl
  | seed reached _ => exact reached.adds_silent gives held rfl
  | halt message reached _ =>
    exact (reached.adds_silent (List.forall_mem_cons.1 gives).2 held rfl).silent rfl
  | alarm message stored reached running accepted =>
    cases held
    have gives := (List.forall_mem_cons.1 gives).2
    obtain ⟨-, told⟩ := reached.forecast_halt gives running accepted set
    refine Adds.step ?_ (announced_publish Reason.noConfusion) told
    exact ((reached.adds (List.forall_mem_cons.1 gives).2).silent rfl).silent rfl
  | configure reached => exact reached.adds_silent gives held rfl
  | equip reached => exact reached.adds_silent gives held rfl
  | apply reached => exact reached.adds_silent gives held rfl

end JenkinsOperator
