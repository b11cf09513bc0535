import JenkinsOperator.Proofs.Route.Balance

/-!
# Passes that are resumed

Wherever a visit ends, the forecast of the object that it leaves is the one of the object that it
found, less what it has told the user (`Visit.forecast_eq`): nothing is lost by an interruption, and
nothing is told twice. A visit that is not interrupted ends as was foretold (`Visit.foretold`).
-/

namespace JenkinsOperator

variable {server : Jenkins → Jenkins → Prop} {env : Surroundings} {next : Int → Int}
  {identity : Identity} {past : Past} {stage : Stage} {c : Call} {e : Call.Exchange}
  {start object after : Jenkins} {result : Except Failure Outcome}

/-! ## Where a visit ends -/

/-- A store leaves an object that has a generation with one. -/
theorem Tends.isSome (tends : Tends next object after)
    (set : object.metadata.generation.isSome = true) : after.metadata.generation.isSome = true := by
  rw [tends.generation]
  split
  · exact set
  · rw [Option.isSome_map]
    exact set

theorem Accepted.kept (accepted : Accepted server object after c) : server object after := by
  cases accepted with
  | spec _ _ _ _ kept => exact kept
  | status _ _ _ _ kept => exact kept

theorem Leads.isSome (leads : Leads (Interrupts (Tends next) env) start past after)
    (set : start.metadata.generation.isSome = true) : after.metadata.generation.isSome = true := by
  induction leads with
  | nil => exact set
  | cons _ interrupts ih =>
    cases interrupts with
    | served _ serves =>
      cases serves with
      | read identity => exact ih
      | landed _ _ _ accepted => exact accepted.kept.isSome ih
      | stale _ _ _ _ _ => exact ih
      | given _ _ _ => exact ih
    | failed failure _ => exact ih
    | lost _ => exact ih

/-- What led on was answered by the surroundings. -/
theorem Leads.gives_of_leadsOn (leads : Leads (Interrupts server env) start past after)
    (on : ∀ e ∈ past, e.LeadsOn) : ∀ e ∈ past, env.Gives e := by
  intro e member
  have on := on e member
  exact leads.gives_of_not_interrupted e member on.answered on.taken

/-- If its last call returned no object, a visit leaves the forecast that it found, less what it
told. -/
theorem Leads.forecast_last (leads : Leads (Interrupts (Tends next) env) start (e :: past) after)
    (due : OnRoute (Tends next) identity (e :: past))
    (nothing : e.call.returned? e.answer = none)
    (set : start.metadata.generation.isSome = true) :
    env.forecast next start.gist =
      (env.forecast next after.gist).after (announced (e :: past)) := by
  have read := leads.fetched due
  have set := leads.isSome set
  have held := leads.held_last nothing
  rcases due.2.held with ⟨first, rfl⟩ | ⟨j, copy⟩
  · -- Nothing was returned before the first call.
    cases held
    rcases e with ⟨c, answer⟩
    cases first
    rfl
  · rw [copy] at held
    cases held
    cases leads with
    | cons leads _ =>
      -- Whatever the last call was answered, those before it were not interrupted.
      have gives := leads.gives_of_leadsOn due.2.leadsOn
      obtain ⟨object, first, whole⟩ := due.2.adds gives copy set e.answer
      rw [← read _ _ first]
      exact whole

/-- The same holds if a visit ends at a stage without another call. -/
theorem Reaches.forecast_last (reached : Reaches (Tends next) identity stage past)
    (leads : Leads (Interrupts (Tends next) env) start past after)
    (due : OnRoute (Tends next) identity past) :
    env.forecast next start.gist = (env.forecast next after.gist).after (announced past) := by
  obtain rfl := leads.held_eq reached.held
  obtain ⟨object, first, whole⟩ := reached.adds (leads.gives_of_leadsOn reached.leadsOn)
  rw [← leads.fetched due _ _ first]
  exact whole

theorem Call.Exchange.asksStore_of_delay? {delay : Milliseconds} (waits : e.delay? = some delay) :
    e.call.asksStore = false := by
  unfold delay? at waits
  split at waits
  case h_1 => rfl
  case h_2 => rfl
  case h_3 => rfl
  case h_4 => rfl
  case h_5 => rfl
  case h_6 => cases waits

/-- However it ends, a visit leaves the forecast that it found, less what it told the user. -/
theorem Visit.forecast_eq
    (visit : Visit (Interrupts (Tends next) env) identity start past result after)
    (set : start.metadata.generation.isSome = true) :
    env.forecast next start.gist = (env.forecast next after.gist).after (announced past) := by
  obtain ⟨ends, due⟩ := visit.ends
  cases ends with
  | failed e failure _ failed =>
    exact visit.leads.forecast_last due (Call.Exchange.returned?_of_failure? failed) set
  | lost e _ lost =>
    exact visit.leads.forecast_last due (Call.Exchange.returned?_of_isLost lost) set
  | delayed e delay _ waits =>
    have elsewhere := Call.Exchange.asksStore_of_delay? waits
    exact visit.leads.forecast_last due (Call.returned?_of_not_asksStore elsewhere e.answer) set
  | missing => exact visit.leads.forecast_last due rfl set
  | warned _ _ => exact visit.leads.forecast_last due rfl set
  | halted reached _ => exact reached.forecast_last visit.leads due
  | finished reached => exact reached.forecast_last visit.leads due

/-! ## Visits without an interruption -/

/-- The result of a pass that an answer ends as a failure or a wait. -/
def Call.Exchange.verdict? (e : Call.Exchange) : Option (Except Failure Outcome) :=
  (e.failure?.map .error).or (e.delay?.map fun delay => .ok (.requeue delay))

theorem Call.Exchange.verdict?_of_failure? {failure : Failure}
    (failed : e.failure? = some failure) : e.verdict? = some (.error failure) := by
  unfold verdict?
  rw [failed]
  rfl

theorem Call.Exchange.verdict?_of_delay? {delay : Milliseconds} (waits : e.delay? = some delay) :
    e.verdict? = some (.ok (.requeue delay)) := by
  unfold verdict?
  rw [waits, (of_delay? waits).1]
  rfl

/-- An answer of the surroundings that ends a pass was foretold. -/
theorem Due.forecast_of_verdict (due : Due (Tends next) identity past e.call)
    (given : env.Gives e) (gives : ∀ e ∈ past, env.Gives e) (elsewhere : e.call.asksStore = false)
    (ended : e.verdict? = some result) (held : held? past = some object) :
    env.forecast next object.gist = object.gist.ends result := by
  rcases e with ⟨c, answer⟩
  -- The forecast at the stage of the call asks the same question, so it goes by the same answer.
  cases due with
  | fetch => cases elsewhere
  | fill _ _ => cases elsewhere
  | @approve past copy reached =>
    obtain rfl : copy = object := reached.eq_held held
    have outlook : env.forecast next copy.gist = env.fromComplete copy.gist :=
      reached.outlook_self gives
    have given : env.acceptsSpec copy.gist.spec = answer := given.symm
    rw [outlook, Surroundings.fromComplete, given]
    rcases answer with failure | accepted
    · cases ended
      rfl
    · cases ended
  | rejectBase _ _ _ => cases ended
  | startClock _ _ => cases ended
  | start _ _ _ => cases elsewhere
  | @provision past copy reached =>
    obtain rfl : copy = object := reached.eq_held held
    have outlook : env.forecast next copy.gist = env.fromStart copy.gist :=
      reached.outlook_self gives
    have given : env.provision copy.gist.spec = answer := given.symm
    rw [outlook, Surroundings.fromStart, given]
    rcases answer with failure | delay | handle
    · cases ended
      rfl
    · cases ended
      rfl
    · cases ended
  | stampClock _ _ => cases ended
  | stamp _ _ _ => cases elsewhere
  | announce _ _ _ _ _ => cases ended
  | @readSecret past copy handle found job rest selector reached keyed =>
    obtain rfl : copy = object := reached.eq_held held
    have outlook : env.forecast next copy.gist =
        env.fromJudged handle copy.gist found (job :: rest) := reached.outlook_self gives
    have given : env.secret (copy.gist.secretIdentity selector) = answer := given.symm
    rw [outlook, Surroundings.fromJudged, keyed]
    dsimp only
    rw [given]
    rcases answer with failure | data
    · cases ended
      rfl
    · cases ended
  | rejectUser _ _ => cases ended
  | @seed past copy handle reached running =>
    obtain rfl : copy = object := reached.eq_held held
    have outlook : env.forecast next copy.gist =
        copy.gist.unlessHalted (env.fromValidity handle) := reached.outlook_self gives
    have given : env.ensureSeedJobs handle copy.gist.spec = answer := given.symm
    rw [outlook, Gist.unlessHalted_running running, Surroundings.fromValidity, given]
    rcases answer with failure | _ | _ | message | message
    · cases ended
      rfl
    · cases ended
    · cases ended
      rfl
    · cases ended
      rfl
    · cases ended
  | halt _ _ _ => cases elsewhere
  | alarm _ _ _ _ _ => cases ended
  | @configure past copy handle reached =>
    obtain rfl : copy = object := reached.eq_held held
    have outlook : env.forecast next copy.gist =
        copy.gist.unlessHalted (env.fromSeeds handle) := reached.outlook_self gives
    have given : env.configureScripts handle = answer := given.symm
    rw [outlook, Gist.unlessHalted_running reached.stands.running, Surroundings.fromSeeds, given]
    rcases answer with failure | _
    · cases ended
      rfl
    · cases ended
  | @equip past copy handle reached =>
    obtain rfl : copy = object := reached.eq_held held
    have outlook : env.forecast next copy.gist =
        copy.gist.unlessHalted (env.fromJob handle) := reached.outlook_self gives
    have given : env.configMap copy.gist.scriptsIdentity = answer := given.symm
    rw [outlook, Gist.unlessHalted_running reached.stands.running, Surroundings.fromJob, given]
    rcases answer with failure | _ | scripts
    · cases ended
      rfl
    · cases ended
      rfl
    · cases ended
  | @apply past copy handle scripts reached =>
    obtain rfl : copy = object := reached.eq_held held
    have outlook : env.forecast next copy.gist =
        copy.gist.unlessHalted (env.fromScripts handle scripts) := reached.outlook_self gives
    have given : env.runScripts handle scripts copy.gist.spec = answer := given.symm
    rw [outlook, Gist.unlessHalted_running reached.stands.running, Surroundings.fromScripts, given]
    rcases answer with failure | _ | _
    · cases ended
      rfl
    · cases ended
      rfl
    · cases ended

theorem Call.Exchange.word?_of_verdict? (ended : e.verdict? = some result) :
    e.call.word? = none := by
  rcases e with ⟨c, answer⟩
  cases c with
  | publish object n => cases ended
  | _ => rfl

/-- Nothing is to come of an object any more if a visit ended with an answer of the surroundings. -/
theorem Visit.settled_of_verdict
    (visit : Visit (Serves (Tends next) env) identity start (e :: past) result after)
    (due : OnRoute (Tends next) identity (e :: past)) (ended : e.verdict? = some result)
    (elsewhere : e.call.asksStore = false) :
    env.forecast next after.gist = ⟨after.gist, result, [], rejections (e :: past)⟩ := by
  have quiet : rejections (e :: past) = [] := by
    show (words (e :: past)).filter _ = []
    rw [words_silent (Call.Exchange.word?_of_verdict? ended)]
    exact rejections_eq_nil due.2.leadsOn
  have held := visit.leads.interrupted.held_last
    (Call.returned?_of_not_asksStore elsewhere e.answer)
  obtain ⟨given, gives⟩ := List.forall_mem_cons.1 (visit.leads.gives due)
  rcases due.2.held with ⟨first, -⟩ | ⟨j, copy⟩
  · rw [first] at elsewhere
    cases elsewhere
  · rw [copy] at held
    cases held
    rw [quiet]
    have gives e member := (gives e member).1
    exact due.2.forecast_of_verdict given.1 gives elsewhere ended copy

/-- Nor is it if a visit ended with a warning; a rejection is said again. -/
theorem Visit.settled_of_warning {n : Notification}
    (visit : Visit (Serves (Tends next) env) identity start (⟨.publish object n, ()⟩ :: past) result
      after)
    (due : OnRoute (Tends next) identity (⟨.publish object n, ()⟩ :: past))
    (warning : n.warning = true) (set : start.metadata.generation.isSome = true) :
    env.forecast next after.gist =
      ⟨after.gist, .ok .done, [], rejections (⟨.publish object n, ()⟩ :: past)⟩ := by
  have gives e member := (visit.leads.gives due e (List.mem_cons_of_mem _ member)).1
  cases due.2 with
  | rejectBase accepted reached invalid =>
    obtain rfl : object = after := visit.leads.interrupted.held_eq reached.held
    obtain ⟨given, gives⟩ := List.forall_mem_cons.1 gives
    have outlook : env.forecast next object.gist = env.fromComplete object.gist :=
      reached.outlook_self gives
    have given : env.acceptsSpec object.gist.spec = .ok accepted := given.symm
    rw [outlook, Surroundings.fromComplete, given,
      rejections_publish (Due.rejectBase accepted reached invalid).leadsOn rfl]
    exact if_neg invalid
  | @rejectUser _ _ handle found reached invalid =>
    obtain rfl : object = after := visit.leads.interrupted.held_eq reached.held
    have outlook : env.forecast next object.gist = env.fromJudged handle object.gist found [] :=
      reached.outlook_self gives
    rw [outlook, Surroundings.fromJudged, rejections_publish reached.leadsOn rfl]
    exact if_neg invalid
  | announce now stored reached unset accepted => cases warning
  | alarm message stored reached running accepted =>
    -- The halt is recorded by now, so the next pass stops before the seed jobs.
    obtain rfl : object = after := visit.leads.interrupted.held_eq rfl
    have gives := (List.forall_mem_cons.1 gives).2
    have set := visit.leads.interrupted.isSome set
    have on := (Due.alarm message object reached running accepted).leadsOn
    rw [rejections_eq_nil (List.forall_mem_cons.2 ⟨⟨rfl, rfl, rfl, rfl⟩, on⟩)]
    exact (reached.forecast_halt gives running accepted set).1

/-- A visit that nothing interrupts leaves an object of which nothing more comes, and of which the
same is said again if it is rejected. -/
theorem Visit.settled (visit : Visit (Serves (Tends next) env) identity start past result after)
    (set : start.metadata.generation.isSome = true) :
    env.forecast next after.gist = ⟨after.gist, result, [], rejections past⟩ := by
  obtain ⟨ends, due⟩ := visit.interrupted.ends
  have served := visit.leads.gives due
  cases ends with
  | failed e failure _ failed =>
    -- The store fails no call of its own accord.
    have elsewhere : e.call.asksStore = false := by
      apply Bool.eq_false_iff.2
      intro store
      exact nomatch failed.symm.trans ((served e List.mem_cons_self).2.2 store)
    exact visit.settled_of_verdict due (Call.Exchange.verdict?_of_failure? failed) elsewhere
  | lost e _ lost => exact nomatch lost.symm.trans (served e List.mem_cons_self).2.1
  | delayed e delay _ waits =>
    exact visit.settled_of_verdict due (Call.Exchange.verdict?_of_delay? waits)
      (Call.Exchange.asksStore_of_delay? waits)
  | missing =>
    -- The object is there, so it is what the first call reads.
    cases visit.leads with
    | cons leads serves =>
      cases serves with
      | landed _ _ returned _ => cases returned
      | stale _ _ lost _ _ => cases lost
      | given _ elsewhere _ => cases elsewhere
  | warned _ warning => exact visit.settled_of_warning due warning set
  | @halted past object handle reached halted =>
    obtain rfl : object = after := visit.leads.interrupted.held_eq reached.held
    have outlook : env.forecast next object.gist =
        object.gist.unlessHalted (env.fromValidity handle) :=
      reached.outlook_self fun e member => (served e member).1
    rw [outlook, rejections_eq_nil reached.leadsOn]
    exact if_pos (object.isHalted_gist.trans halted)
  | @finished past object handle reached =>
    obtain rfl : object = after := visit.leads.interrupted.held_eq reached.held
    rw [rejections_eq_nil reached.leadsOn]
    exact reached.outlook_self fun e member => (served e member).1

/-- A visit that nothing interrupts goes as was foretold. -/
theorem Visit.foretold (visit : Visit (Serves (Tends next) env) identity start past result after)
    (set : start.metadata.generation.isSome = true) :
    env.forecast next start.gist = ⟨after.gist, result, announced past, rejections past⟩ := by
  -- Nothing more comes of the object that is left, so all that was to be told has been told.
  rw [visit.interrupted.forecast_eq set, visit.settled set]
  show Forecast.mk _ _ (announced past ++ []) _ = _
  rw [List.append_nil]

end JenkinsOperator
