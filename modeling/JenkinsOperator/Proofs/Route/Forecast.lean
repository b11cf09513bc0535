import JenkinsOperator.Proofs.Route.Gist

/-!
# Forecasts

What comes of an object in a pass that nothing interrupts depends on its gist and on the
surroundings only, so it can be foretold: the gist at the end, the result, and what the user is told
(`Surroundings.forecast`). Each stage of the route has a forecast of its own, of what is still to
come there (`Surroundings.outlook`). A pass that has come to a stage and is run anew from there
finds its way back to that stage without a trace (`Reaches.forecast_eq`), for what it did on the way
it finds done.
-/

namespace JenkinsOperator

/-- What comes of an object. -/
structure Forecast where
  /-- The object at the end. -/
  gist : Gist
  result : Except Failure Outcome
  announced : List Notification
  rejected : List Notification

/-- The forecast with something announced before. -/
def Forecast.after (told : List Notification) (f : Forecast) : Forecast :=
  { f with announced := told ++ f.announced }

theorem Forecast.after_nil (f : Forecast) : f.after [] = f := rfl

theorem Forecast.after_after (told more : List Notification) (f : Forecast) :
    (f.after more).after told = f.after (told ++ more) := by
  unfold after
  rw [List.append_assoc]

namespace Gist

/-- Nothing more comes of the object. -/
def ends (g : Gist) (result : Except Failure Outcome) : Forecast := ⟨g, result, [], []⟩

/-- The object is rejected. -/
def isRejected (g : Gist) (subject : String) (violations : List String) : Forecast :=
  ⟨g, .ok .done, [], [.rejection subject violations]⟩

/-- A phase is stamped and told of, unless it is stamped. -/
def isCompleted (g : Gist) (phase : Phase) (onward : Gist → Forecast) : Forecast :=
  if g.completed phase then onward g
  else (onward (g.stamp phase)).after [.completed phase]

/-- The user phase goes on, unless the seed jobs have failed for good. -/
def unlessHalted (g : Gist) (onward : Gist → Forecast) : Forecast :=
  if g.isHalted then g.ends (.ok .done) else onward g

/-- The user phase is completed, and with it the pass. -/
def isApplied (g : Gist) : Forecast := g.isCompleted .user fun g => g.ends (.ok .done)

end Gist

namespace Surroundings

variable (env : Surroundings)

/-- From known scripts on. -/
def fromScripts (handle : ServerHandle) (scripts : Scripts) (g : Gist) : Forecast :=
  match env.runScripts handle scripts g.spec with
  | .error failure => g.ends (.error failure)
  | .ok false => g.ends (.ok (.requeue scriptRequeueDelay))
  | .ok true => g.isApplied

/-- From the job for the scripts on. -/
def fromJob (handle : ServerHandle) (g : Gist) : Forecast :=
  match env.configMap g.scriptsIdentity with
  | .error failure => g.ends (.error failure)
  | .ok none => g.ends (.ok (.requeue scriptRequeueDelay))
  | .ok (some scripts) => env.fromScripts handle scripts g

/-- From seed jobs that are done on. -/
def fromSeeds (handle : ServerHandle) (g : Gist) : Forecast :=
  match env.configureScripts handle with
  | .error failure => g.ends (.error failure)
  | .ok () => env.fromJob handle g

/-- From valid seed jobs on. -/
def fromValidity (handle : ServerHandle) (g : Gist) : Forecast :=
  match env.ensureSeedJobs handle g.spec with
  | .error failure => g.ends (.error failure)
  | .ok .done => env.fromSeeds handle g
  | .ok .pending => g.ends (.ok (.requeue seedRequeueDelay))
  | .ok (.buildFailed _) => g.ends (.ok (.requeue seedRequeueDelay))
  | .ok (.unrecoverable message) =>
    (g.halt.ends (.ok .done)).after [.seedJobsHalted message]

/-- From some judged seed jobs on, with what was found in them. -/
def fromJudged (handle : ServerHandle) (g : Gist) : List String → List SeedJob → Forecast
  | found, [] =>
    if found = [] then g.unlessHalted (env.fromValidity handle) else g.isRejected "User" found
  | found, job :: rest =>
    match job.privateKey with
    | none => fromJudged handle g (found ++ job.ownViolations.map job.violation) rest
    | some selector =>
      match env.secret (g.secretIdentity selector) with
      | .error failure => g.ends (.error failure)
      | .ok data => fromJudged handle g (found ++ job.keyedViolations selector data) rest

/-- From a completed base phase on. -/
def fromBase (handle : ServerHandle) (g : Gist) : Forecast :=
  env.fromJudged handle g [] g.spec.seedJobs

/-- From the start of provisioning on. -/
def fromStart (g : Gist) : Forecast :=
  match env.provision g.spec with
  | .error failure => g.ends (.error failure)
  | .ok (.inProgress delay) => g.ends (.ok (.requeue delay))
  | .ok (.ready handle) => g.isCompleted .base (env.fromBase handle)

/-- From a valid master on. -/
def fromApproval (g : Gist) : Forecast := env.fromStart (if g.started then g else g.start)

/-- From a complete specification on. -/
def fromComplete (g : Gist) : Forecast :=
  match env.acceptsSpec g.spec with
  | .error failure => g.ends (.error failure)
  | .ok accepted =>
    if g.spec.baseViolations accepted = [] then env.fromApproval g
    else g.isRejected "Base" (g.spec.baseViolations accepted)

/-- What comes of an object, if nothing interrupts a pass. -/
def forecast (next : Int → Int) (g : Gist) : Forecast :=
  env.fromComplete (if g.spec.isIncomplete then g.fill next else g)

/-- What is still to come of an object, if a pass has come to a stage with it. -/
def outlook (next : Int → Int) : Stage → Gist → Forecast
  | .read _, g => env.forecast next g
  | .filled _, g => env.fromComplete g
  | .approved _, g => env.fromApproval g
  | .started _, g => env.fromStart g
  | .achieved .base _ handle, g => g.isCompleted .base (env.fromBase handle)
  | .achieved .user _ _, g => g.unlessHalted Gist.isApplied
  | .completed .base _ handle, g => env.fromBase handle g
  | .completed .user _ _, g => g.ends (.ok .done)
  | .judging _ handle found rest, g => env.fromJudged handle g found rest
  | .seeded _ handle, g => g.unlessHalted (env.fromSeeds handle)
  | .configured _ handle, g => g.unlessHalted (env.fromJob handle)
  | .equipped _ handle scripts, g => g.unlessHalted (env.fromScripts handle scripts)

end Surroundings

variable {env : Surroundings} {next : Int → Int} {identity : Identity} {past : Past} {stage : Stage}

theorem Surroundings.forecast_complete {g : Gist} (complete : g.spec.isIncomplete = false) :
    env.forecast next g = env.fromComplete g := by
  unfold forecast
  rw [complete]
  rfl

theorem Gist.isCompleted_set {g : Gist} {phase : Phase} {onward : Gist → Forecast}
    (completed : g.completed phase = true) : g.isCompleted phase onward = onward g :=
  if_pos completed

theorem Gist.unlessHalted_congr {g : Gist} {onward onward' : Gist → Forecast}
    (same : onward g = onward' g) : g.unlessHalted onward = g.unlessHalted onward' := by
  unfold unlessHalted
  rw [same]

theorem Gist.unlessHalted_running {j : Jenkins} {onward : Gist → Forecast}
    (running : j.isHalted = false) : j.gist.unlessHalted onward = onward j.gist := by
  unfold unlessHalted
  rw [j.isHalted_gist, running]
  rfl

/-- A phase that is stamped is passed. -/
theorem Surroundings.outlook_completed {g : Gist} {phase : Phase} {object stored : Jenkins}
    {handle : ServerHandle} (completed : g.completed phase = true) :
    env.outlook next (.achieved phase object handle) g =
      env.outlook next (.completed phase stored handle) g := by
  cases phase with
  | base => exact Gist.isCompleted_set completed
  | user =>
    show g.unlessHalted Gist.isApplied = g.ends (.ok .done)
    have applied : g.isApplied = g.ends (.ok .done) := Gist.isCompleted_set completed
    unfold Gist.unlessHalted
    rw [applied, ite_self]

/-- A pass that is run anew on the object of a stage comes back to that stage. -/
theorem Reaches.forecast_eq (reached : Reaches (Tends next) identity stage past)
    (gives : ∀ e ∈ past, env.Gives e) :
    ∀ g, stage.object.gist.Extends g → env.forecast next g = env.outlook next stage g := by
  -- An object with at least the stamps of the stage passes each of its calls again without a write,
  -- and the answers to them are the ones that led to the stage.
  induction reached with
  | read object => exact fun g _ => rfl
  | keepSpec _ complete _ =>
    intro g more
    apply Surroundings.forecast_complete
    rw [more.spec]
    exact complete
  | fill stored reached incomplete accepted _ =>
    intro g more
    apply Surroundings.forecast_complete
    rw [more.spec]
    exact (Reaches.fill stored reached incomplete accepted).stands
  | @approve past object accepted _ valid ih =>
    intro g more
    obtain ⟨given, gives⟩ := List.forall_mem_cons.1 gives
    rw [ih gives g more]
    have given : env.acceptsSpec g.spec = .ok accepted := by
      rw [more.spec]
      exact given.symm
    show (match env.acceptsSpec g.spec with
      | .error failure => _
      | .ok accepted => _) = _
    rw [given]
    apply if_pos
    rw [more.spec]
    exact valid
  | keepStart _ started ih =>
    intro g more
    rw [ih gives g more]
    exact congrArg env.fromStart (if_pos (more.started started))
  | start now stored _ unset accepted ih =>
    -- What has the stamp extends what does not have it yet.
    intro g more
    have gives := (List.forall_mem_cons.1 (List.forall_mem_cons.1 gives).2).2
    change stored.gist.Extends g at more
    rw [accepted.gist_start] at more
    rw [ih gives g ((Gist.extends_start _).trans more)]
    exact congrArg env.fromStart (if_pos (more.started rfl))
  | @provision past object handle _ ih =>
    intro g more
    obtain ⟨given, gives⟩ := List.forall_mem_cons.1 gives
    rw [ih gives g more]
    have given : env.provision g.spec = .ok (.ready handle) := by
      rw [more.spec]
      exact given.symm
    show env.fromStart g = _
    unfold Surroundings.fromStart
    rw [given]
    rfl
  | @keepStamp past object handle phase _ completed ih =>
    intro g more
    rw [ih gives g more]
    exact Surroundings.outlook_completed (more.completed phase completed)
  | @stamp past object handle phase now stored _ unset accepted ih =>
    intro g more
    have gives := (List.forall_mem_cons.1 (List.forall_mem_cons.1
      (List.forall_mem_cons.1 gives).2).2).2
    change stored.gist.Extends g at more
    rw [accepted.gist_stamp] at more
    rw [ih gives g ((Gist.extends_stamp _ phase).trans more)]
    exact Surroundings.outlook_completed (more.completed phase (Gist.completed_stamp _ phase))
  | judge _ ih =>
    intro g more
    rw [ih gives g more]
    show env.fromJudged _ g [] g.spec.seedJobs = _
    rw [more.spec]
    rfl
  | @keyless past object handle found job rest _ keyless ih =>
    intro g more
    rw [ih gives g more]
    show env.fromJudged handle g found (job :: rest) = _
    rw [Surroundings.fromJudged, keyless]
    rfl
  | @keyed past object handle found job rest selector data _ keyed ih =>
    intro g more
    obtain ⟨given, gives⟩ := List.forall_mem_cons.1 gives
    rw [ih gives g more]
    have given : env.secret (g.secretIdentity selector) = .ok data := by
      unfold Gist.secretIdentity
      rw [more.identity]
      exact given.symm
    show env.fromJudged handle g found (job :: rest) = _
    rw [Surroundings.fromJudged, keyed]
    dsimp only
    rw [given]
    rfl
  | @seed past object handle _ _ ih =>
    intro g more
    obtain ⟨given, gives⟩ := List.forall_mem_cons.1 gives
    rw [ih gives g more]
    have given : env.ensureSeedJobs handle g.spec = .ok .done := by
      rw [more.spec]
      exact given.symm
    apply Gist.unlessHalted_congr
    unfold Surroundings.fromValidity
    rw [given]
  | @configure past object handle _ ih =>
    intro g more
    obtain ⟨given, gives⟩ := List.forall_mem_cons.1 gives
    have given : env.configureScripts handle = .ok () := given.symm
    rw [ih gives g more]
    apply Gist.unlessHalted_congr
    unfold Surroundings.fromSeeds
    rw [given]
  | @equip past object handle scripts _ ih =>
    intro g more
    obtain ⟨given, gives⟩ := List.forall_mem_cons.1 gives
    have given : env.configMap g.scriptsIdentity = .ok (some scripts) := by
      unfold Gist.scriptsIdentity
      rw [more.identity]
      exact given.symm
    rw [ih gives g more]
    apply Gist.unlessHalted_congr
    unfold Surroundings.fromJob
    rw [given]
  | @apply past object handle scripts _ ih =>
    intro g more
    obtain ⟨given, gives⟩ := List.forall_mem_cons.1 gives
    have given : env.runScripts handle scripts g.spec = .ok true := by
      rw [more.spec]
      exact given.symm
    rw [ih gives g more]
    apply Gist.unlessHalted_congr
    unfold Surroundings.fromScripts
    rw [given]

end JenkinsOperator
