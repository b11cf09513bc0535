import JenkinsOperator.Proofs.Route.Attempt
import JenkinsOperator.Proofs.Route.Standing

/-!
# The order of calls

What a pass does to the world is a list of errands: the calls of the store and of the collaborators,
and the words to the user. The object that a pass reads has an `itinerary`, with a write for each
thing that the object leaves unset. What a pass has done at a stage and what is still ahead of it
are together the itinerary (`Reaches.errands_append_ahead`). So a pass goes along the itinerary from
the start, unless it ends early with one rejection or with the record of a halt (`Follows`).

`reconcilePass_inOrder` says this of every pass at every point, whatever it is answered, together
with the answers that had to come before each call.
-/

namespace JenkinsOperator

/-! ## Errands -/

/-- A call of the store or of a collaborator, or a word to the user. -/
inductive Errand where
  | call (kind : CallKind)
  | event (reason : Reason)
  deriving DecidableEq

/-- The errand of a call; a look at the clock is none. -/
def Call.errand? : Call → Option Errand
  | .publish _ n => some (.event n.reason)
  | c => c.kind?.map .call

/-- The errands so far, the first one first. -/
def errands : Past → List Errand
  | [] => []
  | e :: past => errands past ++ e.call.errand?.toList

namespace JenkinsStatus

variable (s : JenkinsStatus)

/-- A completed phase is stamped and told of, unless it is stamped. -/
def completionErrands (phase : Phase) : List Errand :=
  if (s.completedAt phase).isSome then []
  else [.call .writeStatus, .event phase.successReason]

/-- From the configuration scripts on. -/
def scriptsErrands : List Errand :=
  .call .configureScripts :: .call .readConfigMap :: .call .runScripts :: s.completionErrands .user

/-- From the deploy keys of seed jobs on. -/
def seedErrands (jobs : List SeedJob) : List Errand :=
  (jobs.filter (·.privateKey.isSome)).map (fun _ => .call .readSecret) ++
    .call .ensureSeedJobs :: s.scriptsErrands

/-- From the master on. -/
def masterErrands (jobs : List SeedJob) : List Errand :=
  .call .provision :: (s.completionErrands .base ++ s.seedErrands jobs)

/-- From the start of provisioning on. -/
def startErrands (jobs : List SeedJob) : List Errand :=
  (if s.provisionStart.isSome then [] else [.call .writeStatus]) ++ s.masterErrands jobs

end JenkinsStatus

/-- After an object was read. -/
def Jenkins.errandsAhead (j : Jenkins) : List Errand :=
  (if j.spec.isIncomplete then [.call .writeSpec] else []) ++
    .call .acceptsSpec :: j.statusOrUnset.startErrands j.spec.seedJobs

/-- All errands of a pass that reads an object and is never kept from going on. -/
def Jenkins.itinerary (j : Jenkins) : List Errand := .call .fetch :: j.errandsAhead

/-- The errands ahead at a stage. -/
def Stage.ahead : Stage → List Errand
  | .read object => object.errandsAhead
  | .filled object => .call .acceptsSpec :: object.statusOrUnset.startErrands object.spec.seedJobs
  | .approved object => object.statusOrUnset.startErrands object.spec.seedJobs
  | .started object => object.statusOrUnset.masterErrands object.spec.seedJobs
  | .achieved .base object _ =>
    object.statusOrUnset.completionErrands .base ++
      object.statusOrUnset.seedErrands object.spec.seedJobs
  | .achieved .user object _ => object.statusOrUnset.completionErrands .user
  | .completed .base object _ => object.statusOrUnset.seedErrands object.spec.seedJobs
  | .completed .user _ _ => []
  | .judging object _ _ rest => object.statusOrUnset.seedErrands rest
  | .seeded object _ => object.statusOrUnset.scriptsErrands
  | .configured object _ =>
    .call .readConfigMap :: .call .runScripts :: object.statusOrUnset.completionErrands .user
  | .equipped object _ _ => .call .runScripts :: object.statusOrUnset.completionErrands .user

/-- The ways in which a pass can keep to an itinerary. -/
inductive Follows (itinerary : List Errand) : List Errand → Prop where
  /-- It has gone along the itinerary from the start. -/
  | onward {made : List Errand} : made <+: itinerary → Follows itinerary made
  /-- The master was found invalid, and the user was told. -/
  | rejectedBase {front : List Errand} : front ++ [.call .acceptsSpec] <+: itinerary →
      Follows itinerary (front ++ [.call .acceptsSpec, .event .validationFailure])
  /-- The seed jobs were found invalid before they were run, and the user was told. -/
  | rejectedUser {front : List Errand} : front ++ [.call .ensureSeedJobs] <+: itinerary →
      Follows itinerary (front ++ [.event .validationFailure])
  /-- The seed jobs failed for good, which was recorded first and then told. -/
  | halted {front made : List Errand} : front ++ [.call .ensureSeedJobs] <+: itinerary →
      made <+: front ++ [.call .ensureSeedJobs, .call .writeStatus, .event .seedJobUnrecoverable] →
      Follows itinerary made

variable {server : Jenkins → Jenkins → Prop} {identity : Identity} {past : Past} {stage : Stage}
  {object : Jenkins} {c : Call}

theorem JenkinsStatus.seedErrands_keyless {s : JenkinsStatus} {job : SeedJob} {rest : List SeedJob}
    (keyless : job.privateKey = none) : s.seedErrands (job :: rest) = s.seedErrands rest := by
  unfold seedErrands
  rw [List.filter_cons_of_neg]
  rw [keyless]
  exact Bool.false_ne_true

theorem JenkinsStatus.seedErrands_keyed {s : JenkinsStatus} {job : SeedJob} {rest : List SeedJob}
    {selector : SecretKeySelector} (keyed : job.privateKey = some selector) :
    s.seedErrands (job :: rest) = .call .readSecret :: s.seedErrands rest := by
  unfold seedErrands
  rw [List.filter_cons_of_pos]
  · rfl
  · rw [keyed]
    rfl

theorem JenkinsStatus.completionErrands_unset {s : JenkinsStatus} {phase : Phase}
    (unset : s.completedAt phase = none) :
    s.completionErrands phase = [.call .writeStatus, .event phase.successReason] := by
  unfold completionErrands
  rw [unset]
  rfl

theorem JenkinsStatus.startErrands_unset {s : JenkinsStatus} {jobs : List SeedJob}
    (unset : s.provisionStart = none) :
    s.startErrands jobs = .call .writeStatus :: s.masterErrands jobs := by
  unfold startErrands
  rw [unset]
  rfl

theorem JenkinsStatus.startErrands_set {s : JenkinsStatus} {jobs : List SeedJob}
    (started : s.provisionStart.isSome = true) : s.startErrands jobs = s.masterErrands jobs := by
  unfold startErrands
  rw [if_pos started]
  rfl

theorem Jenkins.errandsAhead_complete (complete : object.spec.isIncomplete = false) :
    object.errandsAhead =
      .call .acceptsSpec :: object.statusOrUnset.startErrands object.spec.seedJobs := by
  unfold errandsAhead
  rw [complete]
  rfl

theorem Jenkins.errandsAhead_incomplete (incomplete : object.spec.isIncomplete = true) :
    object.errandsAhead = .call .writeSpec ::
      .call .acceptsSpec :: object.statusOrUnset.startErrands object.spec.seedJobs := by
  unfold errandsAhead
  rw [if_pos incomplete]
  rfl

/-- The errands so far and those ahead are together the itinerary of the object that was read. -/
def Completes (identity : Identity) (past : Past) (ahead : List Errand) : Prop :=
  ∃ j, ⟨.fetch identity, .ok (some j)⟩ ∈ past ∧ errands past ++ ahead = j.itinerary

/-- An exchange does the errand that was ahead. -/
theorem Completes.cons {e : Call.Exchange} {ahead : List Errand}
    (h : Completes identity past (e.call.errand?.toList ++ ahead)) :
    Completes identity (e :: past) ahead := by
  obtain ⟨j, read, whole⟩ := h
  refine ⟨j, List.mem_cons_of_mem e read, ?_⟩
  rw [← whole]
  exact List.append_assoc (errands past) _ ahead

/-- What a pass has done and what is ahead of it are together the itinerary of the object that it
read. -/
theorem Reaches.errands_append_ahead (reached : Reaches server identity stage past) :
    Completes identity past stage.ahead := by
  induction reached with
  | read object => exact ⟨object, List.mem_singleton_self _, rfl⟩
  | @keepSpec past object _ complete ih =>
    rw [Stage.ahead, Jenkins.errandsAhead_complete complete] at ih
    exact ih
  | @fill past object stored _ incomplete accepted ih =>
    -- With the defaults, nothing changes of what is ahead after them.
    obtain ⟨spec, status, -⟩ := accepted.of_spec
    apply Completes.cons
    rw [Stage.ahead, Jenkins.errandsAhead_incomplete incomplete] at ih
    rw [Stage.ahead, spec, status]
    exact ih
  | approve accepted _ _ ih => exact ih.cons
  | keepStart _ started ih =>
    rw [Stage.ahead, JenkinsStatus.startErrands_set started] at ih
    exact ih
  | @start past object now stored _ unset accepted ih =>
    obtain ⟨spec, status, -⟩ := accepted.of_status
    apply Completes.cons
    apply Completes.cons
    rw [Stage.ahead, JenkinsStatus.startErrands_unset unset] at ih
    rw [Stage.ahead, spec, status]
    exact ih
  | provision handle _ ih => exact ih.cons
  | @keepStamp past object handle phase _ completed ih =>
    -- A phase that is stamped has no errands, whichever it is.
    have none : object.statusOrUnset.completionErrands phase = [] := if_pos completed
    cases phase with
    | base =>
      rw [Stage.ahead, none] at ih
      exact ih
    | user =>
      rw [Stage.ahead, none] at ih
      exact ih
  | @stamp past object handle phase now stored _ unset accepted ih =>
    obtain ⟨spec, status, -⟩ := accepted.of_status
    have both := JenkinsStatus.completionErrands_unset unset
    -- A look at the clock, the write and the word; the first one is no errand.
    apply Completes.cons
    apply Completes.cons
    apply Completes.cons
    cases phase with
    | base =>
      rw [Stage.ahead, both] at ih
      rw [Stage.ahead, spec, status]
      exact ih
    | user =>
      rw [Stage.ahead, both] at ih
      exact ih
  | judge _ ih => exact ih
  | keyless _ keyless ih =>
    rw [Stage.ahead, JenkinsStatus.seedErrands_keyless keyless] at ih
    exact ih
  | keyed selector data _ keyed ih =>
    rw [Stage.ahead, JenkinsStatus.seedErrands_keyed keyed] at ih
    exact ih.cons
  | seed _ _ ih => exact ih.cons
  | configure _ ih => exact ih.cons
  | equip scripts _ ih => exact ih.cons
  | apply _ ih => exact ih.cons

/-! ## Calls that are due -/

/-- Whether the object that a call is about has come far enough for it. -/
def Call.Gated : Call → Prop
  | .acceptsSpec object => object.spec.isIncomplete = false
  | .provision object => object.IsUnderway
  | .ensureSeedJobs _ object => object.IsRunning
  | .runScripts _ _ object => object.IsRunning
  | _ => True

/-- A call that is due stands behind its gate. -/
theorem Due.gated (due : Due server identity past c) : c.Gated := by
  cases due with
  | approve reached => exact reached.stands
  | provision reached => exact reached.stands
  | seed reached running => exact ⟨reached.stands, running⟩
  | apply reached => exact reached.stands
  | _ => trivial

/-- With the next errand done, too, a pass is still on the itinerary. -/
theorem Completes.onward {made rest : List Errand} {j : Jenkins}
    (h : Completes identity past (made ++ rest))
    (first : ∀ i found, ⟨.fetch i, .ok (some found)⟩ ∈ past → found = j) :
    errands past ++ made <+: j.itinerary := by
  obtain ⟨found, read, whole⟩ := h
  cases first identity found read
  exact ⟨rest, (List.append_assoc _ _ _).trans whole⟩

/-- Before a phase is stamped, its errands are the next ones. -/
theorem Reaches.completes_stamp {phase : Phase} {handle : ServerHandle}
    (reached : Reaches server identity (.achieved phase object handle) past)
    (unset : object.statusOrUnset.completedAt phase = none) :
    ∃ rest, Completes identity past
      (.call .writeStatus :: .event phase.successReason :: rest) := by
  have whole := reached.errands_append_ahead
  have both := JenkinsStatus.completionErrands_unset unset
  cases phase with
  | base =>
    rw [Stage.ahead, both] at whole
    exact ⟨_, whole⟩
  | user =>
    rw [Stage.ahead, both] at whole
    exact ⟨[], whole⟩

/-- Before the seed jobs are run, that is the next errand. -/
theorem Reaches.completes_seed {handle : ServerHandle} {found : List String}
    (reached : Reaches server identity (.judging object handle found []) past) :
    Completes identity past ([.call .ensureSeedJobs] ++ object.statusOrUnset.scriptsErrands) :=
  reached.errands_append_ahead

/-- A call that is due keeps a pass to the itinerary of the object that it has read. -/
theorem Due.follows {j : Jenkins} (due : Due server identity past c)
    (first : ∀ i found, ⟨.fetch i, .ok (some found)⟩ ∈ past → found = j) :
    Follows j.itinerary (errands past ++ c.errand?.toList) := by
  cases due with
  | fetch => exact .onward ⟨j.errandsAhead, rfl⟩
  | fill reached incomplete =>
    have whole := reached.errands_append_ahead
    rw [Stage.ahead, Jenkins.errandsAhead_incomplete incomplete] at whole
    exact .onward (whole.onward first)
  | approve reached => exact .onward (reached.errands_append_ahead.onward first)
  | rejectBase accepted reached invalid =>
    -- The verdict is given by the answer to the last call on the itinerary.
    have early i found member := first i found (List.mem_cons_of_mem _ member)
    have whole := reached.errands_append_ahead
    show Follows j.itinerary (errands _ ++ [.call .acceptsSpec] ++ [.event .validationFailure])
    rw [List.append_assoc]
    exact .rejectedBase (whole.onward early)
  | @startClock past object reached unset =>
    have whole : Completes identity past ([] ++ _) := reached.errands_append_ahead
    exact .onward (whole.onward first)
  | start now reached unset =>
    have whole := reached.errands_append_ahead
    rw [Stage.ahead, JenkinsStatus.startErrands_unset unset] at whole
    have next : Completes identity (⟨.clock, now⟩ :: _) ([.call .writeStatus] ++ _) := whole.cons
    exact .onward (next.onward first)
  | provision reached => exact .onward (reached.errands_append_ahead.onward first)
  | @stampClock past object handle phase reached unset =>
    have whole : Completes identity past ([] ++ _) := reached.errands_append_ahead
    exact .onward (whole.onward first)
  | stamp now reached unset =>
    obtain ⟨rest, whole⟩ := reached.completes_stamp unset
    have next : Completes identity (⟨.clock, now⟩ :: _) ([.call .writeStatus] ++ _) := whole.cons
    exact .onward (next.onward first)
  | @announce past object handle phase now stored reached unset accepted =>
    obtain ⟨rest, whole⟩ := reached.completes_stamp unset
    have next : Completes identity (⟨.writeStatus (object.withStamp phase now),
        .ok (.updated stored)⟩ :: ⟨.clock, now⟩ :: past) ([.event phase.successReason] ++ rest) :=
      whole.cons (e := ⟨.clock, now⟩) |>.cons
    exact .onward (next.onward first)
  | readSecret reached keyed =>
    have whole := reached.errands_append_ahead
    rw [Stage.ahead, JenkinsStatus.seedErrands_keyed keyed] at whole
    exact .onward (whole.onward first)
  | rejectUser reached invalid =>
    exact .rejectedUser (reached.completes_seed.onward first)
  | seed reached running => exact .onward (reached.completes_seed.onward first)
  | halt message reached running =>
    -- From here on the pass leaves the itinerary, for two errands at most.
    have early i found member := first i found (List.mem_cons_of_mem _ member)
    apply Follows.halted (reached.completes_seed.onward early)
    show errands _ ++ [_] ++ [_] <+: _
    rw [List.append_assoc]
    exact List.prefix_append_right_inj _ |>.2 ⟨[_], rfl⟩
  | alarm message stored reached running accepted =>
    have early i found member :=
      first i found (List.mem_cons_of_mem _ (List.mem_cons_of_mem _ member))
    apply Follows.halted (reached.completes_seed.onward early)
    show errands _ ++ [_] ++ [_] ++ [_] <+: _
    rw [List.append_assoc, List.append_assoc]
    exact List.prefix_rfl
  | configure reached => exact .onward (reached.errands_append_ahead.onward first)
  | equip reached => exact .onward (reached.errands_append_ahead.onward first)
  | apply reached => exact .onward (reached.errands_append_ahead.onward first)

/-! ## Each call once -/

/-- The status is written and Secrets are read as often as need be, anything else once. -/
theorem Jenkins.count_itinerary (j : Jenkins) {kind : CallKind} (status : kind ≠ .writeStatus)
    (secret : kind ≠ .readSecret) : j.itinerary.count (.call kind) ≤ 1 := by
  have completion (phase : Phase) :
      (j.statusOrUnset.completionErrands phase).count (.call kind) = 0 := by
    unfold JenkinsStatus.completionErrands
    split
    case isTrue => rfl
    case isFalse => simp [List.count_eq_zero, status]
  have start : (if j.statusOrUnset.provisionStart.isSome then []
      else [Errand.call .writeStatus]).count (.call kind) = 0 := by
    split
    case isTrue => rfl
    case isFalse => simp [List.count_eq_zero, status]
  have secrets (jobs : List SeedJob) :
      (jobs.map fun _ => Errand.call .readSecret).count (.call kind) = 0 := by
    apply List.count_eq_zero.2
    intro member
    obtain ⟨-, -, same⟩ := List.mem_map.1 member
    cases same
    exact secret rfl
  -- What is left are the calls that are always made, and the write of defaults; all are different.
  unfold Jenkins.itinerary Jenkins.errandsAhead JenkinsStatus.startErrands
    JenkinsStatus.masterErrands JenkinsStatus.seedErrands JenkinsStatus.scriptsErrands
  simp only [List.count_append, List.count_cons, completion, secrets, start]
  cases kind <;> split <;> simp

/-- Off the itinerary, a pass does nothing but write the status and tell the user. -/
theorem Follows.count {itinerary made : List Errand} (follows : Follows itinerary made)
    {kind : CallKind} (status : kind ≠ .writeStatus) :
    made.count (.call kind) ≤ itinerary.count (.call kind) := by
  cases follows with
  | onward along => exact along.sublist.count_le _
  | @rejectedBase front along =>
    have bound := along.sublist.count_le (.call kind)
    rw [List.count_append] at bound ⊢
    exact bound
  | @rejectedUser front along =>
    have bound := along.sublist.count_le (.call kind)
    rw [List.count_append] at bound ⊢
    exact Nat.le_trans (Nat.le_add_right _ _) bound
  | @halted front _ along made =>
    have bound := along.sublist.count_le (.call kind)
    have whole := made.sublist.count_le (.call kind)
    have rest :
        [Errand.call .writeStatus, .event .seedJobUnrecoverable].count (.call kind) = 0 := by
      simp [List.count_eq_zero, status]
    rw [List.append_cons, List.count_append, rest] at whole
    exact Nat.le_trans whole bound

/-! ## Every pass -/

/-- What holds of the calls of a pass, given what is left of it. -/
structure InOrder (server : Jenkins → Jenkins → Prop) (identity : Identity) (past : Past)
    (rest : Program Failure Outcome) : Prop where
  /-- Each call came after exactly the answers that make it the next one. -/
  due : OnRoute server identity past
  /-- So does the call that is waiting for an answer. -/
  next : ∀ c resume, rest = .call c resume → Due server identity past c
  /-- A pass ends only where the route ends. -/
  ends : ∀ result, rest.result? = some result → Ends server identity past result
  /-- No phase has worked on an object that the phases before it have not prepared. -/
  gated : ∀ e ∈ past, e.call.Gated
  /-- The errands follow the itinerary of the object that was read. -/
  follows : ∀ j, (∀ i found, ⟨.fetch i, .ok (some found)⟩ ∈ past → found = j) →
    Follows j.itinerary (errands past)
  /-- Nothing but status writes and reads of Secrets is done twice. -/
  once : ∀ kind, kind ≠ .writeStatus → kind ≠ .readSecret → (errands past).count (.call kind) ≤ 1

/-- What a pass does at a point, given that all it did before was due. -/
theorem OnRoute.follows {j : Jenkins} (due : OnRoute server identity past)
    (first : ∀ i found, ⟨.fetch i, .ok (some found)⟩ ∈ past → found = j) :
    Follows j.itinerary (errands past) := by
  cases past with
  | nil => exact .onward List.nil_prefix
  | cons e past =>
    exact due.2.follows fun i found member => first i found (List.mem_cons_of_mem e member)

/-- A pass reads one object at most, with its first call. -/
theorem OnRoute.exists_read (due : OnRoute server identity past) :
    ∃ j, ∀ i found, ⟨.fetch i, .ok (some found)⟩ ∈ past → found = j := by
  induction past with
  | nil => exact ⟨.created, fun _ _ member => nomatch member⟩
  | cons e past ih =>
    by_cases reads : ∃ i found, e = ⟨.fetch i, .ok (some found)⟩
    · obtain ⟨i, found, rfl⟩ := reads
      cases due.2
      refine ⟨found, fun i' found' member => ?_⟩
      cases List.mem_singleton.1 member
      rfl
    · obtain ⟨j, read⟩ := ih due.1
      refine ⟨j, fun i found member => ?_⟩
      rcases List.mem_cons.1 member with rfl | member
      · exact absurd ⟨i, found, rfl⟩ reads
      · exact read i found member

/-- Whatever a pass is answered, it makes its calls in order, as long as an accepted write returns
the object as it was stored. -/
theorem reconcilePass_inOrder {rest : Program Failure Outcome}
    (comes : (reconcilePass identity).Comes past rest) (credible : Along (Credible server) past) :
    InOrder server identity past rest := by
  obtain ⟨due, next, ends⟩ := comes.onRoute (credible.imp fun _ _ credible _ => credible)
  refine ⟨due, next, ends, ?gated, fun j first => due.follows first, ?once⟩
  case gated =>
    intro e member
    obtain ⟨early, -, due⟩ := due.exists_early member
    exact due.gated
  case once =>
    intro kind status secret
    obtain ⟨j, read⟩ := due.exists_read
    exact Nat.le_trans ((due.follows read).count status) (j.count_itinerary status secret)

theorem reconcilePass_inOrder_keyed :
    ∃ past rest, (reconcilePass ⟨"default", "ci"⟩).Comes past rest ∧
      Along (Credible (Tends nextGeneration)) past ∧
      InOrder (Tends nextGeneration) ⟨"default", "ci"⟩ past rest ∧
      errands past = [.call .fetch, .call .writeSpec, .call .acceptsSpec, .call .writeStatus,
        .call .provision, .call .writeStatus, .event .baseConfigurationSuccess,
        .call .readSecret, .event .validationFailure] := by
  have visit := visit_serve Behaviour.standard.surroundings .noon ⟨"default", "ci"⟩ .keyed
  obtain ⟨rest, comes, -⟩ := visit.comes
  have credible := visit.interrupted.credible
  exact ⟨_, rest, comes, credible, reconcilePass_inOrder comes credible, by decide +kernel⟩

end JenkinsOperator
