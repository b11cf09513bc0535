import JenkinsOperator.Proofs.Pass.Protocol
import JenkinsOperator.Proofs.Resource.Defaults

/-!
# The steps of a pass keep to the protocol

One lemma for each part of a pass: where the part may start, and what holds once it is through and
the pass goes on. `reconcilePass_keeps` joins them.
-/

namespace JenkinsOperator

/-- A pass that holds a copy, owes nothing and has no failure to record. -/
structure Standing (past : Past) (j : Jenkins) : Prop where
  held : held? past = some j
  clear : ∀ m : Milestone, m.owed past = false
  calm : failed? past = none

/-- At a standing point, every call is in order that fits and tells the user nothing. -/
theorem Standing.permit {past : Past} {j : Jenkins} {c : Call} (h : Standing past j)
    (quiet : c.isPublish = false) (fits : Fits past c) : Permitted past c :=
  ⟨fun m => (Milestone.toldBy_of_not_isPublish quiet m).trans (h.clear m).symm, fits,
    fun _ failed => nomatch h.calm.symm.trans failed⟩

/-- At a standing point, a status may be written that is one step ahead. -/
theorem Standing.permit_status {past : Past} {j : Jenkins} {s : JenkinsStatus}
    (h : Standing past j) (advance : Advance past j s) :
    Permitted past (.writeStatus { j with status := some s }) :=
  h.permit rfl ⟨j, s, h.held, advance, rfl⟩

/-- A pass may end after an exchange that keeps it from the seed jobs. -/
theorem settled_of_hinders {past : Past} {e : Call.Exchange} (hinders : e.hinders = true)
    (clear : ∀ m : Milestone, m.owed (e :: past) = false) (calm : failed? (e :: past) = none) :
    Settled (e :: past) :=
  ⟨clear, calm, .inl ⟨e, List.mem_cons_self, hinders⟩⟩

namespace Pass

variable {server : Jenkins → Jenkins → Prop} {past : Past} {object : Jenkins}

theorem keeps_lift {α : Type} {Q : α → Past → Prop} {p : Program Failure α}
    (h : p.Keeps (protocol server Failure) Q past) :
    (liftM p : Pass α).Keeps (protocol server Exit) Q past :=
  (Program.keeps_mapExit Exit.failed p).2 h

/-! ## Writes -/

/-- A status is written and the object as it was stored is held, or the pass ends. -/
theorem saveStatus_keeps {Q : Jenkins → Past → Prop} {status : JenkinsStatus}
    (held : held? past = some object)
    (permitted : Permitted past (.writeStatus { object with status := some status }))
    (next : ∀ stored : Jenkins, stored.spec = object.spec → stored.status = some status →
      Q stored (⟨.writeStatus { object with status := some status }, .ok (.updated stored)⟩
        :: past)) :
    (saveStatus object status).Keeps (protocol server Exit) Q past := by
  refine Program.keeps_bind.2 (keeps_lift (Program.keeps_ask.2 ⟨permitted, ?_⟩))
  rintro (failure | stored | _) credible
  · exact settled_of_hinders rfl (fun _ => rfl) rfl
  · -- The store has accepted a write of the copy held, and it returns what it made of that copy.
    obtain ⟨before, held', accepted⟩ := credible stored rfl
    cases held.symm.trans held'
    cases accepted with
    | status _ _ spec status _ => exact next stored spec status
  · exact settled_of_hinders rfl (fun _ => rfl) rfl

/-- The defaults are written at most once, right after the object was read, and leave it
complete. -/
theorem persistDefaults_keeps {Q : Jenkins → Past → Prop} (standing : Standing past object)
    (fetched : ∀ e ∈ past, e.call.isFetch)
    (next : ∀ stored past', Standing past' stored → stored.spec.isIncomplete = false →
      Q stored past') :
    (persistDefaults object).Keeps (protocol server Exit) Q past := by
  rw [persistDefaults_eq]
  split
  case isFalse complete => exact next object past standing (Bool.eq_false_iff.2 complete)
  case isTrue incomplete =>
    refine Program.keeps_bind.2 (keeps_lift (Program.keeps_ask.2 ⟨?_, ?_⟩))
    · exact standing.permit rfl ⟨object, standing.held, fetched, incomplete, rfl⟩
    · rintro (failure | stored | _) credible
      · exact settled_of_hinders rfl (fun _ => rfl) rfl
      · obtain ⟨before, -, accepted⟩ := credible stored rfl
        cases accepted with
        | spec _ _ spec _ _ =>
          refine next stored _ ⟨rfl, fun _ => rfl, rfl⟩ ?_
          rw [spec]
          exact object.spec.isIncomplete_withDefaults
      · exact settled_of_hinders rfl (fun _ => rfl) rfl

/-! ## Validation -/

/-- A report with violations is told to the user as one of the validation that has found them. -/
theorem require_keeps {Q : Unit → Past → Prop} {subject : String} {report : Report}
    (standing : Standing past object)
    (judged : subject = "Base" ∧ BaseVerdict past object.spec report.violations ∨
      subject = "User" ∧ UserVerdict past object.spec report.violations)
    (next : report.isValid = true → Q () past) :
    (require object subject report).Keeps (protocol server Exit) Q past := by
  unfold require
  split
  case isTrue valid => exact next valid
  case isFalse invalid =>
    have invalid := Bool.eq_false_iff.2 invalid
    have rejects : Rejects past object.spec (.rejection subject report.violations) :=
      ⟨rfl, rfl, rfl, subject, report.violations, mt List.isEmpty_iff.2 (Bool.eq_false_iff.1 invalid),
        judged, rfl⟩
    rw [report.validationFailed_eq invalid]
    have permitted : Permitted past (.publish object (.rejection subject report.violations)) := by
      refine ⟨fun m => ?_, ⟨standing.held, .rejected _ rejects⟩, fun j failed => ?_⟩
      · -- A rejection tells of no milestone, and none is owed.
        rw [standing.clear m]
        cases m with
        | completed phase => cases phase <;> rfl
        | halted generation => rfl
      · exact nomatch standing.calm.symm.trans failed
    refine Program.keeps_bind.2 (keeps_lift ⟨permitted, ?_⟩)
    intro _ _
    exact settled_of_hinders rfl (fun _ => rfl) rfl

/-- The validation of the master asks one question, and its report is the verdict on what was
answered. -/
theorem validateBase_keeps {Q : Report → Past → Prop} (standing : Standing past object)
    (complete : object.spec.isIncomplete = false)
    (next : ∀ report past', past ⊆ past' → Standing past' object →
      BaseVerdict past' object.spec report.violations → Q report past') :
    (validateBase object).Keeps (protocol server Failure) Q past := by
  refine Program.keeps_bind.2 (Program.keeps_ask.2 ⟨?_, ?_⟩)
  · exact standing.permit rfl ⟨standing.held, complete⟩
  · rintro (failure | accepted) -
    · exact settled_of_hinders rfl (fun _ => rfl) rfl
    · refine next _ _ (List.subset_cons_self _ past) ⟨standing.held, fun _ => rfl, rfl⟩ ?_
      exact ⟨object, accepted, List.mem_cons_self, rfl, rfl⟩

theorem validateSeedJob_keeps {Q : List String → Past → Prop} {namespaceName : String}
    {job : SeedJob} (standing : Standing past object) (listed : job ∈ object.spec.seedJobs)
    (next : ∀ violations past', past ⊆ past' → Standing past' object →
      JobVerdict past' job violations → Q violations past') :
    (validateSeedJob namespaceName job).Keeps (protocol server Failure) Q past := by
  unfold validateSeedJob
  split
  case h_1 keyless => exact next _ past (List.Subset.refl past) standing (.keyless keyless)
  case h_2 selector named =>
    refine Program.keeps_bind.2 (Program.keeps_ask.2 ⟨?_, ?_⟩)
    · exact standing.permit rfl ⟨object, job, selector, standing.held, listed, named, rfl⟩
    · rintro (failure | data) -
      · exact settled_of_hinders rfl (fun _ => rfl) rfl
      · refine next _ _ (List.subset_cons_self _ past) ⟨standing.held, fun _ => rfl, rfl⟩ ?_
        exact .keyed selector _ data named rfl List.mem_cons_self

/-- All jobs are judged, each by exchanges that are still known when the last one is judged. -/
theorem validateSeedJobs_keeps {Q : List String → Past → Prop} {namespaceName : String}
    {jobs : List SeedJob} (standing : Standing past object) (listed : jobs ⊆ object.spec.seedJobs)
    (next : ∀ lists past', past ⊆ past' → Standing past' object →
      List.Forall₂ (JobVerdict past') jobs lists → Q lists.flatten past') :
    (validateSeedJobs namespaceName jobs).Keeps (protocol server Failure) Q past := by
  induction jobs generalizing past Q with
  | nil => exact next [] past (List.Subset.refl past) standing .nil
  | cons job rest ih =>
    -- The first job is judged by its own exchanges, the others by those that follow.
    obtain ⟨first, others⟩ := List.cons_subset.1 listed
    refine Program.keeps_bind.2 (validateSeedJob_keeps standing first ?_)
    intro own past₁ grown₁ standing₁ judged
    refine Program.keeps_bind.2 (ih standing₁ others ?_)
    intro lists past₂ grown₂ standing₂ judgedRest
    exact next (own :: lists) past₂ (List.Subset.trans grown₁ grown₂) standing₂
      (.cons (judged.mono grown₂) judgedRest)

/-- The validation of the seed jobs ends with the verdict on all of them. -/
theorem validateUser_keeps {Q : Report → Past → Prop} (standing : Standing past object)
    (next : ∀ report past', past ⊆ past' → Standing past' object →
      UserVerdict past' object.spec report.violations → Q report past') :
    (validateUser object).Keeps (protocol server Failure) Q past := by
  refine Program.keeps_bind.2 (validateSeedJobs_keeps standing (List.Subset.refl _) ?_)
  intro lists past' grown standing' judged
  exact next ⟨lists.flatten⟩ past' grown standing' ⟨lists, judged, rfl⟩

/-! ## Stamps -/

/-- The start is stamped for a valid master, unless it was stamped before. -/
theorem markStart_keeps {Q : Jenkins → Past → Prop} (standing : Standing past object)
    (verdict : BaseVerdict past object.spec [])
    (next : ∀ stored past', past ⊆ past' → Standing past' stored → stored.spec = object.spec →
      stored.statusOrUnset.provisionStart.isSome → Q stored past') :
    (markStart object).Keeps (protocol server Exit) Q past := by
  unfold markStart
  split
  case isTrue started => exact next object past (List.Subset.refl past) standing rfl started
  case isFalse unset =>
    refine Program.keeps_bind.2 (keeps_lift ⟨standing.permit rfl trivial, fun now _ => ?_⟩)
    have standing' : Standing (⟨.clock, now⟩ :: past) object := ⟨standing.held, fun _ => rfl, rfl⟩
    have grown : past ⊆ ⟨.clock, now⟩ :: past := List.subset_cons_self _ past
    have advance := Advance.start now (Option.not_isSome_iff_eq_none.1 unset) (verdict.mono grown)
    refine saveStatus_keeps standing'.held (standing'.permit_status advance) ?_
    intro stored spec status
    have status := Jenkins.statusOrUnset_of_eq_some status
    refine next stored _ (List.subset_cons_of_subset _ grown) ⟨rfl, fun m => ?_, rfl⟩ spec ?_
    · -- The start of provisioning is no milestone, so its stamp leaves nothing to tell.
      rw [m.owed_writeStatus standing'.held, status]
      cases m with
      | completed phase => cases phase <;> exact Bool.not_and_self _
      | halted generation => exact Bool.not_and_self _
    · rw [status]
      rfl

/-- A phase that is done is stamped and told of, unless it was stamped before. -/
theorem completePhase_keeps {Q : Jenkins → Past → Prop} {phase : Phase}
    (standing : Standing past object) (done : PhaseDone past object phase)
    (next : ∀ stored past', past ⊆ past' → Standing past' stored → stored.spec = object.spec →
      (stored.statusOrUnset.completedAt phase).isSome → Q stored past') :
    (completePhase phase object).Keeps (protocol server Exit) Q past := by
  unfold completePhase
  split
  case isTrue completed => exact next object past (List.Subset.refl past) standing rfl completed
  case isFalse unset =>
    have unset := Option.not_isSome_iff_eq_none.1 unset
    refine Program.keeps_bind.2 (keeps_lift ⟨standing.permit rfl trivial, fun now _ => ?_⟩)
    have standing' : Standing (⟨.clock, now⟩ :: past) object := ⟨standing.held, fun _ => rfl, rfl⟩
    have grown : past ⊆ ⟨.clock, now⟩ :: past := List.subset_cons_self _ past
    have advance := Advance.complete phase now unset (done.mono grown)
    refine Program.keeps_bind.2
      (saveStatus_keeps standing'.held (standing'.permit_status advance) ?_)
    intro stored spec status
    have status := Jenkins.statusOrUnset_of_eq_some status
    refine Program.keeps_bind.2 (keeps_lift
      ⟨⟨fun m => ?_, ⟨rfl, .completed phase⟩, fun _ failed => nomatch failed⟩, fun _ _ => ?_⟩)
    · rw [m.owed_writeStatus standing'.held, status]
      exact m.toldBy_completed unset
    · refine next stored _ ?_ ⟨rfl, fun _ => rfl, rfl⟩ spec ?_
      · exact List.subset_cons_of_subset _ (List.subset_cons_of_subset _ grown)
      · rw [status, JenkinsStatus.completedAt_stamp]
        rfl

/-- A pass that has recorded a halt has looked after the seed jobs, and ends. -/
theorem haltSeedJobs_keeps {Q : Unit → Past → Prop} {handle : ServerHandle} {message : String}
    (held : held? past = some object) (clear : ∀ m : Milestone, m.owed past = false)
    (failed : failed? past = some object) (running : object.isHalted = false)
    (completed : object.statusOrUnset.baseCompleted.isSome)
    (provisioned : Provisioned past object.spec)
    (seeded : ⟨.ensureSeedJobs handle object, .ok (.unrecoverable message)⟩ ∈ past) :
    (haltSeedJobs object message).Keeps (protocol server Exit) Q past := by
  have advance := Advance.halt handle message running completed provisioned seeded
  have permitted : Permitted past (.writeStatus object.withHalt) := by
    refine ⟨fun m => ?_, ⟨object, _, held, advance, rfl⟩, fun j failed' => ?_⟩
    · exact (Milestone.toldBy_of_not_isPublish rfl m).trans (clear m).symm
    · cases failed.symm.trans failed'
      rfl
  refine Program.keeps_bind.2 (saveStatus_keeps held permitted fun stored _ status => ?_)
  have status := Jenkins.statusOrUnset_of_eq_some status
  have recorded : stored.statusOrUnset.haltedGeneration = object.metadata.generation := by
    rw [status]
  refine Program.keeps_bind.2 (keeps_lift ⟨⟨fun m => ?_, ⟨rfl,
    .halted message _ object past rfl held recorded⟩, fun _ failed' => nomatch failed'⟩,
    fun _ _ => ?_⟩)
  · rw [m.owed_writeStatus held]
    exact m.toldBy_seedJobsHalted running status
  · refine ⟨fun _ => rfl, rfl, .inr (.inl ⟨handle, object, .ok (.unrecoverable message), ?_⟩)⟩
    exact List.mem_cons_of_mem _ (List.mem_cons_of_mem _ seeded)

/-! ## Phases -/

/-- The base phase keeps to the protocol, and ends with a master that is provisioned and stamped. -/
theorem basePhase_keeps {Q : Jenkins × ServerHandle → Past → Prop} (standing : Standing past object)
    (complete : object.spec.isIncomplete = false)
    (next : ∀ stored handle past', Standing past' stored → Provisioned past' stored.spec →
      stored.statusOrUnset.baseCompleted.isSome → Q (stored, handle) past') :
    (basePhase object).Keeps (protocol server Exit) Q past := by
  refine Program.keeps_bind.2 (keeps_lift (validateBase_keeps standing complete ?_))
  intro report past₁ _ standing₁ judged
  refine Program.keeps_bind.2 (require_keeps standing₁ (.inl ⟨rfl, judged⟩) ?_)
  intro valid
  rw [List.isEmpty_iff.1 valid] at judged
  -- The start may be stamped by a write, but the copy it returns has the specification judged.
  refine Program.keeps_bind.2 (markStart_keeps standing₁ judged ?_)
  intro started past₂ grown₂ standing₂ spec₂ start
  have judged₂ : BaseVerdict past₂ started.spec [] := spec₂ ▸ judged.mono grown₂
  refine Program.keeps_bind.2 (keeps_lift (Program.keeps_ask.2 ⟨?_, ?_⟩))
  · exact standing₂.permit rfl ⟨standing₂.held, judged₂⟩
  rintro (failure | delay | handle) -
  · exact settled_of_hinders rfl (fun _ => rfl) rfl
  · exact settled_of_hinders rfl (fun _ => rfl) rfl
  · have standing₃ : Standing (⟨.provision started, .ok (.ready handle)⟩ :: past₂) started :=
      ⟨standing₂.held, fun _ => rfl, rfl⟩
    have provisioned : Provisioned (⟨.provision started, .ok (.ready handle)⟩ :: past₂)
        started.spec :=
      ⟨judged₂.mono (List.subset_cons_self _ _), started, handle, List.mem_cons_self, rfl⟩
    refine Program.keeps_bind.2 (completePhase_keeps standing₃ ⟨provisioned, start⟩ ?_)
    intro stored past₄ grown₄ standing₄ spec₄ completed
    exact next stored handle past₄ standing₄ (spec₄ ▸ provisioned.mono grown₄) completed

/-- The seed jobs are asked for once, and a failure for good is recorded and told of. -/
theorem awaitSeedJobs_keeps {Q : Unit → Past → Prop} {handle : ServerHandle}
    (standing : Standing past object) (running : object.isHalted = false)
    (completed : object.statusOrUnset.baseCompleted.isSome)
    (provisioned : Provisioned past object.spec) (verdict : UserVerdict past object.spec [])
    (next : Standing (⟨.ensureSeedJobs handle object, .ok .done⟩ :: past) object →
      Q () (⟨.ensureSeedJobs handle object, .ok .done⟩ :: past)) :
    (awaitSeedJobs object handle).Keeps (protocol server Exit) Q past := by
  refine Program.keeps_bind.2 (keeps_lift (Program.keeps_ask.2 ⟨?_, ?_⟩))
  · exact standing.permit rfl ⟨standing.held, running, provisioned, verdict⟩
  · rintro answer -
    have seeded : Seeded (⟨.ensureSeedJobs handle object, answer⟩ :: past) :=
      ⟨handle, object, answer, List.mem_cons_self⟩
    match answer with
    | .error _ => exact ⟨fun _ => rfl, rfl, .inr (.inl seeded)⟩
    | .ok .done => exact next ⟨standing.held, fun _ => rfl, rfl⟩
    | .ok .pending => exact ⟨fun _ => rfl, rfl, .inr (.inl seeded)⟩
    | .ok (.buildFailed _) => exact ⟨fun _ => rfl, rfl, .inr (.inl seeded)⟩
    | .ok (.unrecoverable message) =>
      -- The only answer that leaves something to record before the pass may end.
      exact haltSeedJobs_keeps standing.held (fun _ => rfl) rfl running completed
        (provisioned.mono (List.subset_cons_self _ _)) List.mem_cons_self

/-- The scripts run after the job for them is configured and they have been read. -/
theorem awaitScripts_keeps {Q : Unit → Past → Prop} {handle : ServerHandle}
    (standing : Standing past object)
    (seeded : ⟨.ensureSeedJobs handle object, .ok .done⟩ ∈ past)
    (next : ∀ scripts past', past ⊆ past' → Standing past' object →
      ⟨.runScripts handle scripts object, .ok true⟩ ∈ past' → Q () past') :
    (awaitScripts object handle).Keeps (protocol server Exit) Q past := by
  -- However the pass ends from here on, it has looked after the seed jobs.
  have settled : ∀ {e past'}, past ⊆ past' → (∀ m : Milestone, m.owed (e :: past') = false) →
      failed? (e :: past') = none → Settled (e :: past') := fun grown clear calm =>
    ⟨clear, calm, .inr (.inl ⟨handle, object, _, List.mem_cons_of_mem _ (grown seeded)⟩)⟩
  refine Program.keeps_bind.2 (keeps_lift (Program.keeps_ask.2 ⟨?_, ?_⟩))
  · exact standing.permit rfl ⟨object, seeded⟩
  rintro (failure | _) -
  · exact settled (List.Subset.refl past) (fun _ => rfl) rfl
  have grown₁ : past ⊆ ⟨.configureScripts handle, .ok ()⟩ :: past := List.subset_cons_self _ past
  refine Program.keeps_bind.2 (keeps_lift (Program.keeps_ask.2 ⟨?_, ?_⟩))
  · exact Standing.permit ⟨standing.held, fun _ => rfl, rfl⟩ rfl ⟨handle, List.mem_cons_self⟩
  rintro (failure | _ | scripts) -
  · exact settled grown₁ (fun _ => rfl) rfl
  · exact settled grown₁ (fun _ => rfl) rfl
  have grown₂ := List.subset_cons_of_subset
    ⟨.readConfigMap ⟨object.metadata.namespaceName.getD "", object.configMapName⟩,
      .ok (some scripts)⟩ grown₁
  refine Program.keeps_bind.2 (keeps_lift (Program.keeps_ask.2 ⟨?_, ?_⟩))
  · exact Standing.permit ⟨standing.held, fun _ => rfl, rfl⟩ rfl
      ⟨standing.held, List.mem_cons_of_mem _ List.mem_cons_self⟩
  rintro (failure | _ | _) -
  · exact settled grown₂ (fun _ => rfl) rfl
  · exact settled grown₂ (fun _ => rfl) rfl
  · exact next scripts _ (List.subset_cons_of_subset _ grown₂) ⟨standing.held, fun _ => rfl, rfl⟩
      List.mem_cons_self

/-- The user phase keeps to the protocol to its end. -/
theorem userPhase_keeps {handle : ServerHandle} (standing : Standing past object)
    (provisioned : Provisioned past object.spec)
    (completed : object.statusOrUnset.baseCompleted.isSome) :
    (userPhase object handle).Keeps (protocol server Exit) (fun _ => Settled) past := by
  refine Program.keeps_bind.2 (keeps_lift (validateUser_keeps standing ?_))
  intro report past₁ grown₁ standing₁ judged
  refine Program.keeps_bind.2 (require_keeps standing₁ (.inr ⟨rfl, judged⟩) ?_)
  intro valid
  rw [List.isEmpty_iff.1 valid] at judged
  have provisioned₁ := provisioned.mono grown₁
  split
  case isTrue halted =>
    exact ⟨standing₁.clear, standing₁.calm, .inr (.inr (.inl ⟨object, standing₁.held, halted⟩))⟩
  case isFalse running =>
    -- What was found before stays true of the longer past, up to the completion of the phase.
    have running := Bool.eq_false_iff.2 running
    refine Program.keeps_bind.2
      (awaitSeedJobs_keeps standing₁ running completed provisioned₁ judged fun standing₂ => ?_)
    have grown₂ : past₁ ⊆ ⟨.ensureSeedJobs handle object, .ok .done⟩ :: past₁ :=
      List.subset_cons_self _ past₁
    refine Program.keeps_bind.2 (awaitScripts_keeps standing₂ List.mem_cons_self ?_)
    intro scripts past₃ grown₃ standing₃ applied
    have grown := List.Subset.trans grown₂ grown₃
    have done : PhaseDone past₃ object .user :=
      ⟨provisioned₁.mono grown, completed, judged.mono grown, handle, scripts, applied⟩
    refine Program.keeps_bind.2 (Program.keeps_bind.2 (completePhase_keeps standing₃ done ?_))
    intro stored past₄ grown₄ standing₄ _ _
    exact ⟨standing₄.clear, standing₄.calm,
      .inr (.inl ⟨handle, object, _, grown₄ (grown₃ List.mem_cons_self)⟩)⟩

/-- The steps of a pass keep to the protocol from the first call on. -/
theorem steps_keeps (server : Jenkins → Jenkins → Prop) (identity : Identity) :
    (steps identity).Keeps (protocol server Exit) (fun _ => Settled) [] := by
  refine Program.keeps_bind.2 (keeps_lift (Program.keeps_ask.2 ⟨?_, ?_⟩))
  · exact ⟨fun m => Milestone.toldBy_of_not_isPublish rfl m, rfl, fun _ failed => nomatch failed⟩
  rintro (failure | _ | object) -
  · exact settled_of_hinders rfl (fun _ => rfl) rfl
  · exact ⟨fun _ => rfl, rfl, .inr (.inr (.inr rfl))⟩
  have standing : Standing [⟨.fetch identity, .ok (some object)⟩] object := ⟨rfl, fun _ => rfl, rfl⟩
  refine Program.keeps_bind.2 (persistDefaults_keeps standing ?_ ?_)
  · exact fun e fetched => List.mem_singleton.1 fetched ▸ rfl
  intro stored past₁ standing₁ complete
  refine Program.keeps_bind.2 (basePhase_keeps standing₁ complete ?_)
  intro ready handle past₂ standing₂ provisioned completed
  exact userPhase_keeps standing₂ provisioned completed

end Pass

/-- A pass keeps to the protocol, whatever the server does to the metadata of an object. -/
theorem reconcilePass_keeps (server : Jenkins → Jenkins → Prop) (identity : Identity) :
    (reconcilePass identity).Keeps (protocol server Failure) (fun _ => Settled) [] := by
  refine (Pass.steps_keeps server identity).handle rfl rfl fun reason past settled => ?_
  cases reason with
  | failed failure => exact settled
  | ended outcome => exact settled

end JenkinsOperator
