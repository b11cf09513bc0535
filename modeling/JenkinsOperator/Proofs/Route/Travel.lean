import JenkinsOperator.Proofs.Route.Basic

/-!
# Passes keep to the route

One lemma for each part of a pass: the stage at which the part starts, and the stage at which the
pass goes on after it. `reconcilePass_travels` joins them: along every path of answers, a pass makes
the call that is due, and ends where the route ends and with that result. The answers are arbitrary,
except that an accepted write returns the object that the store made of the copy.
-/

namespace JenkinsOperator

variable {server : Jenkins → Jenkins → Prop} {identity : Identity} {past : Past} {stage : Stage}
  {object : Jenkins}

/-- The route as a conduct of programs, by the result that a reason to leave comes to. -/
def route (server : Jenkins → Jenkins → Prop) (identity : Identity) {ε : Type}
    (result : ε → Except Failure Outcome) : Conduct ε where
  credible := Credible server
  permits := Due server identity
  leaves := fun reason past => Ends server identity past (result reason)

/-- The copy of the object at a stage is the one that was returned last. -/
theorem Reaches.held (reached : Reaches server identity stage past) :
    held? past = some stage.object := by
  induction reached with
  | read object => rfl
  | fill stored _ _ _ _ => rfl
  | start now stored _ _ _ _ => rfl
  | stamp now stored _ _ _ _ => rfl
  | keepSpec _ _ ih => exact ih
  | approve accepted _ _ ih => exact ih
  | keepStart _ _ ih => exact ih
  | provision handle _ ih => exact ih
  | keepStamp _ _ ih => exact ih
  | judge _ ih => exact ih
  | keyless _ _ ih => exact ih
  | keyed selector data _ _ ih => exact ih
  | seed _ _ ih => exact ih
  | configure _ ih => exact ih
  | equip scripts _ ih => exact ih
  | apply _ ih => exact ih

theorem Reaches.eq_held (reached : Reaches server identity stage past)
    (held : held? past = some object) : stage.object = object :=
  Option.some_inj.1 (reached.held.symm.trans held)

/-- What a store returns from an accepted write is what it made of the copy held. -/
theorem Credible.accepted {c : Call} {answer : c.Answer} {stored : Jenkins}
    (credible : Credible server past ⟨c, answer⟩) (held : held? past = some object)
    (returned : c.stored? answer = some stored) : Accepted server object stored c := by
  obtain ⟨before, held', accepted⟩ := credible stored returned
  cases held.symm.trans held'
  exact accepted

namespace Pass

theorem keeps_liftM {α : Type} {Q : α → Past → Prop} {p : Program Failure α}
    (h : p.Keeps (route server identity .error) Q past) :
    (liftM p : Pass α).Keeps (route server identity settle) Q past :=
  (Program.keeps_mapExit Exit.failed p).2 h

/-! ## Writes -/

/-- A write of a status that is due goes on with the object as it was stored, or ends the pass. -/
theorem saveStatus_travels {Q : Jenkins → Past → Prop} {status : JenkinsStatus}
    (held : held? past = some object)
    (due : Due server identity past (.writeStatus { object with status := some status }))
    (next : ∀ stored,
      Accepted server object stored (.writeStatus { object with status := some status }) →
      Q stored (⟨.writeStatus { object with status := some status }, .ok (.updated stored)⟩
        :: past)) :
    (saveStatus object status).Keeps (route server identity settle) Q past := by
  refine Program.keeps_bind.2 (keeps_liftM (Program.keeps_ask.2 ⟨due, ?_⟩))
  rintro (failure | stored | _) credible
  · exact .failed _ failure due rfl
  · exact next stored (credible.accepted held rfl)
  · exact .lost _ due rfl

/-- Writing the defaults leads from an object that was read to one that is complete. -/
theorem persistDefaults_travels {Q : Jenkins → Past → Prop}
    (reached : Reaches server identity (.read object) past)
    (next : ∀ stored past', Reaches server identity (.filled stored) past' → Q stored past') :
    (persistDefaults object).Keeps (route server identity settle) Q past := by
  rw [persistDefaults_eq]
  split
  case isFalse complete =>
    exact next object past (.keepSpec reached (Bool.eq_false_iff.2 complete))
  case isTrue incomplete =>
    have due := Due.fill reached incomplete
    refine Program.keeps_bind.2 (keeps_liftM (Program.keeps_ask.2 ⟨due, ?_⟩))
    rintro (failure | stored | _) credible
    · exact .failed _ failure due rfl
    · have accepted := credible.accepted reached.held rfl
      exact next stored _ (.fill stored reached incomplete accepted)
    · exact .lost _ due rfl

theorem markStart_travels {Q : Jenkins → Past → Prop}
    (reached : Reaches server identity (.approved object) past)
    (next : ∀ stored past', Reaches server identity (.started stored) past' → Q stored past') :
    (markStart object).Keeps (route server identity settle) Q past := by
  unfold markStart
  split
  case isTrue started => exact next object past (.keepStart reached started)
  case isFalse unset =>
    have unset := Option.not_isSome_iff_eq_none.1 unset
    refine Program.keeps_bind.2 (keeps_liftM ⟨.startClock reached unset, fun now _ => ?_⟩)
    refine saveStatus_travels reached.held (.start now reached unset) fun stored accepted => ?_
    exact next stored _ (.start now stored reached unset accepted)

theorem completePhase_travels {Q : Jenkins → Past → Prop} {phase : Phase} {handle : ServerHandle}
    (reached : Reaches server identity (.achieved phase object handle) past)
    (next : ∀ stored past', Reaches server identity (.completed phase stored handle) past' →
      Q stored past') :
    (completePhase phase object).Keeps (route server identity settle) Q past := by
  unfold completePhase
  split
  case isTrue completed => exact next object past (.keepStamp reached completed)
  case isFalse unset =>
    have unset := Option.not_isSome_iff_eq_none.1 unset
    refine Program.keeps_bind.2 (keeps_liftM ⟨.stampClock reached unset, fun now _ => ?_⟩)
    refine Program.keeps_bind.2 (saveStatus_travels reached.held (.stamp now reached unset) ?_)
    intro stored accepted
    have due := Due.announce now stored reached unset accepted
    refine Program.keeps_bind.2 (keeps_liftM ⟨due, fun _ _ => ?_⟩)
    exact next stored _ (.stamp now stored reached unset accepted)

/-- A pass that has recorded a halt tells the user, and ends. -/
theorem haltSeedJobs_travels {Q : Unit → Past → Prop} {handle : ServerHandle} {message : String}
    (reached : Reaches server identity (.judging object handle [] []) past)
    (running : object.isHalted = false) :
    (haltSeedJobs object message).Keeps (route server identity settle) Q
      (⟨.ensureSeedJobs handle object, .ok (.unrecoverable message)⟩ :: past) := by
  have held : held? (⟨.ensureSeedJobs handle object, .ok (.unrecoverable message)⟩ :: past) =
      some object := reached.held
  refine Program.keeps_bind.2 (saveStatus_travels held (.halt message reached running) ?_)
  intro stored accepted
  have due := Due.alarm message stored reached running accepted
  exact Program.keeps_bind.2 (keeps_liftM ⟨due, fun _ _ => .warned due rfl⟩)

/-! ## Validation -/

/-- A report with violations ends the pass with a rejection, one without lets it go on. -/
theorem require_travels {Q : Unit → Past → Prop} {subject : String} {report : Report}
    (due : report.violations ≠ [] →
      Due server identity past (.publish object (.rejection subject report.violations)))
    (next : report.violations = [] → Q () past) :
    (require object subject report).Keeps (route server identity settle) Q past := by
  unfold require
  split
  case isTrue valid => exact next (List.isEmpty_iff.1 valid)
  case isFalse invalid =>
    have due := due fun none => invalid (List.isEmpty_iff.2 none)
    rw [report.validationFailed_eq (Bool.eq_false_iff.2 invalid)]
    exact Program.keeps_bind.2 (keeps_liftM ⟨due, fun _ _ => .warned due rfl⟩)

theorem validateBase_travels {Q : Report → Past → Prop}
    (reached : Reaches server identity (.filled object) past)
    (next : ∀ accepted, Q ⟨object.spec.baseViolations accepted⟩
      (⟨.acceptsSpec object, .ok accepted⟩ :: past)) :
    (validateBase object).Keeps (route server identity .error) Q past := by
  have due := Due.approve reached
  refine Program.keeps_bind.2 (Program.keeps_ask.2 ⟨due, ?_⟩)
  rintro (failure | accepted) -
  · exact .failed _ failure due rfl
  · exact next accepted

theorem validateSeedJob_travels {Q : List String → Past → Prop} {handle : ServerHandle}
    {found : List String} {job : SeedJob} {rest : List SeedJob}
    (reached : Reaches server identity (.judging object handle found (job :: rest)) past)
    (next : ∀ violations past',
      Reaches server identity (.judging object handle (found ++ violations) rest) past' →
      Q violations past') :
    (validateSeedJob (object.metadata.namespaceName.getD "") job).Keeps
      (route server identity .error) Q past := by
  unfold validateSeedJob
  split
  case h_1 keyless => exact next _ past (.keyless reached keyless)
  case h_2 selector named =>
    have due := Due.readSecret reached named
    refine Program.keeps_bind.2 (Program.keeps_ask.2 ⟨due, ?_⟩)
    rintro (failure | data) -
    · exact .failed _ failure due rfl
    · exact next _ _ (.keyed selector data reached named)

/-- The jobs are judged one after another; what is found adds up. -/
theorem validateSeedJobs_travels {Q : List String → Past → Prop} {handle : ServerHandle}
    {found : List String} {jobs : List SeedJob}
    (reached : Reaches server identity (.judging object handle found jobs) past)
    (next : ∀ violations past',
      Reaches server identity (.judging object handle (found ++ violations) []) past' →
      Q violations past') :
    (validateSeedJobs (object.metadata.namespaceName.getD "") jobs).Keeps
      (route server identity .error) Q past := by
  induction jobs generalizing found past Q with
  | nil =>
    apply next [] past
    rw [List.append_nil]
    exact reached
  | cons job rest ih =>
    refine Program.keeps_bind.2 (validateSeedJob_travels reached ?_)
    intro own past₁ reached₁
    -- The other jobs are judged with what was found in this one before them.
    refine Program.keeps_bind.2 (ih reached₁ ?_)
    intro others past₂ reached₂
    rw [List.append_assoc] at reached₂
    exact next (own ++ others) past₂ reached₂

/-- Validating the seed jobs leads past their Secrets, with all that was found. -/
theorem validateUser_travels {Q : Report → Past → Prop} {handle : ServerHandle}
    (reached : Reaches server identity (.completed .base object handle) past)
    (next : ∀ violations past',
      Reaches server identity (.judging object handle violations []) past' →
      Q ⟨violations⟩ past') :
    (validateUser object).Keeps (route server identity .error) Q past := by
  refine Program.keeps_bind.2 (validateSeedJobs_travels reached.judge ?_)
  intro violations past' reached'
  exact next violations past' reached'

/-! ## Phases -/

theorem basePhase_travels {Q : Jenkins × ServerHandle → Past → Prop}
    (reached : Reaches server identity (.filled object) past)
    (next : ∀ stored handle past',
      Reaches server identity (.completed .base stored handle) past' → Q (stored, handle) past') :
    (basePhase object).Keeps (route server identity settle) Q past := by
  refine Program.keeps_bind.2 (keeps_liftM (validateBase_travels reached fun accepted => ?_))
  refine Program.keeps_bind.2 (require_travels (.rejectBase accepted reached) fun none => ?_)
  refine Program.keeps_bind.2 (markStart_travels (.approve accepted reached none) ?_)
  intro started past₁ reached₁
  have due := Due.provision reached₁
  refine Program.keeps_bind.2 (keeps_liftM (Program.keeps_ask.2 ⟨due, ?_⟩))
  rintro (failure | delay | handle) -
  · exact .failed _ failure due rfl
  · exact .delayed _ delay due rfl
  · refine Program.keeps_bind.2 (completePhase_travels (.provision handle reached₁) ?_)
    intro stored past₂ reached₂
    exact next stored handle past₂ reached₂

theorem awaitSeedJobs_travels {Q : Unit → Past → Prop} {handle : ServerHandle}
    (reached : Reaches server identity (.judging object handle [] []) past)
    (running : object.isHalted = false)
    (next : ∀ past', Reaches server identity (.seeded object handle) past' → Q () past') :
    (awaitSeedJobs object handle).Keeps (route server identity settle) Q past := by
  have due := Due.seed reached running
  refine Program.keeps_bind.2 (keeps_liftM (Program.keeps_ask.2 ⟨due, ?_⟩))
  rintro answer -
  match answer with
  | .error failure => exact .failed _ failure due rfl
  | .ok .done => exact next _ (.seed reached running)
  | .ok .pending => exact .delayed _ 10000 due rfl
  | .ok (.buildFailed message) => exact .delayed _ 10000 due rfl
  | .ok (.unrecoverable message) => exact haltSeedJobs_travels reached running

theorem awaitScripts_travels {Q : Unit → Past → Prop} {handle : ServerHandle}
    (reached : Reaches server identity (.seeded object handle) past)
    (next : ∀ past', Reaches server identity (.achieved .user object handle) past' →
      Q () past') :
    (awaitScripts object handle).Keeps (route server identity settle) Q past := by
  have due := Due.configure reached
  refine Program.keeps_bind.2 (keeps_liftM (Program.keeps_ask.2 ⟨due, ?_⟩))
  rintro (failure | _) -
  · exact .failed _ failure due rfl
  have reached := reached.configure
  have due := Due.equip reached
  refine Program.keeps_bind.2 (keeps_liftM (Program.keeps_ask.2 ⟨due, ?_⟩))
  rintro (failure | _ | scripts) -
  · exact .failed _ failure due rfl
  · exact .delayed _ 10000 due rfl
  have reached := reached.equip scripts
  have due := Due.apply reached
  refine Program.keeps_bind.2 (keeps_liftM (Program.keeps_ask.2 ⟨due, ?_⟩))
  rintro (failure | _ | _) -
  · exact .failed _ failure due rfl
  · exact .delayed _ 10000 due rfl
  · exact next _ reached.apply

theorem userPhase_travels {handle : ServerHandle}
    (reached : Reaches server identity (.completed .base object handle) past) :
    (userPhase object handle).Keeps (route server identity settle)
      (fun outcome past' => Ends server identity past' (.ok outcome)) past := by
  refine Program.keeps_bind.2 (keeps_liftM (validateUser_travels reached ?_))
  intro violations past₁ reached₁
  refine Program.keeps_bind.2 (require_travels (.rejectUser reached₁) ?_)
  -- The specification is valid by now, so only a halt keeps the seed jobs from being run.
  rintro rfl
  split
  case isTrue halted => exact .halted reached₁ halted
  case isFalse running =>
    have running := Bool.eq_false_iff.2 running
    refine Program.keeps_bind.2 (awaitSeedJobs_travels reached₁ running ?_)
    intro past₂ reached₂
    refine Program.keeps_bind.2 (awaitScripts_travels reached₂ ?_)
    intro past₃ reached₃
    refine Program.keeps_bind.2 (Program.keeps_bind.2 (completePhase_travels reached₃ ?_))
    intro stored past₄ reached₄
    exact .finished reached₄

/-- A pass goes along the way from its first call to its end. -/
theorem steps_travels (server : Jenkins → Jenkins → Prop) (identity : Identity) :
    (steps identity).Keeps (route server identity settle)
      (fun outcome past => Ends server identity past (.ok outcome)) [] := by
  refine Program.keeps_bind.2 (keeps_liftM (Program.keeps_ask.2 ⟨.fetch, ?_⟩))
  rintro (failure | _ | object) -
  · exact .failed _ failure .fetch rfl
  · exact .missing
  refine Program.keeps_bind.2 (persistDefaults_travels (.read object) ?_)
  intro filled past₁ reached₁
  refine Program.keeps_bind.2 (basePhase_travels reached₁ ?_)
  intro ready handle past₂ reached₂
  exact userPhase_travels reached₂

end Pass

/-- A pass makes the calls that are due, and ends where the route ends and with that result. -/
theorem reconcilePass_travels (server : Jenkins → Jenkins → Prop) (identity : Identity) :
    (reconcilePass identity).Keeps (route server identity .error)
      (fun outcome past => Ends server identity past (.ok outcome)) [] := by
  refine (Pass.steps_travels server identity).handle rfl rfl fun reason past ends => ?_
  cases reason with
  | failed failure => exact ends
  | ended outcome => exact ends

/-- A pass that has come to some point has made its calls when they were due, and does so with the
next one or ends where the route ends. -/
theorem Program.Comes.onRoute {rest : Program Failure Outcome}
    (comes : (reconcilePass identity).Comes past rest)
    (credible : Along (fun early e => Due server identity early e.call →
      Credible server early e) past) :
    OnRoute server identity past ∧
      (∀ c resume, rest = .call c resume → Due server identity past c) ∧
      ∀ result, rest.result? = some result → Ends server identity past result := by
  obtain ⟨keeps, due⟩ := (reconcilePass_travels server identity).comes comes credible
  refine ⟨due, ?next, ?ends⟩
  case next =>
    rintro c resume rfl
    exact keeps.1
  case ends =>
    intro result ended
    have ends := keeps.result ended
    cases result with
    | ok outcome => exact ends
    | error failure => exact ends

end JenkinsOperator
