import JenkinsOperator.Pass.Reconcile
import JenkinsOperator.Proofs.Validation.User

/-!
# Passes side by side

Two passes for one identity meet with answers that agree: the copies that they get are the same but
for the times in their statuses, and all else is equal. Then their calls agree as well, one by one,
and so do their results (`reconcilePass_twins`). Each call is about the identity: what it reads,
writes, hands to a collaborator or tells the user of is the object of that identity, its ConfigMap,
or a Secret that its seed jobs name.

Which times count as the same is left open. With equality the passes do exactly the same; and if all
times count as the same, passes at different hours do the same times aside.
-/

namespace JenkinsOperator

variable {same : Time → Time → Prop}

/-! ## Objects that are alike -/

/-- Statuses that record the same facts, at times that count as the same. -/
structure JenkinsStatus.Alike (same : Time → Time → Prop) (s s' : JenkinsStatus) : Prop where
  start : Option.Rel same s.provisionStart s'.provisionStart
  base : Option.Rel same s.baseCompleted s'.baseCompleted
  user : Option.Rel same s.userCompleted s'.userCompleted
  halted : s.haltedGeneration = s'.haltedGeneration

/-- Objects that are the same, but for the times in their statuses. -/
structure Jenkins.Alike (same : Time → Time → Prop) (j j' : Jenkins) : Prop where
  metadata : j.metadata = j'.metadata
  spec : j.spec = j'.spec
  status : Option.Rel (JenkinsStatus.Alike same) j.status j'.status

theorem isSome_eq_of_rel {α β : Type} {related : α → β → Prop} {a : Option α} {b : Option β}
    (h : Option.Rel related a b) : a.isSome = b.isSome := by
  cases h with
  | some _ => rfl
  | none => rfl

theorem rel_imp {α β : Type} {related related' : α → β → Prop} {a : Option α} {b : Option β}
    (h : Option.Rel related a b) (implies : ∀ x y, related x y → related' x y) :
    Option.Rel related' a b := by
  cases h with
  | some related => exact .some (implies _ _ related)
  | none => exact .none

theorem eq_of_rel {α : Type} {related : α → α → Prop} {a b : Option α}
    (exact : ∀ x y, related x y → x = y) (h : Option.Rel related a b) : a = b := by
  cases h with
  | some related => rw [exact _ _ related]
  | none => rfl

namespace JenkinsStatus

variable {s s' : JenkinsStatus}

theorem alike_unset : Alike same unset unset := ⟨.none, .none, .none, rfl⟩

/-- If only equal times count as the same, statuses that are alike are equal. -/
theorem Alike.eq (h : s.Alike same s') (exact : ∀ t t', same t t' → t = t') : s = s' := by
  obtain ⟨start, base, user, halted⟩ := s
  cases eq_of_rel exact h.start
  cases eq_of_rel exact h.base
  cases eq_of_rel exact h.user
  cases h.halted
  rfl

/-- Alike statuses have the same phases completed. -/
theorem Alike.completedAt (h : s.Alike same s') (phase : Phase) :
    Option.Rel same (s.completedAt phase) (s'.completedAt phase) := by
  cases phase with
  | base => exact h.base
  | user => exact h.user

/-- Stamping alike statuses at alike times leaves them alike. -/
theorem Alike.stamp (h : s.Alike same s') (phase : Phase) {now now' : Time}
    (times : same now now') : (s.stamp phase now).Alike same (s'.stamp phase now') := by
  cases phase with
  | base => exact ⟨h.start, .some times, h.user, h.halted⟩
  | user => exact ⟨h.start, h.base, .some times, h.halted⟩

end JenkinsStatus

namespace Jenkins.Alike

variable {j j' : Jenkins}

/-- Alike objects are the same if times are compared exactly. -/
theorem eq (h : j.Alike same j') (exact : ∀ t t', same t t' → t = t') : j = j' := by
  obtain ⟨metadata, spec, status⟩ := j
  cases h.metadata
  cases h.spec
  cases eq_of_rel (fun _ _ alike => alike.eq exact) h.status
  rfl

theorem statusOrUnset (h : j.Alike same j') :
    j.statusOrUnset.Alike same j'.statusOrUnset := by
  obtain ⟨metadata, spec, status⟩ := j
  obtain ⟨metadata', spec', status'⟩ := j'
  cases h.status with
  | some alike => exact alike
  | none => exact JenkinsStatus.alike_unset

/-- Alike objects are halted together. -/
theorem isHalted (h : j.Alike same j') : j.isHalted = j'.isHalted := by
  obtain ⟨metadata, spec, status⟩ := j
  obtain ⟨metadata', spec', status'⟩ := j'
  cases h.metadata
  cases h.status with
  | some alike =>
    unfold Jenkins.isHalted
    rw [Option.bind_some, Option.bind_some, alike.halted]
  | none => rfl

/-- Alike objects have the same identity. -/
theorem identity (h : j.Alike same j') : j.identity = j'.identity := by
  unfold Jenkins.identity Jenkins.name
  rw [h.metadata]

end Jenkins.Alike

/-- Results that are the same failure, or values that are related. -/
inductive ExceptRel {ε α β : Type} (related : α → β → Prop) : Except ε α → Except ε β → Prop where
  | ok {a : α} {b : β} : related a b → ExceptRel related (.ok a) (.ok b)
  | error (failure : ε) : ExceptRel related (.error failure) (.error failure)

theorem ExceptRel.of_eq {ε α : Type} {a b : Except ε α} (h : a = b) : ExceptRel Eq a b := by
  cases h
  cases a with
  | ok value => exact .ok rfl
  | error failure => exact .error failure

theorem ExceptRel.eq {ε α : Type} {related : α → α → Prop} {a b : Except ε α}
    (h : ExceptRel related a b) (exact : ∀ x y, related x y → x = y) : a = b := by
  cases h with
  | ok related => rw [exact _ _ related]
  | error failure => rfl

/-! ## Calls that agree -/

/-- Where the configuration scripts of an identity are. -/
def Identity.scripts (i : Identity) : Identity :=
  ⟨i.namespaceName, s!"{operatorName}-user-configuration-{i.name}"⟩

/-- What two passes have in common. -/
structure Scope where
  /-- Which times count as the same. -/
  same : Time → Time → Prop
  /-- The identity that both are for. -/
  identity : Identity
  /-- The seed jobs of the object of that identity. -/
  jobs : List SeedJob

namespace Scope

/-- The Secrets that seed jobs name. -/
def secrets (scope : Scope) : List Identity := secretsOf scope.identity.namespaceName scope.jobs

/-- Copies of the object that are alike. -/
structure TwinObjects (scope : Scope) (j j' : Jenkins) : Prop
    extends Jenkins.Alike scope.same j j' where
  placed : j.identity = scope.identity
  jobs : j.spec.seedJobs = scope.jobs

/-- Calls about the identity that are the same, with copies that are alike. -/
inductive TwinCalls (scope : Scope) : Call → Call → Prop where
  | fetch : scope.TwinCalls (.fetch scope.identity) (.fetch scope.identity)
  | writeSpec {j j' : Jenkins} : scope.TwinObjects j j' →
      scope.TwinCalls (.writeSpec j) (.writeSpec j')
  | writeStatus {j j' : Jenkins} : scope.TwinObjects j j' →
      scope.TwinCalls (.writeStatus j) (.writeStatus j')
  | readConfigMap : scope.TwinCalls (.readConfigMap scope.identity.scripts)
      (.readConfigMap scope.identity.scripts)
  | readSecret (secret : Identity) : secret ∈ scope.secrets →
      scope.TwinCalls (.readSecret secret) (.readSecret secret)
  | acceptsSpec {j j' : Jenkins} : scope.TwinObjects j j' →
      scope.TwinCalls (.acceptsSpec j) (.acceptsSpec j')
  | provision {j j' : Jenkins} : scope.TwinObjects j j' →
      scope.TwinCalls (.provision j) (.provision j')
  | ensureSeedJobs (handle : ServerHandle) {j j' : Jenkins} : scope.TwinObjects j j' →
      scope.TwinCalls (.ensureSeedJobs handle j) (.ensureSeedJobs handle j')
  | configureScripts (handle : ServerHandle) :
      scope.TwinCalls (.configureScripts handle) (.configureScripts handle)
  | runScripts (handle : ServerHandle) (scripts : Scripts) {j j' : Jenkins} :
      scope.TwinObjects j j' →
      scope.TwinCalls (.runScripts handle scripts j) (.runScripts handle scripts j')
  | publish {j j' : Jenkins} (n : Notification) : scope.TwinObjects j j' →
      scope.TwinCalls (.publish j n) (.publish j' n)
  | clock : scope.TwinCalls .clock .clock

/-- Outcomes of writes that agree. -/
inductive TwinOutcomes (scope : Scope) : WriteOutcome → WriteOutcome → Prop where
  | updated {j j' : Jenkins} : scope.TwinObjects j j' →
      scope.TwinOutcomes (.updated j) (.updated j')
  | conflict : scope.TwinOutcomes .conflict .conflict

/-- Answers that agree: copies of the object are alike, readings of the clock count as the same, and
all else is equal. -/
def TwinAnswers (scope : Scope) : (c c' : Call) → c.Answer → c'.Answer → Prop
  | .fetch _, .fetch _, found, found' => ExceptRel (Option.Rel scope.TwinObjects) found found'
  | .writeSpec _, .writeSpec _, outcome, outcome' =>
    ExceptRel scope.TwinOutcomes outcome outcome'
  | .writeStatus _, .writeStatus _, outcome, outcome' =>
    ExceptRel scope.TwinOutcomes outcome outcome'
  | .readConfigMap _, .readConfigMap _, found, found' => found = found'
  | .readSecret _, .readSecret _, found, found' => found = found'
  | .acceptsSpec _, .acceptsSpec _, verdict, verdict' => verdict = verdict'
  | .provision _, .provision _, progress, progress' => progress = progress'
  | .ensureSeedJobs _ _, .ensureSeedJobs _ _, report, report' => report = report'
  | .configureScripts _, .configureScripts _, result, result' => result = result'
  | .runScripts _ _ _, .runScripts _ _ _, applied, applied' => applied = applied'
  | .publish _ _, .publish _ _, _, _ => True
  | .clock, .clock, now, now' => scope.same now now'
  | _, _, _, _ => False

/-- Programs that make calls that agree for as long as the answers do, and end alike. -/
inductive TwinPrograms (scope : Scope) {ε α : Type} (Q : α → α → Prop) :
    Program ε α → Program ε α → Prop where
  | done {value value' : α} : Q value value' →
      scope.TwinPrograms Q (.done value) (.done value')
  | exit (reason : ε) : scope.TwinPrograms Q (.exit reason) (.exit reason)
  | call {c c' : Call} {resume : c.Answer → Program ε α} {resume' : c'.Answer → Program ε α} :
      scope.TwinCalls c c' →
      (∀ answer answer', scope.TwinAnswers c c' answer answer' →
        scope.TwinPrograms Q (resume answer) (resume' answer')) →
      scope.TwinPrograms Q (.call c resume) (.call c' resume')

end Scope

/-! ## Programs that are made of parts -/

namespace Scope.TwinPrograms

variable {scope : Scope} {ε δ α β : Type} {Q : α → α → Prop}

/-- Twin programs that go on with twin programs are twins as a whole. -/
theorem bind {p p' : Program ε α} {next next' : α → Program ε β} {S : β → β → Prop}
    (first : scope.TwinPrograms Q p p')
    (onward : ∀ value value', Q value value' →
      scope.TwinPrograms S (next value) (next' value')) :
    scope.TwinPrograms S (p >>= next) (p' >>= next') := by
  induction first with
  | done related => exact onward _ _ related
  | exit reason => exact .exit reason
  | call calls _ ih => exact .call calls ih

theorem mapExit {p p' : Program ε α} (h : scope.TwinPrograms Q p p') (f : ε → δ) :
    scope.TwinPrograms Q (p.mapExit f) (p'.mapExit f) := by
  induction h with
  | done related => exact .done related
  | exit reason => exact .exit (f reason)
  | call calls _ ih => exact .call calls ih

/-- Reasons to leave are the same on both sides, so they are turned into the same value. -/
theorem handle {f : ε → Except δ α} {p p' : Program ε α} (h : scope.TwinPrograms Q p p')
    (related : ∀ value, Q value value) : scope.TwinPrograms Q (p.handle f) (p'.handle f) := by
  induction h with
  | done values => exact .done values
  | exit reason =>
    unfold Program.handle
    split
    case h_1 value _ => exact .done (related value)
    case h_2 reason' _ => exact .exit reason'
  | call calls _ ih => exact .call calls ih

/-- A single call, whose answers are looked at in the same way. -/
theorem ask {c c' : Call} {view : c.Answer → Except Failure α}
    {view' : c'.Answer → Except Failure α} (calls : scope.TwinCalls c c')
    (views : ∀ answer answer', scope.TwinAnswers c c' answer answer' →
      ExceptRel Q (view answer) (view' answer')) :
    scope.TwinPrograms Q (.ask c view) (.ask c' view') := by
  refine .call calls fun answer answer' agree => ?_
  have related := views answer answer' agree
  revert related
  generalize view answer = result
  generalize view' answer' = result'
  rintro (related | failure)
  · exact .done related
  · exact .exit failure

/-- A part of a pass that may fail. -/
theorem lift {p p' : Program Failure α} (h : scope.TwinPrograms Q p p') :
    scope.TwinPrograms Q (liftM p : Pass α) (liftM p') := h.mapExit Exit.failed

end Scope.TwinPrograms

/-! ## The parts of a pass -/

namespace Scope.TwinObjects

variable {scope : Scope} {j j' : Jenkins}

theorem withStatus {s s' : JenkinsStatus} (h : scope.TwinObjects j j')
    (alike : s.Alike scope.same s') :
    scope.TwinObjects { j with status := some s } { j' with status := some s' } :=
  ⟨⟨h.metadata, h.spec, .some alike⟩, h.placed, h.jobs⟩

/-- Twins are filled with the same defaults. -/
theorem withDefaults (h : scope.TwinObjects j j') :
    scope.TwinObjects { j with spec := j.spec.withDefaults }
      { j' with spec := j'.spec.withDefaults } :=
  ⟨⟨h.metadata, congrArg JenkinsSpec.withDefaults h.spec, h.status⟩, h.placed, h.jobs⟩

/-- The namespace in which a copy looks for what it names. -/
theorem namespaceName (h : scope.TwinObjects j j') :
    j.metadata.namespaceName.getD "" = scope.identity.namespaceName :=
  congrArg Identity.namespaceName h.placed

/-- Twins have their scripts in the same place, which depends on the identity alone. -/
theorem scripts (h : scope.TwinObjects j j') :
    (⟨j.metadata.namespaceName.getD "", j.configMapName⟩ : Identity) = scope.identity.scripts := by
  rw [← h.placed]
  rfl

end Scope.TwinObjects

namespace Pass

open Scope (TwinObjects TwinPrograms)

variable {scope : Scope} {j j' : Jenkins}

theorem writeStatus_twins (twins : scope.TwinObjects j j') :
    scope.TwinPrograms scope.TwinOutcomes (writeStatus j) (writeStatus j') :=
  .ask (.writeStatus twins) fun _ _ agree => agree

theorem writeSpec_twins (twins : scope.TwinObjects j j') :
    scope.TwinPrograms scope.TwinOutcomes (writeSpec j) (writeSpec j') :=
  .ask (.writeSpec twins) fun _ _ agree => agree

theorem publish_twins (twins : scope.TwinObjects j j') (n : Notification) :
    scope.TwinPrograms Eq (publish j n) (publish j' n) :=
  .call (.publish n twins) fun _ _ _ => .done rfl

theorem clock_twins (scope : Scope) : scope.TwinPrograms scope.same clock clock :=
  .call .clock fun _ _ times => .done times

theorem accepted_twins {outcome outcome' : WriteOutcome}
    (h : scope.TwinOutcomes outcome outcome') :
    scope.TwinPrograms scope.TwinObjects (accepted outcome) (accepted outcome') := by
  cases h with
  | updated twins => exact .done twins
  | conflict => exact .exit _

theorem saveStatus_twins {s s' : JenkinsStatus} (twins : scope.TwinObjects j j')
    (alike : s.Alike scope.same s') :
    scope.TwinPrograms scope.TwinObjects (saveStatus j s) (saveStatus j' s') := by
  refine .bind (.lift (writeStatus_twins (twins.withStatus alike))) ?_
  exact fun _ _ outcomes => accepted_twins outcomes

/-- Whether defaults are written depends on the specification, which twins have in common. -/
theorem persistDefaults_twins (twins : scope.TwinObjects j j') :
    scope.TwinPrograms scope.TwinObjects (persistDefaults j) (persistDefaults j') := by
  rw [persistDefaults_eq, persistDefaults_eq]
  -- What is left open is left open in both.
  rw [show j'.spec.isIncomplete = j.spec.isIncomplete by rw [twins.spec]]
  split
  case isTrue =>
    refine .bind (.lift (writeSpec_twins twins.withDefaults)) ?_
    exact fun _ _ outcomes => accepted_twins outcomes
  case isFalse => exact .done twins

theorem require_twins (twins : scope.TwinObjects j j') (subject : String) (report : Report) :
    scope.TwinPrograms (fun _ _ => True) (require j subject report)
      (require j' subject report) := by
  unfold require
  split
  case isTrue => exact .done trivial
  case isFalse =>
    refine .bind (.lift (publish_twins twins _)) ?_
    exact fun _ _ _ => .exit _

theorem validateBase_twins (twins : scope.TwinObjects j j') :
    scope.TwinPrograms Eq (validateBase j) (validateBase j') := by
  refine .bind (.ask (.acceptsSpec twins) fun _ _ agree => .of_eq agree) ?_
  rintro verdict _ rfl
  rw [twins.spec]
  exact .done rfl

/-- A seed job is judged by itself and its Secret, so twins judge it alike. -/
theorem validateSeedJob_twins (job : SeedJob)
    (named : ∀ selector, job.privateKey = some selector →
      ⟨scope.identity.namespaceName, selector.name⟩ ∈ scope.secrets) :
    scope.TwinPrograms Eq (validateSeedJob scope.identity.namespaceName job)
      (validateSeedJob scope.identity.namespaceName job) := by
  unfold validateSeedJob
  split
  case h_1 => exact .done rfl
  case h_2 selector key =>
    refine .bind (.ask (.readSecret _ (named selector key)) fun _ _ agree => .of_eq agree) ?_
    rintro data _ rfl
    exact .done rfl

/-- Jobs are judged one after another, each by a Secret that it names. -/
theorem validateSeedJobs_twins {jobs : List SeedJob} (listed : jobs ⊆ scope.jobs) :
    scope.TwinPrograms Eq (validateSeedJobs scope.identity.namespaceName jobs)
      (validateSeedJobs scope.identity.namespaceName jobs) := by
  induction jobs with
  | nil => exact .done rfl
  | cons job rest ih =>
    obtain ⟨first, others⟩ := List.cons_subset.1 listed
    refine .bind (validateSeedJob_twins job fun selector key => ?_) ?_
    · exact List.mem_filterMap.2 ⟨job, first, congrArg _ key⟩
    rintro own _ rfl
    refine .bind (ih others) ?_
    rintro violations _ rfl
    exact .done rfl

/-- Twins have the same seed jobs, and so the same report on them. -/
theorem validateUser_twins (twins : scope.TwinObjects j j') :
    scope.TwinPrograms Eq (validateUser j) (validateUser j') := by
  unfold validateUser
  -- The Secrets are looked up in the namespace of the identity, for the same jobs.
  rw [← twins.metadata, ← twins.spec, twins.namespaceName, twins.jobs]
  refine .bind (validateSeedJobs_twins (List.Subset.refl scope.jobs)) ?_
  rintro violations _ rfl
  exact .done rfl

theorem markStart_twins (twins : scope.TwinObjects j j') :
    scope.TwinPrograms scope.TwinObjects (markStart j) (markStart j') := by
  have status := twins.statusOrUnset
  unfold markStart
  -- Stamps may differ in their times, but not in whether they are there.
  rw [← isSome_eq_of_rel status.start]
  split
  case isTrue => exact .done twins
  case isFalse =>
    refine .bind (.lift (clock_twins scope)) fun now now' times => ?_
    exact saveStatus_twins twins ⟨.some times, status.base, status.user, status.halted⟩

/-- Twins complete a phase together, each at its own time. -/
theorem completePhase_twins (phase : Phase) (twins : scope.TwinObjects j j') :
    scope.TwinPrograms scope.TwinObjects (completePhase phase j) (completePhase phase j') := by
  have status := twins.statusOrUnset
  unfold completePhase
  rw [← isSome_eq_of_rel (status.completedAt phase)]
  split
  case isTrue => exact .done twins
  case isFalse =>
    refine .bind (.lift (clock_twins scope)) fun now now' times => ?_
    refine .bind (saveStatus_twins twins (status.stamp phase times)) fun stored stored' kept => ?_
    refine .bind (.lift (publish_twins kept _)) ?_
    exact fun _ _ _ => .done kept

theorem haltSeedJobs_twins (message : String) (twins : scope.TwinObjects j j') :
    scope.TwinPrograms (fun _ _ => True) (haltSeedJobs j message) (haltSeedJobs j' message) := by
  have status := twins.statusOrUnset
  have halted : JenkinsStatus.Alike scope.same
      { j.statusOrUnset with haltedGeneration := j.metadata.generation }
      { j'.statusOrUnset with haltedGeneration := j'.metadata.generation } :=
    ⟨status.start, status.base, status.user, congrArg Metadata.generation twins.metadata⟩
  refine .bind (saveStatus_twins twins halted) fun stored stored' kept => ?_
  refine .bind (.lift (publish_twins kept _)) ?_
  exact fun _ _ _ => .exit _

/-- The base phase of twins ends with twins and with the same master. -/
theorem basePhase_twins (twins : scope.TwinObjects j j') :
    scope.TwinPrograms (fun ready ready' => scope.TwinObjects ready.1 ready'.1 ∧ ready.2 = ready'.2)
      (basePhase j) (basePhase j') := by
  refine .bind (.lift (validateBase_twins twins)) ?_
  rintro report _ rfl
  refine .bind (require_twins twins "Base" report) fun _ _ _ => ?_
  refine .bind (markStart_twins twins) fun started started' begun => ?_
  refine .bind (.lift (.ask (.provision begun) fun _ _ agree => .of_eq agree)) ?_
  rintro progress _ rfl
  cases progress with
  | inProgress delay => exact .exit _
  | ready handle =>
    refine .bind (completePhase_twins .base begun) fun stored stored' completed => ?_
    exact .done ⟨completed, rfl⟩

theorem awaitSeedJobs_twins (handle : ServerHandle) (twins : scope.TwinObjects j j') :
    scope.TwinPrograms (fun _ _ => True) (awaitSeedJobs j handle) (awaitSeedJobs j' handle) := by
  refine .bind (.lift (.ask (.ensureSeedJobs handle twins) fun _ _ agree => .of_eq agree)) ?_
  rintro report _ rfl
  cases report with
  | done => exact .done trivial
  | pending => exact .exit _
  | buildFailed message => exact .exit _
  | unrecoverable message => exact haltSeedJobs_twins message twins

theorem awaitScripts_twins (handle : ServerHandle) (twins : scope.TwinObjects j j') :
    scope.TwinPrograms (fun _ _ => True) (awaitScripts j handle) (awaitScripts j' handle) := by
  refine .bind (.lift (.ask (.configureScripts handle) fun _ _ agree => .of_eq agree)) ?_
  intro _ _ _
  -- Both look for the ConfigMap of the identity, since both copies are of it.
  have own := twins.scripts
  have own' : (⟨j'.metadata.namespaceName.getD "", j'.configMapName⟩ : Identity) =
      scope.identity.scripts := by
    rw [← own]
    unfold Jenkins.configMapName Jenkins.name
    rw [twins.metadata]
  dsimp only
  rw [own, own']
  refine .bind (.lift (.ask .readConfigMap fun _ _ agree => .of_eq agree)) ?_
  rintro found _ rfl
  cases found with
  | none => exact .exit _
  | some scripts =>
    refine .bind (.lift (.ask (.runScripts handle scripts twins) fun _ _ agree => .of_eq agree)) ?_
    rintro applied _ rfl
    cases applied with
    | true => exact .done trivial
    | false => exact .exit _

/-- The user phase of twins ends in the same way. -/
theorem userPhase_twins (handle : ServerHandle) (twins : scope.TwinObjects j j') :
    scope.TwinPrograms Eq (userPhase j handle) (userPhase j' handle) := by
  refine .bind (.lift (validateUser_twins twins)) ?_
  rintro report _ rfl
  refine .bind (require_twins twins "User" report) fun _ _ _ => ?_
  rw [← twins.isHalted]
  split
  case isTrue => exact .exit _
  case isFalse =>
    refine .bind (awaitSeedJobs_twins handle twins) fun _ _ _ => ?_
    refine .bind (awaitScripts_twins handle twins) fun _ _ _ => ?_
    have completed : scope.TwinPrograms Eq (discard (completePhase .user j))
        (discard (completePhase .user j')) :=
      .bind (completePhase_twins .user twins) fun _ _ _ => .done rfl
    exact .bind completed fun _ _ _ => .done rfl

/-- Two passes over one identity are twins, from the first call to the result. -/
theorem steps_twins (scope : Scope) :
    scope.TwinPrograms Eq (steps scope.identity) (steps scope.identity) := by
  refine .bind (.lift (.ask .fetch fun _ _ agree => agree)) ?_
  rintro _ _ (twins | _)
  · -- From here on, each part goes on with copies that are alike.
    refine .bind (persistDefaults_twins twins) fun stored stored' complete => ?_
    refine .bind (basePhase_twins complete) ?_
    rintro ⟨ready, handle⟩ ⟨ready', _⟩ ⟨twins', rfl⟩
    exact userPhase_twins handle twins'
  · exact .done rfl

end Pass

/-- Passes for one identity do the same for as long as they are answered alike. -/
theorem reconcilePass_twins (scope : Scope) :
    scope.TwinPrograms Eq (reconcilePass scope.identity) (reconcilePass scope.identity) :=
  (Pass.steps_twins scope).handle fun _ => rfl

/-- Of the object that is handed in, only its namespace and its name are looked at. -/
theorem reconcile_twins {scope : Scope} {trigger trigger' : Jenkins}
    (namespaces : trigger.metadata.namespaceName = trigger'.metadata.namespaceName)
    (names : trigger.name = trigger'.name) (own : scope.identity = trigger.identity) :
    scope.TwinPrograms Eq (reconcile trigger) (reconcile trigger') := by
  unfold reconcile
  rw [← namespaces, ← names]
  split
  case h_1 => exact .exit _
  case h_2 namespaceName named =>
    have identity : (⟨namespaceName, trigger.name⟩ : Identity) = scope.identity := by
      rw [own, Jenkins.identity, named]
      rfl
    rw [identity]
    refine .bind (reconcilePass_twins scope) ?_
    rintro outcome _ rfl
    exact .done rfl

end JenkinsOperator
