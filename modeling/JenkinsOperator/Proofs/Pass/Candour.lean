import JenkinsOperator.Proofs.Pass.Past
import JenkinsOperator.Proofs.Route.Basic

/-!
# Passes are candid about setbacks

A setback is an answer after which a pass cannot go on: a call has failed, a write was refused as
stale, or the object is not there. Whatever else a pass is told, it ends right at its first setback,
and in the way that is right for it (`Program.Comes.setback`). It never ends so for another reason:
a failure that it returns is one that its last call ended in (`Program.Comes.failed`).

Nothing is assumed of the answers here. The server may return any object to a write.
-/

namespace JenkinsOperator

variable {past : Past} {e : Call.Exchange} {exit : Exit}

/-! ## Setbacks -/

namespace Call.Exchange

/-- Whether the object was looked for in vain. -/
def isMissing : Call.Exchange → Bool
  | ⟨.fetch _, .ok none⟩ => true
  | _ => false

/-- How a pass has to end after an answer, if the answer is a setback. -/
def setback? (e : Call.Exchange) : Option Exit :=
  if e.isLost then some (.ended .requeueNow)
  else if e.isMissing then some (.ended .done)
  else e.failure?.map .failed

theorem setback?_of_isLost (lost : e.isLost = true) : e.setback? = some (.ended .requeueNow) :=
  if_pos lost

theorem setback?_of_isMissing (missing : e.isMissing = true) :
    e.setback? = some (.ended .done) := by
  have lost : e.isLost = false := by
    unfold isMissing at missing
    split at missing
    case h_1 => rfl
    case h_2 => cases missing
  unfold setback?
  rw [lost, if_neg Bool.false_ne_true, if_pos missing]

theorem failure?_of_setback? {failure : Failure} (h : e.setback? = some (.failed failure)) :
    e.failure? = some failure := by
  unfold setback? at h
  split at h
  case isTrue => cases h
  case isFalse =>
    split at h
    case isTrue => cases h
    case isFalse =>
      obtain ⟨failure', failed, same⟩ := Option.map_eq_some_iff.1 h
      cases same
      exact failed

end Call.Exchange

/-- Whether a pass has met with no setback. -/
def Smooth (past : Past) : Prop := ∀ e ∈ past, e.setback? = none

/-- A smooth past with one more answer that sets nobody back is smooth. -/
theorem Smooth.cons (smooth : Smooth past) (fine : e.setback? = none) : Smooth (e :: past) :=
  List.forall_mem_cons.2 ⟨fine, smooth⟩

/-- How a pass may end: right at its first setback and as that demands, or without one. -/
inductive Concludes : Exit → Past → Prop where
  | setback {e : Call.Exchange} {past : Past} {exit : Exit} : Smooth past →
      e.setback? = some exit → Concludes exit (e :: past)
  | ended {past : Past} (outcome : Outcome) : Smooth past → Concludes (.ended outcome) past

/-- A pass that makes calls only until its first setback, and looks for the object only once. -/
def candour : Conduct Exit where
  credible := fun _ _ => True
  permits := fun past c => Smooth past ∧ (c.isFetch = true → past = [])
  leaves := Concludes

/-! ## Candid programs -/

/-- Whether a program, at a point without setback, ends at the next one or comes to another such
point. -/
def Program.Candid {ε α : Type} (exit : ε → Exit) (p : Program ε α) : Prop :=
  ∀ past, Smooth past → p.Keeps (candour.comap exit) (fun _ => Smooth) past

namespace Program

variable {ε α β : Type}

theorem candid_done {exit : ε → Exit} (value : α) : (Program.done value).Candid exit :=
  fun _ smooth => smooth

theorem candid_stop (outcome : Outcome) : (Pass.stop outcome : Pass α).Candid id :=
  fun _ smooth => .ended outcome smooth

/-- A candid program that goes on with candid ones is candid as a whole. -/
theorem Candid.bind {exit : ε → Exit} {p : Program ε α} {next : α → Program ε β}
    (first : p.Candid exit) (onward : ∀ value, (next value).Candid exit) :
    (p >>= next).Candid exit := by
  intro past smooth
  apply keeps_bind.2
  -- What the first part comes to is a point without setback, and there the second part starts.
  exact (first past smooth).imp fun value past' smooth' => onward value past' smooth'

/-- A step of a pass is as candid as the program that it is made of. -/
theorem Candid.lift {p : Program Failure α} (h : p.Candid .failed) :
    (liftM p : Pass α).Candid id := fun past smooth =>
  (keeps_mapExit Exit.failed p).2 (h past smooth)

/-- A call is candid if a failure that is seen in its answer is the setback that the answer is. -/
theorem candid_ask {c : Call} {view : c.Answer → Except Failure α} (other : c.isFetch = false)
    (seen : ∀ answer,
      match view answer with
      | .ok _ => Call.Exchange.setback? ⟨c, answer⟩ = none
      | .error failure => Call.Exchange.setback? ⟨c, answer⟩ = some (.failed failure)) :
    (ask c view).Candid .failed := by
  intro past smooth
  refine keeps_ask.2 ⟨⟨smooth, fun fetches => nomatch other.symm.trans fetches⟩, ?_⟩
  intro answer _
  have seen := seen answer
  revert seen
  cases view answer with
  | ok value => exact fun fine => smooth.cons fine
  | error failure => exact fun setback => .setback smooth setback

/-- A write is candid if, besides, what is seen as lost is lost. -/
theorem candid_write {c : Call} {view : c.Answer → Except Failure WriteOutcome}
    (other : c.isFetch = false)
    (seen : ∀ answer,
      match view answer with
      | .ok (.updated _) => Call.Exchange.setback? ⟨c, answer⟩ = none
      | .ok .conflict => Call.Exchange.setback? ⟨c, answer⟩ = some (.ended .requeueNow)
      | .error failure => Call.Exchange.setback? ⟨c, answer⟩ = some (.failed failure)) :
    ((liftM (ask c view) : Pass WriteOutcome) >>= Pass.accepted).Candid id := by
  intro past smooth
  refine keeps_bind.2 ((keeps_mapExit _ _).2 (keeps_ask.2 ⟨⟨smooth, ?_⟩, ?_⟩))
  · exact fun fetches => nomatch other.symm.trans fetches
  intro answer _
  have seen := seen answer
  revert seen
  rcases view answer with failure | stored | _
  · exact fun setback => .setback smooth setback
  · exact fun fine => smooth.cons fine
  · exact fun setback => .setback smooth setback

/-- A call that cannot fail. -/
theorem candid_call {c : Call} {resume : c.Answer → Program Failure α} (other : c.isFetch = false)
    (fine : ∀ answer, Call.Exchange.setback? ⟨c, answer⟩ = none)
    (onward : ∀ answer, (resume answer).Candid .failed) :
    (Program.call c resume).Candid .failed := by
  intro past smooth
  refine ⟨⟨smooth, fun fetches => nomatch other.symm.trans fetches⟩, fun answer _ => ?_⟩
  exact onward answer _ (smooth.cons (fine answer))

end Program

/-! ## The parts of a pass -/

open Program

theorem clock_candid : clock.Candid .failed := candid_call rfl (fun _ => rfl) candid_done

theorem publish_candid (j : Jenkins) (n : Notification) : (publish j n).Candid .failed :=
  candid_call rfl (fun _ => rfl) candid_done

theorem validateBase_candid (j : Jenkins) : (validateBase j).Candid .failed := by
  refine .bind (candid_ask rfl ?_) fun verdict => candid_done _
  rintro (failure | verdict) <;> rfl

/-- Judging a seed job fails only if reading its Secret does. -/
theorem validateSeedJob_candid (namespaceName : String) (job : SeedJob) :
    (validateSeedJob namespaceName job).Candid .failed := by
  unfold validateSeedJob
  split
  case h_1 => exact candid_done _
  case h_2 =>
    refine .bind (candid_ask rfl ?_) fun data => candid_done _
    rintro (failure | data) <;> rfl

theorem validateSeedJobs_candid (namespaceName : String) (jobs : List SeedJob) :
    (validateSeedJobs namespaceName jobs).Candid .failed := by
  induction jobs with
  | nil => exact candid_done _
  | cons job rest ih =>
    refine .bind (validateSeedJob_candid namespaceName job) fun own => ?_
    exact .bind ih fun others => candid_done _

theorem validateUser_candid (j : Jenkins) : (validateUser j).Candid .failed :=
  .bind (validateSeedJobs_candid _ _) fun _ => candid_done _

namespace Pass

/-- A write that is lost ends the pass, to be run again at once. -/
theorem saveStatus_candid (j : Jenkins) (s : JenkinsStatus) : (saveStatus j s).Candid id := by
  refine candid_write rfl ?_
  rintro (failure | stored | _) <;> rfl

/-- Writing the defaults ends a pass only by what the write was answered. -/
theorem persistDefaults_candid (j : Jenkins) : (persistDefaults j).Candid id := by
  rw [persistDefaults_eq]
  split
  case isFalse => exact candid_done j
  case isTrue =>
    refine candid_write rfl ?_
    rintro (failure | stored | _) <;> rfl

/-- A rejection ends a pass with nothing left to do. -/
theorem require_candid (j : Jenkins) (subject : String) (report : Report) :
    (require j subject report).Candid id := by
  unfold require
  split
  case isTrue => exact candid_done ()
  case isFalse => exact .bind (.lift (publish_candid j _)) fun _ => candid_stop _

theorem markStart_candid (j : Jenkins) : (markStart j).Candid id := by
  unfold markStart
  split
  case isTrue => exact candid_done j
  case isFalse => exact .bind (.lift clock_candid) fun now => saveStatus_candid j _

theorem completePhase_candid (phase : Phase) (j : Jenkins) : (completePhase phase j).Candid id := by
  unfold completePhase
  split
  case isTrue => exact candid_done j
  case isFalse =>
    refine .bind (.lift clock_candid) fun now => ?_
    refine .bind (saveStatus_candid j _) fun stored => ?_
    exact .bind (.lift (publish_candid stored _)) fun _ => candid_done stored

theorem haltSeedJobs_candid (j : Jenkins) (message : String) :
    (haltSeedJobs j message).Candid id := by
  refine .bind (saveStatus_candid j _) fun stored => ?_
  exact .bind (.lift (publish_candid stored _)) fun _ => candid_stop _

/-- The base phase ends a pass only by what one of its calls was answered, or by a rejection. -/
theorem basePhase_candid (j : Jenkins) : (basePhase j).Candid id := by
  refine .bind (.lift (validateBase_candid j)) fun report => ?_
  refine .bind (require_candid j "Base" report) fun _ => ?_
  refine .bind (markStart_candid j) fun started => ?_
  refine .bind (.lift (candid_ask rfl ?_)) fun progress => ?_
  · rintro (failure | progress) <;> rfl
  cases progress with
  | inProgress delay => exact candid_stop _
  | ready handle => exact .bind (completePhase_candid .base started) fun stored => candid_done _

theorem awaitSeedJobs_candid (j : Jenkins) (handle : ServerHandle) :
    (awaitSeedJobs j handle).Candid id := by
  refine .bind (.lift (candid_ask rfl ?_)) fun report => ?_
  · rintro (failure | report) <;> rfl
  cases report with
  | done => exact candid_done ()
  | pending => exact candid_stop _
  | buildFailed message => exact candid_stop _
  | unrecoverable message => exact haltSeedJobs_candid j message

theorem awaitScripts_candid (j : Jenkins) (handle : ServerHandle) :
    (awaitScripts j handle).Candid id := by
  refine .bind (.lift (candid_ask rfl ?_)) fun _ => ?_
  · rintro (failure | _) <;> rfl
  refine .bind (.lift (candid_ask rfl ?_)) fun found => ?_
  · rintro (failure | _ | scripts) <;> rfl
  cases found with
  | none => exact candid_stop _
  | some scripts =>
    refine .bind (.lift (candid_ask rfl ?_)) fun applied => ?_
    · rintro (failure | _ | _) <;> rfl
    cases applied with
    | true => exact candid_done ()
    | false => exact candid_stop _

/-- The user phase ends a pass only by what one of its calls was answered, by a rejection or by a
halt. -/
theorem userPhase_candid (j : Jenkins) (handle : ServerHandle) :
    (userPhase j handle).Candid id := by
  refine .bind (.lift (validateUser_candid j)) fun report => ?_
  refine .bind (require_candid j "User" report) fun _ => ?_
  split
  case isTrue => exact candid_stop _
  case isFalse =>
    refine .bind (awaitSeedJobs_candid j handle) fun _ => ?_
    refine .bind (awaitScripts_candid j handle) fun _ => ?_
    refine .bind (.bind (completePhase_candid .user j) fun _ => candid_done ()) fun _ => ?_
    exact candid_done _

/-- The object is looked for once, as the first thing. -/
theorem steps_candid (identity : Identity) :
    (steps identity).Keeps candour (fun outcome => Concludes (.ended outcome)) [] := by
  have smooth : Smooth [] := List.forall_mem_nil _
  refine keeps_bind.2 ((keeps_mapExit _ _).2 (keeps_ask.2 ⟨⟨smooth, fun _ => rfl⟩, ?_⟩))
  rintro (failure | _ | object) -
  · exact .setback smooth rfl
  · exact .setback smooth rfl
  · -- The object is there, so the rest of the pass starts without a setback.
    refine keeps_bind.2 ((persistDefaults_candid object _ (smooth.cons rfl)).imp ?_)
    intro stored past₁ smooth₁
    refine keeps_bind.2 ((basePhase_candid stored past₁ smooth₁).imp ?_)
    intro ready past₂ smooth₂
    exact (userPhase_candid ready.1 ready.2 past₂ smooth₂).imp fun outcome _ smooth₃ =>
      .ended outcome smooth₃

end Pass

/-- A pass ends at its first setback, whatever it is answered. -/
theorem reconcilePass_candid (identity : Identity) :
    (reconcilePass identity).Keeps (candour.comap .failed)
      (fun outcome => Concludes (.ended outcome)) [] := by
  refine (Pass.steps_candid identity).handle rfl rfl fun reason past concludes => ?_
  cases reason with
  | failed failure => exact concludes
  | ended outcome => exact concludes

/-! ## Setbacks on the way of a pass -/

namespace Program.Comes

variable {identity : Identity} {rest : Program Failure Outcome}

/-- At every point, a pass has been candid, and goes on to be. -/
theorem candid (comes : (reconcilePass identity).Comes past rest) :
    rest.Keeps (candour.comap .failed) (fun outcome => Concludes (.ended outcome)) past ∧
      Along (fun early e => Smooth early ∧ (e.call.isFetch = true → early = [])) past :=
  (reconcilePass_candid identity).comes comes (.of_forall (fun _ _ _ => trivial) past)

/-- A setback is the last that a pass is told, and the pass ends as it demands. -/
theorem setback (comes : (reconcilePass identity).Comes past rest) (member : e ∈ past)
    (demands : e.setback? = some exit) :
    (∃ early, past = e :: early ∧ (e.call.isFetch = true → early = [])) ∧
      rest.result? = some (Pass.settle exit) := by
  obtain ⟨keeps, along⟩ := comes.candid
  have rough : ¬ Smooth past := fun smooth => nomatch demands.symm.trans (smooth e member)
  -- The pass has ended, as it would make a call only without setback; and the setback that it has
  -- ended at is this one.
  have concludes : ∃ exit', rest.result? = some (Pass.settle exit') ∧ Concludes exit' past := by
    cases rest with
    | done outcome => exact ⟨.ended outcome, rfl, keeps⟩
    | exit failure => exact ⟨.failed failure, rfl, keeps⟩
    | call c resume => exact absurd keeps.1.1 rough
  obtain ⟨exit', ended, concludes⟩ := concludes
  cases concludes with
  | ended outcome smooth => exact absurd smooth rough
  | setback smooth demands' =>
    rcases List.mem_cons.1 member with rfl | old
    · cases demands.symm.trans demands'
      exact ⟨⟨_, rfl, along.2.2⟩, ended⟩
    · exact nomatch demands.symm.trans (smooth e old)

/-- A failure that a pass returns is the one that its last call has ended in. -/
theorem failed (comes : (reconcilePass identity).Comes past rest) {failure : Failure}
    (ended : rest.result? = some (.error failure)) :
    ∃ e early, past = e :: early ∧ e.failure? = some failure := by
  -- An end without setback is an outcome, and so is no failure.
  cases comes.candid.1.result ended with
  | setback smooth demands => exact ⟨_, _, rfl, Call.Exchange.failure?_of_setback? demands⟩

end Program.Comes

end JenkinsOperator
