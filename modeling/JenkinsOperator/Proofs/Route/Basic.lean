import JenkinsOperator.Proofs.Pass.Protocol

/-!
# The route of a pass

A pass has one way to go. `Reaches` follows it from stage to stage: the object is read, its
specification is complete and stored like that, the master is found valid, the start of provisioning
is stamped, the master is ready, the base phase is completed, the seed jobs are found valid, the
seed jobs are done, the job for the scripts is there, the scripts are known, they are applied, and
the user phase is completed. Each rule says which answer leads on; a stamp that is set already is
passed without a call.

`Due` says which call is next on the way, together with the two that lead off it: a rejection, and
the record of a failure for good with the word to the user. `Ends` says where the way ends, and with
what result.

The order is stated apart from the pass and of its exchanges alone. `reconcilePass_travels` shows
that a pass keeps to it.
-/

namespace JenkinsOperator

namespace Jenkins

/-- The object with defaults for all that its specification leaves open. -/
def withDefaults (j : Jenkins) : Jenkins := { j with spec := j.spec.withDefaults }

/-- The object with the start of provisioning stamped. -/
def withStart (j : Jenkins) (now : Time) : Jenkins :=
  { j with status := some { j.statusOrUnset with provisionStart := some now } }

/-- The object with a phase stamped as completed. -/
def withStamp (j : Jenkins) (phase : Phase) (now : Time) : Jenkins :=
  { j with status := some (j.statusOrUnset.stamp phase now) }

/-- Where the Secret of a deploy key is. -/
def secretIdentity (j : Jenkins) (selector : SecretKeySelector) : Identity :=
  ⟨j.metadata.namespaceName.getD "", selector.name⟩

/-- Where the configuration scripts are. -/
def scriptsIdentity (j : Jenkins) : Identity := ⟨j.metadata.namespaceName.getD "", j.configMapName⟩

end Jenkins

/-- The violations of the master, given the verdict of the provisioner. -/
def JenkinsSpec.baseViolations (s : JenkinsSpec) (accepted : Bool) : List String :=
  s.master.violations ++ if accepted then [] else ["rejected by base provisioner"]

/-- The violations of a job whose deploy key is in a Secret. -/
def SeedJob.keyedViolations (job : SeedJob) (selector : SecretKeySelector)
    (data : Option SecretData) : List String :=
  (job.ownViolations ++ (keyViolation? selector data).toList).map job.violation

/-! ## Answers that end a pass -/

namespace Call.Exchange

/-- The failure that a call has ended in. -/
def failure? : Call.Exchange → Option Failure
  | ⟨.fetch _, .error failure⟩ => some failure
  | ⟨.writeSpec _, .error failure⟩ => some failure
  | ⟨.writeStatus _, .error failure⟩ => some failure
  | ⟨.readConfigMap _, .error failure⟩ => some failure
  | ⟨.readSecret _, .error failure⟩ => some failure
  | ⟨.acceptsSpec _, .error failure⟩ => some failure
  | ⟨.provision _, .error failure⟩ => some failure
  | ⟨.ensureSeedJobs _ _, .error failure⟩ => some failure
  | ⟨.configureScripts _, .error failure⟩ => some failure
  | ⟨.runScripts _ _ _, .error failure⟩ => some failure
  | _ => none

/-- Whether a write has lost against another writer. -/
def isLost : Call.Exchange → Bool
  | ⟨.writeSpec _, .ok .conflict⟩ => true
  | ⟨.writeStatus _, .ok .conflict⟩ => true
  | _ => false

/-- How long to wait for what is not ready yet. -/
def delay? : Call.Exchange → Option Milliseconds
  | ⟨.provision _, .ok (.inProgress delay)⟩ => some delay
  | ⟨.ensureSeedJobs _ _, .ok .pending⟩ => some 10000
  | ⟨.ensureSeedJobs _ _, .ok (.buildFailed _)⟩ => some 10000
  | ⟨.readConfigMap _, .ok none⟩ => some 10000
  | ⟨.runScripts _ _ _, .ok false⟩ => some 10000
  | _ => none

end Call.Exchange

/-! ## Words to the user -/

/-- What a call tells the user. -/
def Call.word? : Call → Option Notification
  | .publish _ n => some n
  | _ => none

/-- What the user was told, the first word first. -/
def words : Past → List Notification
  | [] => []
  | e :: past => words past ++ e.call.word?.toList

/-- The rejections among the words. -/
def rejections (past : Past) : List Notification :=
  (words past).filter (·.reason == .validationFailure)

/-- The other words: phases that were completed, and failures for good. -/
def announced (past : Past) : List Notification :=
  (words past).filter (·.reason != .validationFailure)

/-! ## The way -/

/-- How far a pass has come, with the copy of the object that it holds. -/
inductive Stage where
  /-- The object has been read. -/
  | read (object : Jenkins)
  /-- Its specification leaves nothing open, and is stored like that. -/
  | filled (object : Jenkins)
  /-- The master was found valid. -/
  | approved (object : Jenkins)
  /-- The start of provisioning is stamped. -/
  | started (object : Jenkins)
  /-- What a phase is for is done: the master is ready, or the scripts are applied. -/
  | achieved (phase : Phase) (object : Jenkins) (handle : ServerHandle)
  /-- The phase is stamped as completed. -/
  | completed (phase : Phase) (object : Jenkins) (handle : ServerHandle)
  /-- Violations were found in some seed jobs, and the others are left to judge. -/
  | judging (object : Jenkins) (handle : ServerHandle) (found : List String) (rest : List SeedJob)
  /-- The seed jobs are done. -/
  | seeded (object : Jenkins) (handle : ServerHandle)
  /-- The job that runs scripts is there. -/
  | configured (object : Jenkins) (handle : ServerHandle)
  /-- The scripts are known. -/
  | equipped (object : Jenkins) (handle : ServerHandle) (scripts : Scripts)

/-- The copy of the object at a stage. -/
def Stage.object : Stage → Jenkins
  | .read object => object
  | .filled object => object
  | .approved object => object
  | .started object => object
  | .achieved _ object _ => object
  | .completed _ object _ => object
  | .judging object _ _ _ => object
  | .seeded object _ => object
  | .configured object _ => object
  | .equipped object _ _ => object

section Way

variable (server : Jenkins → Jenkins → Prop) (identity : Identity)

/-- By exactly these exchanges, each answered so that it leads on, a pass comes to a stage. -/
inductive Reaches : Stage → Past → Prop where
  | read (object : Jenkins) :
      Reaches (.read object) [⟨.fetch identity, .ok (some object)⟩]
  | keepSpec {past : Past} {object : Jenkins} :
      Reaches (.read object) past → object.spec.isIncomplete = false →
      Reaches (.filled object) past
  | fill {past : Past} {object : Jenkins} (stored : Jenkins) :
      Reaches (.read object) past → object.spec.isIncomplete = true →
      Accepted server object stored (.writeSpec object.withDefaults) →
      Reaches (.filled stored) (⟨.writeSpec object.withDefaults, .ok (.updated stored)⟩ :: past)
  | approve {past : Past} {object : Jenkins} (accepted : Bool) :
      Reaches (.filled object) past → object.spec.baseViolations accepted = [] →
      Reaches (.approved object) (⟨.acceptsSpec object, .ok accepted⟩ :: past)
  | keepStart {past : Past} {object : Jenkins} :
      Reaches (.approved object) past → object.statusOrUnset.provisionStart.isSome = true →
      Reaches (.started object) past
  | start {past : Past} {object : Jenkins} (now : Time) (stored : Jenkins) :
      Reaches (.approved object) past → object.statusOrUnset.provisionStart = none →
      Accepted server object stored (.writeStatus (object.withStart now)) →
      Reaches (.started stored)
        (⟨.writeStatus (object.withStart now), .ok (.updated stored)⟩ :: ⟨.clock, now⟩ :: past)
  | provision {past : Past} {object : Jenkins} (handle : ServerHandle) :
      Reaches (.started object) past →
      Reaches (.achieved .base object handle) (⟨.provision object, .ok (.ready handle)⟩ :: past)
  | keepStamp {past : Past} {object : Jenkins} {handle : ServerHandle} {phase : Phase} :
      Reaches (.achieved phase object handle) past →
      (object.statusOrUnset.completedAt phase).isSome = true →
      Reaches (.completed phase object handle) past
  | stamp {past : Past} {object : Jenkins} {handle : ServerHandle} {phase : Phase} (now : Time)
      (stored : Jenkins) :
      Reaches (.achieved phase object handle) past →
      object.statusOrUnset.completedAt phase = none →
      Accepted server object stored (.writeStatus (object.withStamp phase now)) →
      Reaches (.completed phase stored handle)
        (⟨.publish stored (.completed phase), ()⟩ ::
          ⟨.writeStatus (object.withStamp phase now), .ok (.updated stored)⟩ ::
          ⟨.clock, now⟩ :: past)
  | judge {past : Past} {object : Jenkins} {handle : ServerHandle} :
      Reaches (.completed .base object handle) past →
      Reaches (.judging object handle [] object.spec.seedJobs) past
  | keyless {past : Past} {object : Jenkins} {handle : ServerHandle} {found : List String}
      {job : SeedJob} {rest : List SeedJob} :
      Reaches (.judging object handle found (job :: rest)) past → job.privateKey = none →
      Reaches (.judging object handle (found ++ job.ownViolations.map job.violation) rest) past
  | keyed {past : Past} {object : Jenkins} {handle : ServerHandle} {found : List String}
      {job : SeedJob} {rest : List SeedJob} (selector : SecretKeySelector)
      (data : Option SecretData) :
      Reaches (.judging object handle found (job :: rest)) past →
      job.privateKey = some selector →
      Reaches (.judging object handle (found ++ job.keyedViolations selector data) rest)
        (⟨.readSecret (object.secretIdentity selector), .ok data⟩ :: past)
  | seed {past : Past} {object : Jenkins} {handle : ServerHandle} :
      Reaches (.judging object handle [] []) past → object.isHalted = false →
      Reaches (.seeded object handle) (⟨.ensureSeedJobs handle object, .ok .done⟩ :: past)
  | configure {past : Past} {object : Jenkins} {handle : ServerHandle} :
      Reaches (.seeded object handle) past →
      Reaches (.configured object handle) (⟨.configureScripts handle, .ok ()⟩ :: past)
  | equip {past : Past} {object : Jenkins} {handle : ServerHandle} (scripts : Scripts) :
      Reaches (.configured object handle) past →
      Reaches (.equipped object handle scripts)
        (⟨.readConfigMap object.scriptsIdentity, .ok (some scripts)⟩ :: past)
  | apply {past : Past} {object : Jenkins} {handle : ServerHandle} {scripts : Scripts} :
      Reaches (.equipped object handle scripts) past →
      Reaches (.achieved .user object handle)
        (⟨.runScripts handle scripts object, .ok true⟩ :: past)

/-- After exactly these exchanges, a call is the next one. -/
inductive Due : Past → Call → Prop where
  | fetch : Due [] (.fetch identity)
  | fill {past : Past} {object : Jenkins} :
      Reaches server identity (.read object) past → object.spec.isIncomplete = true →
      Due past (.writeSpec object.withDefaults)
  | approve {past : Past} {object : Jenkins} :
      Reaches server identity (.filled object) past → Due past (.acceptsSpec object)
  | rejectBase {past : Past} {object : Jenkins} (accepted : Bool) :
      Reaches server identity (.filled object) past → object.spec.baseViolations accepted ≠ [] →
      Due (⟨.acceptsSpec object, .ok accepted⟩ :: past)
        (.publish object (.rejection "Base" (object.spec.baseViolations accepted)))
  | startClock {past : Past} {object : Jenkins} :
      Reaches server identity (.approved object) past →
      object.statusOrUnset.provisionStart = none → Due past .clock
  | start {past : Past} {object : Jenkins} (now : Time) :
      Reaches server identity (.approved object) past →
      object.statusOrUnset.provisionStart = none →
      Due (⟨.clock, now⟩ :: past) (.writeStatus (object.withStart now))
  | provision {past : Past} {object : Jenkins} :
      Reaches server identity (.started object) past → Due past (.provision object)
  | stampClock {past : Past} {object : Jenkins} {handle : ServerHandle} {phase : Phase} :
      Reaches server identity (.achieved phase object handle) past →
      object.statusOrUnset.completedAt phase = none → Due past .clock
  | stamp {past : Past} {object : Jenkins} {handle : ServerHandle} {phase : Phase} (now : Time) :
      Reaches server identity (.achieved phase object handle) past →
      object.statusOrUnset.completedAt phase = none →
      Due (⟨.clock, now⟩ :: past) (.writeStatus (object.withStamp phase now))
  | announce {past : Past} {object : Jenkins} {handle : ServerHandle} {phase : Phase} (now : Time)
      (stored : Jenkins) :
      Reaches server identity (.achieved phase object handle) past →
      object.statusOrUnset.completedAt phase = none →
      Accepted server object stored (.writeStatus (object.withStamp phase now)) →
      Due (⟨.writeStatus (object.withStamp phase now), .ok (.updated stored)⟩ ::
          ⟨.clock, now⟩ :: past) (.publish stored (.completed phase))
  | readSecret {past : Past} {object : Jenkins} {handle : ServerHandle} {found : List String}
      {job : SeedJob} {rest : List SeedJob} {selector : SecretKeySelector} :
      Reaches server identity (.judging object handle found (job :: rest)) past →
      job.privateKey = some selector → Due past (.readSecret (object.secretIdentity selector))
  | rejectUser {past : Past} {object : Jenkins} {handle : ServerHandle} {found : List String} :
      Reaches server identity (.judging object handle found []) past → found ≠ [] →
      Due past (.publish object (.rejection "User" found))
  | seed {past : Past} {object : Jenkins} {handle : ServerHandle} :
      Reaches server identity (.judging object handle [] []) past → object.isHalted = false →
      Due past (.ensureSeedJobs handle object)
  | halt {past : Past} {object : Jenkins} {handle : ServerHandle} (message : String) :
      Reaches server identity (.judging object handle [] []) past → object.isHalted = false →
      Due (⟨.ensureSeedJobs handle object, .ok (.unrecoverable message)⟩ :: past)
        (.writeStatus object.withHalt)
  | alarm {past : Past} {object : Jenkins} {handle : ServerHandle} (message : String)
      (stored : Jenkins) :
      Reaches server identity (.judging object handle [] []) past → object.isHalted = false →
      Accepted server object stored (.writeStatus object.withHalt) →
      Due (⟨.writeStatus object.withHalt, .ok (.updated stored)⟩ ::
          ⟨.ensureSeedJobs handle object, .ok (.unrecoverable message)⟩ :: past)
        (.publish stored (.seedJobsHalted message))
  | configure {past : Past} {object : Jenkins} {handle : ServerHandle} :
      Reaches server identity (.seeded object handle) past → Due past (.configureScripts handle)
  | equip {past : Past} {object : Jenkins} {handle : ServerHandle} :
      Reaches server identity (.configured object handle) past →
      Due past (.readConfigMap object.scriptsIdentity)
  | apply {past : Past} {object : Jenkins} {handle : ServerHandle} {scripts : Scripts} :
      Reaches server identity (.equipped object handle scripts) past →
      Due past (.runScripts handle scripts object)

/-- Each of these exchanges was the next one after those before it. -/
abbrev OnRoute : Past → Prop := Along fun early e => Due server identity early e.call

/-- By exactly these exchanges, a pass comes to its end, with a result. -/
inductive Ends : Past → Except Failure Outcome → Prop where
  | failed {past : Past} (e : Call.Exchange) (failure : Failure) :
      Due server identity past e.call → e.failure? = some failure →
      Ends (e :: past) (.error failure)
  | lost {past : Past} (e : Call.Exchange) :
      Due server identity past e.call → e.isLost = true → Ends (e :: past) (.ok .requeueNow)
  | delayed {past : Past} (e : Call.Exchange) (delay : Milliseconds) :
      Due server identity past e.call → e.delay? = some delay →
      Ends (e :: past) (.ok (.requeue delay))
  | missing : Ends [⟨.fetch identity, .ok none⟩] (.ok .done)
  | warned {past : Past} {object : Jenkins} {n : Notification} :
      Due server identity past (.publish object n) → n.warning = true →
      Ends (⟨.publish object n, ()⟩ :: past) (.ok .done)
  | halted {past : Past} {object : Jenkins} {handle : ServerHandle} :
      Reaches server identity (.judging object handle [] []) past → object.isHalted = true →
      Ends past (.ok .done)
  | finished {past : Past} {object : Jenkins} {handle : ServerHandle} :
      Reaches server identity (.completed .user object handle) past → Ends past (.ok .done)

end Way

end JenkinsOperator
