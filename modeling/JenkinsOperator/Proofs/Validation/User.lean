import JenkinsOperator.Api.Session
import JenkinsOperator.Pass.Reconcile
import JenkinsOperator.Proofs.Api.Target
import JenkinsOperator.Proofs.Cluster.Schedule

/-!
# What a named Secret comes to

Against a server that answers every request with a Secret or with the message that there is none, the
validation of seed jobs depends on one thing that the server never sees: whether a request can be made
for each Secret that is named. If one can, the validation ends with a report, whatever the jobs say;
the first name for which there is no request makes it a failure.

`Pass.userPhase_run` follows this to the end of a pass. With requests for all names, a mistake in a
job ends the pass with a warning and with nothing to do. Without one, the pass fails, and is run again
after the delay for failures, as long as the name stays: `Pass.userPhase_unnamed`.
-/

namespace JenkinsOperator

namespace Program

variable {ε δ α β σ : Type} {answer : (c : Call) → σ → c.Answer × σ}

/-- A program runs to its value, and then what goes on from that; or it leaves early. -/
theorem run_bind (p : Program ε α) (next : α → Program ε β) (s : σ) :
    (p >>= next).run answer s
      = match p.run answer s with
        | (.ok value, s') => (next value).run answer s'
        | (.error reason, s') => (.error reason, s') := by
  induction p generalizing s with
  | done value => rfl
  | exit reason => rfl
  | call c resume ih => exact ih (answer c s).1 (answer c s).2

variable {s s' : σ} {p : Program ε α} {next : α → Program ε β} {value : α} {reason : ε}

theorem run_bind_ok (h : p.run answer s = (.ok value, s')) :
    (p >>= next).run answer s = (next value).run answer s' := by
  rw [run_bind, h]

theorem run_bind_error (h : p.run answer s = (.error reason, s')) :
    (p >>= next).run answer s = (.error reason, s') := by
  rw [run_bind, h]

theorem run_mapExit (f : ε → δ) (p : Program ε α) (s : σ) :
    (p.mapExit f).run answer s = ((p.run answer s).1.mapError f, (p.run answer s).2) := by
  induction p generalizing s with
  | done value => rfl
  | exit reason => rfl
  | call c resume ih => exact ih (answer c s).1 (answer c s).2

/-- A single call ends with its answer. -/
theorem run_ask (c : Call) (view : c.Answer → Except Failure α) (s : σ) :
    (ask c view).run answer s = (view (answer c s).1, (answer c s).2) := by
  rw [ask, run]
  rcases answer c s with ⟨a, s'⟩
  dsimp only
  cases view a with
  | ok value => rfl
  | error failure => rfl

end Program

/-! ## Servers of Secrets -/

/-- Whether a response is a Secret, or says that there is none. -/
def Response.AnswersSecret (r : Response) : Prop :=
  ∃ found, r.documentIfFound Client.secretOfJson? = .ok found

namespace Session

/-- Whether a response may be one of those that the server gives. -/
def Gives (s : Session) (r : Response) : Prop := r ∈ s.responses ∨ ∃ target, r = s.otherwise target

/-- Whether the server answers every request with a Secret, or with the message that there is none. -/
def ServesSecrets (s : Session) : Prop := ∀ r, s.Gives r → r.AnswersSecret

/-- What may be found of a Secret. -/
def Finds (s : Session) (found : Option SecretData) : Prop :=
  ∃ r, s.Gives r ∧ r.documentIfFound Client.secretOfJson? = .ok found

end Session

/-- The Secrets that seed jobs name, one after another. -/
def secretsOf (namespaceName : String) (jobs : List SeedJob) : List Identity :=
  jobs.filterMap fun job => job.privateKey.map fun selector => ⟨namespaceName, selector.name⟩

/-- Whether a request for a Secret can be made. -/
def Identity.isAskable (i : Identity) : Bool :=
  (Client.targetOf? (Client.secretsPath i.namespaceName) i.name).isSome

/-- The failure of a request for a Secret that cannot be made. -/
def Identity.unaskable (i : Identity) : Failure := .api s!"get secret {i.text}" .unsendable

/-- The violations of jobs, given what was found of the Secrets that they name. -/
def violationsOf : List SeedJob → List (Option SecretData) → List String
  | [], _ => []
  | job :: rest, found =>
    match job.privateKey with
    | none => job.ownViolations.map job.violation ++ violationsOf rest found
    | some selector =>
      (job.ownViolations ++ (keyViolation? selector found.head?.join).toList).map job.violation
        ++ violationsOf rest found.tail

theorem Session.ServesSecrets.of_gives {s s' : Session} (serves : s.ServesSecrets)
    (less : ∀ r, s'.Gives r → s.Gives r) : s'.ServesSecrets :=
  fun r given => serves r (less r given)

theorem Session.Finds.of_gives {s s' : Session} {found : Option SecretData} (h : s'.Finds found)
    (less : ∀ r, s'.Gives r → s.Gives r) : s.Finds found := by
  obtain ⟨r, given, reads⟩ := h
  exact ⟨r, less r given, reads⟩

/-- A Secret is asked for and found or missed, or there is no request for it. -/
theorem readSecret_run {s : Session} (serves : s.ServesSecrets) (i : Identity) :
    if i.isAskable then
      ∃ found s', s.run (readSecret i) = (.ok found, s') ∧ s.Finds found
        ∧ ∀ r, s'.Gives r → s.Gives r
    else s.run (readSecret i) = (.error i.unaskable, s) := by
  have asked : s.run (readSecret i) = s.perform (Client.readSecret i) := Program.run_ask _ _ _
  rw [asked, Client.readSecret, Client.read_eq, Identity.isAskable]
  cases sendable : Client.targetOf? (Client.secretsPath i.namespaceName) i.name with
  | none => rfl
  | some target =>
    have given : s.Gives (s.responses.head?.getD (s.otherwise target)) := by
      cases next : s.responses with
      | nil => exact .inr ⟨target, rfl⟩
      | cons r rest => exact .inl (by rw [next]; exact List.mem_cons_self)
    obtain ⟨found, reads⟩ := serves _ given
    refine ⟨found, _, Prod.ext ?_ rfl, ⟨_, given, reads⟩, ?_⟩
    · exact congrArg (during _) reads
    · rintro r (mem | otherwise)
      · exact .inl (List.mem_of_mem_tail mem)
      · exact .inr otherwise

variable {namespaceName : String} {job : SeedJob} {rest : List SeedJob} {selector : SecretKeySelector}

theorem secretsOf_keyless (key : job.privateKey = none) :
    secretsOf namespaceName (job :: rest) = secretsOf namespaceName rest :=
  List.filterMap_cons_none (by rw [key]; rfl)

theorem secretsOf_keyed (key : job.privateKey = some selector) :
    secretsOf namespaceName (job :: rest)
      = ⟨namespaceName, selector.name⟩ :: secretsOf namespaceName rest :=
  List.filterMap_cons_some (by rw [key]; rfl)

theorem validateSeedJob_keyless (s : Session) (key : job.privateKey = none) :
    s.run (validateSeedJob namespaceName job) = (.ok (job.ownViolations.map job.violation), s) := by
  unfold validateSeedJob
  rw [key]
  rfl

/-- A job with a key is judged by the Secret that was read for it. -/
theorem validateSeedJob_keyed {s s' : Session} (key : job.privateKey = some selector)
    {data : Option SecretData}
    (found : s.run (readSecret ⟨namespaceName, selector.name⟩) = (.ok data, s')) :
    s.run (validateSeedJob namespaceName job)
      = (.ok ((job.ownViolations ++ (keyViolation? selector data).toList).map job.violation), s') := by
  unfold validateSeedJob
  rw [key]
  exact Program.run_bind_ok found

/-- If there is a request for every Secret that is named, the validation ends with violations. -/
theorem validateSeedJobs_askable {s : Session} (serves : s.ServesSecrets) {jobs : List SeedJob}
    (askable : ∀ i ∈ secretsOf namespaceName jobs, i.isAskable = true) :
    ∃ found s', s.run (validateSeedJobs namespaceName jobs) = (.ok (violationsOf jobs found), s')
      ∧ found.length = (secretsOf namespaceName jobs).length ∧ ∀ data ∈ found, s.Finds data := by
  -- Each request takes a response off the session, and what is left is none that was not there before.
  induction jobs generalizing s with
  | nil => exact ⟨[], s, rfl, rfl, fun _ mem => nomatch mem⟩
  | cons job rest ih =>
    cases key : job.privateKey with
    | none =>
      rw [secretsOf_keyless key] at askable ⊢
      obtain ⟨found, s', ends, count, finds⟩ := ih serves askable
      refine ⟨found, s', ?_, count, finds⟩
      rw [violationsOf, key]
      exact (Program.run_bind_ok (validateSeedJob_keyless s key)).trans (Program.run_bind_ok ends)
    | some selector =>
      rw [secretsOf_keyed key] at askable ⊢
      have asked := readSecret_run serves ⟨namespaceName, selector.name⟩
      rw [if_pos (askable _ List.mem_cons_self)] at asked
      obtain ⟨data, s₁, reads, here, less⟩ := asked
      obtain ⟨found, s', ends, count, finds⟩ :=
        ih (serves.of_gives less) fun i mem => askable i (List.mem_cons_of_mem _ mem)
      refine ⟨data :: found, s', ?_, congrArg Nat.succ count, ?_⟩
      · rw [violationsOf, key]
        exact (Program.run_bind_ok (validateSeedJob_keyed key reads)).trans (Program.run_bind_ok ends)
      · intro later mem
        cases mem with
        | head => exact here
        | tail _ mem => exact (finds later mem).of_gives less

/-- The first Secret that there is no request for makes the validation fail. -/
theorem validateSeedJobs_unaskable {s : Session} (serves : s.ServesSecrets) {jobs : List SeedJob}
    {i : Identity}
    (first : (secretsOf namespaceName jobs).find? (fun i => !i.isAskable) = some i) :
    ∃ s', s.run (validateSeedJobs namespaceName jobs) = (.error i.unaskable, s') := by
  induction jobs generalizing s with
  | nil => exact nomatch first
  | cons job rest ih =>
    cases key : job.privateKey with
    | none =>
      rw [secretsOf_keyless key] at first
      obtain ⟨s', ends⟩ := ih serves first
      refine ⟨s', ?_⟩
      exact (Program.run_bind_ok (validateSeedJob_keyless s key)).trans (Program.run_bind_error ends)
    | some selector =>
      rw [secretsOf_keyed key] at first
      have asked := readSecret_run serves ⟨namespaceName, selector.name⟩
      cases askable : (⟨namespaceName, selector.name⟩ : Identity).isAskable with
      | true =>
        rw [if_pos askable] at asked
        rw [List.find?_cons_of_neg (by rw [askable]; exact Bool.noConfusion)] at first
        obtain ⟨data, s₁, reads, -, less⟩ := asked
        obtain ⟨s', ends⟩ := ih (serves.of_gives less) first
        refine ⟨s', ?_⟩
        exact (Program.run_bind_ok (validateSeedJob_keyed key reads)).trans
          (Program.run_bind_error ends)
      | false =>
        rw [if_neg (by rw [askable]; exact Bool.noConfusion)] at asked
        rw [List.find?_cons_of_pos (by rw [askable]; rfl)] at first
        cases first
        refine ⟨s, Program.run_bind_error ?_⟩
        unfold validateSeedJob
        rw [key]
        exact Program.run_bind_error asked

/-! ## The user phase -/

/-- The Secrets that the seed jobs of an object name. -/
def Jenkins.secrets (object : Jenkins) : List Identity :=
  secretsOf (object.metadata.namespaceName.getD "") object.spec.seedJobs

/-- The part of the user phase after the validation. -/
def Pass.configure (object : Jenkins) (server : ServerHandle) : Pass Outcome := do
  if object.isHalted then stop .done
  else do
    awaitSeedJobs object server
    awaitScripts object server
    discard <| completePhase .user object
    return .done

theorem Session.run_liftM {α : Type} (s : Session) (p : Program Failure α) :
    s.run (liftM p : Pass α) = ((s.run p).1.mapError .failed, (s.run p).2) :=
  Program.run_mapExit _ _ _

/-- A report lets a pass go on if it is valid, and else ends it with a warning. -/
theorem Pass.require_run (s : Session) (object : Jenkins) (subject : String) (report : Report) :
    s.run (Pass.require object subject report)
      = if report.isValid then (.ok (), s)
        else (.error (.ended .done), s.publish object
          (.validationFailed s!"{subject} CR validation failed: {report.message}")) := by
  unfold Pass.require
  split
  · rfl
  · rfl

/-- The validation of the seed jobs, and the user phase that follows it, by whether there is a request
for every Secret that the jobs name. If there is, the validation ends with a report; a report with
violations ends the pass with a warning and with nothing to do, and any other lets it go on. If there
is not, validation and pass fail with the first Secret that there is no request for, and the pass is
run again after the delay for failures. -/
theorem Pass.userPhase_run {s : Session} (serves : s.ServesSecrets) (object : Jenkins)
    (server : ServerHandle) :
    match object.secrets.find? fun i => !i.isAskable with
    | none =>
      ∃ found s' report, report = ⟨violationsOf object.spec.seedJobs found⟩
        ∧ found.length = object.secrets.length ∧ (∀ data ∈ found, s.Finds data)
        ∧ s.run (validateUser object) = (.ok report, s')
        ∧ s.run (Pass.userPhase object server)
            = if report.isValid then s'.run (Pass.configure object server)
              else (.error (.ended .done), s'.publish object
                (.validationFailed s!"User CR validation failed: {report.message}"))
    | some i =>
      ∃ s', s.run (validateUser object) = (.error i.unaskable, s')
        ∧ s.run (Pass.userPhase object server) = (.error (.failed i.unaskable), s')
        ∧ ∀ delay, errorPolicy delay i.unaskable = .requeue delay := by
  cases first : object.secrets.find? fun i => !i.isAskable with
  | some i =>
    obtain ⟨s', ends⟩ := validateSeedJobs_unaskable serves first
    have fails : s.run (validateUser object) = (.error i.unaskable, s') :=
      Program.run_bind_error ends
    refine ⟨s', fails, Program.run_bind_error ((s.run_liftM _).trans ?_), fun delay => rfl⟩
    rw [fails]
    rfl
  | none =>
    have askable : ∀ i ∈ object.secrets, i.isAskable = true := by
      intro i mem
      have asked := List.find?_eq_none.1 first i mem
      simpa using asked
    obtain ⟨found, s', ends, count, finds⟩ := validateSeedJobs_askable serves askable
    have reports : s.run (validateUser object)
        = (.ok ⟨violationsOf object.spec.seedJobs found⟩, s') := Program.run_bind_ok ends
    refine ⟨found, s', _, rfl, count, finds, reports, ?_⟩
    have judged : s.run (liftM (validateUser object) : Pass Report)
        = (.ok ⟨violationsOf object.spec.seedJobs found⟩, s') := by
      rw [s.run_liftM, reports]
      rfl
    refine (Program.run_bind_ok judged).trans ?_
    have required :=
      Pass.require_run s' object "User" ⟨violationsOf object.spec.seedJobs found⟩
    by_cases valid : (⟨violationsOf object.spec.seedJobs found⟩ : Report).isValid = true
    · rw [if_pos valid] at required ⊢
      exact Program.run_bind_ok required
    · rw [if_neg valid] at required ⊢
      exact Program.run_bind_error required

/-- An object with a seed job whose deploy key is in the Secret of a name. -/
def Jenkins.deploying (secret : String) : Jenkins :=
  { Jenkins.created with
    spec := { JenkinsSpec.plain with
      seedJobs := [⟨"jobs", none, none, none, "git@example.com:jobs.git", some ⟨secret, "key"⟩⟩] } }

/-- A session with a server that has nothing. -/
def Session.vacant : Session := .start (.start .noon) none []

theorem Session.absent_reads :
    Session.absent.documentIfFound Client.secretOfJson? = .ok none := by
  decide +kernel

theorem Session.vacant_reads {found : Option SecretData} (finds : Session.vacant.Finds found) :
    found = none := by
  obtain ⟨r, mem | ⟨target, rfl⟩, reads⟩ := finds
  · exact nomatch mem
  · exact (Except.ok.inj (Session.absent_reads.symm.trans reads)).symm

theorem Session.vacant_serves : Session.vacant.ServesSecrets := by
  rintro r (mem | ⟨target, rfl⟩)
  · exact nomatch mem
  · exact ⟨none, Session.absent_reads⟩

/-- A Secret that is not there is a warning, and the end of the pass. -/
theorem Pass.userPhase_run_missing :
    Session.vacant.ServesSecrets
      ∧ ∃ s', Session.vacant.run (Pass.userPhase (.deploying "deploy-key") ⟨"http://ci", "credentials"⟩)
        = (.error (.ended .done), Session.publish s' (.deploying "deploy-key") (.validationFailed
            "User CR validation failed: seed job 'jobs': secret 'deploy-key' not found")) := by
  refine ⟨Session.vacant_serves, ?_⟩
  have ends := Pass.userPhase_run Session.vacant_serves (.deploying "deploy-key")
    ⟨"http://ci", "credentials"⟩
  have askable : (Jenkins.deploying "deploy-key").secrets.find? (fun i => !i.isAskable) = none := by
    decide +kernel
  rw [askable] at ends
  obtain ⟨found, s', report, rfl, count, finds, -, phase⟩ := ends
  obtain ⟨data, rfl⟩ := List.length_eq_one_iff.1 count
  obtain rfl := Session.vacant_reads (finds data List.mem_cons_self)
  have invalid : ¬(⟨violationsOf (Jenkins.deploying "deploy-key").spec.seedJobs [none]⟩ : Report).isValid
      = true := by decide
  have message : (⟨violationsOf (Jenkins.deploying "deploy-key").spec.seedJobs [none]⟩ : Report).message
      = "seed job 'jobs': secret 'deploy-key' not found" := by decide +kernel
  rw [if_neg invalid, message] at phase
  exact ⟨s', phase⟩

/-- A Secret without a name makes every pass fail, though the server has an answer for every request:
the pass is not ended by a warning, and is run again after each delay. -/
theorem Pass.userPhase_unnamed :
    Session.vacant.ServesSecrets
      ∧ Session.vacant.run (Pass.userPhase (.deploying "") ⟨"http://ci", "credentials"⟩)
          = (.error (.failed (.api "get secret default/" .unsendable)), Session.vacant)
      ∧ errorPolicy 5000 (.api "get secret default/" .unsendable) = .requeue 5000 :=
  ⟨Session.vacant_serves, rfl, rfl⟩

end JenkinsOperator
