import JenkinsOperator.Proofs.Pass.Conduct
import JenkinsOperator.Proofs.Text.Cut
import JenkinsOperator.Proofs.Validation.User
import Mathlib.Data.List.Infix

/-!
# Validation of seed jobs, job by job

Whatever the store answers (it may change between two lookups, and fail at any), the validation of
seed jobs looks up the Secrets that the jobs name, one after another, and nothing else. It goes on
to the next job whatever was found of the last one, and stops only at a lookup that fails. The jobs
share one report and nothing more: `validateSeedJobs_append`.

`validateUser_exact` puts this together with what is found of one job, part by part
(`SeedJob.Reports`), and with the rules that a job has to meet (`SeedJob.Passes`).
-/

namespace JenkinsOperator

/-! ## Answers that depend on everything before them -/

/-- What answers the calls of a program. An answer may depend on all exchanges before it, so a store
of Secrets may change, fail, and answer one lookup in two ways. -/
abbrev Oracle := Past → (c : Call) → c.Answer

/-- The answer to a call, and the exchanges with it. -/
def Oracle.turn (oracle : Oracle) (c : Call) (past : Past) : c.Answer × Past :=
  (oracle past c, ⟨c, oracle past c⟩ :: past)

/-- The result of a program, and its exchanges, the last one first. -/
def Program.consult {ε α : Type} (oracle : Oracle) (p : Program ε α) : Except ε α × Past :=
  p.run oracle.turn []

/-- A lookup of a Secret that did not fail. -/
def Identity.lookedUp (i : Identity) (found : Option SecretData) : Call.Exchange :=
  ⟨.readSecret i, .ok found⟩

/-- Each job with what was found of the Secret that it names, given what was found one after
another; with nothing if it names none. -/
def informed : List SeedJob → List (Option SecretData) → List (SeedJob × Option SecretData)
  | [], _ => []
  | job :: rest, found =>
    match job.privateKey with
    | none => (job, none) :: informed rest found
    | some _ => (job, found.head?.join) :: informed rest found.tail

/-! ## What is found of a job -/

/-- What is reported of a job, given what was found of the Secret that it names: a part for the
identifier, a part for the way to the repository, a part for the deploy key. -/
structure SeedJob.Finds (job : SeedJob) (found : Option SecretData) (id url key : List String) :
    Prop where
  /-- An empty identifier is reported. -/
  id : id = if job.id = "" then ["seed job id can't be empty"] else []
  /-- A repository that is reached over SSH is reported if no key is named. -/
  url : url = if "git@".toList <:+: job.repositoryUrl.toList ∧ job.privateKey = none then
      ["private key can't be empty while using ssh repository url"]
    else []
  /-- Nothing is reported of a key that is not named. -/
  keyless : job.privateKey = none → key = []
  /-- A Secret that is not there is reported. -/
  missing : ∀ selector, job.privateKey = some selector → found = none →
    key = [s!"secret '{selector.name}' not found"]
  /-- A key that is not in the Secret is reported, and one without bytes. -/
  empty : ∀ selector data, job.privateKey = some selector → found = some data →
    (data.find? selector.key = none ∨ data.find? selector.key = some []) →
      key = [s!"private key '{selector.key}' in secret '{selector.name}' is empty"]
  /-- Bytes that are no deploy key are reported. -/
  refused : ∀ selector data bytes error, job.privateKey = some selector → found = some data →
    data.find? selector.key = some bytes → bytes ≠ [] → DeployKey.validate bytes = .error error →
      key = [s!"private key is invalid: {error.message}"]
  /-- Nothing is reported of a deploy key. -/
  usable : ∀ selector data bytes, job.privateKey = some selector → found = some data →
    data.find? selector.key = some bytes → bytes ≠ [] → DeployKey.validate bytes = .ok () → key = []

/-- What is reported of a job, all parts of it, each text with the job that it belongs to. -/
def SeedJob.Reports (found : Option SecretData) (job : SeedJob) (violations : List String) : Prop :=
  ∃ id url key, job.Finds found id url key ∧ violations = (id ++ url ++ key).map job.violation

/-- The rules that a job has to meet, given what was found of the Secret that it names. -/
structure SeedJob.Passes (job : SeedJob) (found : Option SecretData) : Prop where
  id : job.id ≠ ""
  url : "git@".toList <:+: job.repositoryUrl.toList → job.privateKey ≠ none
  key : ∀ selector, job.privateKey = some selector →
    ∃ data bytes, found = some data ∧ data.find? selector.key = some bytes ∧ bytes ≠ [] ∧
      DeployKey.validate bytes = .ok ()

/-- How the lookups of some Secrets end, one after another: all of them are made and none fails, or
the first that fails is the last. -/
inductive Lookups (secrets : List Identity) (found : List (Option SecretData)) :
    Except Failure Unit → Past → Prop where
  | all : found.length = secrets.length →
      Lookups secrets found (.ok ()) (List.zipWith Identity.lookedUp secrets found).reverse
  | failed (i : Identity) (failure : Failure) : secrets[found.length]? = some i →
      Lookups secrets found (.error failure)
        (⟨.readSecret i, .error failure⟩ :: (List.zipWith Identity.lookedUp secrets found).reverse)

/-! ## One job -/

namespace SeedJob

variable {job : SeedJob} {found : Option SecretData}

/-- What is reported of the key of a job, if anything. -/
def keyTexts (job : SeedJob) (found : Option SecretData) : List String :=
  (job.privateKey.bind fun selector => keyViolation? selector found).toList

/-- A job uses SSH if the user of Git stands anywhere in its address. -/
theorem usesSsh_iff : job.usesSsh = true ↔ "git@".toList <:+: job.repositoryUrl.toList :=
  Text.contains_iff_infix

theorem keyTexts_of_some {selector : SecretKeySelector} (key : job.privateKey = some selector) :
    job.keyTexts found = (keyViolation? selector found).toList := by
  rw [keyTexts, key]
  rfl

/-- What is found of a key in its Secret, by the bytes under it. -/
theorem keyViolation?_some (selector : SecretKeySelector) (data : SecretData) :
    keyViolation? selector (some data) =
      match (data.find? selector.key).getD [] with
      | [] => some s!"private key '{selector.key}' in secret '{selector.name}' is empty"
      | b :: bytes =>
        match DeployKey.validate (b :: bytes) with
        | .ok () => none
        | .error error => some s!"private key is invalid: {error.message}" := by
  simp only [keyViolation?]
  cases (data.find? selector.key).getD [] with
  | nil => rfl
  | cons b bytes => rfl

/-- The parts of what is reported of a job. -/
theorem finds (job : SeedJob) (found : Option SecretData) :
    job.Finds found (if job.id.isEmpty then ["seed job id can't be empty"] else [])
      (if job.usesSsh && job.privateKey.isNone then
        ["private key can't be empty while using ssh repository url"] else [])
      (job.keyTexts found) where
  id := by simp
  url := by simp [usesSsh_iff]
  keyless := by
    intro key
    rw [keyTexts, key]
    rfl
  missing := by
    intro selector key absent
    rw [keyTexts_of_some key, absent]
    rfl
  empty := by
    intro selector data key here bytes
    rw [keyTexts_of_some key, here, keyViolation?_some]
    rcases bytes with none | empty
    · rw [none]
      rfl
    · rw [empty]
      rfl
  refused := by
    intro selector data bytes error key here there some refused
    rw [keyTexts_of_some key, here, keyViolation?_some, there]
    cases bytes with
    | nil => exact absurd rfl some
    | cons b bytes =>
      simp only [Option.getD_some, refused]
      rfl
  usable := by
    intro selector data bytes key here there some accepted
    rw [keyTexts_of_some key, here, keyViolation?_some, there]
    cases bytes with
    | nil => exact absurd rfl some
    | cons b bytes =>
      simp only [Option.getD_some, accepted]
      rfl

theorem reports (job : SeedJob) (found : Option SecretData) :
    job.Reports found ((job.ownViolations ++ job.keyTexts found).map job.violation) :=
  ⟨_, _, _, job.finds found, rfl⟩

/-- Nothing is reported of a key if and only if it meets its rule. -/
theorem keyTexts_eq_nil_iff :
    job.keyTexts found = [] ↔ ∀ selector, job.privateKey = some selector →
      ∃ data bytes, found = some data ∧ data.find? selector.key = some bytes ∧ bytes ≠ [] ∧
        DeployKey.validate bytes = .ok () := by
  cases key : job.privateKey with
  | none => simp [keyTexts, key]
  | some selector =>
    rw [keyTexts_of_some key]
    cases found with
    | none => simp [keyViolation?]
    | some data =>
      rw [keyViolation?_some]
      cases there : data.find? selector.key with
      | none => simp [there]
      | some bytes =>
        cases bytes with
        | nil => simp [there]
        | cons b bytes =>
          cases judged : DeployKey.validate (b :: bytes) with
          | ok accepted => simp [there, judged]
          | error error => simp [there, judged]

/-- Nothing is reported of a job if and only if it meets all rules. -/
theorem texts_eq_nil_iff :
    (job.ownViolations ++ job.keyTexts found).map job.violation = [] ↔ job.Passes found := by
  rw [List.map_eq_nil_iff, List.append_eq_nil_iff, ownViolations, List.append_eq_nil_iff,
    keyTexts_eq_nil_iff]
  constructor
  · rintro ⟨⟨named, reached⟩, key⟩
    refine ⟨?_, ?_, key⟩
    · intro unnamed
      simp [unnamed] at named
    · intro ssh keyless
      simp [usesSsh_iff.2 ssh, keyless] at reached
  · rintro ⟨id, url, key⟩
    refine ⟨⟨?_, ?_⟩, key⟩
    · simp [id]
    · have ssh : job.usesSsh = true → job.privateKey ≠ none := fun ssh => url (usesSsh_iff.1 ssh)
      simp only [ite_eq_right_iff, Bool.and_eq_true, Option.isNone_iff_eq_none]
      rintro ⟨reached, keyless⟩
      exact absurd keyless (ssh reached)

end SeedJob

/-! ## All jobs -/

theorem informed_keyless {job : SeedJob} {rest : List SeedJob} (key : job.privateKey = none)
    (found : List (Option SecretData)) :
    informed (job :: rest) found = (job, none) :: informed rest found := by
  rw [informed, key]

theorem informed_keyed {job : SeedJob} {rest : List SeedJob} {selector : SecretKeySelector}
    (key : job.privateKey = some selector) (found : List (Option SecretData)) :
    informed (job :: rest) found = (job, found.head?.join) :: informed rest found.tail := by
  rw [informed, key]

/-- The violations of jobs are those of one job after another. -/
theorem violationsOf_eq_flatMap (jobs : List SeedJob) (found : List (Option SecretData)) :
    violationsOf jobs found =
      (informed jobs found).flatMap fun e =>
        (e.1.ownViolations ++ e.1.keyTexts e.2).map e.1.violation := by
  induction jobs generalizing found with
  | nil => rfl
  | cons job rest ih =>
    cases key : job.privateKey with
    | none => simp [violationsOf, informed_keyless, key, ih, SeedJob.keyTexts]
    | some selector => simp [violationsOf, informed_keyed, key, ih, SeedJob.keyTexts]

theorem violationsOf_reports (jobs : List SeedJob) (found : List (Option SecretData)) :
    ∃ lists, List.Forall₂ (fun e list => SeedJob.Reports e.2 e.1 list) (informed jobs found) lists ∧
      violationsOf jobs found = lists.flatten := by
  refine ⟨_, ?_, (violationsOf_eq_flatMap jobs found).trans List.flatMap_def⟩
  rw [List.forall₂_map_right_iff, List.forall₂_same]
  intro e _
  exact e.1.reports e.2

/-- The jobs have no violations if and only if each of them passes with what was found for it. -/
theorem violationsOf_eq_nil_iff (jobs : List SeedJob) (found : List (Option SecretData)) :
    violationsOf jobs found = [] ↔ ∀ e ∈ informed jobs found, e.1.Passes e.2 := by
  rw [violationsOf_eq_flatMap, List.flatMap_eq_nil_iff]
  exact forall₂_congr fun e _ => SeedJob.texts_eq_nil_iff

/-! ## Runs -/

namespace Program

variable {ε α β : Type}

theorem bind_done (p : Program ε α) : p >>= Program.done = p := by
  induction p with
  | done value => rfl
  | exit reason => rfl
  | call c resume ih => exact congrArg (Program.call c) (funext ih)

instance : LawfulMonad (Program ε) := by
  refine LawfulMonad.mk' _ ?_ ?_ ?_
  · intro α p
    exact bind_done p
  · intro α β value next
    rfl
  · intro α β γ p next last
    induction p with
    | done value => rfl
    | exit reason => rfl
    | call c resume ih => exact congrArg (Program.call c) (funext ih)

end Program

/-- Jobs are validated one after another, and the report of more jobs goes on where that of fewer
jobs ends. -/
theorem validateSeedJobs_append (namespaceName : String) (jobs others : List SeedJob) :
    validateSeedJobs namespaceName (jobs ++ others) = (do
      let first ← validateSeedJobs namespaceName jobs
      let second ← validateSeedJobs namespaceName others
      return first ++ second) := by
  induction jobs with
  | nil =>
    show _ = validateSeedJobs namespaceName others >>= Program.done
    rw [Program.bind_done]
    rfl
  | cons job rest ih =>
    show (validateSeedJob namespaceName job >>= fun own =>
        validateSeedJobs namespaceName (rest ++ others) >>= fun later => pure (own ++ later)) = _
    rw [ih]
    simp only [validateSeedJobs, bind_assoc, pure_bind, List.append_assoc]

section Runs

variable {oracle : Oracle} {namespaceName : String} {secrets : List Identity}
  {found : List (Option SecretData)} {outcome : Except Failure Unit} {past : Past}

/-- One more lookup before others. -/
theorem Lookups.cons (i : Identity) (data : Option SecretData)
    (lookups : Lookups secrets found outcome past) :
    Lookups (i :: secrets) (data :: found) outcome (past ++ [i.lookedUp data]) := by
  have grown : (List.zipWith Identity.lookedUp (i :: secrets) (data :: found)).reverse =
      (List.zipWith Identity.lookedUp secrets found).reverse ++ [i.lookedUp data] := by
    rw [List.zipWith_cons_cons, List.reverse_cons]
  cases lookups with
  | all complete =>
    rw [← grown]
    exact .all (congrArg Nat.succ complete)
  | failed j failure next =>
    rw [List.cons_append, ← grown]
    exact .failed j failure next

/-- A job that names a Secret is one lookup, which fails or tells what is wrong with the key. -/
theorem run_validateSeedJob_keyed {job : SeedJob} {selector : SecretKeySelector}
    (key : job.privateKey = some selector) (past : Past) :
    (validateSeedJob namespaceName job).run oracle.turn past =
      ((oracle past (.readSecret ⟨namespaceName, selector.name⟩)).map fun data =>
          (job.ownViolations ++ (keyViolation? selector data).toList).map job.violation,
        ⟨.readSecret ⟨namespaceName, selector.name⟩,
          oracle past (.readSecret ⟨namespaceName, selector.name⟩)⟩ :: past) := by
  simp only [validateSeedJob, key, Program.run_bind, readSecret, Program.run_ask, Oracle.turn, id]
  cases oracle past (.readSecret ⟨namespaceName, selector.name⟩) with
  | error failure => rfl
  | ok data => rfl

/-- The validation of jobs looks up the Secrets that they name, one after another, and then has the
violations that what was found comes to; if a lookup fails, it fails with it. -/
theorem run_validateSeedJobs (oracle : Oracle) (namespaceName : String) (jobs : List SeedJob)
    (past : Past) :
    ∃ found outcome later, Lookups (secretsOf namespaceName jobs) found outcome later ∧
      (validateSeedJobs namespaceName jobs).run oracle.turn past =
        (outcome.map fun _ => violationsOf jobs found, later ++ past) := by
  induction jobs generalizing past with
  | nil => exact ⟨[], .ok (), [], .all rfl, rfl⟩
  | cons job rest ih =>
    cases key : job.privateKey with
    | none =>
      -- Nothing is looked up for this job, so the past stays as it is.
      obtain ⟨found, outcome, later, lookups, ends⟩ := ih past
      refine ⟨found, outcome, later, ?_, ?_⟩
      · rw [secretsOf_keyless key]
        exact lookups
      · rw [validateSeedJobs, validateSeedJob, key, violationsOf, key]
        show (validateSeedJobs namespaceName rest >>= _).run oracle.turn past = _
        rw [Program.run_bind, ends]
        cases outcome with
        | error failure => rfl
        | ok complete => rfl
    | some selector =>
      rw [secretsOf_keyed key]
      cases answer : oracle past (.readSecret ⟨namespaceName, selector.name⟩) with
      | error failure =>
        -- The first lookup fails, and nothing follows it.
        refine ⟨[], .error failure, [⟨.readSecret ⟨namespaceName, selector.name⟩, .error failure⟩],
          .failed _ failure rfl, ?_⟩
        rw [validateSeedJobs, Program.run_bind, run_validateSeedJob_keyed key, answer]
        rfl
      | ok data =>
        obtain ⟨found, outcome, later, lookups, ends⟩ :=
          ih (Identity.lookedUp ⟨namespaceName, selector.name⟩ data :: past)
        refine ⟨data :: found, outcome, _, lookups.cons _ data, ?_⟩
        rw [validateSeedJobs, Program.run_bind, run_validateSeedJob_keyed key, answer, violationsOf,
          key]
        show (validateSeedJobs namespaceName rest >>= _).run oracle.turn (_ :: past) = _
        rw [Program.run_bind]
        simp only [Identity.lookedUp] at ends
        rw [ends, List.append_assoc]
        cases outcome with
        | error failure => rfl
        | ok complete => rfl

/-- The lookups fail if and only if one of them does, and with the failure of that one. -/
theorem Lookups.error_iff (lookups : Lookups secrets found outcome past) (failure : Failure) :
    outcome = .error failure ↔ ∃ i, ⟨.readSecret i, .error failure⟩ ∈ past := by
  have spared : ∀ i, (⟨.readSecret i, .error failure⟩ : Call.Exchange) ∉
      (List.zipWith Identity.lookedUp secrets found).reverse := by
    intro i member
    rw [List.mem_reverse, ← List.map_uncurry_zip_eq_zipWith] at member
    obtain ⟨⟨j, data⟩, -, same⟩ := List.mem_map.1 member
    cases same
  cases lookups with
  | all complete =>
    constructor
    · intro failed
      cases failed
    · rintro ⟨i, member⟩
      exact absurd member (spared i)
  | failed j failure' next =>
    constructor
    · intro same
      cases same
      exact ⟨j, List.mem_cons_self⟩
    · rintro ⟨i, member⟩
      rcases List.mem_cons.1 member with same | member
      · cases same
        rfl
      · exact absurd member (spared i)

end Runs

/-- All answers in a record of a run are those that were given. -/
theorem Program.consult_along {ε α : Type} (oracle : Oracle) (p : Program ε α) :
    Along (fun early e => e.answer = oracle early e.call) (p.consult oracle).2 := by
  have along : ∀ past, Along (fun early e => e.answer = oracle early e.call) past →
      Along (fun early e => e.answer = oracle early e.call) (p.run oracle.turn past).2 := by
    induction p with
    | done value => exact fun past before => before
    | exit reason => exact fun past before => before
    | call c resume ih => exact fun past before => ih _ _ ⟨before, rfl⟩
  exact along [] trivial

/-- The validation of seed jobs takes one job after another: what is reported of some jobs and
others is what is reported of the ones and then what is reported of the others. With every store it
looks up the Secrets that the jobs name, in their order and whatever the jobs are like, and makes no
other call; it fails if and only if one of these lookups fails, which then is the last, and with its
failure. Otherwise it reports of each job what there is to find (`SeedJob.Finds`), and the report is
valid if and only if every job meets its rules. -/
theorem validateUser_exact (object : Jenkins) :
    (∀ namespaceName jobs others, validateSeedJobs namespaceName (jobs ++ others) = (do
      let first ← validateSeedJobs namespaceName jobs
      let second ← validateSeedJobs namespaceName others
      return first ++ second)) ∧
    ∀ oracle : Oracle, ∃ found outcome report,
      let run := (validateUser object).consult oracle
      Along (fun early e => e.answer = oracle early e.call) run.2 ∧
      Lookups object.secrets found outcome run.2 ∧
      (∀ failure, outcome = .error failure ↔ ∃ i, ⟨.readSecret i, .error failure⟩ ∈ run.2) ∧
      run.1 = outcome.map (fun _ => report) ∧
      (∃ lists, report.violations = lists.flatten ∧
        List.Forall₂ (fun e list => SeedJob.Reports e.2 e.1 list)
          (informed object.spec.seedJobs found) lists) ∧
      (report.isValid = true ↔ ∀ e ∈ informed object.spec.seedJobs found, e.1.Passes e.2) := by
  refine ⟨validateSeedJobs_append, ?_⟩
  intro oracle
  obtain ⟨found, outcome, later, lookups, ends⟩ :=
    run_validateSeedJobs oracle (object.metadata.namespaceName.getD "") object.spec.seedJobs []
  rw [List.append_nil] at ends
  have run : (validateUser object).consult oracle =
      (outcome.map fun _ => ⟨violationsOf object.spec.seedJobs found⟩, later) := by
    rw [Program.consult, validateUser, Program.run_bind, ends]
    cases outcome with
    | error failure => rfl
    | ok complete => rfl
  refine ⟨found, outcome, ⟨violationsOf object.spec.seedJobs found⟩, ?_⟩
  dsimp only
  refine ⟨Program.consult_along oracle _, ?_⟩
  rw [run]
  obtain ⟨lists, reported, all⟩ := violationsOf_reports object.spec.seedJobs found
  refine ⟨lookups, lookups.error_iff, rfl, ⟨lists, all, reported⟩, ?_⟩
  rw [Report.isValid, List.isEmpty_iff]
  exact violationsOf_eq_nil_iff _ _

/-- An object with a seed job over SSH that names no key, one without identifier, one with nothing
wrong, and one whose Secret is not there. -/
def Jenkins.assorted : Jenkins :=
  { Jenkins.created with
    spec := { JenkinsSpec.plain with
      seedJobs :=
        [⟨"first", none, none, none, "git@example.com:jobs.git", none⟩,
          ⟨"", none, none, none, "https://example.com/jobs.git", none⟩,
          ⟨"fine", none, none, none, "https://example.com/jobs.git", none⟩,
          ⟨"last", none, none, none, "git@example.com:jobs.git", some ⟨"missing", "key"⟩⟩] } }

/-- A store without Secrets. -/
def Oracle.vacant : Oracle
  | _, .readSecret _ => .ok none
  | _, c => (Session.vacant.answer c).1

/-- All jobs are looked at, and what is wrong with three of them stands in one report. -/
theorem validateUser_exact_assorted :
    ∃ found lists,
      Lookups Jenkins.assorted.secrets found (.ok ())
        [Identity.lookedUp ⟨"default", "missing"⟩ none] ∧
      List.Forall₂ (fun e list => SeedJob.Reports e.2 e.1 list)
        (informed Jenkins.assorted.spec.seedJobs found) lists ∧
      lists.flatten =
        ["seed job 'first': private key can't be empty while using ssh repository url",
          "seed job '': seed job id can't be empty",
          "seed job 'last': secret 'missing' not found"] := by
  obtain ⟨found, outcome, report, -, lookups, -, result, ⟨lists, all, reported⟩, -⟩ :=
    (validateUser_exact Jenkins.assorted).2 .vacant
  have run : (validateUser Jenkins.assorted).consult .vacant =
      (.ok ⟨["seed job 'first': private key can't be empty while using ssh repository url",
          "seed job '': seed job id can't be empty",
          "seed job 'last': secret 'missing' not found"]⟩,
        [Identity.lookedUp ⟨"default", "missing"⟩ none]) := by
    rfl
  rw [run] at lookups result
  cases outcome with
  | error failure => cases result
  | ok complete =>
    cases result
    exact ⟨found, lists, lookups, reported, all.symm⟩

end JenkinsOperator
