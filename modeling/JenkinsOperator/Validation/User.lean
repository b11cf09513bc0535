import JenkinsOperator.DeployKey
import JenkinsOperator.Pass.Program
import JenkinsOperator.Validation.Report

/-!
# Validation of seed jobs

A seed job needs an identifier; one that is cloned over SSH needs a deploy key; and a deploy key
that is named must be there and be usable. The Secret is read once for each job that names one,
whatever was found before. A Secret that is not there is a violation, and only a failure to read is
a failure.
-/

namespace JenkinsOperator

/-- The violation of the deploy key that a job names, given the Secret. -/
def keyViolation? (selector : SecretKeySelector) : Option SecretData → Option String
  | none => some s!"secret '{selector.name}' not found"
  | some data =>
    let key := (data.find? selector.key).getD []
    if key.isEmpty then
      some s!"private key '{selector.key}' in secret '{selector.name}' is empty"
    else
      match DeployKey.validate key with
      | .ok _ => none
      | .error e => some s!"private key is invalid: {e.message}"

/-- The violations of a job that can be told without its Secret. -/
def SeedJob.ownViolations (job : SeedJob) : List String :=
  (if job.id.isEmpty then ["seed job id can't be empty"] else [])
    ++ if job.usesSsh && job.privateKey.isNone then
        ["private key can't be empty while using ssh repository url"]
      else []

/-- A violation with the job it belongs to. -/
def SeedJob.violation (job : SeedJob) (text : String) : String := s!"seed job '{job.id}': {text}"

/-- The violations of one job. -/
def validateSeedJob (namespaceName : String) (job : SeedJob) : Program Failure (List String) :=
  match job.privateKey with
  | none => .done (job.ownViolations.map job.violation)
  | some selector => do
    let data ← readSecret ⟨namespaceName, selector.name⟩
    return (job.ownViolations ++ (keyViolation? selector data).toList).map job.violation

/-- The violations of jobs, one job after another. -/
def validateSeedJobs (namespaceName : String) : List SeedJob → Program Failure (List String)
  | [] => .done []
  | job :: rest => do
    let own ← validateSeedJob namespaceName job
    let others ← validateSeedJobs namespaceName rest
    return own ++ others

/-- Validates the seed jobs of an object. -/
def validateUser (object : Jenkins) : Program Failure Report := do
  let violations ←
    validateSeedJobs (object.metadata.namespaceName.getD "") object.spec.seedJobs
  return ⟨violations⟩

end JenkinsOperator
