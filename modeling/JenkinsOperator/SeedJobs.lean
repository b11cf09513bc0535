/-!
# Seed jobs

What the runner of seed jobs reports, and what is done about it. A failed build is tried again; a
failure for good is not.
-/

namespace JenkinsOperator

/-- A length of time in milliseconds. -/
abbrev Milliseconds := Nat

/-- What the runner reports. -/
inductive SeedStatus where
  /-- All seed jobs are there and have been built. -/
  | done
  /-- A build is queued or running. -/
  | pending
  /-- A build failed and may succeed if tried again. -/
  | buildFailed (message : String)
  /-- A build failed in a way that trying again cannot mend. -/
  | unrecoverable (message : String)
  deriving DecidableEq

/-- What is done about it. -/
inductive SeedDecision where
  | proceed
  | requeue (delay : Milliseconds)
  | halt (message : String)
  deriving DecidableEq

/-- How long to wait for a build. -/
def seedRequeueDelay : Milliseconds := 10000

/-- The decision on a report. -/
def SeedStatus.decide : SeedStatus → SeedDecision
  | .done => .proceed
  | .pending => .requeue seedRequeueDelay
  | .buildFailed _ => .requeue seedRequeueDelay
  | .unrecoverable message => .halt message

end JenkinsOperator
