import JenkinsOperator.Resource.Basic

/-!
# Failures

What can go wrong outside the operator: the API server refuses a request or answers something else
than a document, a collaborator gives up, or the operator is handed an object it cannot work with.
Faults of a user's specification are never failures; they are violations of a validation.

A write that loses against another writer is not a failure either. `WriteOutcome.ofWrite` turns the
server's 409 into `conflict` before anyone can take it for one.
-/

namespace JenkinsOperator

/-- The answer of an API server that refuses a request. -/
structure ApiStatus where
  status : String
  code : Nat
  reason : String
  message : String
  deriving DecidableEq

/-- Why a request had no usable answer. -/
inductive ApiFault where
  /-- The server refused it. -/
  | refused (status : ApiStatus)
  /-- The server accepted it and answered something else than the expected document. -/
  | unreadable
  /-- It could not be built: a name is empty or holds a character that no URL can. -/
  | unsendable
  /-- It did not get through. -/
  | connection
  deriving DecidableEq

/-- A failure, with what was being done. -/
inductive Failure where
  | api (operation : String) (fault : ApiFault)
  | collaborator (collaborator operation resource message : String)
  | serialization (message : String) (kind : Option String)
  | internal (context message : String)
  deriving DecidableEq

/-- The code of a refused write at a stale version. -/
def conflictCode : Nat := 409

/-- Whether the server refused a write at a stale version. -/
def ApiFault.isConflict : ApiFault → Bool
  | .refused s => s.code == conflictCode
  | _ => false

/-- Whether the same request may succeed later: a refusal counts as final if its code is from 400 to
499 and is no conflict. -/
def ApiFault.isRetryable : ApiFault → Bool
  | .refused s => s.code == conflictCode || !(decide (400 ≤ s.code) && decide (s.code < 500))
  | _ => true

namespace Failure

/-- Whether the failure is a write at a stale version. -/
def isConflict : Failure → Bool
  | .api _ fault => fault.isConflict
  | _ => false

/-- Whether trying again may help. Documents that cannot be read or written stay so. -/
def isRetryable : Failure → Bool
  | .api _ fault => fault.isRetryable
  | .serialization .. => false
  | .collaborator .. => true
  | .internal .. => true

/-- Where the failure happened. -/
def context? : Failure → Option String
  | .api operation _ => some operation
  | .collaborator _ operation _ _ => some operation
  | .serialization .. => none
  | .internal context _ => some context

/-- The message of a failure, given the wording of API faults. -/
def message (wording : ApiFault → String) : Failure → String
  | .api operation fault => s!"kubernetes error during {operation}: {wording fault}"
  | .collaborator name operation resource text =>
    s!"{name} failed during {operation} for {resource}: {text}"
  | .serialization text _ => s!"serialization error: {text}"
  | .internal context text => s!"internal error [{context}]: {text}"

/-- The failure of an object without namespace. -/
def noNamespace (context : String) : Failure := .internal context "Jenkins object has no namespace"

end Failure

/-- The outcome of a write under optimistic concurrency. -/
inductive WriteOutcome where
  /-- The write was accepted; the object is as the server stored it. -/
  | updated (stored : Jenkins)
  /-- The version was stale. -/
  | conflict
  deriving DecidableEq

/-- The outcome of a write request: a refusal as stale is a conflict, any other fault a failure. -/
def WriteOutcome.ofWrite (operation : String) :
    Except ApiFault Jenkins → Except Failure WriteOutcome
  | .ok stored => .ok (.updated stored)
  | .error fault => if fault.isConflict then .ok .conflict else .error (.api operation fault)

end JenkinsOperator
