import JenkinsOperator.Proofs.Pass.Candour
import JenkinsOperator.Proofs.Patch.Server
import JenkinsOperator.Proofs.Route.Attempt

/-!
# Version conflicts

The server refuses a write at a stale version with the code 409. Such a refusal is no failure: it
ends the pass, which is run again at once, and nobody hears of it. No other answer to a write is
taken for one, so that a failure that a write ends in is never a conflict. A failure with that code
can still come from elsewhere, from a read or from a collaborator, and it is treated as a conflict
too: the policy for failures runs the pass again at once, and after any other failure it waits
(`Program.Comes.conflict_retried`).
-/

namespace JenkinsOperator

variable {past : Past} {e : Call.Exchange}

/-! ## Answers over the API -/

namespace Call.Exchange

/-- Exchanges in which the answer is the reading of a response of the server. -/
inductive AnsweredBy (response : Response) : Call.Exchange → Prop where
  | read {c : Call} {request : Request} {reading : Response → c.Answer} :
      c.way = .request request reading → AnsweredBy response ⟨c, reading response⟩

/-- Exchanges over the API. -/
inductive OverApi : Call.Exchange → Prop where
  /-- A collaborator answers, or whatever else is asked. -/
  | elsewhere {c : Call} (answer : c.Answer) : c.way = .elsewhere → OverApi ⟨c, answer⟩
  /-- The client answers, as it cannot make a request for the call. -/
  | blocked {c : Call} {answer : c.Answer} : c.way = .blocked answer → OverApi ⟨c, answer⟩
  /-- The server answers. -/
  | answered {e : Call.Exchange} (response : Response) : e.AnsweredBy response → OverApi e
  /-- The client answers, as it got no response. -/
  | unheard {e : Call.Exchange} (operation : String) :
      e.failure? = some (.api operation .connection) → OverApi e

end Call.Exchange

/-- A failure is a conflict if it is a refusal with that code. -/
theorem Failure.isConflict_iff {failure : Failure} :
    failure.isConflict = true ↔
      ∃ operation status, failure = .api operation (.refused status) ∧ status.code = 409 := by
  constructor
  · intro conflict
    rcases failure with ⟨operation, status | _ | _ | _⟩ | _ | _ | _
    · exact ⟨operation, status, rfl, beq_iff_eq.1 conflict⟩
    all_goals cases conflict
  · rintro ⟨operation, status, rfl, code⟩
    exact beq_iff_eq.2 code

/-- What the policy for failures says: to run again at once after a conflict, and to wait after any
other failure. -/
theorem errorPolicy_requeues {failure : Failure} {delay : Milliseconds} (waits : 0 < delay) :
    (errorPolicy delay failure = .requeue 0 ↔
        ∃ operation status, failure = .api operation (.refused status) ∧ status.code = 409) ∧
      (errorPolicy delay failure = .requeue 0 ∨ errorPolicy delay failure = .requeue delay) := by
  rw [← Failure.isConflict_iff]
  unfold errorPolicy
  split
  case isTrue conflict => exact ⟨iff_of_true rfl conflict, .inl rfl⟩
  case isFalse other =>
    refine ⟨iff_of_false ?_ other, .inr rfl⟩
    rintro ⟨⟩
    exact Nat.lt_irrefl 0 waits

/-! ## Writes -/

/-- The outcome of a write is no failure that is a conflict. -/
theorem WriteOutcome.not_conflict {operation : String} {result : Except ApiFault Jenkins}
    {failure : Failure} (failed : WriteOutcome.ofWrite operation result = .error failure) :
    failure.isConflict = false := by
  unfold ofWrite at failed
  split at failed
  case h_1 => cases failed
  case h_2 fault =>
    split at failed
    case isTrue => cases failed
    case isFalse other =>
      cases failed
      exact Bool.eq_false_iff.2 other

/-- A write for which no request can be made ends in a failure of another kind. -/
theorem Client.write_impossible {operation : String} {object : Jenkins} {method : Method}
    {below : String} {content : String × Json} {failure : Failure}
    (h : Client.write operation object method below content = .impossible failure) :
    failure.isConflict = false := by
  unfold Client.write Client.named Exchange.toTarget at h
  split at h
  case h_1 =>
    cases h
    rfl
  case h_2 =>
    split at h
    case isTrue =>
      cases h
      rfl
    case isFalse =>
      split at h
      case h_1 => cases h
      case h_2 =>
        cases h
        rfl

/-- However a write is answered over the API, a failure that it ends in is no conflict. -/
theorem Client.write_not_conflict {operation : String} {object : Jenkins} {method : Method}
    {below : String} {content : String × Json} {answer : Except Failure WriteOutcome}
    {failure : Failure}
    (origin : (Client.write operation object method below content).way = .elsewhere ∨
      (Client.write operation object method below content).way = .blocked answer ∨
      ∃ response request reading,
        (Client.write operation object method below content).way = .request request reading ∧
          answer = reading response)
    (failed : answer = .error failure) : failure.isConflict = false := by
  cases made : Client.write operation object method below content with
  | impossible failure' =>
    rw [made] at origin
    rcases origin with way | way | ⟨response, request, reading, way, -⟩
    · cases way
    · cases way
      cases failed
      exact Client.write_impossible made
    · cases way
  | send request reading =>
    obtain ⟨-, -, rfl⟩ := Client.write_send made
    rw [made] at origin
    rcases origin with way | way | ⟨response, request', reading', way, answered⟩
    · cases way
    · cases way
    · cases way
      exact WriteOutcome.not_conflict (answered.symm.trans failed)

namespace Call.Exchange

variable {object : Jenkins} {response : Response}

/-- A write that the server refuses as stale is lost. -/
theorem isLost_of_stale (writes : e.call.written? = some object) (answered : e.AnsweredBy response)
    (stale : response.IsStale) : e.isLost = true := by
  -- The response to a write is read by one rule, whichever way the object was written.
  cases answered with
  | @read c request reading way =>
    cases c with
    | writeSpec written =>
      obtain ⟨-, -, rfl⟩ := Client.write_send (JenkinsOperator.Exchange.way_eq_request way)
      dsimp only
      rw [stale.outcome]
      rfl
    | writeStatus written =>
      obtain ⟨-, -, rfl⟩ := Client.write_send (JenkinsOperator.Exchange.way_eq_request way)
      dsimp only
      rw [stale.outcome]
      rfl
    | _ => cases writes

/-- Where the answer to a call has come from, by the way of the call. -/
theorem OverApi.origin {c : Call} {answer : c.Answer} (viaApi : OverApi ⟨c, answer⟩) :
    (c.way = .elsewhere ∨ c.way = .blocked answer ∨
      ∃ response request reading, c.way = .request request reading ∧ answer = reading response) ∨
      ∃ operation, failure? ⟨c, answer⟩ = some (.api operation .connection) := by
  cases viaApi with
  | elsewhere _ way => exact .inl (.inl way)
  | blocked way => exact .inl (.inr (.inl way))
  | answered response answered =>
    cases answered with
    | @read _ request reading way => exact .inl (.inr (.inr ⟨response, request, reading, way, rfl⟩))
  | unheard operation failed => exact .inr ⟨operation, failed⟩

/-- A failure that a write ends in is no conflict. -/
theorem not_conflict_of_write {failure : Failure} (writes : e.call.written? = some object)
    (viaApi : e.OverApi) (failed : e.failure? = some failure) : failure.isConflict = false := by
  obtain ⟨c, answer⟩ := e
  rcases viaApi.origin with origin | ⟨operation, unheard⟩
  · cases c with
    | writeSpec written =>
      rcases answer with failure' | outcome
      · cases failed
        exact Client.write_not_conflict origin rfl
      · cases failed
    | writeStatus written =>
      rcases answer with failure' | outcome
      · cases failed
        exact Client.write_not_conflict origin rfl
      · cases failed
    | _ => cases writes
  · cases failed.symm.trans unheard
    rfl

/-- If the server says that the object is not there, it was looked for in vain. -/
theorem isMissing_of_notFound (fetches : e.call.isFetch = true) (answered : e.AnsweredBy response)
    (refuses : response.isRefusal = true) (reason : response.refusal.reason = "NotFound") :
    e.isMissing = true := by
  cases answered with
  | @read c request reading way =>
    cases c with
    | fetch identity =>
      obtain ⟨-, -, rfl⟩ := Client.fetch_send (JenkinsOperator.Exchange.way_eq_request way)
      dsimp only
      -- Only the reason counts here, not the code.
      rw [Response.documentIfFound, Response.document, refuses, if_pos rfl]
      dsimp only
      rw [if_pos reason]
      rfl
    | _ => cases fetches

end Call.Exchange

/-! ## Passes -/

/-- A write that the server refuses with 409 is the last call of a pass, which is to be run again at
once and has nothing else to tell; a failure that a write ends in is never a conflict; after a
failure that a pass returns, from whichever call, it is run again at once if the failure is a
refusal with 409, and else after the delay; and if the object is not there, the pass is done without
another call. -/
theorem Program.Comes.conflict_retried {identity : Identity} {rest : Program Failure Outcome}
    (comes : (reconcilePass identity).Comes past rest) :
    (∀ e ∈ past, ∀ object response, e.call.written? = some object → e.AnsweredBy response →
      response.isRefusal = true → response.refusal.code = 409 →
        (∃ early, past = e :: early) ∧ rest.result? = some (.ok .requeueNow) ∧
          Outcome.requeueNow.directive = .requeue 0) ∧
      (∀ e ∈ past, ∀ object failure, e.call.written? = some object → e.OverApi →
        e.failure? = some failure → failure.isConflict = false) ∧
      (∀ failure, rest.result? = some (.error failure) →
        (∃ e early, past = e :: early ∧ e.failure? = some failure) ∧
          ∀ delay, 0 < delay →
            (errorPolicy delay failure = .requeue 0 ↔ ∃ operation status,
                failure = .api operation (.refused status) ∧ status.code = 409) ∧
              (errorPolicy delay failure = .requeue 0 ∨
                errorPolicy delay failure = .requeue delay)) ∧
      ∀ e ∈ past, ∀ response, e.call.isFetch = true → e.AnsweredBy response →
        response.isRefusal = true → response.refusal.reason = "NotFound" →
          past = [e] ∧ rest.result? = some (.ok .done) := by
  refine ⟨?_, ?_, ?_, ?_⟩
  · intro e member object response writes answered refuses code
    have lost := Call.Exchange.isLost_of_stale writes answered ⟨refuses, code⟩
    obtain ⟨⟨early, last, -⟩, ended⟩ :=
      comes.setback member (Call.Exchange.setback?_of_isLost lost)
    exact ⟨⟨early, last⟩, ended, rfl⟩
  · intro e _ object failure writes viaApi failed
    exact Call.Exchange.not_conflict_of_write writes viaApi failed
  · intro failure ended
    exact ⟨comes.failed ended, fun delay waits => errorPolicy_requeues waits⟩
  · intro e member response fetches answered refuses reason
    have missing := Call.Exchange.isMissing_of_notFound fetches answered refuses reason
    obtain ⟨⟨early, last, first⟩, ended⟩ :=
      comes.setback member (Call.Exchange.setback?_of_isMissing missing)
    rw [first fetches] at last
    exact ⟨last, ended⟩

/-- The refusal of a write at a stale version. -/
def Response.stale : Response where
  code := 409
  body := "\x7b\"status\":\"Failure\",\"reason\":\"Conflict\",\"code\":409\x7d"

/-- A new object with defaults filled in. -/
def Jenkins.filled : Jenkins := { Jenkins.created with spec := JenkinsSpec.plain.withDefaults }

/-- A refusal with the code of a conflict is what a stale write is told. -/
theorem Response.stale_answers :
    Call.Exchange.AnsweredBy .stale ⟨.writeSpec .filled, .ok .conflict⟩ := by
  have way : ∃ request, (Call.writeSpec .filled).way = .request request fun response =>
      WriteOutcome.ofWrite "update jenkins default/ci" (response.document Jenkins.ofJson?) :=
    ⟨_, rfl⟩
  obtain ⟨request, way⟩ := way
  have stale : Response.stale.IsStale := ⟨rfl, by decide +kernel⟩
  rw [← stale.outcome "update jenkins default/ci"]
  exact .read way

/-- A pass whose write of defaults is refused. -/
theorem Program.Comes.conflict_retried_stale :
    ∃ past rest, (reconcilePass ⟨"default", "ci"⟩).Comes past rest ∧
      past = [⟨.writeSpec .filled, .ok .conflict⟩,
        ⟨.fetch ⟨"default", "ci"⟩, .ok (some .created)⟩] ∧
      Response.stale.refusal.code = 409 ∧
      Call.Exchange.AnsweredBy .stale ⟨.writeSpec .filled, .ok .conflict⟩ ∧
      rest.result? = some (.ok .requeueNow) := by
  obtain ⟨rest, comes, -⟩ := (visit_attempt Behaviour.standard.surroundings .noon
    (Mishap.loses.atCall 1) ⟨"default", "ci"⟩ .created).comes
  have code : Response.stale.refusal.code = 409 := by decide +kernel
  refine ⟨_, rest, comes, rfl, code, Response.stale_answers, ?_⟩
  obtain ⟨-, ended, -⟩ := comes.conflict_retried.1 _ List.mem_cons_self .filled .stale rfl
    Response.stale_answers rfl code
  exact ended

end JenkinsOperator
