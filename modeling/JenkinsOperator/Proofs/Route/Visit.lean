import JenkinsOperator.Proofs.Pass.Lawful
import JenkinsOperator.Proofs.Route.Travel

/-!
# Visits: a pass over a store that it has to itself

A `Visit` is a pass from its first call to its end, over a store that keeps one object and takes a
write only at the version that it keeps. Everything but the store, the `Surroundings`, answers the
same question in the same way as often as it is asked. In a visit that is served (`Serves`) nothing
else happens; in one that is interrupted (`Interrupts`) any call may fail, and any write may be
refused as lost, without a change to the store.

A pass always holds the object as it is stored (`Leads.held`), so its writes are writes of that
object and it keeps to the route (`Visit.ends`). If nothing interrupts it, no write of it is ever
refused (`Leads.gives`).
-/

namespace JenkinsOperator

/-! ## Answers -/

/-- How everything but the store answers. A collaborator is asked about a specification. -/
structure Surroundings where
  secret : Identity → Except Failure (Option SecretData)
  configMap : Identity → Except Failure (Option Scripts)
  acceptsSpec : JenkinsSpec → Except Failure Bool
  provision : JenkinsSpec → Except Failure Provisioning
  ensureSeedJobs : ServerHandle → JenkinsSpec → Except Failure SeedStatus
  configureScripts : ServerHandle → Except Failure Unit
  runScripts : ServerHandle → Scripts → JenkinsSpec → Except Failure Bool

/-- Whether an answer is one of the surroundings, as far as they are asked. The clock reads what it
likes. -/
def Surroundings.Gives (env : Surroundings) : Call.Exchange → Prop
  | ⟨.readConfigMap identity, answer⟩ => answer = env.configMap identity
  | ⟨.readSecret identity, answer⟩ => answer = env.secret identity
  | ⟨.acceptsSpec object, answer⟩ => answer = env.acceptsSpec object.spec
  | ⟨.provision object, answer⟩ => answer = env.provision object.spec
  | ⟨.ensureSeedJobs handle object, answer⟩ => answer = env.ensureSeedJobs handle object.spec
  | ⟨.configureScripts handle, answer⟩ => answer = env.configureScripts handle
  | ⟨.runScripts handle scripts object, answer⟩ =>
    answer = env.runScripts handle scripts object.spec
  | _ => True

/-- The object that a call writes. -/
def Call.written? : Call → Option Jenkins
  | .writeSpec object => some object
  | .writeStatus object => some object
  | _ => none

/-- Whether the store answers a call. -/
def Call.asksStore : Call → Bool
  | .fetch _ => true
  | .writeSpec _ => true
  | .writeStatus _ => true
  | _ => false

/-- An exchange with the store and the surroundings in which nothing goes wrong, by the object that
is stored before and after it. -/
inductive Serves (server : Jenkins → Jenkins → Prop) (env : Surroundings) (object : Jenkins) :
    Call.Exchange → Jenkins → Prop where
  | read (identity : Identity) :
      Serves server env object ⟨.fetch identity, .ok (some object)⟩ object
  | landed (e : Call.Exchange) (stored : Jenkins) : e.call.stored? e.answer = some stored →
      Accepted server object stored e.call → Serves server env object e stored
  | stale (e : Call.Exchange) (written : Jenkins) : e.isLost = true →
      e.call.written? = some written →
      written.metadata.resourceVersion ≠ object.metadata.resourceVersion →
      Serves server env object e object
  | given (e : Call.Exchange) : e.call.asksStore = false → env.Gives e →
      Serves server env object e object

/-- An exchange in which, besides, the call may fail or the write be refused. -/
inductive Interrupts (server : Jenkins → Jenkins → Prop) (env : Surroundings) (object : Jenkins)
    (e : Call.Exchange) : Jenkins → Prop where
  | served (after : Jenkins) : Serves server env object e after →
      Interrupts server env object e after
  | failed (failure : Failure) : e.failure? = some failure → Interrupts server env object e object
  | lost : e.isLost = true → Interrupts server env object e object

/-- A server that, whoever writes, keeps the identity of an object and counts its generation on by
one rule if the specification changes, and not otherwise. -/
structure Tends (next : Int → Int) (before after : Jenkins) : Prop where
  identity : after.identity = before.identity
  generation : after.metadata.generation =
    if after.spec = before.spec then before.metadata.generation
    else before.metadata.generation.map next

theorem Tends.steady {next : Int → Int} (before after : Jenkins) (tends : Tends next before after) :
    SteadyGeneration before after := by
  intro same
  rw [tends.generation, if_pos same]

/-- Exchanges one after another lead from one object to another. -/
inductive Leads (answers : Jenkins → Call.Exchange → Jenkins → Prop) (start : Jenkins) :
    Past → Jenkins → Prop where
  | nil : Leads answers start [] start
  | cons {past : Past} {e : Call.Exchange} {before after : Jenkins} :
      Leads answers start past before → answers before e after →
      Leads answers start (e :: past) after

/-- A pass from its first call to its end, by what it exchanges, its result and the object that is
stored before and after it. -/
structure Visit (answers : Jenkins → Call.Exchange → Jenkins → Prop) (identity : Identity)
    (before : Jenkins) (past : Past) (result : Except Failure Outcome) (after : Jenkins) :
    Prop where
  comes : ∃ rest, (reconcilePass identity).Comes past rest ∧ rest.result? = some result
  leads : Leads answers before past after

variable {server : Jenkins → Jenkins → Prop} {env : Surroundings} {identity : Identity}
  {past : Past} {c : Call} {e : Call.Exchange} {start object after : Jenkins}
  {result : Except Failure Outcome}

/-- What leads on undisturbed counts as interrupted by nothing. -/
theorem Leads.interrupted (leads : Leads (Serves server env) start past after) :
    Leads (Interrupts server env) start past after := by
  induction leads with
  | nil => exact .nil
  | cons _ served ih => exact .cons ih (.served _ served)

theorem Visit.interrupted (visit : Visit (Serves server env) identity start past result after) :
    Visit (Interrupts server env) identity start past result after :=
  ⟨visit.comes, visit.leads.interrupted⟩

/-! ## The copy that is held is stored -/

theorem Call.Exchange.returned?_of_failure? {failure : Failure} (h : e.failure? = some failure) :
    e.call.returned? e.answer = none := by
  rcases e with ⟨c, answer⟩
  cases c with
  | fetch identity =>
    rcases answer with failure' | found
    · rfl
    · cases h
  | writeSpec object =>
    rcases answer with failure' | outcome
    · rfl
    · cases h
  | writeStatus object =>
    rcases answer with failure' | outcome
    · rfl
    · cases h
  | _ => rfl

theorem Call.Exchange.returned?_of_isLost (h : e.isLost = true) :
    e.call.returned? e.answer = none := by
  rcases e with ⟨c, answer⟩
  cases c with
  | writeSpec object =>
    rcases answer with failure | stored | _
    · cases h
    · cases h
    · rfl
  | writeStatus object =>
    rcases answer with failure | stored | _
    · cases h
    · cases h
    · rfl
  | _ => cases h

theorem Call.returned?_of_not_asksStore (h : c.asksStore = false) (answer : c.Answer) :
    c.returned? answer = none := by
  cases c with
  | fetch identity => cases h
  | writeSpec object => cases h
  | writeStatus object => cases h
  | _ => rfl

/-- An exchange returns the object as it is stored afterwards, or returns none and leaves it as it
is. -/
theorem Interrupts.returned (interrupts : Interrupts server env object e after) :
    e.call.returned? e.answer = some after ∨
      e.call.returned? e.answer = none ∧ after = object := by
  cases interrupts with
  | served _ serves =>
    cases serves with
    | read identity => exact .inl rfl
    | landed _ _ stored _ => exact .inl (Call.returned?_of_stored? stored)
    | stale _ written lost _ _ => exact .inr ⟨Call.Exchange.returned?_of_isLost lost, rfl⟩
    | given _ elsewhere _ => exact .inr ⟨Call.returned?_of_not_asksStore elsewhere e.answer, rfl⟩
  | failed failure failed => exact .inr ⟨Call.Exchange.returned?_of_failure? failed, rfl⟩
  | lost lost => exact .inr ⟨Call.Exchange.returned?_of_isLost lost, rfl⟩

/-- The copy that a pass holds is the object as it is stored. -/
theorem Leads.held (leads : Leads (Interrupts server env) start past after) :
    (held? past).getD start = after := by
  induction leads with
  | nil => rfl
  | @cons past e before after _ interrupts ih =>
    show ((e.call.returned? e.answer).or (held? past)).getD start = after
    rcases interrupts.returned with returned | ⟨none, rfl⟩
    · rw [returned]
      rfl
    · rw [none]
      exact ih

/-- The copy that a pass holds is the object that is stored. -/
theorem Leads.held_eq (leads : Leads (Interrupts server env) start past after)
    (held : held? past = some object) : object = after := by
  have same := leads.held
  rw [held] at same
  exact same

/-- If nothing was returned last, that is the copy held before. -/
theorem Leads.held_last (leads : Leads (Interrupts server env) start (e :: past) after)
    (nothing : e.call.returned? e.answer = none) : (held? past).getD start = after := by
  have held : ((e.call.returned? e.answer).or (held? past)).getD start = after := leads.held
  rw [nothing, Option.none_or] at held
  exact held

/-- Only the first call is made without a copy. -/
theorem Due.held (due : Due server identity past c) :
    c = .fetch identity ∧ past = [] ∨ ∃ j, held? past = some j := by
  cases due with
  | fetch => exact .inl ⟨rfl, rfl⟩
  | fill reached _ => exact .inr ⟨_, reached.held⟩
  | approve reached => exact .inr ⟨_, reached.held⟩
  | rejectBase accepted reached _ => exact .inr ⟨_, reached.held⟩
  | startClock reached _ => exact .inr ⟨_, reached.held⟩
  | start now reached _ => exact .inr ⟨_, reached.held⟩
  | provision reached => exact .inr ⟨_, reached.held⟩
  | stampClock reached _ => exact .inr ⟨_, reached.held⟩
  | stamp now reached _ => exact .inr ⟨_, reached.held⟩
  | announce now stored _ _ _ => exact .inr ⟨stored, rfl⟩
  | readSecret reached _ => exact .inr ⟨_, reached.held⟩
  | rejectUser reached _ => exact .inr ⟨_, reached.held⟩
  | seed reached _ => exact .inr ⟨_, reached.held⟩
  | halt message reached _ => exact .inr ⟨_, reached.held⟩
  | alarm message stored _ _ _ => exact .inr ⟨stored, rfl⟩
  | configure reached => exact .inr ⟨_, reached.held⟩
  | equip reached => exact .inr ⟨_, reached.held⟩
  | apply reached => exact .inr ⟨_, reached.held⟩

/-- What is written is made from the copy held, at its version. -/
theorem Due.written {written : Jenkins} (due : Due server identity past c)
    (writes : c.written? = some written) :
    ∃ j, held? past = some j ∧ written.metadata = j.metadata := by
  cases due with
  | fill reached _ =>
    cases writes
    exact ⟨_, reached.held, rfl⟩
  | start now reached _ =>
    cases writes
    exact ⟨_, reached.held, rfl⟩
  | stamp now reached _ =>
    cases writes
    exact ⟨_, reached.held, rfl⟩
  | halt message reached _ =>
    cases writes
    exact ⟨_, reached.held, rfl⟩
  | _ => cases writes

theorem Accepted.written {before : Jenkins} (accepted : Accepted server before after c) :
    ∃ written, c.written? = some written := by
  cases accepted with
  | spec object _ _ _ _ => exact ⟨object, rfl⟩
  | status object _ _ _ _ => exact ⟨object, rfl⟩

theorem Call.Exchange.stored?_of_returned? {stored : Jenkins}
    (h : e.call.stored? e.answer = some stored) : e.call.returned? e.answer ≠ none := by
  rw [Call.returned?_of_stored? h]
  exact Option.some_ne_none stored

/-- Only a write that the store took in returns an object as it was stored. -/
theorem Interrupts.landed {stored : Jenkins} (interrupts : Interrupts server env object e after)
    (returned : e.call.stored? e.answer = some stored) : Accepted server object stored e.call := by
  have some := Call.Exchange.stored?_of_returned? returned
  cases interrupts with
  | served _ serves =>
    cases serves with
    | read identity => cases returned
    | landed _ _ returned' accepted =>
      cases returned.symm.trans returned'
      exact accepted
    | stale _ written lost _ _ => exact absurd (Call.Exchange.returned?_of_isLost lost) some
    | given _ elsewhere _ =>
      exact absurd (Call.returned?_of_not_asksStore elsewhere e.answer) some
  | failed failure failed => exact absurd (Call.Exchange.returned?_of_failure? failed) some
  | lost lost => exact absurd (Call.Exchange.returned?_of_isLost lost) some

/-- As the copy held is the object as it is stored, a write that is taken in is one of that copy. -/
theorem Leads.credible (leads : Leads (Interrupts server env) start past after) :
    Along (fun early e => Due server identity early e.call → Credible server early e) past := by
  induction leads with
  | nil => trivial
  | @cons past e before after leads interrupts ih =>
    refine ⟨ih, ?_⟩
    intro due stored returned
    have accepted := interrupts.landed returned
    obtain ⟨written, writes⟩ := accepted.written
    -- A pass writes only with a copy in hand, and the copy is what was stored before.
    obtain ⟨j, held, -⟩ := due.written writes
    have same := leads.held
    rw [held] at same
    subst same
    exact ⟨j, held, accepted⟩

/-- A visit keeps to the route from its first call to its end. -/
theorem Visit.ends (visit : Visit (Interrupts server env) identity start past result after) :
    Ends server identity past result ∧
      OnRoute server identity past := by
  obtain ⟨rest, comes, ended⟩ := visit.comes
  obtain ⟨due, -, ends⟩ := comes.onRoute visit.leads.credible
  exact ⟨ends result ended, due⟩

/-- What a store accepts in a visit is made of the copy held. -/
theorem Visit.credible (visit : Visit (Interrupts server env) identity start past result after) :
    Along (Credible server) past :=
  (visit.leads.credible.and visit.ends.2).imp fun _ _ both => both.1 both.2

/-! ## What the surroundings have answered -/

theorem Call.Exchange.gives_of_asksStore (h : e.call.asksStore = true) : env.Gives e := by
  rcases e with ⟨c, answer⟩
  cases c with
  | fetch identity => trivial
  | writeSpec object => trivial
  | writeStatus object => trivial
  | _ => cases h

theorem Call.asksStore_of_written? {written : Jenkins} (h : c.written? = some written) :
    c.asksStore = true := by
  cases c with
  | writeSpec object => rfl
  | writeStatus object => rfl
  | _ => cases h

theorem Serves.gives (serves : Serves server env object e after) : env.Gives e := by
  cases serves with
  | read identity => trivial
  | landed _ _ _ accepted =>
    obtain ⟨written, writes⟩ := accepted.written
    exact Call.Exchange.gives_of_asksStore (Call.asksStore_of_written? writes)
  | stale _ written _ writes _ =>
    exact Call.Exchange.gives_of_asksStore (Call.asksStore_of_written? writes)
  | given _ _ gives => exact gives

/-- What was not interrupted was answered by the surroundings, as far as they were asked. -/
theorem Leads.gives_of_not_interrupted
    (leads : Leads (Interrupts server env) start past after) :
    ∀ e ∈ past, e.failure? = none → e.isLost = false → env.Gives e := by
  induction leads with
  | nil => exact fun _ member => nomatch member
  | @cons past e before after _ interrupts ih =>
    refine List.forall_mem_cons.2 ⟨?_, ih⟩
    intro answered taken
    cases interrupts with
    | served _ serves => exact serves.gives
    | failed failure failed => exact nomatch answered.symm.trans failed
    | lost lost => exact nomatch taken.symm.trans lost

/-- Whether nothing went wrong in the store, and the surroundings answered the rest. -/
def Surroundings.Served (env : Surroundings) (e : Call.Exchange) : Prop :=
  env.Gives e ∧ e.isLost = false ∧ (e.call.asksStore = true → e.failure? = none)

/-- If nothing interrupts a pass, the store refuses none of its writes. -/
theorem Leads.gives (leads : Leads (Serves server env) start past after)
    (due : OnRoute server identity past) :
    ∀ e ∈ past, env.Served e := by
  induction leads with
  | nil => exact fun _ member => nomatch member
  | @cons past e before after leads serves ih =>
    refine List.forall_mem_cons.2 ⟨⟨serves.gives, ?_⟩, ih due.1⟩
    cases serves with
    | read identity => exact ⟨rfl, fun _ => rfl⟩
    | landed _ _ returned _ =>
      have some := Call.Exchange.stored?_of_returned? returned
      constructor
      · exact Bool.eq_false_iff.2 fun lost => some (Call.Exchange.returned?_of_isLost lost)
      · intro _
        exact Option.eq_none_iff_forall_ne_some.2 fun failure failed =>
          some (Call.Exchange.returned?_of_failure? failed)
    | stale _ written lost writes version =>
      -- What a pass writes has the version of its copy, and that is the object as it is stored.
      obtain ⟨j, held, same⟩ := due.2.written writes
      have stored := leads.interrupted.held
      rw [held] at stored
      subst stored
      exact absurd (congrArg Metadata.resourceVersion same) version
    | given _ elsewhere _ =>
      constructor
      · apply Bool.eq_false_iff.2
        intro lost
        rcases e with ⟨c, answer⟩
        cases c with
        | writeSpec object => cases elsewhere
        | writeStatus object => cases elsewhere
        | _ => cases lost
      · intro stored
        exact nomatch elsewhere.symm.trans stored

/-- The first call reads the object as it was stored at the start. -/
theorem Leads.fetched (leads : Leads (Interrupts server env) start past after)
    (due : OnRoute server identity past) :
    ∀ i j, ⟨.fetch i, .ok (some j)⟩ ∈ past → j = start := by
  induction leads with
  | nil => exact fun _ _ member => nomatch member
  | @cons past e before after leads interrupts ih =>
    intro i j member
    rcases List.mem_cons.1 member with rfl | old
    · obtain ⟨first, rfl⟩ | ⟨held, same⟩ := due.2.held
      · cases leads
        cases interrupts with
        | served _ serves =>
          cases serves with
          | read _ => rfl
          | landed _ _ returned _ => cases returned
          | stale _ _ lost _ _ => cases lost
          | given _ elsewhere _ => cases elsewhere
        | failed failure failed => cases failed
        | lost lost => cases lost
      · -- With a copy in hand, a pass does not read the object again.
        cases due.2 with
        | fetch => cases same
    · exact ih due.1 i j old

end JenkinsOperator
