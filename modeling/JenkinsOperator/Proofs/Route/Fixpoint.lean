import JenkinsOperator.Proofs.Route.Attempt
import JenkinsOperator.Proofs.Route.Resumption

/-!
# A pass comes to a fixpoint

After a pass that nothing interrupts, a second one with the same answers has nothing left to do
(`Visit.fixpoint`): it writes nothing, ends with the same result, and says nothing but the same
rejection again, if there is one. That it comes to the same follows from the forecast; that it
writes nothing on its way does so because each write of a pass records something that was not
recorded, and never takes it back (`Gist.rank`).
-/

namespace JenkinsOperator

/-- How much is not recorded yet. Defaults count double, as the generation after them may not be
halted. -/
def Gist.rank (g : Gist) : Nat :=
  2 * g.spec.isIncomplete.toNat + (!g.started).toNat + (!g.completed .base).toNat +
    (!g.completed .user).toNat + (!g.isHalted).toNat

variable {server : Jenkins → Jenkins → Prop} {env : Surroundings} {next : Int → Int}
  {identity : Identity} {past past' : Past} {c : Call} {start object stored after after' : Jenkins}
  {result result' : Except Failure Outcome}

namespace Gist

variable {g : Gist}

theorem rank_fill (incomplete : g.spec.isIncomplete = true) : (g.fill next).rank < g.rank := by
  have complete : (g.fill next).spec.isIncomplete = false := g.spec.isIncomplete_withDefaults
  have bound := Bool.toNat_le (!(g.fill next).isHalted)
  unfold rank
  rw [incomplete, complete]
  change 2 * 0 + (!g.started).toNat + (!g.completed .base).toNat + (!g.completed .user).toNat + _ <
    2 * 1 + _ + _ + _ + _
  omega

theorem rank_start (missing : g.started = false) : g.start.rank < g.rank := by
  unfold rank
  rw [missing]
  change 2 * g.spec.isIncomplete.toNat + 0 + (!g.completed .base).toNat +
    (!g.completed .user).toNat + (!g.isHalted).toNat < _ + 1 + _ + _ + _
  omega

theorem rank_stamp {phase : Phase} (missing : g.completed phase = false) :
    (g.stamp phase).rank < g.rank := by
  unfold rank
  cases phase with
  | base =>
    rw [missing]
    change 2 * g.spec.isIncomplete.toNat + (!g.started).toNat + 0 + (!g.completed .user).toNat +
      (!g.isHalted).toNat < _ + _ + 1 + _ + _
    omega
  | user =>
    rw [missing]
    change 2 * g.spec.isIncomplete.toNat + (!g.started).toNat + (!g.completed .base).toNat + 0 +
      (!g.isHalted).toNat < _ + _ + _ + 1 + _
    omega

theorem rank_halt (set : g.generation.isSome = true) (running : g.isHalted = false) :
    g.halt.rank < g.rank := by
  unfold rank
  rw [isHalted_halt set, running]
  change 2 * g.spec.isIncomplete.toNat + (!g.started).toNat + (!g.completed .base).toNat +
    (!g.completed .user).toNat + 0 < _ + _ + _ + _ + 1
  omega

end Gist

/-- Each write records something that was not recorded. -/
theorem Due.rank_lt (due : Due (Tends next) identity past c)
    (accepted : Accepted (Tends next) object stored c) (held : held? past = some object)
    (set : object.metadata.generation.isSome = true) : stored.gist.rank < object.gist.rank := by
  cases due with
  | @fill past copy reached incomplete =>
    obtain rfl : copy = object := reached.eq_held held
    rw [accepted.gist_fill incomplete]
    exact Gist.rank_fill incomplete
  | @start past copy now reached unset =>
    obtain rfl : copy = object := reached.eq_held held
    rw [accepted.gist_start]
    exact Gist.rank_start (Jenkins.started_gist unset)
  | @stamp past copy handle phase now reached unset =>
    obtain rfl : copy = object := reached.eq_held held
    rw [accepted.gist_stamp]
    exact Gist.rank_stamp (Jenkins.completed_gist unset)
  | @halt past copy handle message reached running =>
    obtain rfl : copy = object := reached.eq_held held
    rw [accepted.gist_halt]
    exact Gist.rank_halt set (copy.isHalted_gist.trans running)
  | _ => cases accepted

theorem Call.written?_of_not_asksStore (elsewhere : c.asksStore = false) : c.written? = none := by
  apply Option.eq_none_iff_forall_ne_some.2
  intro written writes
  exact nomatch elsewhere.symm.trans (Call.asksStore_of_written? writes)

/-- A pass that nothing interrupts writes nothing and leaves the object as it is, or records
something that was not recorded. -/
theorem Leads.rank (leads : Leads (Serves (Tends next) env) start past after)
    (due : OnRoute (Tends next) identity past) (set : start.metadata.generation.isSome = true) :
    (∀ e ∈ past, e.call.written? = none) ∧ after = start ∨
      after.gist.rank < start.gist.rank := by
  have served := leads.gives due
  induction leads with
  | nil => exact .inl ⟨fun _ member => (nomatch member), rfl⟩
  | @cons past e before after leads serves ih =>
    have ih := ih due.1 fun e member => served e (List.mem_cons_of_mem _ member)
    -- An exchange that writes nothing leaves the object as it is.
    have idle (silent : e.call.written? = none) (same : after = before) :
        (∀ e' ∈ e :: past, e'.call.written? = none) ∧ after = start ∨
          after.gist.rank < start.gist.rank := by
      subst same
      exact ih.imp_left fun ⟨nothing, same⟩ => ⟨List.forall_mem_cons.2 ⟨silent, nothing⟩, same⟩
    cases serves with
    | read i => exact idle rfl rfl
    | landed _ _ returned accepted =>
      right
      have set := leads.interrupted.isSome set
      obtain ⟨written, writes⟩ := accepted.written
      obtain ⟨j, held, -⟩ := due.2.written writes
      obtain rfl := leads.interrupted.held_eq held
      have less := due.2.rank_lt accepted held set
      rcases ih with ⟨-, same⟩ | earlier
      · subst same
        exact less
      · exact Nat.lt_trans less earlier
    | stale _ written lost _ _ => exact nomatch lost.symm.trans (served e List.mem_cons_self).2.1
    | given _ elsewhere _ => exact idle (Call.written?_of_not_asksStore elsewhere) rfl

/-- If nothing was announced, all that was said are rejections. -/
theorem words_eq_rejections (none : announced past = []) : words past = rejections past := by
  symm
  apply List.filter_eq_self.2
  intro n member
  by_contra other
  have praise : (n.reason != .validationFailure) = true := bne_iff_ne.2 fun same =>
    other (beq_iff_eq.2 same)
  have found : n ∈ announced past := List.mem_filter.2 ⟨member, praise⟩
  rw [none] at found
  cases found

/-- After a pass that nothing interrupts, another one with the same answers writes nothing, leaves
the object as it is, ends with the same result, and says nothing but the same rejection again. -/
theorem Visit.fixpoint
    (first : Visit (Serves (Tends next) env) identity start past result after)
    (set : start.metadata.generation.isSome = true)
    (second : Visit (Serves (Tends next) env) identity after past' result' after') :
    (∀ e ∈ past', e.call.written? = none) ∧ after' = after ∧ result' = result ∧
      announced past' = [] ∧ words past' = rejections past := by
  have set' := first.leads.interrupted.isSome set
  have same := (first.settled set).symm.trans (second.foretold set')
  obtain ⟨gist, result, announced, rejections⟩ := Forecast.mk.inj same
  obtain ⟨-, due⟩ := second.interrupted.ends
  rcases second.leads.rank due set' with ⟨nothing, stays⟩ | less
  · have words := words_eq_rejections announced.symm
    exact ⟨nothing, stays, result.symm, announced.symm, words.trans rejections.symm⟩
  · -- Something more would be recorded, but the gist is the same.
    rw [gist] at less
    exact absurd less (Nat.lt_irrefl _)

/-- A pass for an object whose seed job names a deploy key that is nowhere. -/
def rejected : Except Failure Outcome × Past × Jenkins :=
  Behaviour.standard.surroundings.attempt .noon (fun _ => none) ⟨"default", "ci"⟩ .keyed

/-- A second one after it. -/
def rejectedAgain : Except Failure Outcome × Past × Jenkins :=
  Behaviour.standard.surroundings.attempt .noon (fun _ => none) ⟨"default", "ci"⟩ rejected.2.2

theorem Visit.fixpoint_rejected :
    ∃ past result after past' result' after',
      Visit (Serves (Tends nextGeneration) Behaviour.standard.surroundings) ⟨"default", "ci"⟩
        .keyed past result after ∧
      Jenkins.keyed.metadata.generation.isSome = true ∧
      Visit (Serves (Tends nextGeneration) Behaviour.standard.surroundings) ⟨"default", "ci"⟩
        after past' result' after' ∧
      announced past = [.completed .base] ∧ (rejections past).length = 1 ∧
      (∀ e ∈ past', e.call.written? = none) ∧ after' = after ∧ result' = result ∧
      announced past' = [] ∧ words past' = rejections past := by
  have first : Visit _ _ _ rejected.2.1 rejected.1 rejected.2.2 := visit_serve _ _ _ _
  have second : Visit _ _ _ rejectedAgain.2.1 rejectedAgain.1 rejectedAgain.2.2 :=
    visit_serve _ _ _ _
  obtain ⟨praised, found⟩ : announced rejected.2.1 = [.completed .base] ∧
      (rejections rejected.2.1).length = 1 := by decide +kernel
  obtain ⟨nothing, stays, same, quiet, again⟩ := first.fixpoint rfl second
  exact ⟨_, _, _, _, _, _, first, rfl, second, praised, found, nothing, stays, same, quiet, again⟩

end JenkinsOperator
