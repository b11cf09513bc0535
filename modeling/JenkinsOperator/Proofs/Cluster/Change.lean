import JenkinsOperator.Proofs.Cluster.World
import JenkinsOperator.Proofs.Pass.Lawful

/-!
# What a step changes

A step leaves the stored object as it is, or replaces it by what one accepted write makes of it
(`Change`). A write of a pass is one of the object as it is stored, so it changes that only as an
`Update` does; what each `Change` preserves holds of every state of the object in a run
(`Run.invariant`).
-/

namespace JenkinsOperator

variable {regime : Regime} {start : Jenkins} {moves : List Move} {move : Move} {w w' : World}
  {past : Past} {e : Call.Exchange}

/-! ## The passes -/

/-- The next call of one pass was answered, and the others are where they were. -/
theorem Step.exchange (step : Step regime w (.exchange past e) w') :
    ∃ before after, ∃ resume : e.call.Answer → Program Failure Outcome,
      w.passes = before ++ ⟨past, .call e.call resume⟩ :: after ∧
        w'.passes = before ++ ⟨e :: past, resume e.answer⟩ :: after := by
  cases step with
  | @spared before after _ c resume answer split _ => exact ⟨before, after, resume, split, rfl⟩
  | @landed before after _ c resume answer _ split _ _ _ =>
    exact ⟨before, after, resume, split, rfl⟩

/-- A pass after a step was there before, or has just started, or is the one that was answered. -/
theorem Step.mem_passes (step : Step regime w move w') :
    ∀ pass ∈ w'.passes, pass ∈ w.passes ∨ (∃ identity, pass = ⟨[], reconcilePass identity⟩) ∨
      ∃ past e, ∃ resume : e.call.Answer → Program Failure Outcome, move = .exchange past e ∧
        ⟨past, .call e.call resume⟩ ∈ w.passes ∧ pass = ⟨e :: past, resume e.answer⟩ := by
  intro pass member
  cases move with
  | start identity =>
    cases step
    rcases List.mem_cons.1 member with rfl | old
    · exact .inr (.inl ⟨identity, rfl⟩)
    · exact .inl old
  | exchange past e =>
    obtain ⟨before, after, resume, split, split'⟩ := step.exchange
    rw [split', List.mem_append, List.mem_cons] at member
    rcases member with left | rfl | right
    · exact .inl (split ▸ List.mem_append_left _ left)
    · exact .inr (.inr ⟨past, e, resume, rfl, split ▸ List.mem_append_right before List.mem_cons_self,
        rfl⟩)
    · exact .inl (split ▸ List.mem_append_right before (List.mem_cons_of_mem _ right))
  | editSpec spec =>
    cases step
    exact .inl member
  | editStatus status =>
    cases step
    exact .inl member

/-- A pass of a run has come to where it is by its exchanges. -/
theorem Run.comes (run : Run regime start moves w) :
    ∀ pass ∈ w.passes, ∃ identity, (reconcilePass identity).Comes pass.past pass.rest := by
  induction run with
  | nil => exact fun _ member => nomatch member
  | cons _ step ih =>
    intro pass member
    obtain old | ⟨identity, rfl⟩ | ⟨past, e, resume, -, old, rfl⟩ := step.mem_passes pass member
    · exact ih pass old
    · exact ⟨identity, .start⟩
    · obtain ⟨identity, comes⟩ := ih _ old
      exact ⟨identity, comes.answered e.answer⟩

/-- What a pass has exchanged, it has exchanged in a step of the run. -/
theorem Run.mem_moves (run : Run regime start moves w) :
    ∀ pass ∈ w.passes, ∀ e past, e :: past <:+ pass.past → .exchange past e ∈ moves := by
  induction run with
  | nil => exact fun _ member => nomatch member
  | cons _ step ih =>
    intro pass member e past earlier
    -- Only the pass that is answered has a longer past, and that is longer by this very move.
    obtain old | ⟨identity, rfl⟩ | ⟨last, answered, resume, rfl, old, rfl⟩ :=
      step.mem_passes pass member
    · exact List.mem_cons_of_mem _ (ih pass old e past earlier)
    · exact absurd (List.suffix_nil.1 earlier) (List.cons_ne_nil e past)
    · rcases List.suffix_cons_iff.1 earlier with same | earlier
      · cases same
        exact List.mem_cons_self
      · exact List.mem_cons_of_mem _ (ih _ old e past earlier)

/-- Each exchange was in order when it was made. -/
theorem Step.lawful (step : Step regime w (.exchange past e) w') (sound : w.Sound regime.server) :
    Lawful regime.server (e :: past) := by
  obtain ⟨before, after, resume, -, split⟩ := step.exchange
  have member : ⟨e :: past, resume e.answer⟩ ∈ w'.passes :=
    split ▸ List.mem_append_right before List.mem_cons_self
  exact ((step.sound sound).passes _ member).lawful

/-! ## The object -/

/-- What a step makes of the stored object. -/
inductive Change (regime : Regime) (before : Jenkins) : Move → Jenkins → Prop where
  | started (identity : Identity) : Change regime before (.start identity) before
  | spared (past : Past) (e : Call.Exchange) : e.call.stored? e.answer = none →
      Change regime before (.exchange past e) before
  | updated (past : Past) (e : Call.Exchange) (after : Jenkins) :
      e.call.stored? e.answer = some after → held? past = some before →
      Lawful regime.server past → Update regime.server past before after e.call →
      Change regime before (.exchange past e) after
  | editedSpec (after : Jenkins) : after.status = before.status → regime.server before after →
      regime.others before after → Change regime before (.editSpec after.spec) after
  | editedStatus (after : Jenkins) : after.spec = before.spec → regime.server before after →
      regime.others before after → Change regime before (.editStatus after.status) after

/-- What a step does to the object is one of the changes that there are. -/
theorem Step.change (step : Step regime w move w') (sound : w.Sound regime.server) :
    Change regime w.object move w'.object := by
  cases step with
  | start identity => exact .started identity
  | @spared before after past c resume answer split spares =>
    exact .spared past ⟨c, answer⟩ (Call.stored?_of_spares spares)
  | @landed before after past c resume answer stored split accepted changes fresh =>
    -- The write was permitted, so it fits the past, and the copy it was made from is stored.
    have pass := sound.passes _ (split ▸ List.mem_append_right before List.mem_cons_self)
    have fits := pass.keeps.1.fits
    have held := held?_eq_object sound pass.copies fits changes
    exact .updated past ⟨c, answer⟩ stored accepted held pass.lawful (changes.update fits held)
  | editSpec stored status _ kept spares => exact .editedSpec stored status kept spares
  | editStatus stored spec _ kept spares => exact .editedStatus stored spec kept spares

/-- A step adds no object to the history but the one that it stores. -/
theorem Step.mem_history (step : Step regime w move w') :
    ∀ j ∈ w'.history, j = w'.object ∨ j ∈ w.history := by
  intro j member
  cases step with
  | start identity => exact .inr member
  | spared answer split spares => exact .inr member
  | landed answer stored split accepted changes fresh => exact List.mem_cons.1 member
  | editSpec stored status fresh kept spares => exact List.mem_cons.1 member
  | editStatus stored spec fresh kept spares => exact List.mem_cons.1 member

/-- What holds of the object at the start and is preserved by every change holds of each state that
the object was ever in. -/
theorem Run.invariant {P : Jenkins → Prop} (run : Run regime start moves w) (opening : P start)
    (step : ∀ before move after, Change regime before move after → P before → P after) :
    ∀ j ∈ w.history, P j := by
  induction run with
  | nil =>
    intro j member
    exact List.mem_singleton.1 member ▸ opening
  | @cons moves move w w' run taken ih =>
    intro j member
    rcases taken.mem_history j member with rfl | old
    · exact step _ move _ (taken.change run.sound) (ih w.object List.mem_cons_self)
    · exact ih j old

/-- A pass whose write is accepted holds the object as it was stored. -/
theorem Step.updated {stored : Jenkins} (step : Step regime w (.exchange past e) w')
    (sound : w.Sound regime.server) (accepted : e.call.stored? e.answer = some stored) :
    w'.object = stored ∧ held? past = some w.object ∧ Lawful regime.server past ∧
      Update regime.server past w.object stored e.call := by
  have change := step.change sound
  generalize w'.object = after at change
  cases change with
  | spared _ _ refused => exact nomatch refused.symm.trans accepted
  | updated _ _ _ accepted' held lawful update =>
    cases accepted.symm.trans accepted'
    exact ⟨rfl, held, lawful, update⟩

/-- A change leaves the status as it is, or a pass advances it, or another party sets it. -/
theorem Change.status_cases {before after : Jenkins} (change : Change regime before move after) :
    after.statusOrUnset = before.statusOrUnset ∨
      (∃ past, Advance past before after.statusOrUnset) ∨ regime.others before after := by
  cases change with
  | started identity => exact .inl rfl
  | spared past e _ => exact .inl rfl
  | updated past e after _ _ _ update =>
    rcases update.defaults_or_advance with ⟨-, -, status⟩ | ⟨-, advance⟩
    · exact .inl status
    · exact .inr (.inl ⟨past, advance⟩)
  | editedSpec after _ _ spares => exact .inr (.inr spares)
  | editedStatus after _ _ spares => exact .inr (.inr spares)

/-- The server sees to every change, if there is one. -/
theorem Change.kept {before after : Jenkins} (change : Change regime before move after) :
    after = before ∨ regime.server before after := by
  cases change with
  | started identity => exact .inl rfl
  | spared past e _ => exact .inl rfl
  | updated past e after _ _ _ update => exact .inr update.kept
  | editedSpec after _ kept _ => exact .inr kept
  | editedStatus after _ kept _ => exact .inr kept

/-- An accepted status write of a pass advances the status as it was stored. -/
theorem Step.status_updated {object stored : Jenkins}
    (step : Step regime w (.exchange past ⟨.writeStatus object, .ok (.updated stored)⟩) w')
    (sound : w.Sound regime.server) :
    w'.object = stored ∧ held? past = some w.object ∧ Lawful regime.server past ∧
      Advance past w.object stored.statusOrUnset ∧ stored.spec = w.object.spec ∧
      regime.server w.object stored := by
  obtain ⟨now, held, lawful, update⟩ := step.updated sound rfl
  cases update with
  | status s advance spec status kept =>
    rw [Jenkins.statusOrUnset_of_eq_some status]
    exact ⟨now, held, lawful, advance, spec, kept⟩

/-! ## Parties that leave the status alone -/

/-- A write leaves the status as it is. -/
def SparesStatus (before after : Jenkins) : Prop := after.status = before.status

instance : DecidableRel SparesStatus := fun _ _ => inferInstanceAs (Decidable (_ = _))

/-- If other parties leave the status alone, it stays as it is, or a pass advances it and leaves the
specification as it is. -/
theorem Change.status_or_advance {server : Jenkins → Jenkins → Prop} {before after : Jenkins}
    (change : Change ⟨server, SparesStatus⟩ before move after) :
    after.statusOrUnset = before.statusOrUnset ∨
      ∃ past e, move = .exchange past e ∧ held? past = some before ∧
        e.call.stored? e.answer = some after ∧
        e.call = .writeStatus { before with status := some after.statusOrUnset } ∧
        Advance past before after.statusOrUnset ∧ after.spec = before.spec := by
  cases change with
  | started identity => exact .inl rfl
  | spared past e _ => exact .inl rfl
  | updated past e after accepted held _ update =>
    generalize written : e.call = c at update
    cases update with
    | defaults object _ _ _ status _ => exact .inl (Jenkins.statusOrUnset_congr status)
    | status s advance spec status _ =>
      right
      rw [Jenkins.statusOrUnset_of_eq_some status]
      exact ⟨past, e, rfl, held, accepted, written, advance, spec⟩
  | editedSpec after _ _ spares => exact .inl (Jenkins.statusOrUnset_congr spares)
  | editedStatus after _ _ spares => exact .inl (Jenkins.statusOrUnset_congr spares)

end JenkinsOperator
