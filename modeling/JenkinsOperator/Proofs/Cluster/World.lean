import Mathlib.Data.List.Nodup
import JenkinsOperator.Proofs.Pass.Steps

/-!
# Passes that share an object

A store keeps one object, and any number of passes and other parties work on it. A `Step` answers
the next call of one pass, starts a pass, or accepts a write of another party, so that a `Run` is an
interleaving of all of them. The store accepts a write of a pass only at the version that it keeps,
and each accepted write gets a version that no earlier state of the object had. Collaborators answer
what they like, and any call may fail or be refused without a change to the store.

The main result is `Run.sound`: at every point of a run, each pass has kept to the protocol, and all
that it was returned are states that the object was once in. As versions are never given twice, a
write that is accepted is one of the object as it is stored (`held?_eq_object`).
-/

namespace JenkinsOperator

/-- A pass under way: what it was told, and how it goes on. -/
structure Running where
  past : Past
  rest : Program Failure Outcome

/-- An object in a store, and the passes that work on it. -/
structure World where
  /-- The object as it is stored. -/
  object : Jenkins
  /-- The object as it was stored before, the last state first. -/
  earlier : List Jenkins
  passes : List Running

/-- What happens in a step. -/
inductive Move where
  /-- A pass starts. -/
  | start (identity : Identity)
  /-- The next call of a pass is answered. -/
  | exchange (past : Past) (e : Call.Exchange)
  /-- Another party replaces the specification. -/
  | editSpec (spec : JenkinsSpec)
  /-- Another party replaces the status. -/
  | editStatus (status : Option JenkinsStatus)

/-- What is known of accepted writes, by the object before and after. -/
structure Regime where
  /-- What the server sees to, whoever writes. -/
  server : Jenkins → Jenkins → Prop
  /-- What other parties see to. -/
  others : Jenkins → Jenkins → Prop

/-- Whether an answer can come while the store stays as it is: what is read is the stored object,
and no write is accepted. -/
def Call.Spares (object : Jenkins) : (c : Call) → c.Answer → Prop
  | .fetch _, .ok found => found = some object
  | c, answer => c.stored? answer = none

namespace World

/-- The store before anything happens. -/
def opening (object : Jenkins) : World := ⟨object, [], []⟩

/-- All states that the object has been in, the last one first. -/
def history (w : World) : List Jenkins := w.object :: w.earlier

/-- The versions given so far. -/
def versions (w : World) : List (Option String) :=
  w.history.map fun j => j.metadata.resourceVersion

/-- The world after a write. -/
def keep (w : World) (after : Jenkins) : World :=
  { w with object := after, earlier := w.history }

/-- Whether all passes have ended. -/
def isQuiet (w : World) : Bool := w.passes.all fun pass => pass.rest.hasEnded

end World

/-- One step of a world. -/
inductive Step (regime : Regime) (w : World) : Move → World → Prop where
  | start (identity : Identity) :
      Step regime w (.start identity)
        { w with passes := ⟨[], reconcilePass identity⟩ :: w.passes }
  | spared {before after : List Running} {past : Past} {c : Call}
      {resume : c.Answer → Program Failure Outcome} (answer : c.Answer) :
      w.passes = before ++ ⟨past, .call c resume⟩ :: after → c.Spares w.object answer →
      Step regime w (.exchange past ⟨c, answer⟩)
        { w with passes := before ++ ⟨⟨c, answer⟩ :: past, resume answer⟩ :: after }
  | landed {before after : List Running} {past : Past} {c : Call}
      {resume : c.Answer → Program Failure Outcome} (answer : c.Answer) (stored : Jenkins) :
      w.passes = before ++ ⟨past, .call c resume⟩ :: after → c.stored? answer = some stored →
      Accepted regime.server w.object stored c → stored.metadata.resourceVersion ∉ w.versions →
      Step regime w (.exchange past ⟨c, answer⟩)
        { w.keep stored with passes := before ++ ⟨⟨c, answer⟩ :: past, resume answer⟩ :: after }
  | editSpec (stored : Jenkins) : stored.status = w.object.status →
      stored.metadata.resourceVersion ∉ w.versions → regime.server w.object stored →
      regime.others w.object stored → Step regime w (.editSpec stored.spec) (w.keep stored)
  | editStatus (stored : Jenkins) : stored.spec = w.object.spec →
      stored.metadata.resourceVersion ∉ w.versions → regime.server w.object stored →
      regime.others w.object stored → Step regime w (.editStatus stored.status) (w.keep stored)

/-- The moves from an object on, the last one first, and the world that they lead to. -/
inductive Run (regime : Regime) (start : Jenkins) : List Move → World → Prop where
  | nil : Run regime start [] (.opening start)
  | cons {moves : List Move} {move : Move} {w w' : World} :
      Run regime start moves w → Step regime w move w' → Run regime start (move :: moves) w'

/-! ## Passes keep to the protocol -/

/-- A pass that has kept to the protocol and goes on to do so, with copies from a history. -/
structure Running.Sound (server : Jenkins → Jenkins → Prop) (history : List Jenkins)
    (pass : Running) : Prop where
  lawful : Lawful server pass.past
  keeps : pass.rest.Keeps (protocol server Failure) (fun _ => Settled) pass.past
  copies : ∀ e ∈ pass.past, ∀ j, e.call.returned? e.answer = some j → j ∈ history

/-- A world whose passes are sound, and in which no version was given twice. -/
structure World.Sound (server : Jenkins → Jenkins → Prop) (w : World) : Prop where
  versions : w.versions.Nodup
  passes : ∀ pass ∈ w.passes, pass.Sound server w.history

/-- A pass that is sound stays so while the history grows. -/
theorem Running.Sound.mono {server : Jenkins → Jenkins → Prop} {history history' : List Jenkins}
    {pass : Running} (h : pass.Sound server history) (grown : history ⊆ history') :
    pass.Sound server history' := by
  refine ⟨h.lawful, h.keeps, ?_⟩
  intro e member j returned
  exact grown (h.copies e member j returned)

/-- A call that is accepted is a write of the copy held, at its version. -/
theorem Accepted.exists_held {server : Jenkins → Jenkins → Prop} {past : Past} {c : Call}
    {before after : Jenkins} (accepted : Accepted server before after c) (fits : Fits past c) :
    ∃ j, held? past = some j ∧ j.metadata.resourceVersion = before.metadata.resourceVersion := by
  cases accepted with
  | spec object version _ _ _ =>
    obtain ⟨j, held, -, -, rfl⟩ := fits
    exact ⟨j, held, version⟩
  | status object version _ _ _ =>
    obtain ⟨j, s, held, -, rfl⟩ := fits
    exact ⟨j, held, version⟩

/-- A pass whose write is accepted holds the object as it is stored. -/
theorem held?_eq_object {server : Jenkins → Jenkins → Prop} {w : World} {past : Past} {c : Call}
    {stored : Jenkins} (sound : w.Sound server)
    (copies : ∀ e ∈ past, ∀ j, e.call.returned? e.answer = some j → j ∈ w.history)
    (fits : Fits past c) (accepted : Accepted server w.object stored c) :
    held? past = some w.object := by
  -- The write carries the version of the copy held, which is a state from the history. Each version
  -- stands there once, and the one accepted is that of the last state.
  obtain ⟨j, held, version⟩ := accepted.exists_held fits
  obtain ⟨e, member, returned⟩ := exists_returned held
  have same : j = w.object :=
    List.inj_on_of_nodup_map sound.versions (copies e member j returned) List.mem_cons_self version
  rw [held, same]

theorem Call.stored?_of_spares {object : Jenkins} {c : Call} {answer : c.Answer}
    (h : c.Spares object answer) : c.stored? answer = none := by
  cases c with
  | fetch identity => rfl
  | _ => exact h

theorem Call.returned?_of_spares {object : Jenkins} {c : Call} {answer : c.Answer}
    (h : c.Spares object answer) : ∀ j, c.returned? answer = some j → j = object := by
  intro j returned
  cases c with
  | fetch identity =>
    rcases answer with failure | found
    · cases returned
    · exact Option.some.inj (returned.symm.trans h)
  | writeSpec o => exact nomatch h.symm.trans returned
  | writeStatus o => exact nomatch h.symm.trans returned
  | _ => cases returned

/-- An answer keeps a pass sound if all that it returns was stored and an accepted write is one of
the copy held. -/
theorem Running.Sound.answered {server : Jenkins → Jenkins → Prop} {history history' : List Jenkins}
    {past : Past} {c : Call} {resume : c.Answer → Program Failure Outcome} {answer : c.Answer}
    (h : Running.Sound server history ⟨past, .call c resume⟩) (grown : history ⊆ history')
    (credible : Credible server past ⟨c, answer⟩)
    (returned : ∀ j, c.returned? answer = some j → j ∈ history') :
    Running.Sound server history' ⟨⟨c, answer⟩ :: past, resume answer⟩ where
  lawful := ⟨h.lawful, h.keeps.1, credible⟩
  keeps := h.keeps.2 answer credible
  copies := List.forall_mem_cons.2
    ⟨returned, fun e member j old => grown (h.copies e member j old)⟩

/-- One pass has made its next call; the others are where they were. -/
theorem World.Sound.passes_replace {server : Jenkins → Jenkins → Prop} {w : World}
    {history : List Jenkins} {before after : List Running} {pass pass' : Running}
    (sound : w.Sound server) (split : w.passes = before ++ pass :: after)
    (grown : w.history ⊆ history) (replaced : pass'.Sound server history) :
    ∀ other ∈ before ++ pass' :: after, other.Sound server history := by
  intro other member
  rcases List.mem_append.1 member with left | right
  · exact (sound.passes other (split ▸ List.mem_append_left _ left)).mono grown
  · rcases List.mem_cons.1 right with rfl | right
    · exact replaced
    · have old : other ∈ w.passes := split ▸ List.mem_append_right _ (List.mem_cons_of_mem _ right)
      exact (sound.passes other old).mono grown

theorem World.Sound.versions_keep {server : Jenkins → Jenkins → Prop} {w : World} {stored : Jenkins}
    (sound : w.Sound server) (fresh : stored.metadata.resourceVersion ∉ w.versions) :
    (w.keep stored).versions.Nodup :=
  List.nodup_cons.2 ⟨fresh, sound.versions⟩

/-- Every step keeps the world sound. -/
theorem Step.sound {regime : Regime} {w w' : World} {move : Move} (step : Step regime w move w')
    (sound : w.Sound regime.server) : w'.Sound regime.server := by
  have grown : ∀ stored, w.history ⊆ (w.keep stored).history := fun stored =>
    List.subset_cons_self stored w.history
  cases step with
  | start identity =>
    refine ⟨sound.versions, ?_⟩
    intro pass member
    rcases List.mem_cons.1 member with rfl | old
    · exact ⟨trivial, reconcilePass_keeps regime.server identity, fun _ member => nomatch member⟩
    · exact sound.passes pass old
  | @spared before after past c resume answer split spares =>
    have pass := sound.passes _ (split ▸ List.mem_append_right before List.mem_cons_self)
    have credible : Credible regime.server past ⟨c, answer⟩ := by
      intro stored accepted
      exact nomatch (Call.stored?_of_spares spares).symm.trans accepted
    refine ⟨sound.versions, sound.passes_replace split (List.Subset.refl _) ?_⟩
    refine pass.answered (List.Subset.refl _) credible fun j returned => ?_
    rw [Call.returned?_of_spares spares j returned]
    exact List.mem_cons_self
  | @landed before after past c resume answer stored split accepted changes fresh =>
    have pass := sound.passes _ (split ▸ List.mem_append_right before List.mem_cons_self)
    -- The pass has kept to the protocol up to this call, so its write is one of the copy held.
    have held := held?_eq_object sound pass.copies pass.keeps.1.fits changes
    have credible : Credible regime.server past ⟨c, answer⟩ := by
      intro stored' accepted'
      cases accepted.symm.trans accepted'
      exact ⟨w.object, held, changes⟩
    refine ⟨sound.versions_keep fresh, sound.passes_replace split (grown stored) ?_⟩
    refine pass.answered (grown stored) credible fun j returned => ?_
    cases (Call.returned?_of_stored? accepted).symm.trans returned
    exact List.mem_cons_self
  | editSpec stored _ fresh _ _ =>
    exact ⟨sound.versions_keep fresh, fun pass old => (sound.passes pass old).mono (grown stored)⟩
  | editStatus stored _ fresh _ _ =>
    exact ⟨sound.versions_keep fresh, fun pass old => (sound.passes pass old).mono (grown stored)⟩

/-- At every point of a run, all passes have kept to the protocol. -/
theorem Run.sound {regime : Regime} {start : Jenkins} {moves : List Move} {w : World}
    (run : Run regime start moves w) : w.Sound regime.server := by
  induction run with
  | nil => exact ⟨List.nodup_singleton _, nofun⟩
  | cons _ step ih => exact step.sound ih

end JenkinsOperator
