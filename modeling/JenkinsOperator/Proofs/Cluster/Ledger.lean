import JenkinsOperator.Proofs.Cluster.Change

/-!
# What is achieved and what is told

Milestones are entered where an accepted write reaches them, and struck where the user is told of
them. In between they are owed by a pass, whose very next call it is to tell. So at every point of a
run what was told and what is owed make up what was achieved (`Run.told_add_owing`), and nothing is
owed once all passes have ended (`Run.owing_eq_zero`).
-/

namespace JenkinsOperator

variable {regime : Regime} {start : Jenkins} {moves : List Move} {move : Move} {w w' : World}

/-- Whether a move tells the user of a milestone. -/
def Move.tells (m : Milestone) : Move → Bool
  | .exchange _ e => m.toldBy e.call
  | _ => false

/-- Whether a move reaches a milestone by a write of a pass. -/
def Move.achieves (m : Milestone) : Move → Bool
  | .exchange past e => m.achievedBy (held? past) e.call e.answer
  | _ => false

/-- How many passes owe it to the user to tell of a milestone. -/
def World.owing (w : World) (m : Milestone) : Nat := w.passes.countP fun pass => m.owed pass.past

/-- Replacing an element moves a count by what the two elements count. -/
theorem countP_replace {α : Type} (p : α → Bool) (before after : List α) (x y : α) :
    (if p x then 1 else 0) + (before ++ y :: after).countP p =
      (before ++ x :: after).countP p + if p y then 1 else 0 := by
  simp only [List.countP_append, List.countP_cons]
  omega

/-- A pass tells what it owes, and then owes what it has just achieved. -/
theorem Step.told_add_owing (step : Step regime w move w') (sound : w.Sound regime.server)
    (m : Milestone) :
    (if move.tells m then 1 else 0) + w'.owing m =
      w.owing m + if move.achieves m then 1 else 0 := by
  cases move with
  | start identity =>
    cases step
    exact Nat.zero_add _
  | exchange past e =>
    -- The pass that is answered tells what it owed; what the other passes owe stays as it is.
    have told : m.toldBy e.call = m.owed past := (step.lawful sound).2.1.told m
    obtain ⟨before, after, resume, split, split'⟩ := step.exchange
    rw [World.owing, World.owing, split, split']
    show (if m.toldBy e.call then 1 else 0) + _ = _
    rw [told]
    exact countP_replace (fun pass => m.owed pass.past) before after
      ⟨past, .call e.call resume⟩ ⟨e :: past, resume e.answer⟩
  | editSpec spec =>
    cases step
    exact Nat.zero_add _
  | editStatus status =>
    cases step
    exact Nat.zero_add _

/-- What has been told of a milestone and what is still owed make up what has been achieved. -/
theorem Run.told_add_owing (run : Run regime start moves w) (m : Milestone) :
    moves.countP (Move.tells m) + w.owing m = moves.countP (Move.achieves m) := by
  induction run with
  | nil => rfl
  | @cons moves move w w' run step ih =>
    have balanced := step.told_add_owing run.sound m
    rw [List.countP_cons, List.countP_cons]
    omega

/-- A pass that has ended owes nothing. -/
theorem Run.owing_eq_zero (run : Run regime start moves w) (quiet : w.isQuiet = true)
    (m : Milestone) : w.owing m = 0 := by
  rw [World.owing, List.countP_eq_zero]
  intro pass member
  -- A pass that keeps to the protocol does not end before it has told what it owes.
  have ended := List.all_eq_true.1 quiet pass member
  have settled : Settled pass.past := (run.sound.passes pass member).keeps.settled ended
  rw [settled.clear m]
  exact Bool.false_ne_true

/-! ## What is recorded -/

/-- A milestone is reached where it is recorded for the first time. -/
theorem Update.achievedBy {server : Jenkins → Jenkins → Prop} {past : Past} {e : Call.Exchange}
    {before after : Jenkins} (update : Update server past before after e.call)
    (accepted : e.call.stored? e.answer = some after) (held : held? past = some before)
    (m : Milestone) :
    m.achievedBy (held? past) e.call e.answer =
      (!m.reachedIn before.statusOrUnset && m.reachedIn after.statusOrUnset) := by
  rcases e with ⟨c, answer⟩
  cases update with
  | defaults object _ _ _ status _ =>
    rw [Jenkins.statusOrUnset_congr status, Bool.not_and_self]
    rfl
  | status s _ _ _ _ =>
    rcases answer with failure | stored | _
    · cases accepted
    · cases accepted
      exact @Milestone.owed_writeStatus past { before with status := some s } before after held m
    · cases accepted

theorem Milestone.achievedBy_of_stored?_eq_none {c : Call} {answer : c.Answer}
    (refused : c.stored? answer = none) (m : Milestone) (before? : Option Jenkins) :
    m.achievedBy before? c answer = false := by
  cases c with
  | writeStatus object =>
    rcases answer with failure | stored | _
    · rfl
    · cases refused
    · rfl
  | _ => rfl

/-- A change reaches what it newly records, if a pass makes it. -/
theorem Change.achieves {before after : Jenkins} (change : Change regime before move after)
    (m : Milestone)
    (others : ∀ after, regime.others before after →
      m.reachedIn after.statusOrUnset = m.reachedIn before.statusOrUnset) :
    move.achieves m = (!m.reachedIn before.statusOrUnset && m.reachedIn after.statusOrUnset) := by
  cases change with
  | started identity => rw [Bool.not_and_self]; rfl
  | spared past e refused =>
    rw [Bool.not_and_self]
    exact m.achievedBy_of_stored?_eq_none refused _
  | updated past e after accepted held _ update => exact update.achievedBy accepted held m
  | editedSpec after _ _ spares => rw [others after spares, Bool.not_and_self]; rfl
  | editedStatus after _ _ spares => rw [others after spares, Bool.not_and_self]; rfl

end JenkinsOperator
