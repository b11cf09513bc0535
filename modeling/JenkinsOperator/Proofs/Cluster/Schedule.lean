import JenkinsOperator.Cluster.Rehearsal
import JenkinsOperator.Proofs.Cluster.World

/-!
# Schedules

A schedule says who is next: a pass starts, the call of one pass is answered, or another party
writes. Writes get the version and the generation that the store in memory gives them. A turn that
cannot be taken, such as an answer to a pass that has ended, is passed over, and what remains is a
run (`run_play`). So that store, with collaborators that behave in any way, is one of those that
runs are about.
-/

namespace JenkinsOperator

variable {server others : Jenkins → Jenkins → Prop}

/-! ## Steps that can be computed -/

instance (object : Jenkins) : (c : Call) → (answer : c.Answer) → Decidable (c.Spares object answer)
  | .fetch _, .ok _ => inferInstanceAs (Decidable (_ = _))
  | .fetch _, .error _ => inferInstanceAs (Decidable (_ = _))
  | .writeSpec _, _ => inferInstanceAs (Decidable (_ = _))
  | .writeStatus _, _ => inferInstanceAs (Decidable (_ = _))
  | .readConfigMap _, _ => .isTrue rfl
  | .readSecret _, _ => .isTrue rfl
  | .acceptsSpec _, _ => .isTrue rfl
  | .provision _, _ => .isTrue rfl
  | .ensureSeedJobs _ _, _ => .isTrue rfl
  | .configureScripts _, _ => .isTrue rfl
  | .runScripts _ _ _, _ => .isTrue rfl
  | .publish _ _, _ => .isTrue rfl
  | .clock, _ => .isTrue rfl

theorem accepted_writeSpec {before after object : Jenkins} :
    Accepted server before after (.writeSpec object) ↔
      object.metadata.resourceVersion = before.metadata.resourceVersion ∧
        after.spec = object.spec ∧ after.status = before.status ∧ server before after := by
  constructor
  · intro accepted
    cases accepted with
    | spec _ version spec status kept => exact ⟨version, spec, status, kept⟩
  · rintro ⟨version, spec, status, kept⟩
    exact .spec object version spec status kept

theorem accepted_writeStatus {before after object : Jenkins} :
    Accepted server before after (.writeStatus object) ↔
      object.metadata.resourceVersion = before.metadata.resourceVersion ∧
        after.spec = before.spec ∧ after.status = object.status ∧ server before after := by
  constructor
  · intro accepted
    cases accepted with
    | status _ version spec status kept => exact ⟨version, spec, status, kept⟩
  · rintro ⟨version, spec, status, kept⟩
    exact .status object version spec status kept

instance [DecidableRel server] (before after : Jenkins) :
    (c : Call) → Decidable (Accepted server before after c)
  | .writeSpec _ => decidable_of_iff _ accepted_writeSpec.symm
  | .writeStatus _ => decidable_of_iff _ accepted_writeStatus.symm
  | .fetch _ => .isFalse fun accepted => nomatch accepted
  | .readConfigMap _ => .isFalse fun accepted => nomatch accepted
  | .readSecret _ => .isFalse fun accepted => nomatch accepted
  | .acceptsSpec _ => .isFalse fun accepted => nomatch accepted
  | .provision _ => .isFalse fun accepted => nomatch accepted
  | .ensureSeedJobs _ _ => .isFalse fun accepted => nomatch accepted
  | .configureScripts _ => .isFalse fun accepted => nomatch accepted
  | .runScripts _ _ _ => .isFalse fun accepted => nomatch accepted
  | .publish _ _ => .isFalse fun accepted => nomatch accepted
  | .clock => .isFalse fun accepted => nomatch accepted

/-- How the store and the collaborators answer a call, given the object as it is stored. -/
abbrev Reply := Jenkins → (c : Call) → c.Answer

/-- The replies of the store in memory and of collaborators that behave in some way. -/
def Behaviour.reply (behaviour : Behaviour) (now : Time) : Reply := fun object c =>
  (Rehearsal.respond { Rehearsal.start now with store := Store.empty.put object, behaviour } c).1

/-- Who is next. -/
inductive Turn where
  /-- A pass starts. -/
  | start (identity : Identity)
  /-- The pass at a place gets an answer. -/
  | answer (place : Nat) (reply : Reply)
  /-- Another party replaces the specification. -/
  | editSpec (spec : JenkinsSpec)
  /-- Another party replaces the status. -/
  | editStatus (status : Option JenkinsStatus)

namespace World

/-- The world after an answer, if a call is waiting for it and the store goes along. -/
def answer (server : Jenkins → Jenkins → Prop) [DecidableRel server] (w : World) (place : Nat)
    (reply : Reply) : Option (Move × World) :=
  match w.passes.drop place with
  | ⟨past, .call c resume⟩ :: after =>
    let answer := reply w.object c
    let passes := w.passes.take place ++ ⟨⟨c, answer⟩ :: past, resume answer⟩ :: after
    if c.Spares w.object answer then some (.exchange past ⟨c, answer⟩, { w with passes })
    else
      match c.stored? answer with
      | some stored =>
        if Accepted server w.object stored c ∧ stored.metadata.resourceVersion ∉ w.versions then
          some (.exchange past ⟨c, answer⟩, { w.keep stored with passes })
        else none
      | none => none
  | _ => none

/-- The world after a write of another party, if store and party see to what they should. -/
def edit (server others : Jenkins → Jenkins → Prop) [DecidableRel server] [DecidableRel others]
    (w : World) (stored : Jenkins) : Option World :=
  if stored.metadata.resourceVersion ∉ w.versions ∧ server w.object stored ∧
      others w.object stored then
    some (w.keep stored)
  else none

variable (server others) in
/-- What a turn does to a world, if it can be taken. -/
def turn [DecidableRel server] [DecidableRel others] (w : World) : Turn → Option (Move × World)
  | .start identity =>
    some (.start identity, { w with passes := ⟨[], reconcilePass identity⟩ :: w.passes })
  | .answer place reply => w.answer server place reply
  | .editSpec spec =>
    (w.edit server others (w.object.withSpec spec)).map fun w' => (.editSpec spec, w')
  | .editStatus status =>
    (w.edit server others (w.object.withStatus status)).map fun w' => (.editStatus status, w')

/-- A scheduled answer is a step of the cluster. -/
theorem answer_step [DecidableRel server] {w w' : World} {place : Nat} {reply : Reply} {move : Move}
    (h : w.answer server place reply = some (move, w')) : Step ⟨server, others⟩ w move w' := by
  unfold answer at h
  split at h
  case h_2 => cases h
  case h_1 past c resume after rest =>
    -- The place cuts the passes in two, so that the pass there stands between the parts.
    have split : w.passes = w.passes.take place ++ ⟨past, .call c resume⟩ :: after := by
      rw [← rest, List.take_append_drop]
    dsimp only at h
    split at h
    case isTrue spares =>
      cases h
      exact .spared _ split spares
    case isFalse =>
      split at h
      case h_2 => cases h
      case h_1 stored returned =>
        split at h
        case isFalse => cases h
        case isTrue accepted =>
          cases h
          exact .landed _ stored split returned accepted.1 accepted.2

/-- An edit stores its object under a new version, as the rules for others allow it. -/
theorem of_edit [DecidableRel server] [DecidableRel others] {w w' : World} {stored : Jenkins}
    (h : w.edit server others stored = some w') :
    w' = w.keep stored ∧ stored.metadata.resourceVersion ∉ w.versions ∧ server w.object stored ∧
      others w.object stored := by
  unfold edit at h
  split at h
  case isTrue fine =>
    cases h
    exact ⟨rfl, fine⟩
  case isFalse => cases h

/-- A turn that can be taken is a step. -/
theorem turn_step [DecidableRel server] [DecidableRel others] {w w' : World} {turn : Turn}
    {move : Move} (h : w.turn server others turn = some (move, w')) :
    Step ⟨server, others⟩ w move w' := by
  cases turn with
  | start identity =>
    cases h
    exact .start identity
  | answer place reply => exact answer_step h
  | editSpec spec =>
    obtain ⟨_, edited, same⟩ := Option.map_eq_some_iff.1 h
    cases same
    obtain ⟨rfl, fresh, kept, spares⟩ := of_edit edited
    exact .editSpec (w.object.withSpec spec) rfl fresh kept spares
  | editStatus status =>
    obtain ⟨_, edited, same⟩ := Option.map_eq_some_iff.1 h
    cases same
    obtain ⟨rfl, fresh, kept, spares⟩ := of_edit edited
    exact .editStatus (w.object.withStatus status) rfl fresh kept spares

end World

/-- Whether a status write of a pass is accepted in a move. -/
def Move.isStatusUpdate : Move → Bool
  | .exchange _ ⟨.writeStatus _, .ok (.updated _)⟩ => true
  | _ => false

theorem Move.exists_of_isStatusUpdate {move : Move} (h : move.isStatusUpdate = true) :
    ∃ past object stored, move = .exchange past ⟨.writeStatus object, .ok (.updated stored)⟩ := by
  unfold isStatusUpdate at h
  split at h
  case h_1 past object stored => exact ⟨past, object, stored, rfl⟩
  case h_2 => cases h

/-- A turn in which a status write of a pass is accepted is a step of that kind. -/
theorem World.exists_status_update [DecidableRel server] [DecidableRel others] {w : World}
    {turn : Turn}
    (h : (w.turn server others turn).any (fun taken => taken.1.isStatusUpdate) = true) :
    ∃ past object stored w', Step ⟨server, others⟩ w
      (.exchange past ⟨.writeStatus object, .ok (.updated stored)⟩) w' := by
  obtain ⟨⟨move, w'⟩, taken, update⟩ := (Option.any_eq_true _ _).1 h
  obtain ⟨past, object, stored, rfl⟩ := Move.exists_of_isStatusUpdate update
  exact ⟨past, object, stored, w', World.turn_step taken⟩

/-! ## Runs that can be computed -/

variable (server others) in
/-- The moves that a schedule comes to, the last one first, and the world that they lead to. -/
def play [DecidableRel server] [DecidableRel others] (start : Jenkins) :
    List Turn → List Move × World
  | [] => ([], .opening start)
  | turn :: earlier =>
    let (moves, w) := play start earlier
    match w.turn server others turn with
    | some (move, w') => (move :: moves, w')
    | none => (moves, w)

/-- A schedule, the last turn first, comes to a run. -/
theorem run_play [DecidableRel server] [DecidableRel others] (start : Jenkins) (turns : List Turn) :
    Run ⟨server, others⟩ start (play server others start turns).1
      (play server others start turns).2 := by
  induction turns with
  | nil => exact .nil
  | cons turn earlier ih =>
    unfold play
    dsimp only
    split
    case h_1 move w' taken => exact .cons ih (World.turn_step taken)
    case h_2 => exact ih

/-! ## A cluster to play in -/

/-- A moment to stamp. -/
def Time.noon : Time :=
  ⟨⟨2026, 7, 1, by decide, by decide, by decide, by decide, by decide, by decide⟩, 12, 0, 0, 0,
    by decide, by decide, by decide, by decide⟩

/-- An hour after noon. -/
def Time.one : Time := { Time.noon with hour := 13, hour_lt := by decide }

/-- Two hours after noon. -/
def Time.two : Time := { Time.noon with hour := 14, hour_lt := by decide }

/-- A valid specification that leaves the resources of the master open. -/
def JenkinsSpec.plain : JenkinsSpec :=
  ⟨⟨"jenkins", .ofList [("git:1", [])], .ofList [("seed:1", [])], .unset⟩, []⟩

/-- An object that was just created. -/
def Jenkins.created : Jenkins where
  metadata := { Metadata.unset with
    name := some "ci", namespaceName := some "default", generation := some 1,
    resourceVersion := some "1" }
  spec := .plain
  status := none

/-- A pass for that object starts. -/
def Turn.begin : Turn := .start ⟨"default", "ci"⟩

/-- The pass at a place makes a number of calls, and the collaborators behave in some way. -/
def Turn.calls (behaviour : Behaviour) (place number : Nat) : List Turn :=
  List.replicate number (.answer place (behaviour.reply .noon))

end JenkinsOperator
