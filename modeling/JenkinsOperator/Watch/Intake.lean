import JenkinsOperator.Settings.Basic
import JenkinsOperator.Watch.Subscription
import JenkinsOperator.Watch.Trigger

/-!
# Taking up what was listed

Each kind of objects has a feed, and the feeds take turns. A feed that was listed hands over one
trigger a turn. At the turn after its last trigger it is finished and asks the server for a watch,
which is open once the feed has had another turn. A feed that could not be listed reports so, and at
its next turn it asks for the listing again.

A feed that has asked waits for the server; all that wait get their turns again, in the order in
which they asked, when no other feed is left to take one. After a report, though, the controller
pauses, and the server answers meanwhile. Each report makes the pause twice as long as the one
before, and each trigger makes it as short as at first. A pause that outlasts the round ends it:
what was not taken up by then stays where it is.

`Intake.run` takes turns until the round is over or no feed is left. It ends because each turn
leaves less time or, in the same time, less to do (`Intake.next?_lt`).
-/

namespace JenkinsOperator

/-- What a feed does at its next turn. -/
inductive FeedStage where
  /-- It hands over the next of its triggers. -/
  | listed (triggers : List JenkinsRef)
  /-- It reports that it could not be listed. -/
  | failed
  /-- It asks for the listing again. -/
  | asking
  /-- It opens the watch. -/
  | opening
  deriving DecidableEq

/-- The feed of a kind. -/
structure Feed where
  kind : WatchedKind
  stage : FeedStage
  deriving DecidableEq

/-- How far the controller has come with the feeds. -/
structure Intake where
  /-- The feeds whose turn it is, one after another. -/
  ready : List Feed
  /-- The feeds that wait for the server, in the order in which they asked. -/
  waiting : List Feed
  /-- How long the round still lasts. -/
  timeLeft : Milliseconds
  /-- How many reports there were since the last trigger. -/
  streak : Nat
  /-- The triggers so far, the last one first. -/
  triggers : List JenkinsRef
  /-- The kinds whose triggers were all handed over. -/
  finished : List WatchedKind
  /-- The kinds whose watch is open. -/
  watched : List WatchedKind
  /-- The kinds that were reported, once for each report. -/
  unlisted : List WatchedKind
  deriving DecidableEq

/-- How long a round lasts. -/
def roundLength : Milliseconds := 2000

/-- The pause after a report, by the number of reports before it since the last trigger. -/
def pauseAfter : Nat → Milliseconds
  | 0 => 800
  | streak + 1 => 2 * pauseAfter streak

/-- There is always a pause, so that a failing watch does not spin. -/
theorem pauseAfter_pos (streak : Nat) : 0 < pauseAfter streak := by
  induction streak with
  | zero => decide
  | succ streak ih => exact Nat.mul_pos (by decide) ih

/-- The turns that a feed may still take in one stretch of time. -/
def FeedStage.work : FeedStage → Nat
  | .listed triggers => triggers.length + 3
  | .failed => 1
  | .asking => 3
  | .opening => 1

/-- The turns that feeds may still take in one stretch of time. -/
def Feed.work : List Feed → Nat
  | [] => 0
  | feed :: rest => feed.stage.work + work rest

theorem Feed.work_append (feeds others : List Feed) :
    Feed.work (feeds ++ others) = Feed.work feeds + Feed.work others := by
  induction feeds with
  | nil => simp only [List.nil_append, Feed.work, Nat.zero_add]
  | cons feed rest ih => simp only [List.cons_append, Feed.work, ih, Nat.add_assoc]

/-- The feed of a kind with the triggers that were listed of it. -/
def Feed.ofTriggers? (kind : WatchedKind) : Option (List JenkinsRef) → Feed
  | some triggers => ⟨kind, .listed triggers⟩
  | none => ⟨kind, .failed⟩

namespace Intake

/-- Every kind has a feed, and none has had a turn. -/
def start (triggers? : WatchedKind → Option (List JenkinsRef)) : Intake where
  ready := WatchedKind.all.map fun kind => .ofTriggers? kind (triggers? kind)
  waiting := []
  timeLeft := roundLength
  streak := 0
  triggers := []
  finished := []
  watched := []
  unlisted := []

/-- A report on a kind, and the pause after it. The feed gets its next turn after those that are
ready and before those that waited. -/
def report (s : Intake) (kind : WatchedKind) : Intake :=
  let pause := pauseAfter s.streak
  let s := { s with streak := s.streak + 1, unlisted := kind :: s.unlisted }
  if pause < s.timeLeft then
    { s with
      ready := s.ready ++ ⟨kind, .asking⟩ :: s.waiting
      waiting := []
      timeLeft := s.timeLeft - pause }
  else { s with ready := [], waiting := [] }

/-- The turn of a feed that was taken from those that are ready. -/
def turn (s : Intake) (feed : Feed) : Intake :=
  match feed.stage with
  | .listed [] =>
    { s with
      waiting := s.waiting ++ [⟨feed.kind, .opening⟩]
      finished := feed.kind :: s.finished }
  | .listed (trigger :: rest) =>
    { s with
      ready := s.ready ++ [⟨feed.kind, .listed rest⟩]
      streak := 0
      triggers := trigger :: s.triggers }
  | .failed => s.report feed.kind
  | .asking => { s with waiting := s.waiting ++ [⟨feed.kind, .failed⟩] }
  | .opening => { s with watched := feed.kind :: s.watched }

/-- One step: a turn, or the answers of the server if no feed is ready. -/
def next? (s : Intake) : Option Intake :=
  match s.ready, s.waiting with
  | feed :: rest, _ => some (turn { s with ready := rest } feed)
  | [], feed :: rest => some { s with ready := feed :: rest, waiting := [] }
  | [], [] => none

/-- The steps that may still be taken in one stretch of time. To wait for the server is one more for
every feed that waits. -/
def work (s : Intake) : Nat := Feed.work s.ready + Feed.work s.waiting + s.waiting.length

/-- A report leaves less time, or nothing to do. -/
theorem report_lt (s : Intake) (kind : WatchedKind) :
    (s.report kind).timeLeft < s.timeLeft ∨
      (s.report kind).timeLeft = s.timeLeft ∧ (s.report kind).work < 1 + s.work := by
  unfold report
  simp only
  split
  · rename_i h
    exact .inl (Nat.sub_lt (Nat.lt_of_le_of_lt (Nat.zero_le _) h) (pauseAfter_pos _))
  · refine .inr ⟨rfl, ?_⟩
    simp only [work, Feed.work, List.length_nil]
    omega

/-- A turn leaves less time or less to do. -/
theorem turn_lt (s : Intake) (feed : Feed) :
    (s.turn feed).timeLeft < s.timeLeft ∨
      (s.turn feed).timeLeft = s.timeLeft ∧ (s.turn feed).work < feed.stage.work + s.work := by
  unfold turn
  split <;> rename_i hstage <;> rw [hstage]
  case h_3 => exact report_lt s feed.kind
  all_goals
    refine .inr ⟨rfl, ?_⟩
    simp only [work, Feed.work_append, Feed.work, FeedStage.work, List.length_append,
      List.length_nil, List.length_cons]
    omega

/-- A step leaves less time or less to do. -/
theorem next?_lt {s t : Intake} (h : s.next? = some t) :
    t.timeLeft < s.timeLeft ∨ t.timeLeft = s.timeLeft ∧ t.work < s.work := by
  unfold next? at h
  split at h
  · rename_i feed rest hready
    cases h
    refine (turn_lt { s with ready := rest } feed).imp id fun ⟨htime, hwork⟩ => ⟨htime, ?_⟩
    simp only [work, hready, Feed.work] at hwork ⊢
    omega
  · rename_i feed rest hready hwaiting
    cases h
    refine .inr ⟨rfl, ?_⟩
    simp only [work, hready, hwaiting, Feed.work, List.length_nil, List.length_cons]
    omega
  · cases h

/-- The state at the end of the round, or when no feed is left. -/
def run (s : Intake) : Intake :=
  match _hnext : s.next? with
  | some t => run t
  | none => s
termination_by (s.timeLeft, s.work)
decreasing_by exact Prod.lex_def.2 (next?_lt _hnext)

end Intake

end JenkinsOperator
