import JenkinsOperator.Pass.Program

/-!
# The conduct of a program

A program is judged by its exchanges, the calls that it made with the answers that it got. A
`Conduct` says which answers can come, which calls may be made next, and how a program may leave,
each by the exchanges so far. `Program.Keeps` holds of a program that keeps to a conduct along every
path of credible answers. It is defined by recursion on the program, so that it is proved for one
part of a program after another (`Program.keeps_bind`).
-/

namespace JenkinsOperator

/-- A call with its answer. -/
structure Call.Exchange where
  call : Call
  answer : call.Answer

/-- The exchanges of a program so far, the last one first. -/
abbrev Past := List Call.Exchange

/-- What a program may count on, and what it is held to. -/
structure Conduct (ε : Type) where
  /-- The answers that can come. -/
  credible : Past → Call.Exchange → Prop
  /-- The calls that may be made next. -/
  permits : Past → Call → Prop
  /-- How the program may leave. -/
  leaves : ε → Past → Prop

/-- The conduct of a program whose reasons to leave are images of those of another. -/
def Conduct.comap {ε δ : Type} (D : Conduct δ) (f : ε → δ) : Conduct ε :=
  ⟨D.credible, D.permits, fun reason => D.leaves (f reason)⟩

namespace Program

variable {ε δ α β : Type}

/-- Along every path of credible answers, the program makes only permitted calls, leaves only as it
may, and ends only with values and exchanges of which the postcondition holds. -/
def Keeps (D : Conduct ε) (Q : α → Past → Prop) : Program ε α → Past → Prop
  | .done value, past => Q value past
  | .exit reason, past => D.leaves reason past
  | .call c resume, past =>
    D.permits past c ∧ ∀ answer, D.credible past ⟨c, answer⟩ →
      (resume answer).Keeps D Q (⟨c, answer⟩ :: past)

variable {D : Conduct ε} {Q : α → Past → Prop} {past : Past}

/-- One program after another keeps to a conduct if the first does and ends where the second may
start. -/
theorem keeps_bind {p : Program ε α} {next : α → Program ε β} {S : β → Past → Prop} :
    (p >>= next).Keeps D S past ↔
      p.Keeps D (fun value past' => (next value).Keeps D S past') past := by
  show (p.bind next).Keeps D S past ↔ _
  induction p generalizing past with
  | done value => rfl
  | exit reason => rfl
  | call c resume ih =>
    -- The call is the same on both sides; what follows each answer is a smaller program.
    apply and_congr_right
    intro _
    exact forall₂_congr fun answer _ => ih answer

theorem Keeps.imp {p : Program ε α} {S : α → Past → Prop} (h : p.Keeps D Q past)
    (implies : ∀ value past', Q value past' → S value past') : p.Keeps D S past := by
  induction p generalizing past with
  | done value => exact implies value past h
  | exit reason => exact h
  | call c resume ih => exact ⟨h.1, fun answer credible => ih answer (h.2 answer credible)⟩

/-- With its exits renamed, a program keeps to a conduct if it does so with its own exits, each
counting as what it is renamed to. -/
theorem keeps_mapExit {D : Conduct δ} (f : ε → δ) (p : Program ε α) :
    (p.mapExit f).Keeps D Q past ↔ p.Keeps (D.comap f) Q past := by
  induction p generalizing past with
  | done value => rfl
  | exit reason => rfl
  | call c resume ih =>
    apply and_congr_right
    intro _
    exact forall₂_congr fun answer _ => ih answer

/-- Turning reasons to leave into values keeps to a conduct under which the values are fit to end
with. -/
theorem Keeps.handle {D' : Conduct δ} {f : ε → Except δ α} {p : Program ε α}
    (h : p.Keeps D Q past) (credible : D'.credible = D.credible) (permits : D'.permits = D.permits)
    (settled : ∀ reason past', D.leaves reason past' →
      match f reason with
      | .ok value => Q value past'
      | .error reason' => D'.leaves reason' past') :
    (p.handle f).Keeps D' Q past := by
  induction p generalizing past with
  | done value => exact h
  | exit reason =>
    -- Only here do the two programs differ: the reason becomes a value or another reason.
    have settled := settled reason past h
    unfold Program.handle
    split
    case h_1 value same =>
      rw [same] at settled
      exact settled
    case h_2 reason' same =>
      rw [same] at settled
      exact settled
  | call c resume ih =>
    constructor
    · rw [permits]
      exact h.1
    · intro answer accepted
      rw [credible] at accepted
      exact ih answer (h.2 answer accepted)

/-- A single call is permitted, and each credible answer is fit to go on or to leave with. -/
theorem keeps_ask {D : Conduct Failure} {c : Call} {view : c.Answer → Except Failure α} :
    (ask c view).Keeps D Q past ↔
      D.permits past c ∧ ∀ answer, D.credible past ⟨c, answer⟩ →
        match view answer with
        | .ok value => Q value (⟨c, answer⟩ :: past)
        | .error failure => D.leaves failure (⟨c, answer⟩ :: past) := by
  apply and_congr_right
  intro _
  apply forall₂_congr
  intro answer _
  show (match view answer with
      | .ok value => Program.done value
      | .error failure => Program.exit failure : Program Failure α).Keeps D Q _ ↔ _
  cases view answer with
  | ok value => rfl
  | error failure => rfl

/-- Whether a program has come to its end. -/
def hasEnded : Program ε α → Bool
  | .done _ => true
  | .exit _ => true
  | .call _ _ => false

/-- The result of a program that has come to its end. -/
def result? : Program ε α → Option (Except ε α)
  | .done value => some (.ok value)
  | .exit reason => some (.error reason)
  | .call _ _ => none

/-- By these exchanges, a program comes to what is left of it. -/
inductive Comes (p : Program ε α) : Past → Program ε α → Prop where
  | start : Comes p [] p
  | answered {past : Past} {c : Call} {resume : c.Answer → Program ε α} (answer : c.Answer) :
      Comes p past (.call c resume) → Comes p (⟨c, answer⟩ :: past) (resume answer)

end Program

/-- What holds of each exchange, given those before it. -/
def Along (holds : Past → Call.Exchange → Prop) : Past → Prop
  | [] => True
  | e :: past => Along holds past ∧ holds past e

theorem Along.imp {first second : Past → Call.Exchange → Prop} {past : Past}
    (along : Along first past) (implies : ∀ early e, first early e → second early e) :
    Along second past := by
  induction past with
  | nil => trivial
  | cons e past ih => exact ⟨ih along.1, implies past e along.2⟩

theorem Along.and {first second : Past → Call.Exchange → Prop} {past : Past}
    (along : Along first past) (along' : Along second past) :
    Along (fun early e => first early e ∧ second early e) past := by
  induction past with
  | nil => trivial
  | cons e past ih => exact ⟨ih along.1 along'.1, along.2, along'.2⟩

theorem Along.of_forall {holds : Past → Call.Exchange → Prop} (always : ∀ early e, holds early e)
    (past : Past) : Along holds past := by
  induction past with
  | nil => trivial
  | cons e past ih => exact ⟨ih, always past e⟩

/-- What holds along a past holds of each of its exchanges, given some part of the past. -/
theorem Along.exists_early {holds : Past → Call.Exchange → Prop} {past : Past}
    {e : Call.Exchange} (along : Along holds past) (member : e ∈ past) :
    ∃ early, e :: early <:+ past ∧ holds early e := by
  induction past with
  | nil => cases member
  | cons last past ih =>
    rcases List.mem_cons.1 member with rfl | member
    · exact ⟨past, List.suffix_rfl, along.2⟩
    · obtain ⟨early, suffix, holds'⟩ := ih along.1 member
      exact ⟨early, suffix.trans (List.suffix_cons last past), holds'⟩

namespace Program

variable {ε α : Type} {D : Conduct ε} {Q : α → Past → Prop} {p rest : Program ε α} {past : Past}

/-- A program that keeps to a conduct has done so on its way, and goes on to do so. That an answer
is credible may be shown from the calls that were permitted. -/
theorem Keeps.comes (keeps : p.Keeps D Q []) (comes : p.Comes past rest)
    (credible : Along (fun early e => D.permits early e.call → D.credible early e) past) :
    rest.Keeps D Q past ∧ Along (fun early e => D.permits early e.call) past := by
  induction comes with
  | start => exact ⟨keeps, trivial⟩
  | answered answer _ ih =>
    obtain ⟨keeps', permitted⟩ := ih credible.1
    exact ⟨keeps'.2 answer (credible.2 keeps'.1), permitted, keeps'.1⟩

/-- How a program that keeps to a conduct ends. -/
theorem Keeps.result {result : Except ε α} (keeps : rest.Keeps D Q past)
    (ended : rest.result? = some result) :
    match result with
    | .ok value => Q value past
    | .error reason => D.leaves reason past := by
  cases rest with
  | done value =>
    cases ended
    exact keeps
  | exit reason =>
    cases ended
    exact keeps
  | call c resume => cases ended

end Program

end JenkinsOperator
