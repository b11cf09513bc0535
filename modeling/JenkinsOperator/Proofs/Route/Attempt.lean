import JenkinsOperator.Proofs.Cluster.Schedule
import JenkinsOperator.Proofs.Route.Visit

/-!
# Visits that can be computed

`Surroundings.attempt` runs a pass over the store in memory, with a plan of which calls go wrong.
Every such run is a visit (`visit_attempt`), and one in which nothing goes wrong if the plan is
empty (`visit_serve`). So there is such a visit from every object, whatever the surroundings answer.
-/

namespace JenkinsOperator

/-! ## The store in memory -/

theorem tends_withSpec (j : Jenkins) (spec : JenkinsSpec) :
    Tends nextGeneration j (j.withSpec spec) := by
  refine ⟨rfl, ?_⟩
  show (if j.spec = spec then j.metadata.generation else j.metadata.generation.map nextGeneration) =
    if spec = j.spec then _ else _
  by_cases same : j.spec = spec
  · rw [if_pos same, if_pos same.symm]
  · rw [if_neg same, if_neg (Ne.symm same)]

theorem tends_withStatus (j : Jenkins) (status : Option JenkinsStatus) :
    Tends nextGeneration j (j.withStatus status) :=
  ⟨rfl, (if_pos rfl).symm⟩

/-- The answer of the store in memory, of the surroundings and of a clock. -/
def Surroundings.serve (env : Surroundings) (now : Time) (object : Jenkins) :
    (c : Call) → c.Answer
  | .fetch _ => .ok (some object)
  | .writeSpec written =>
    if written.metadata.resourceVersion = object.metadata.resourceVersion then
      .ok (.updated (object.withSpec written.spec))
    else .ok .conflict
  | .writeStatus written =>
    if written.metadata.resourceVersion = object.metadata.resourceVersion then
      .ok (.updated (object.withStatus written.status))
    else .ok .conflict
  | .readConfigMap identity => env.configMap identity
  | .readSecret identity => env.secret identity
  | .acceptsSpec object => env.acceptsSpec object.spec
  | .provision object => env.provision object.spec
  | .ensureSeedJobs handle object => env.ensureSeedJobs handle object.spec
  | .configureScripts handle => env.configureScripts handle
  | .runScripts handle scripts object => env.runScripts handle scripts object.spec
  | .publish _ _ => ()
  | .clock => now

/-- The object that is stored after an answer. -/
def Call.after (c : Call) (answer : c.Answer) (object : Jenkins) : Jenkins :=
  (c.stored? answer).getD object

theorem serves_serve (env : Surroundings) (now : Time) (object : Jenkins) (c : Call) :
    Serves (Tends nextGeneration) env object ⟨c, env.serve now object c⟩
      (c.after (env.serve now object c) object) := by
  cases c with
  | fetch identity => exact .read identity
  | writeSpec written =>
    unfold Surroundings.serve
    dsimp only
    split
    case isTrue version =>
      exact .landed _ _ rfl (.spec written version rfl rfl (tends_withSpec object written.spec))
    case isFalse version => exact .stale _ written rfl rfl version
  | writeStatus written =>
    unfold Surroundings.serve
    dsimp only
    split
    case isTrue version =>
      exact .landed _ _ rfl
        (.status written version rfl rfl (tends_withStatus object written.status))
    case isFalse version => exact .stale _ written rfl rfl version
  | readConfigMap identity => exact .given _ rfl rfl
  | readSecret identity => exact .given _ rfl rfl
  | acceptsSpec object => exact .given _ rfl rfl
  | provision object => exact .given _ rfl rfl
  | ensureSeedJobs handle object => exact .given _ rfl rfl
  | configureScripts handle => exact .given _ rfl rfl
  | runScripts handle scripts object => exact .given _ rfl rfl
  | publish object n => exact .given _ rfl trivial
  | clock => exact .given _ rfl trivial

/-- Collaborators that behave in some way, whatever they are asked about. -/
def Behaviour.surroundings (b : Behaviour) : Surroundings where
  secret := fun identity => b.secrets.map fun all => all.find? identity.name
  configMap := fun _ => b.configMap
  acceptsSpec := fun _ => b.acceptsSpec
  provision := fun _ => b.provision
  ensureSeedJobs := fun _ _ => b.seedJobs
  configureScripts := fun _ => b.configureScripts
  runScripts := fun _ _ _ => b.runScripts

/-! ## Mishaps -/

/-- What can go wrong with a call. -/
inductive Mishap where
  /-- It fails. -/
  | fails (failure : Failure)
  /-- It is refused as lost. -/
  | loses

/-- The answer to a call with which something goes wrong, if it can. -/
def Mishap.answer? : Mishap → (c : Call) → Option c.Answer
  | .fails failure, .fetch _ => some (.error failure)
  | .fails failure, .writeSpec _ => some (.error failure)
  | .fails failure, .writeStatus _ => some (.error failure)
  | .fails failure, .readConfigMap _ => some (.error failure)
  | .fails failure, .readSecret _ => some (.error failure)
  | .fails failure, .acceptsSpec _ => some (.error failure)
  | .fails failure, .provision _ => some (.error failure)
  | .fails failure, .ensureSeedJobs _ _ => some (.error failure)
  | .fails failure, .configureScripts _ => some (.error failure)
  | .fails failure, .runScripts _ _ _ => some (.error failure)
  | .loses, .writeSpec _ => some (.ok .conflict)
  | .loses, .writeStatus _ => some (.ok .conflict)
  | _, _ => none

theorem Mishap.interrupts {server : Jenkins → Jenkins → Prop} {env : Surroundings}
    {object : Jenkins} {m : Mishap} {c : Call} {answer : c.Answer} (h : m.answer? c = some answer) :
    Interrupts server env object ⟨c, answer⟩ (c.after answer object) := by
  cases m with
  | fails failure =>
    cases c with
    | publish object n => cases h
    | clock => cases h
    | _ =>
      cases h
      exact .failed failure rfl
  | loses =>
    cases c with
    | writeSpec written =>
      cases h
      exact .lost rfl
    | writeStatus written =>
      cases h
      exact .lost rfl
    | _ => cases h

/-- The answer to a call of a pass, by the number of the calls before it. -/
def Surroundings.reply (env : Surroundings) (now : Time) (trouble : Nat → Option Mishap)
    (s : Past × Jenkins) (c : Call) : c.Answer :=
  ((trouble s.1.length).bind fun m => m.answer? c).getD (env.serve now s.2 c)

theorem interrupts_reply (env : Surroundings) (now : Time) (trouble : Nat → Option Mishap)
    (s : Past × Jenkins) (c : Call) :
    Interrupts (Tends nextGeneration) env s.2 ⟨c, env.reply now trouble s c⟩
      (c.after (env.reply now trouble s c) s.2) := by
  unfold Surroundings.reply
  cases planned : (trouble s.1.length).bind fun m => m.answer? c with
  | none => exact .served _ (serves_serve env now s.2 c)
  | some answer =>
    obtain ⟨m, -, fault⟩ := Option.bind_eq_some_iff.1 planned
    exact Mishap.interrupts fault

/-! ## Runs -/

/-- A pass from an object: its result, its exchanges and the object that is stored at its end. -/
def Surroundings.attempt (env : Surroundings) (now : Time) (trouble : Nat → Option Mishap)
    (identity : Identity) (start : Jenkins) : Except Failure Outcome × Past × Jenkins :=
  (reconcilePass identity).run
    (fun c s =>
      let answer := env.reply now trouble s c
      (answer, ⟨c, answer⟩ :: s.1, c.after answer s.2))
    ([], start)

/-- Running what is left of a program adds what it exchanges until its end. -/
theorem Program.comes_run {answers : Jenkins → Call.Exchange → Jenkins → Prop}
    {reply : Past × Jenkins → (c : Call) → c.Answer}
    (answered : ∀ s c, answers s.2 ⟨c, reply s c⟩ (c.after (reply s c) s.2))
    {p q : Program Failure Outcome} {past : Past} {start object : Jenkins}
    (comes : p.Comes past q) (leads : Leads answers start past object) :
    let final := q.run (fun c s => (reply s c, ⟨c, reply s c⟩ :: s.1, c.after (reply s c) s.2))
      (past, object)
    (∃ rest, p.Comes final.2.1 rest ∧ rest.result? = some final.1) ∧
      Leads answers start final.2.1 final.2.2 := by
  -- The state of the run is what the program has exchanged, with the object that is stored by now.
  induction q generalizing past object with
  | done value => exact ⟨⟨_, comes, rfl⟩, leads⟩
  | exit reason => exact ⟨⟨_, comes, rfl⟩, leads⟩
  | call c resume ih => exact ih _ (comes.answered _) (leads.cons (answered (past, object) c))

/-- An attempt is a visit. -/
theorem visit_attempt (env : Surroundings) (now : Time) (trouble : Nat → Option Mishap)
    (identity : Identity) (start : Jenkins) :
    let ran := env.attempt now trouble identity start
    Visit (Interrupts (Tends nextGeneration) env) identity start ran.2.1 ran.1 ran.2.2 := by
  have leads : Leads (Interrupts (Tends nextGeneration) env) start [] start := .nil
  obtain ⟨comes, leads⟩ := Program.comes_run (interrupts_reply env now trouble)
    (Program.Comes.start (p := reconcilePass identity)) leads
  exact ⟨comes, leads⟩

/-- An attempt in which nothing goes wrong is a visit of that kind. -/
theorem visit_serve (env : Surroundings) (now : Time) (identity : Identity) (start : Jenkins) :
    let ran := env.attempt now (fun _ => none) identity start
    Visit (Serves (Tends nextGeneration) env) identity start ran.2.1 ran.1 ran.2.2 := by
  have leads : Leads (Serves (Tends nextGeneration) env) start [] start := .nil
  obtain ⟨comes, leads⟩ := Program.comes_run (fun s c => serves_serve env now s.2 c)
    (Program.Comes.start (p := reconcilePass identity)) leads
  exact ⟨comes, leads⟩

/-! ## An object and surroundings to try things with -/

/-- An object whose seed job names a deploy key that is nowhere. -/
def Jenkins.keyed : Jenkins :=
  let job : SeedJob := ⟨"deploy", none, none, none, "git@example.com:jobs.git",
    some ⟨"deploy-key", "privateKey"⟩⟩
  { Jenkins.created with spec := { JenkinsSpec.plain with seedJobs := [job] } }

/-- Something goes wrong with the call of a number, and with no other. -/
def Mishap.atCall (m : Mishap) (number : Nat) : Nat → Option Mishap := fun n =>
  if n = number then some m else none

/-- All goes well, except for the seed jobs, which fail for good. -/
def Surroundings.hopeless : Surroundings :=
  { Behaviour.standard with seedJobs := .ok (.unrecoverable "no such repository") }.surroundings

end JenkinsOperator
