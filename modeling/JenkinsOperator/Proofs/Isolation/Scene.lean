import Mathlib.Data.List.Forall2
import JenkinsOperator.Cluster.Store
import JenkinsOperator.Proofs.Isolation.Twins
import JenkinsOperator.Proofs.Route.Attempt

/-!
# Passes in clusters of many objects

A cluster stores any number of objects, Secrets and ConfigMaps by namespace and name, and a pass
works on one of the objects. What it does depends on little: on that object, on the Secrets that its
seed jobs name, on its own ConfigMap, and on what collaborators say of it. So in clusters that agree
on these, whatever else they hold, passes do the same (`Scene.isolated`), and nothing else in the
cluster is touched.
-/

namespace JenkinsOperator

/-! ## Clusters -/

/-- What a cluster stores, by namespace and name. -/
structure Cluster where
  objects : Identity → Option Jenkins
  /-- The Secrets that there are, or why one cannot be read. -/
  secrets : Identity → Except Failure (Option SecretData)
  /-- The ConfigMaps that there are, or why one cannot be read. -/
  configMaps : Identity → Except Failure (Option Scripts)
  /-- Every object is stored under its own identity. -/
  placed : ∀ identity j, objects identity = some j → j.identity = identity

namespace Cluster

/-- The cluster with an object in place of any of the same identity. -/
def put (w : Cluster) (j : Jenkins) : Cluster where
  objects := fun identity => if identity = j.identity then some j else w.objects identity
  secrets := w.secrets
  configMaps := w.configMaps
  placed := by
    intro identity stored found
    split at found
    case isTrue own =>
      cases found
      exact own.symm
    case isFalse => exact w.placed identity stored found

@[simp] theorem put_objects_self (w : Cluster) (j : Jenkins) :
    (w.put j).objects j.identity = some j := if_pos rfl

/-- Storing an object leaves the objects of all other identities as they were. -/
theorem put_objects_of_ne {w : Cluster} {j : Jenkins} {other : Identity} (h : other ≠ j.identity) :
    (w.put j).objects other = w.objects other := if_neg h

/-- A write of a changed object at the version that the writer holds. -/
def write (w : Cluster) (held : Jenkins) (change : Jenkins → Jenkins) :
    Except Failure WriteOutcome × Cluster :=
  match w.objects held.identity with
  | none => (.error (Store.gone held.identity), w)
  | some stored =>
    if stored.metadata.resourceVersion = held.metadata.resourceVersion then
      (.ok (.updated (change stored)), w.put (change stored))
    else (.ok .conflict, w)

end Cluster

/-- The collaborators of the operator, as functions of what they are asked. -/
structure Collaborators where
  acceptsSpec : Jenkins → Except Failure Bool
  provision : Jenkins → Except Failure Provisioning
  ensureSeedJobs : ServerHandle → Jenkins → Except Failure SeedStatus
  configureScripts : ServerHandle → Except Failure Unit
  runScripts : ServerHandle → Scripts → Jenkins → Except Failure Bool

/-- What a pass meets with. -/
structure Scene where
  cluster : Cluster
  collaborators : Collaborators
  /-- The reading of the clock, by the number of calls before it. -/
  clock : Nat → Time

namespace Scene

/-- The answer to a call after so many others, and the cluster that it leaves behind. -/
def answer (scene : Scene) (number : Nat) (w : Cluster) : (c : Call) → c.Answer × Cluster
  | .fetch identity => (.ok (w.objects identity), w)
  | .writeSpec held => w.write held fun stored => stored.withSpec held.spec
  | .writeStatus held => w.write held fun stored => stored.withStatus held.status
  | .readConfigMap identity => (w.configMaps identity, w)
  | .readSecret identity => (w.secrets identity, w)
  | .acceptsSpec object => (scene.collaborators.acceptsSpec object, w)
  | .provision object => (scene.collaborators.provision object, w)
  | .ensureSeedJobs handle object => (scene.collaborators.ensureSeedJobs handle object, w)
  | .configureScripts handle => (scene.collaborators.configureScripts handle, w)
  | .runScripts handle scripts object => (scene.collaborators.runScripts handle scripts object, w)
  | .publish _ _ => ((), w)
  | .clock => (scene.clock number, w)

/-- The answer to a call after those of a past, with a record of it. -/
def turn (scene : Scene) (c : Call) (s : Past × Cluster) : c.Answer × Past × Cluster :=
  let (answer, w) := scene.answer s.1.length s.2 c
  (answer, ⟨c, answer⟩ :: s.1, w)

/-- A pass for an object that was handed in: its result, its exchanges, the last one first, and the
cluster at its end. -/
def reconcile (scene : Scene) (trigger : Jenkins) : Except Failure Directive × Past × Cluster :=
  (JenkinsOperator.reconcile trigger).run scene.turn ([], scene.cluster)

end Scene

/-- Whether a call is about an identity: it reads the object, the ConfigMap of the identity or one
of some Secrets, or what it hands on is a copy of the object. -/
def Call.Concerns (identity : Identity) (secrets : List Identity) : Call → Prop
  | .fetch target => target = identity
  | .writeSpec object => object.identity = identity
  | .writeStatus object => object.identity = identity
  | .readConfigMap target => target = identity.scripts
  | .readSecret target => target ∈ secrets
  | .acceptsSpec object => object.identity = identity
  | .provision object => object.identity = identity
  | .ensureSeedJobs _ object => object.identity = identity
  | .configureScripts _ => True
  | .runScripts _ _ object => object.identity = identity
  | .publish object _ => object.identity = identity
  | .clock => True

/-- A cluster that differs from another in no more than the object of an identity. -/
structure Cluster.LeavesOthers (identity : Identity) (before after : Cluster) : Prop where
  objects : ∀ other, other ≠ identity → after.objects other = before.objects other
  secrets : after.secrets = before.secrets
  configMaps : after.configMaps = before.configMaps

/-! ## Agreement -/

variable {same : Time → Time → Prop} {scope : Scope} {w w' : Cluster} {j j' : Jenkins}

/-- Collaborators that say the same of objects that are alike. -/
structure Collaborators.Agree (same : Time → Time → Prop) (f g : Collaborators) : Prop where
  acceptsSpec : ∀ j j', j.Alike same j' → f.acceptsSpec j = g.acceptsSpec j'
  provision : ∀ j j', j.Alike same j' → f.provision j = g.provision j'
  ensureSeedJobs : ∀ handle j j', j.Alike same j' →
    f.ensureSeedJobs handle j = g.ensureSeedJobs handle j'
  configureScripts : ∀ handle, f.configureScripts handle = g.configureScripts handle
  runScripts : ∀ handle scripts j j', j.Alike same j' →
    f.runScripts handle scripts j = g.runScripts handle scripts j'

/-- Scenes that agree on all that concerns an identity. -/
structure Scene.AgreesOn (same : Time → Time → Prop) (identity : Identity) (a b : Scene) :
    Prop where
  object : Option.Rel (Jenkins.Alike same) (a.cluster.objects identity) (b.cluster.objects identity)
  secrets : ∀ j, a.cluster.objects identity = some j →
    ∀ secret ∈ secretsOf identity.namespaceName j.spec.seedJobs,
      a.cluster.secrets secret = b.cluster.secrets secret
  scripts : a.cluster.configMaps identity.scripts = b.cluster.configMaps identity.scripts
  collaborators : a.collaborators.Agree same b.collaborators
  clock : ∀ number, same (a.clock number) (b.clock number)

namespace Scope

/-- Clusters that agree on the object of the identity, on the Secrets that it names and on its
ConfigMap. -/
structure TwinClusters (scope : Scope) (w w' : Cluster) : Prop where
  object : Option.Rel scope.TwinObjects (w.objects scope.identity) (w'.objects scope.identity)
  secrets : ∀ secret ∈ scope.secrets, w.secrets secret = w'.secrets secret
  scripts : w.configMaps scope.identity.scripts = w'.configMaps scope.identity.scripts

/-- Calls that agree, with answers that agree. -/
structure TwinExchanges (scope : Scope) (e e' : Call.Exchange) : Prop where
  calls : scope.TwinCalls e.call e'.call
  answers : scope.TwinAnswers e.call e'.call e.answer e'.answer

/-- Twins are the same object if times are compared exactly. -/
theorem TwinObjects.eq (h : scope.TwinObjects j j')
    (exact : ∀ t t', scope.same t t' → t = t') : j = j' := h.toAlike.eq exact

theorem TwinOutcomes.eq {outcome outcome' : WriteOutcome} (h : scope.TwinOutcomes outcome outcome')
    (exact : ∀ t t', scope.same t t' → t = t') : outcome = outcome' := by
  cases h with
  | updated twins => rw [twins.eq exact]
  | conflict => rfl

/-- If only equal times count as the same, exchanges that agree are equal. -/
theorem TwinExchanges.eq {e e' : Call.Exchange} (h : scope.TwinExchanges e e')
    (exact : ∀ t t', scope.same t t' → t = t') : e = e' := by
  obtain ⟨c, answer⟩ := e
  obtain ⟨c', answer'⟩ := e'
  obtain ⟨calls, answers⟩ := h
  cases calls with
  | fetch =>
    have found : answer = answer' :=
      ExceptRel.eq answers fun _ _ found => eq_of_rel (fun _ _ twins => twins.eq exact) found
    rw [found]
  | writeSpec twins =>
    cases twins.eq exact
    have outcome : answer = answer' := ExceptRel.eq answers fun _ _ outcomes => outcomes.eq exact
    rw [outcome]
  | writeStatus twins =>
    cases twins.eq exact
    have outcome : answer = answer' := ExceptRel.eq answers fun _ _ outcomes => outcomes.eq exact
    rw [outcome]
  | readConfigMap => cases answers; rfl
  | readSecret secret named => cases answers; rfl
  | configureScripts handle => cases answers; rfl
  | clock => cases exact _ _ answers; rfl
  | acceptsSpec twins => cases twins.eq exact; cases answers; rfl
  | provision twins => cases twins.eq exact; cases answers; rfl
  | ensureSeedJobs handle twins => cases twins.eq exact; cases answers; rfl
  | runScripts handle scripts twins => cases twins.eq exact; cases answers; rfl
  | publish n twins => cases twins.eq exact; rfl

theorem TwinObjects.placed_right (h : scope.TwinObjects j j') : j'.identity = scope.identity :=
  h.identity.symm.trans h.placed

/-! ## One call -/

theorem TwinObjects.landed_spec {held held' : Jenkins} (h : scope.TwinObjects j j')
    (asked : scope.TwinObjects held held') :
    scope.TwinObjects (j.withSpec held.spec) (j'.withSpec held'.spec) := by
  refine ⟨⟨?_, asked.spec, h.status⟩, h.placed, asked.jobs⟩
  unfold Jenkins.withSpec
  rw [h.metadata, h.spec, asked.spec]
  rfl

/-- Twins that store the statuses of twins stay twins. -/
theorem TwinObjects.landed_status {held held' : Jenkins} (h : scope.TwinObjects j j')
    (asked : scope.TwinObjects held held') :
    scope.TwinObjects (j.withStatus held.status) (j'.withStatus held'.status) := by
  refine ⟨⟨?_, h.spec, asked.status⟩, h.placed, h.jobs⟩
  unfold Jenkins.withStatus Jenkins.bump
  rw [h.metadata]

/-- Two clusters that agree still do so after storing twins. -/
theorem TwinClusters.put (h : scope.TwinClusters w w') (twins : scope.TwinObjects j j') :
    scope.TwinClusters (w.put j) (w'.put j') := by
  refine ⟨?_, h.secrets, h.scripts⟩
  have left := w.put_objects_self j
  have right := w'.put_objects_self j'
  rw [twins.placed] at left
  rw [twins.placed_right] at right
  rw [left, right]
  exact .some twins

/-- A write in both clusters is accepted in both, or in neither. -/
theorem TwinClusters.write {held held' : Jenkins} {change change' : Jenkins → Jenkins}
    (h : scope.TwinClusters w w') (asked : scope.TwinObjects held held')
    (changed : ∀ j j', scope.TwinObjects j j' → scope.TwinObjects (change j) (change' j')) :
    ExceptRel scope.TwinOutcomes (w.write held change).1 (w'.write held' change').1 ∧
      scope.TwinClusters (w.write held change).2 (w'.write held' change').2 := by
  have object := h.object
  unfold Cluster.write
  rw [asked.placed, asked.placed_right]
  revert object
  generalize w.objects scope.identity = stored
  generalize w'.objects scope.identity = stored'
  rintro (twins | _)
  · -- The versions that are compared are those of objects that are alike.
    dsimp only
    rw [← twins.metadata, ← asked.metadata]
    split
    case isTrue => exact ⟨.ok (.updated (changed _ _ twins)), h.put (changed _ _ twins)⟩
    case isFalse => exact ⟨.ok .conflict, h⟩
  · exact ⟨.error _, h⟩

/-- Two clusters that agree answer the same call alike, and agree afterwards, whatever else they
hold. -/
theorem TwinClusters.answer {a b : Scene} {c c' : Call} (h : scope.TwinClusters w w')
    (collaborators : a.collaborators.Agree scope.same b.collaborators)
    (clock : ∀ number, scope.same (a.clock number) (b.clock number))
    (calls : scope.TwinCalls c c') (number : Nat) :
    scope.TwinAnswers c c' (a.answer number w c).1 (b.answer number w' c').1 ∧
      scope.TwinClusters (a.answer number w c).2 (b.answer number w' c').2 := by
  cases calls with
  | fetch => exact ⟨.ok h.object, h⟩
  | writeSpec asked => exact h.write asked fun _ _ twins => twins.landed_spec asked
  | writeStatus asked => exact h.write asked fun _ _ twins => twins.landed_status asked
  | readConfigMap => exact ⟨h.scripts, h⟩
  | readSecret secret named => exact ⟨h.secrets secret named, h⟩
  | acceptsSpec asked => exact ⟨collaborators.acceptsSpec _ _ asked.toAlike, h⟩
  | provision asked => exact ⟨collaborators.provision _ _ asked.toAlike, h⟩
  | ensureSeedJobs handle asked =>
    exact ⟨collaborators.ensureSeedJobs handle _ _ asked.toAlike, h⟩
  | configureScripts handle => exact ⟨collaborators.configureScripts handle, h⟩
  | runScripts handle scripts asked =>
    exact ⟨collaborators.runScripts handle scripts _ _ asked.toAlike, h⟩
  | publish n asked => exact ⟨trivial, h⟩
  | clock => exact ⟨clock number, h⟩

/-- The calls of two passes over one identity are about that identity and its Secrets. -/
theorem TwinCalls.concerns {c c' : Call} (h : scope.TwinCalls c c') :
    c.Concerns scope.identity scope.secrets ∧ c'.Concerns scope.identity scope.secrets := by
  cases h with
  | fetch => exact ⟨rfl, rfl⟩
  | readConfigMap => exact ⟨rfl, rfl⟩
  | readSecret secret named => exact ⟨named, named⟩
  | configureScripts handle => exact ⟨trivial, trivial⟩
  | clock => exact ⟨trivial, trivial⟩
  | writeSpec twins => exact ⟨twins.placed, twins.placed_right⟩
  | writeStatus twins => exact ⟨twins.placed, twins.placed_right⟩
  | acceptsSpec twins => exact ⟨twins.placed, twins.placed_right⟩
  | provision twins => exact ⟨twins.placed, twins.placed_right⟩
  | ensureSeedJobs handle twins => exact ⟨twins.placed, twins.placed_right⟩
  | runScripts handle scripts twins => exact ⟨twins.placed, twins.placed_right⟩
  | publish n twins => exact ⟨twins.placed, twins.placed_right⟩

end Scope

namespace Cluster.LeavesOthers

variable {identity : Identity} {before after later : Cluster}

theorem refl (identity : Identity) (w : Cluster) : w.LeavesOthers identity w :=
  ⟨fun _ _ => rfl, rfl, rfl⟩

theorem trans (h : LeavesOthers identity before after) (h' : LeavesOthers identity after later) :
    LeavesOthers identity before later :=
  ⟨fun other differs => (h'.objects other differs).trans (h.objects other differs),
    h'.secrets.trans h.secrets, h'.configMaps.trans h.configMaps⟩

/-- A write of an object of one identity leaves all others as they were. -/
theorem write {held : Jenkins} {change : Jenkins → Jenkins} (w : Cluster)
    (own : held.identity = identity)
    (kept : ∀ stored : Jenkins, (change stored).identity = stored.identity) :
    w.LeavesOthers identity (w.write held change).2 := by
  unfold Cluster.write
  split
  case h_1 => exact .refl identity w
  case h_2 stored found =>
    split
    case isTrue =>
      -- What was found is stored where it was looked for, at the identity of the copy held.
      refine ⟨fun other differs => put_objects_of_ne ?_, rfl, rfl⟩
      rw [kept, w.placed _ _ found, own]
      exact differs
    case isFalse => exact .refl identity w

/-- A call that is about an identity leaves all other objects alone. -/
theorem answer {c : Call} {secrets : List Identity} (scene : Scene) (number : Nat) (w : Cluster)
    (concerns : c.Concerns identity secrets) :
    w.LeavesOthers identity (scene.answer number w c).2 := by
  cases c with
  | writeSpec held => exact .write w concerns fun _ => rfl
  | writeStatus held => exact .write w concerns fun _ => rfl
  | _ => exact .refl identity w

end Cluster.LeavesOthers

/-! ## Runs -/

/-- Two passes that have done the same so far, and have left alone what is not theirs. -/
structure Scope.TwinRuns (scope : Scope) (a b : Scene) (s s' : Past × Cluster) : Prop where
  pasts : List.Forall₂ scope.TwinExchanges s.1 s'.1
  clusters : scope.TwinClusters s.2 s'.2
  spares : a.cluster.LeavesOthers scope.identity s.2
  spares_right : b.cluster.LeavesOthers scope.identity s'.2

/-- Whatever two passes have done is about the identity. -/
theorem Scope.TwinRuns.concerns {a b : Scene} {s s' : Past × Cluster}
    (runs : scope.TwinRuns a b s s') :
    ∀ e ∈ s.1 ++ s'.1, e.call.Concerns scope.identity scope.secrets := by
  have left := runs.pasts.imp fun e e' twins => And.intro twins.calls.concerns.1 twins
  have right := runs.pasts.flip.imp fun e' e twins => And.intro twins.calls.concerns.2 twins
  intro e member
  rcases List.mem_append.1 member with first | second
  · exact ((List.forall₂_and_left _ _).1 left).1 e first
  · exact ((List.forall₂_and_left _ _).1 right).1 e second

/-- Programs that do the same for as long as they are answered alike, run in scenes that agree. -/
theorem Scope.TwinPrograms.run {ε α : Type} {Q : α → α → Prop} {p p' : Program ε α} {a b : Scene}
    (twins : scope.TwinPrograms Q p p')
    (collaborators : a.collaborators.Agree scope.same b.collaborators)
    (clock : ∀ number, scope.same (a.clock number) (b.clock number))
    {s s' : Past × Cluster} (runs : scope.TwinRuns a b s s') :
    ExceptRel Q (p.run a.turn s).1 (p'.run b.turn s').1 ∧
      scope.TwinRuns a b (p.run a.turn s).2 (p'.run b.turn s').2 := by
  induction twins generalizing s s' with
  | done related => exact ⟨.ok related, runs⟩
  | exit reason => exact ⟨.error reason, runs⟩
  | @call c c' resume resume' calls _ ih =>
    -- As many calls have been made on both sides, so that the clocks are at the same reading.
    have number : s'.1.length = s.1.length := runs.pasts.length_eq.symm
    obtain ⟨answers, clusters⟩ := runs.clusters.answer collaborators clock calls s.1.length
    obtain ⟨concerns, concerns'⟩ := calls.concerns
    have spares := runs.spares.trans (.answer a s.1.length s.2 concerns)
    have spares' := runs.spares_right.trans (.answer b s.1.length s'.2 concerns')
    unfold Program.run Scene.turn
    rw [number]
    exact ih _ _ answers ⟨.cons ⟨calls, answers⟩ runs.pasts, clusters, spares, spares'⟩

/-- What passes for an identity have in common, by the object that a scene has. -/
def Scene.scopeOf (scene : Scene) (same : Time → Time → Prop) (identity : Identity) : Scope where
  same := same
  identity := identity
  jobs := ((scene.cluster.objects identity).map fun j => j.spec.seedJobs).getD []

/-- Scenes that agree on an identity have clusters that agree on what its passes may see. -/
theorem Scene.AgreesOn.clusters {identity : Identity} {a b : Scene}
    (agree : a.AgreesOn same identity b) :
    (a.scopeOf same identity).TwinClusters a.cluster b.cluster := by
  have object := agree.object
  have placed := a.cluster.placed identity
  refine ⟨?_, ?_, agree.scripts⟩
  · show Option.Rel _ (a.cluster.objects identity) (b.cluster.objects identity)
    unfold scopeOf
    revert object placed
    generalize a.cluster.objects identity = stored
    generalize b.cluster.objects identity = stored'
    rintro (alike | _) placed
    · -- The jobs in scope are those of this very object.
      exact .some ⟨alike, placed _ rfl, rfl⟩
    · exact .none
  · intro secret named
    unfold Scope.secrets scopeOf at named
    cases found : a.cluster.objects identity with
    | none =>
      rw [found] at named
      cases named
    | some j =>
      rw [found] at named
      exact agree.secrets j found secret named

/-- Passes for one identity do the same in scenes that agree on what concerns it, whatever was
handed in and whatever else the clusters hold: their results are the same, and so are their
exchanges one by one, times aside. All that they read, write, ask or tell of is about the identity,
and every other object stays as it was. If the times are the same as well, so is all that they
do. -/
theorem Scene.isolated {a b : Scene} (trigger trigger' : Jenkins)
    (namespaces : trigger.metadata.namespaceName = trigger'.metadata.namespaceName)
    (names : trigger.name = trigger'.name) (agree : a.AgreesOn same trigger.identity b) :
    let scope := a.scopeOf same trigger.identity
    let ran := a.reconcile trigger
    let ran' := b.reconcile trigger'
    ran.1 = ran'.1 ∧ List.Forall₂ scope.TwinExchanges ran.2.1 ran'.2.1 ∧
      Option.Rel (Jenkins.Alike same) (ran.2.2.objects trigger.identity)
        (ran'.2.2.objects trigger.identity) ∧
      (∀ e ∈ ran.2.1 ++ ran'.2.1, e.call.Concerns trigger.identity scope.secrets) ∧
      a.cluster.LeavesOthers trigger.identity ran.2.2 ∧
      b.cluster.LeavesOthers trigger.identity ran'.2.2 ∧
      ((∀ t t', same t t' → t = t') → ran.2.1 = ran'.2.1) := by
  intro scope ran ran'
  have opening : scope.TwinRuns a b ([], a.cluster) ([], b.cluster) :=
    ⟨.nil, agree.clusters, .refl _ _, .refl _ _⟩
  have twins : scope.TwinPrograms Eq (JenkinsOperator.reconcile trigger)
      (JenkinsOperator.reconcile trigger') := reconcile_twins namespaces names rfl
  obtain ⟨results, runs⟩ := twins.run agree.collaborators agree.clock opening
  refine ⟨results.eq fun _ _ equal => equal, runs.pasts, ?_, runs.concerns, runs.spares,
    runs.spares_right, ?_⟩
  · exact rel_imp runs.clusters.object fun _ _ twins => twins.toAlike
  · intro exact
    have equal := runs.pasts.imp fun e e' twins => twins.eq exact
    rw [List.forall₂_eq_eq_eq] at equal
    exact equal

/-- Collaborators that behave in some way, whatever they are asked. -/
def Behaviour.collaborators (b : Behaviour) : Collaborators where
  acceptsSpec := fun _ => b.acceptsSpec
  provision := fun _ => b.provision
  ensureSeedJobs := fun _ _ => b.seedJobs
  configureScripts := fun _ => b.configureScripts
  runScripts := fun _ _ _ => b.runScripts

/-- A cluster with nothing in it. -/
def Cluster.empty : Cluster where
  objects := fun _ => none
  secrets := fun _ => .ok none
  configMaps := fun _ => .ok none
  placed := fun _ _ found => nomatch found

/-- An object of the same name in another namespace. -/
def Jenkins.neighbour : Jenkins :=
  { Jenkins.created with
    metadata := { Jenkins.created.metadata with namespaceName := some "prod" } }

/-- An object with a seed job beside another object; and in the namespace of that one there is a
Secret of the name that the seed job looks for. -/
def Cluster.crowded : Cluster :=
  let w := (Cluster.empty.put .keyed).put .neighbour
  { w with secrets := fun i => .ok (if i = ⟨"prod", "deploy-key"⟩ then some .empty else none) }

/-- At noon, an object with a seed job whose deploy key is nowhere, alone in a cluster. -/
def Scene.lonely : Scene :=
  ⟨Cluster.empty.put .keyed, Behaviour.standard.collaborators, fun _ => .noon⟩

/-- The same object, at other times, among others. -/
def Scene.crowded (clock : Nat → Time) : Scene :=
  ⟨Cluster.crowded, Behaviour.standard.collaborators, clock⟩

/-- A clock that has moved on when a pass is at its first completion. -/
def Scene.later (number : Nat) : Time := if number < 5 then .noon else .one

theorem Scene.lonely_agrees {clock : Nat → Time} (times : ∀ number, same .noon (clock number)) :
    Scene.lonely.AgreesOn same Jenkins.keyed.identity (.crowded clock) := by
  have left : Scene.lonely.cluster.objects Jenkins.keyed.identity = some .keyed := rfl
  have right : Cluster.crowded.objects Jenkins.keyed.identity = some .keyed := by
    decide +kernel
  refine ⟨?_, ?_, rfl, ⟨?_, ?_, ?_, ?_, ?_⟩, times⟩
  · show Option.Rel _ _ (Cluster.crowded.objects _)
    rw [left, right]
    exact .some ⟨rfl, rfl, .none⟩
  · intro j found secret named
    cases left.symm.trans found
    rw [List.mem_singleton.1 named]
    show _ = Cluster.crowded.secrets _
    decide +kernel
  all_goals
    intros
    rfl

/-- Both passes complete the base phase, and reject the seed job: at different times, or with all
exchanges the same if the clocks are. -/
theorem Scene.isolated_crowded :
    Scene.lonely.AgreesOn (fun _ _ => True) Jenkins.keyed.identity (.crowded later) ∧
      (Scene.lonely.reconcile .keyed).1 = .ok .awaitChange ∧
      ((Scene.crowded later).reconcile .created).1 = .ok .awaitChange ∧
      (Scene.lonely.reconcile .keyed).2.2.objects Jenkins.keyed.identity ≠
        ((Scene.crowded later).reconcile .created).2.2.objects Jenkins.keyed.identity ∧
      ((Scene.crowded later).reconcile .created).2.2.objects Jenkins.neighbour.identity =
        some .neighbour ∧
      Scene.lonely.AgreesOn Eq Jenkins.keyed.identity (.crowded fun _ => .noon) ∧
      (Scene.lonely.reconcile .keyed).2.1 =
        ((Scene.crowded fun _ => .noon).reconcile .created).2.1 := by
  have agree : Scene.lonely.AgreesOn (fun _ _ => True) Jenkins.keyed.identity (.crowded later) :=
    lonely_agrees fun _ => trivial
  have agreeExactly : Scene.lonely.AgreesOn Eq Jenkins.keyed.identity (.crowded fun _ => .noon) :=
    lonely_agrees fun _ => rfl
  have ended : (Scene.lonely.reconcile .keyed).1 = .ok .awaitChange := by decide +kernel
  have times : (Scene.lonely.reconcile .keyed).2.2.objects Jenkins.keyed.identity ≠
      ((Scene.crowded later).reconcile .created).2.2.objects Jenkins.keyed.identity := by
    decide +kernel
  have apart : Jenkins.neighbour.identity ≠ Jenkins.keyed.identity := by decide
  have stored : Cluster.crowded.objects Jenkins.neighbour.identity = some .neighbour := rfl
  obtain ⟨results, -, -, -, -, spares, -⟩ :=
    Scene.isolated .keyed .created rfl rfl agree
  obtain ⟨-, -, -, -, -, -, exchanges⟩ :=
    Scene.isolated .keyed .created rfl rfl agreeExactly
  exact ⟨agree, ended, results.symm.trans ended, times, (spares.objects _ apart).trans stored,
    agreeExactly, exchanges fun _ _ equal => equal⟩

end JenkinsOperator
