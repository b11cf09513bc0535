import JenkinsOperator.Resource.Defaults

/-!
# Defaulting closes a specification

Once the defaults are filled in, nothing is left open (`JenkinsSpec.isIncomplete_withDefaults`), and
what was given is as it was. A specification that is complete already stays the same, so a change is
reported if and only if there is one: neither is a default left unstored, nor is the same
specification stored again and again (`JenkinsSpec.applyDefaults_exact`).
-/

namespace JenkinsOperator

/-! ## Amounts -/

/-- The four amounts of a master. -/
inductive Amount where
  | requestedCpu
  | requestedMemory
  | limitedCpu
  | limitedMemory

namespace Amount

/-- The amount that is given; it is missing if the requests or limits that would hold it are. -/
def of (r : ResourceRequirements) : Amount → Option String
  | requestedCpu => r.requests.bind ResourceQuantity.cpu
  | requestedMemory => r.requests.bind ResourceQuantity.memory
  | limitedCpu => r.limits.bind ResourceQuantity.cpu
  | limitedMemory => r.limits.bind ResourceQuantity.memory

/-- The amount that stands in for an open one. -/
def default : Amount → String
  | requestedCpu => defaultRequests.cpu
  | requestedMemory => defaultRequests.memory
  | limitedCpu => defaultLimits.cpu
  | limitedMemory => defaultLimits.memory

/-- Filling resources fills each amount with its own default. -/
theorem of_fill (r : ResourceRequirements) (a : Amount) :
    a.of r.fill = fillText a.default (a.of r) := by
  obtain ⟨requests, limits⟩ := r
  cases a with
  | requestedCpu => cases requests <;> rfl
  | requestedMemory => cases requests <;> rfl
  | limitedCpu => cases limits <;> rfl
  | limitedMemory => cases limits <;> rfl

end Amount

theorem isOpen_eq_false_iff {value : Option String} :
    isOpen value = false ↔ ∃ text, value = some text ∧ text ≠ "" := by
  cases value with
  | none => simp [isOpen]
  | some text => simp [isOpen]

/-- Requests or limits that are missing count as such without amounts. -/
theorem ResourceQuantity.isIncomplete_getD_eq_false_iff (q : Option ResourceQuantity) :
    (q.getD .unset).isIncomplete = false ↔
      isOpen (q.bind ResourceQuantity.cpu) = false ∧
        isOpen (q.bind ResourceQuantity.memory) = false := by
  cases q with
  | none => exact Bool.or_eq_false_iff
  | some q => exact Bool.or_eq_false_iff

theorem ResourceRequirements.isIncomplete_eq_false_iff {r : ResourceRequirements} :
    r.isIncomplete = false ↔ ∀ a : Amount, isOpen (a.of r) = false := by
  rw [isIncomplete, Bool.or_eq_false_iff, ResourceQuantity.isIncomplete_getD_eq_false_iff,
    ResourceQuantity.isIncomplete_getD_eq_false_iff]
  constructor
  · rintro ⟨⟨requestedCpu, requestedMemory⟩, limitedCpu, limitedMemory⟩ a
    cases a with
    | requestedCpu => exact requestedCpu
    | requestedMemory => exact requestedMemory
    | limitedCpu => exact limitedCpu
    | limitedMemory => exact limitedMemory
  · intro given
    exact ⟨⟨given .requestedCpu, given .requestedMemory⟩, given .limitedCpu, given .limitedMemory⟩

/-! ## Completeness -/

/-- What is filled in is not open, if its default is not. -/
theorem isOpen_ite {α : Type} (isOpen : α → Bool) {default : α} (given : isOpen default = false)
    (value : α) : isOpen (if isOpen value then default else value) = false := by
  split
  case isTrue => exact given
  case isFalse closed => exact Bool.eq_false_iff.2 closed

theorem Amount.isEmpty_default (a : Amount) : a.default.isEmpty = false := by
  cases a <;> decide

theorem ResourceRequirements.isIncomplete_fill (r : ResourceRequirements) :
    r.fill.isIncomplete = false := by
  refine isIncomplete_eq_false_iff.2 fun a => ?_
  have given : isOpen (some a.default) = false := a.isEmpty_default
  rw [Amount.of_fill]
  exact isOpen_ite isOpen given (a.of r)

/-- A specification with its defaults is complete. -/
theorem JenkinsSpec.isIncomplete_withDefaults (s : JenkinsSpec) :
    s.withDefaults.isIncomplete = false := by
  have image : s.withDefaults.master.image.isEmpty = false :=
    isOpen_ite String.isEmpty (by decide) s.master.image
  have operatorPlugins : s.withDefaults.master.operatorPlugins.isEmpty = false :=
    isOpen_ite OrderedMap.isEmpty (by decide +kernel) s.master.operatorPlugins
  have plugins : s.withDefaults.master.plugins.isEmpty = false :=
    isOpen_ite OrderedMap.isEmpty (by decide +kernel) s.master.plugins
  have resources : s.withDefaults.master.resources.isIncomplete = false :=
    ResourceRequirements.isIncomplete_fill s.master.resources
  rw [isIncomplete, image, operatorPlugins, plugins, resources]
  rfl

/-! ## What a change is -/

namespace JenkinsSpec

/-- Nothing is left open: neither the image nor a group of plugins is empty, and all four amounts
are there and not empty. -/
structure FullyDefaulted (s : JenkinsSpec) : Prop where
  image : s.master.image ≠ ""
  operatorPlugins : s.master.operatorPlugins.entries ≠ []
  plugins : s.master.plugins.entries ≠ []
  amounts : ∀ a : Amount, ∃ text, a.of s.master.resources = some text ∧ text ≠ ""

/-- What is set and not empty is the same in another specification, and so are the seed jobs. -/
structure KeptIn (s t : JenkinsSpec) : Prop where
  image : s.master.image ≠ "" → t.master.image = s.master.image
  operatorPlugins : s.master.operatorPlugins.entries ≠ [] →
    t.master.operatorPlugins = s.master.operatorPlugins
  plugins : s.master.plugins.entries ≠ [] → t.master.plugins = s.master.plugins
  amounts : ∀ (a : Amount) (text : String), a.of s.master.resources = some text → text ≠ "" →
    a.of t.master.resources = some text
  seedJobs : t.seedJobs = s.seedJobs

variable {s : JenkinsSpec}

/-- A specification is complete if and only if nothing in it is left to be filled. -/
theorem isIncomplete_eq_false_iff : s.isIncomplete = false ↔ s.FullyDefaulted := by
  have image : s.master.image.isEmpty = false ↔ s.master.image ≠ "" := by simp
  have group (declarations : Declarations) :
      declarations.isEmpty = false ↔ declarations.entries ≠ [] := List.isEmpty_eq_false_iff
  simp only [isIncomplete, Bool.or_eq_false_iff, image, group,
    ResourceRequirements.isIncomplete_eq_false_iff, isOpen_eq_false_iff]
  constructor
  · rintro ⟨⟨⟨image, operatorPlugins⟩, plugins⟩, amounts⟩
    exact ⟨image, operatorPlugins, plugins, amounts⟩
  · rintro ⟨image, operatorPlugins, plugins, amounts⟩
    exact ⟨⟨⟨image, operatorPlugins⟩, plugins⟩, amounts⟩

/-- There is something to fill in if and only if filling in changes something. -/
theorem isIncomplete_iff : s.isIncomplete = true ↔ s.withDefaults ≠ s := by
  constructor
  · -- The result is complete, so it is not what it came from.
    intro incomplete same
    have complete := s.isIncomplete_withDefaults
    rw [same, incomplete] at complete
    cases complete
  · intro changed
    cases complete : s.isIncomplete with
    | true => rfl
    | false => exact absurd (withDefaults_eq_self complete) changed

/-- Filling in the defaults keeps all that was given. -/
theorem keptIn_withDefaults (s : JenkinsSpec) : s.KeptIn s.withDefaults where
  image given := if_neg (by simpa using given)
  operatorPlugins given := if_neg (by simpa [OrderedMap.isEmpty] using given)
  plugins given := if_neg (by simpa [OrderedMap.isEmpty] using given)
  amounts a text given nonempty := by
    show a.of s.master.resources.fill = some text
    rw [Amount.of_fill, fillText_eq_self (isOpen_eq_false_iff.2 ⟨text, given, nonempty⟩), given]
  seedJobs := rfl

/-- Filling in defaults reports a change if and only if the specification is another one afterwards.
Afterwards nothing is left open, what was set and not empty is as it was, and so are the seed jobs;
filling in again reports nothing and changes nothing. Nothing is reported for the specifications in
which nothing is left open, and for no others. -/
theorem applyDefaults_exact (s : JenkinsSpec) :
    (s.applyDefaults.2 = true ↔ s.applyDefaults.1 ≠ s) ∧
    s.applyDefaults.1.FullyDefaulted ∧
    s.KeptIn s.applyDefaults.1 ∧
    s.applyDefaults.1.applyDefaults = (s.applyDefaults.1, false) ∧
    (s.applyDefaults.2 = false ↔ s.FullyDefaulted) := by
  have complete := s.isIncomplete_withDefaults
  rw [applyDefaults_eq s]
  refine ⟨isIncomplete_iff, isIncomplete_eq_false_iff.1 complete, s.keptIn_withDefaults, ?_,
    isIncomplete_eq_false_iff⟩
  show s.withDefaults.applyDefaults = (s.withDefaults, false)
  rw [applyDefaults_eq, complete, withDefaults_eq_self complete]

/-- A specification with a limit for processors but none for memory, without requests and without
plugins of the user. -/
def draft : JenkinsSpec where
  master := {
    image := "jenkins/jenkins:2.150"
    operatorPlugins := .ofTable [("git:3.9.1", [])]
    plugins := .empty
    resources := ⟨none, some ⟨some "3", some ""⟩⟩ }
  seedJobs := []

/-- The image and the limit that are set stay, and one round is enough. -/
theorem applyDefaults_exact_draft :
    draft.applyDefaults.2 = true ∧ draft.applyDefaults.1 ≠ draft ∧
      draft.applyDefaults.1.master.image = "jenkins/jenkins:2.150" ∧
      Amount.limitedCpu.of draft.applyDefaults.1.master.resources = some "3" ∧
      draft.applyDefaults.1.applyDefaults = (draft.applyDefaults.1, false) := by
  obtain ⟨reported, -, kept, again, -⟩ := applyDefaults_exact draft
  have changed : draft.applyDefaults.2 = true := by decide
  refine ⟨changed, reported.1 changed, kept.image (by decide), ?_, again⟩
  exact kept.amounts .limitedCpu "3" rfl (by decide)

end JenkinsSpec

end JenkinsOperator
