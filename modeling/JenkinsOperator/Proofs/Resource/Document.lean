import JenkinsOperator.Proofs.Resource.Metadata
import JenkinsOperator.Resource.Document

/-!
# Objects read back

A type of the specification is read back as it was written, whatever it holds: what is left out when
it is written counts as unset when it is read, and what is always written is never asked for twice. A
status is read back if its generation fits in a word, at any moment of the calendar.

Only the metadata of an object loses something, the fractions of its times, and it loses them at the
first write. `Jenkins.lossless` is the law for whole objects: one with plain metadata survives a write
and a read, and an object that was read from any document is written as one document from then on.
-/

namespace JenkinsOperator

open Json (memberOf memberOf_append memberOf_singleton memberOf_optionalMember names_optionalMember
  fields?_of_sublist nullable_of_read)

namespace ResourceQuantity

theorem ofJson?_toJson (q : ResourceQuantity) : ofJson? q.toJson = some q := by
  obtain ⟨members, written⟩ : ∃ members, .object members = q.toJson := ⟨_, rfl⟩
  have same := Json.object.inj written
  have member (key : String) := congrArg (memberOf key) same
  simp only [memberOf_append, memberOf_optionalMember] at member
  have names : (members.map Prod.fst).Sublist ["cpu", "memory"] := by
    rw [same, List.map_append]
    exact (names_optionalMember _ _ _).append (names_optionalMember _ _ _)
  have cpu : Fields.optional (fun name => memberOf name members) "cpu" Json.string? = some q.cpu :=
    Fields.optional_string (by simp [member])
  have memory : Fields.optional (fun name => memberOf name members) "memory" Json.string?
      = some q.memory :=
    Fields.optional_string (by simp [member])
  rw [ofJson?, ← written, fields?_of_sublist names (by decide)]
  simp only [Option.bind_eq_bind, Option.bind_some, cpu, memory]
  rfl

end ResourceQuantity

namespace ResourceRequirements

theorem ofJson?_toJson (r : ResourceRequirements) : ofJson? r.toJson = some r := by
  obtain ⟨members, written⟩ : ∃ members, .object members = r.toJson := ⟨_, rfl⟩
  have same := Json.object.inj written
  have member (key : String) := congrArg (memberOf key) same
  simp only [memberOf_append, memberOf_optionalMember] at member
  have names : (members.map Prod.fst).Sublist ["requests", "limits"] := by
    rw [same, List.map_append]
    exact (names_optionalMember _ _ _).append (names_optionalMember _ _ _)
  have requests : Fields.optional (fun name => memberOf name members) "requests"
      ResourceQuantity.ofJson? = some r.requests :=
    Fields.optional_of_eq ResourceQuantity.toJson (by simp [member]) fun q _ =>
      nullable_of_read Json.noConfusion q.ofJson?_toJson
  have limits : Fields.optional (fun name => memberOf name members) "limits"
      ResourceQuantity.ofJson? = some r.limits :=
    Fields.optional_of_eq ResourceQuantity.toJson (by simp [member]) fun q _ =>
      nullable_of_read Json.noConfusion q.ofJson?_toJson
  rw [ofJson?, ← written, fields?_of_sublist names (by decide)]
  simp only [Option.bind_eq_bind, Option.bind_some, requests, limits]
  rfl

end ResourceRequirements

theorem Declarations.ofJson?_toJson (d : Declarations) :
    Declarations.ofJson? (Declarations.toJson d) = some d :=
  Json.map?_ofMap fun _ => Json.list?_ofList_same fun _ _ => rfl

namespace MasterSpec

theorem ofJson?_toJson (m : MasterSpec) : ofJson? m.toJson = some m := by
  obtain ⟨members, written⟩ : ∃ members, .object members = m.toJson := ⟨_, rfl⟩
  have same := Json.object.inj written
  have names : (members.map Prod.fst).Sublist ["image", "operatorPlugins", "plugins", "resources"] := by
    rw [same]
    exact List.Sublist.refl _
  have image : Fields.defaulted (fun name => memberOf name members) "image" "" Json.string?
      = some m.image :=
    Fields.defaulted_string (by simp [same, memberOf])
  have operatorPlugins : Fields.defaulted (fun name => memberOf name members) "operatorPlugins"
      .empty Declarations.ofJson? = some m.operatorPlugins :=
    Fields.defaulted_of_eq (by simp [same, memberOf]) (Declarations.ofJson?_toJson _)
  have plugins : Fields.defaulted (fun name => memberOf name members) "plugins"
      .empty Declarations.ofJson? = some m.plugins :=
    Fields.defaulted_of_eq (by simp [same, memberOf]) (Declarations.ofJson?_toJson _)
  have resources : Fields.defaulted (fun name => memberOf name members) "resources"
      .unset ResourceRequirements.ofJson? = some m.resources :=
    Fields.defaulted_of_eq (by simp [same, memberOf]) m.resources.ofJson?_toJson
  rw [ofJson?, ← written, fields?_of_sublist names (by decide)]
  simp only [Option.bind_eq_bind, Option.bind_some, image, operatorPlugins, plugins, resources]
  rfl

end MasterSpec

namespace SecretKeySelector

theorem sourceOfJson?_sourceToJson (s : Option SecretKeySelector) :
    sourceOfJson? (sourceToJson s) = some s := by
  cases s with
  | none => rfl
  | some s => rfl

end SecretKeySelector

namespace SeedJob

theorem ofJson?_toJson (job : SeedJob) : ofJson? job.toJson = some job := by
  obtain ⟨members, written⟩ : ∃ members, .object members = job.toJson := ⟨_, rfl⟩
  have same := Json.object.inj written
  have member (key : String) := congrArg (memberOf key) same
  simp only [memberOf_append, memberOf_optionalMember, memberOf] at member
  have names : (members.map Prod.fst).Sublist
      ["id", "targets", "description", "repositoryBranch", "repositoryUrl", "privateKey"] := by
    rw [same]
    simp only [List.map_append]
    exact ((((List.Sublist.refl ["id"]).append (names_optionalMember _ _ _)).append
      (names_optionalMember _ _ _)).append (names_optionalMember _ _ _)).append (List.Sublist.refl _)
  have id : Fields.defaulted (fun name => memberOf name members) "id" "" Json.string?
      = some job.id :=
    Fields.defaulted_string (by simp [member])
  have targets : Fields.optional (fun name => memberOf name members) "targets" Json.string?
      = some job.targets :=
    Fields.optional_string (by simp [member])
  have description : Fields.optional (fun name => memberOf name members) "description" Json.string?
      = some job.description :=
    Fields.optional_string (by simp [member])
  have repositoryBranch : Fields.optional (fun name => memberOf name members) "repositoryBranch"
      Json.string? = some job.repositoryBranch :=
    Fields.optional_string (by simp [member])
  have repositoryUrl : Fields.defaulted (fun name => memberOf name members) "repositoryUrl" ""
      Json.string? = some job.repositoryUrl :=
    Fields.defaulted_string (by simp [member])
  have privateKey : Fields.defaulted (fun name => memberOf name members) "privateKey" none
      SecretKeySelector.sourceOfJson? = some job.privateKey :=
    Fields.defaulted_of_eq (by simp [member])
      (SecretKeySelector.sourceOfJson?_sourceToJson job.privateKey)
  rw [ofJson?, ← written, fields?_of_sublist names (by decide)]
  simp only [Option.bind_eq_bind, Option.bind_some, id, targets, description, repositoryBranch,
    repositoryUrl, privateKey]
  rfl

end SeedJob

namespace JenkinsSpec

theorem ofJson?_toJson (s : JenkinsSpec) : ofJson? s.toJson = some s := by
  obtain ⟨members, written⟩ : ∃ members, .object members = s.toJson := ⟨_, rfl⟩
  have same := Json.object.inj written
  have names : (members.map Prod.fst).Sublist ["master", "seedJobs"] := by
    rw [same]
    split
    · exact (List.Sublist.refl ["master"]).append (List.nil_sublist _)
    · exact List.Sublist.refl _
  have master : Fields.defaulted (fun name => memberOf name members) "master" .unset
      MasterSpec.ofJson? = some s.master := by
    refine Fields.defaulted_of_eq ?_ s.master.ofJson?_toJson
    rw [same]
    split <;> rfl
  have seedJobs : Fields.defaulted (fun name => memberOf name members) "seedJobs" []
      (Json.list? SeedJob.ofJson?) = some s.seedJobs := by
    by_cases none : s.seedJobs.isEmpty = true
    · -- No list is written, and none is read as the empty one.
      rw [List.isEmpty_iff.1 none]
      refine Fields.defaulted_of_eq_none ?_
      rw [same, if_pos none]
      rfl
    · refine Fields.defaulted_of_eq ?_ (Json.list?_ofList_same fun job _ => job.ofJson?_toJson)
      rw [same, if_neg none]
      rfl
  rw [ofJson?, ← written, fields?_of_sublist names (by decide)]
  simp only [Option.bind_eq_bind, Option.bind_some, master, seedJobs]
  rfl

end JenkinsSpec

namespace JenkinsStatus

/-- Whether the generation fits in the word that it is written as. -/
def IsRepresentable (s : JenkinsStatus) : Prop :=
  ∀ n ∈ s.haltedGeneration, fitsSignedWord n = true

theorem names_toJson {s : JenkinsStatus} {members : Members} (written : .object members = s.toJson) :
    (members.map Prod.fst).Sublist ["provisionStartTime", "baseConfigurationCompletedTime",
      "userConfigurationCompletedTime", "seedJobsHaltedGeneration"] := by
  rw [Json.object.inj written]
  simp only [List.map_append]
  exact (((names_optionalMember _ _ _).append (names_optionalMember _ _ _)).append
    (names_optionalMember _ _ _)).append (names_optionalMember _ _ _)

/-- Whether a status is what the fields of a document denote. -/
structure IsReadFrom (s : JenkinsStatus) (fields : Fields) : Prop where
  provisionStart : fields.optional "provisionStartTime" Time.ofJson? = some s.provisionStart
  baseCompleted : fields.optional "baseConfigurationCompletedTime" Time.ofJson?
    = some s.baseCompleted
  userCompleted : fields.optional "userConfigurationCompletedTime" Time.ofJson?
    = some s.userCompleted
  haltedGeneration : fields.optional "seedJobsHaltedGeneration" Json.int64?
    = some s.haltedGeneration

theorem ofJson?_eq_some_iff {json : Json} {s : JenkinsStatus} :
    ofJson? json = some s
      ↔ ∃ fields, json.fields? ["provisionStartTime", "baseConfigurationCompletedTime",
          "userConfigurationCompletedTime", "seedJobsHaltedGeneration"] = some fields
        ∧ s.IsReadFrom fields := by
  unfold ofJson?
  simp only [Option.bind_eq_bind, Option.bind_eq_some_iff]
  constructor
  · rintro ⟨fields, once, _, start, _, base, _, user, _, halted, same⟩
    cases same
    exact ⟨fields, once, start, base, user, halted⟩
  · rintro ⟨fields, once, start, base, user, halted⟩
    exact ⟨fields, once, _, start, _, base, _, user, _, halted, rfl⟩

theorem ofJson?_toJson {s : JenkinsStatus} (h : s.IsRepresentable) : ofJson? s.toJson = some s := by
  obtain ⟨members, written⟩ : ∃ members, .object members = s.toJson := ⟨_, rfl⟩
  have member (key : String) := congrArg (memberOf key) (Json.object.inj written)
  simp only [memberOf_append, memberOf_optionalMember] at member
  have time (t : Time) : t.toJson.nullable Time.ofJson? = some (some t) :=
    nullable_of_read Json.noConfusion t.ofJson?_toJson
  rw [← written]
  refine ofJson?_eq_some_iff.2
    ⟨_, fields?_of_sublist (names_toJson written) (by decide) _, ?_, ?_, ?_, ?_⟩
  · exact Fields.optional_of_eq Time.toJson (by simp [member]) fun t _ => time t
  · exact Fields.optional_of_eq Time.toJson (by simp [member]) fun t _ => time t
  · exact Fields.optional_of_eq Time.toJson (by simp [member]) fun t _ => time t
  · exact Fields.optional_of_eq Json.int (by simp [member]) fun n set =>
      nullable_of_read Json.noConfusion (Json.fitting?_int (h n set))

/-- A status that was read is representable. -/
theorem isRepresentable_of_ofJson? {json : Json} {s : JenkinsStatus} (h : ofJson? json = some s) :
    s.IsRepresentable := by
  obtain ⟨fields, -, reads⟩ := ofJson?_eq_some_iff.1 h
  intro n set
  obtain ⟨source, -, read⟩ := Fields.exists_of_optional (set ▸ reads.haltedGeneration)
  exact Json.fits_of_fitting? read

end JenkinsStatus

namespace Metadata

/-- Whether the metadata says no more than what the object is called, which state it is in and how it
is labelled. -/
def IsPlain (m : Metadata) : Prop :=
  m = { unset with
    name := m.name
    namespaceName := m.namespaceName
    generateName := m.generateName
    generation := m.generation
    resourceVersion := m.resourceVersion
    uid := m.uid
    labels := m.labels }

instance (m : Metadata) : Decidable m.IsPlain := inferInstanceAs (Decidable (m = _))

/-- Plain metadata has no time that could lose its fraction. -/
theorem IsPlain.times {m : Metadata} (h : m.IsPlain) : m.times = [] := by
  rw [h]
  rfl

theorem IsPlain.isRepresentable {m : Metadata} (h : m.IsPlain)
    (generation : ∀ n ∈ m.generation, fitsSignedWord n = true) : m.IsRepresentable := by
  refine ⟨generation, ?_, ?_⟩
  · rw [h]
    exact fun _ set => nomatch set
  · rw [h]
    exact fun _ set => nomatch set

end Metadata

/-! ## Whole objects -/

namespace Jenkins

/-- The object with the times of its metadata to the second. -/
def toSecond (j : Jenkins) : Jenkins := { j with metadata := j.metadata.toSecond }

/-- Whether all of the object can be written as it is, but for the times of its metadata. -/
structure IsRepresentable (j : Jenkins) : Prop where
  metadata : j.metadata.IsRepresentable
  status : ∀ s ∈ j.status, s.IsRepresentable

/-- An object is written as its metadata is to the second. -/
theorem toJson_toSecond (j : Jenkins) : j.toSecond.toJson = j.toJson := by
  unfold toJson toSecond
  rw [Metadata.toJson_toSecond]

/-- Whether an object is what the fields of a document denote. -/
structure IsReadFrom (j : Jenkins) (fields : Fields) : Prop where
  metadata : fields.required "metadata" Metadata.ofJson? = some j.metadata
  spec : fields.required "spec" JenkinsSpec.ofJson? = some j.spec
  status : fields.optional "status" JenkinsStatus.ofJson? = some j.status

theorem ofJson?_eq_some_iff {json : Json} {j : Jenkins} :
    ofJson? json = some j ↔ ∃ fields, fields? json = some fields ∧ j.IsReadFrom fields := by
  unfold ofJson?
  simp only [Option.bind_eq_bind, Option.bind_eq_some_iff]
  constructor
  · rintro ⟨fields, once, _, metadata, _, spec, _, status, same⟩
    cases same
    exact ⟨fields, once, metadata, spec, status⟩
  · rintro ⟨fields, once, metadata, spec, status⟩
    exact ⟨fields, once, _, metadata, _, spec, _, status, rfl⟩

theorem ofJson?_toJson {j : Jenkins} (h : j.IsRepresentable) : ofJson? j.toJson = some j.toSecond := by
  obtain ⟨members, written⟩ : ∃ members, .object members = j.toJson := ⟨_, rfl⟩
  have same := Json.object.inj written
  have member (key : String) := congrArg (memberOf key) same
  simp only [memberOf_append, memberOf_optionalMember, memberOf] at member
  have names : (members.map Prod.fst).Sublist ["apiVersion", "kind", "metadata", "spec", "status"] := by
    rw [same, List.map_append]
    exact (List.Sublist.refl ["apiVersion", "kind", "metadata", "spec"]).append
      (names_optionalMember _ _ _)
  have once : fields? (.object members) = some fun name => memberOf name members :=
    fields?_of_sublist names (by decide) _
  rw [← written]
  refine ofJson?_eq_some_iff.2 ⟨_, once, ?_, ?_, ?_⟩
  · exact Fields.required_of_eq (by simp [member]) (Metadata.ofJson?_toJson h.metadata)
  · exact Fields.required_of_eq (by simp [member]) j.spec.ofJson?_toJson
  · exact Fields.optional_of_eq JenkinsStatus.toJson (by simp [member, toSecond]) fun s set =>
      nullable_of_read Json.noConfusion (JenkinsStatus.ofJson?_toJson (h.status s set))

/-- An object that was read is representable. -/
theorem isRepresentable_of_ofJson? {json : Json} {j : Jenkins} (h : ofJson? json = some j) :
    j.IsRepresentable := by
  obtain ⟨fields, -, reads⟩ := ofJson?_eq_some_iff.1 h
  refine ⟨?_, ?_⟩
  · obtain ⟨source, -, read⟩ := Fields.exists_of_required reads.metadata
    exact Metadata.isRepresentable_of_ofJson? read
  · intro s set
    obtain ⟨source, -, read⟩ := Fields.exists_of_optional (set ▸ reads.status)
    exact JenkinsStatus.isRepresentable_of_ofJson? read

/-- To the second, an object is the same if and only if no time of its metadata has a fraction of
one. -/
theorem toSecond_eq_self_iff {j : Jenkins} :
    j.toSecond = j ↔ ∀ t ∈ j.metadata.times, t.nano = 0 := by
  rw [← Metadata.toSecond_eq_self_iff]
  constructor
  · exact fun same => congrArg metadata same
  · intro same
    unfold toSecond
    rw [same]

end Jenkins

end JenkinsOperator
