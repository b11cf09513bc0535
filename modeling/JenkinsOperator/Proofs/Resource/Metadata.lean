import JenkinsOperator.Proofs.Json.Fields
import JenkinsOperator.Proofs.Json.Legible
import JenkinsOperator.Proofs.Time.Rfc3339
import JenkinsOperator.Resource.Metadata

/-!
# Metadata read back

Metadata is read back as it was written, but for its times, of which only the second is written
(`Metadata.ofJson?_toJson`). What is written must be representable: numbers within 64 bits, and
managed fields that could be read. All metadata that was read is so
(`Metadata.isRepresentable_of_ofJson?`).
-/

namespace JenkinsOperator

namespace Time

/-- The second that a moment falls in. -/
def toSecond (t : Time) : Time := t.withNano 0 no_nanos

theorem ofJson?_toJson (t : Time) : ofJson? t.toJson = some t := by
  rw [ofJson?, toJson, Json.string?, Option.bind_some]
  exact ofRfc3339?_rfc3339 t

theorem ofJson?_toJsonSeconds (t : Time) : ofJson? t.toJsonSeconds = some t.toSecond := by
  rw [ofJson?, toJsonSeconds, Json.string?, Option.bind_some]
  exact ofRfc3339?_rfc3339Seconds t

theorem toJsonSeconds_toSecond (t : Time) : t.toSecond.toJsonSeconds = t.toJsonSeconds := rfl

/-- A moment is its second if and only if it has no fraction of one. -/
theorem toSecond_eq_self_iff {t : Time} : t.toSecond = t ↔ t.nano = 0 := by
  constructor
  · intro same
    exact (congrArg nano same).symm
  · intro whole
    obtain ⟨date, hour, minute, second, nano, _, _, _, _⟩ := t
    cases whole
    rfl

/-- A moment, if there is one, is its second if and only if it has no fraction of one. -/
theorem map_toSecond_eq_self_iff {t? : Option Time} :
    t?.map toSecond = t? ↔ ∀ t ∈ t?, t.nano = 0 := by
  cases t? with
  | none => exact iff_of_true rfl fun _ set => nomatch set
  | some t =>
    rw [Option.map_some, Option.some_inj, toSecond_eq_self_iff]
    exact ⟨fun whole _ same => Option.some.inj same ▸ whole, fun whole => whole t rfl⟩

end Time

namespace OwnerReference

theorem ofJson?_toJson (o : OwnerReference) : ofJson? o.toJson = some o := by
  obtain ⟨apiVersion, kind, name, uid, controller, blockOwnerDeletion⟩ := o
  cases controller with
  | none =>
    cases blockOwnerDeletion with
    | none => rfl
    | some b => rfl
  | some c =>
    cases blockOwnerDeletion with
    | none => rfl
    | some b => rfl

end OwnerReference

namespace ManagedFields

/-- The managed fields with their time to the second. -/
def toSecond (m : ManagedFields) : ManagedFields := { m with time := m.time.map Time.toSecond }

/-- Whether the fields can be read as what they are. -/
def IsRepresentable (m : ManagedFields) : Prop :=
  ∀ v ∈ m.fields, v ≠ .null ∧ Json.anyAt? 4 v = some v

/-- To the second, the managed fields are the same if and only if none of their times has a fraction
of one. -/
theorem map_toSecond_eq_self_iff {all : List ManagedFields} :
    all.map toSecond = all ↔ ∀ t ∈ all.filterMap time, t.nano = 0 := by
  have first (m : ManagedFields) : m.toSecond = m ↔ ∀ t ∈ m.time, t.nano = 0 := by
    rw [← Time.map_toSecond_eq_self_iff]
    constructor
    · exact fun same => congrArg time same
    · intro same
      unfold toSecond
      rw [same]
  induction all with
  | nil => exact iff_of_true rfl fun _ mem => nomatch mem
  | cons m rest ih =>
    rw [List.map_cons, List.cons.injEq, first]
    refine (and_congr_right' ih).trans ?_
    cases set : m.time with
    | none =>
      rw [List.filterMap_cons_none set]
      exact and_iff_right fun _ none => nomatch none
    | some t =>
      rw [List.filterMap_cons_some set, List.forall_mem_cons]
      refine and_congr_left' ⟨fun whole => whole t rfl, fun whole _ same => ?_⟩
      exact Option.some.inj same ▸ whole

/-- Managed fields are written as they are to the second. -/
theorem toJson_toSecond (m : ManagedFields) : m.toSecond.toJson = m.toJson := by
  unfold toJson toSecond
  simp only [Json.optionalMember_map, Time.toJsonSeconds_toSecond]

theorem ofJson?_toJson {m : ManagedFields} (h : m.IsRepresentable) :
    ofJson? m.toJson = some m.toSecond := by
  obtain ⟨members, written⟩ : ∃ members : Members, .object members = m.toJson := ⟨_, rfl⟩
  have values (key : String) := congrArg (Members.values · key) (Json.object.inj written)
  simp only [Members.values_append, Members.values_optionalMember] at values
  have apiVersion : members.optional "apiVersion" Json.string? = some m.apiVersion :=
    Members.optional_string (by simp [values])
  have fieldsType : members.optional "fieldsType" Json.string? = some m.fieldsType :=
    Members.optional_string (by simp [values])
  have fields : members.optional "fieldsV1" (Json.anyAt? 4) = some m.fields := by
    refine Members.optional_same id (by simp [values]) fun v set => ?_
    exact Json.nullable_of_read (h v set).1 (h v set).2
  have manager : members.optional "manager" Json.string? = some m.manager :=
    Members.optional_string (by simp [values])
  have operation : members.optional "operation" Json.string? = some m.operation :=
    Members.optional_string (by simp [values])
  have subresource : members.optional "subresource" Json.string? = some m.subresource :=
    Members.optional_string (by simp [values])
  have time : members.optional "time" Time.ofJson? = some (m.time.map Time.toSecond) :=
    Members.optional_of_eq Time.toJsonSeconds (by simp [values]) fun t _ =>
      Json.nullable_of_read Json.noConfusion t.ofJson?_toJsonSeconds
  rw [ofJson?, ← written]
  simp only [Json.object?, Option.bind_eq_bind, Option.bind_some, apiVersion, fieldsType, fields,
    manager, operation, subresource, time]
  rfl

/-- Managed fields that were read are representable. -/
theorem isRepresentable_of_ofJson? {json : Json} {m : ManagedFields} (h : ofJson? json = some m) :
    m.IsRepresentable := by
  unfold ofJson? at h
  simp only [Option.bind_eq_bind, Option.bind_eq_some_iff] at h
  obtain ⟨members, -, _, -, _, -, fields, read, _, -, _, -, _, -, _, -, same⟩ := h
  cases same
  intro v set
  cases set
  obtain ⟨source, some, read⟩ := Members.exists_of_optional read
  exact ⟨Json.ne_null_of_anyAt? read some, Json.anyAt?_of_anyAt? read⟩

end ManagedFields

namespace Metadata

/-- The metadata with its times to the second. -/
def toSecond (m : Metadata) : Metadata :=
  { m with
    creationTime := m.creationTime.map Time.toSecond
    deletionTime := m.deletionTime.map Time.toSecond
    managedFields := m.managedFields.map fun all => all.map ManagedFields.toSecond }

/-- The times of metadata: when the object was created, when it is to be deleted, and when its fields
were set. -/
def times (m : Metadata) : List Time :=
  m.creationTime.toList ++ m.deletionTime.toList
    ++ (m.managedFields.getD []).filterMap ManagedFields.time

/-- To the second, metadata is the same if and only if none of its times has a fraction of one. -/
theorem toSecond_eq_self_iff {m : Metadata} : m.toSecond = m ↔ ∀ t ∈ m.times, t.nano = 0 := by
  -- The times are in three fields, and each of these is the same on its own account.
  have fields : m.managedFields.map (fun all => all.map ManagedFields.toSecond) = m.managedFields
      ↔ ∀ t ∈ (m.managedFields.getD []).filterMap ManagedFields.time, t.nano = 0 := by
    cases m.managedFields with
    | none => exact iff_of_true rfl fun _ mem => nomatch mem
    | some all =>
      rw [Option.map_some, Option.some_inj, Option.getD_some]
      exact ManagedFields.map_toSecond_eq_self_iff
  have one (t? : Option Time) : (∀ t ∈ t?.toList, t.nano = 0) ↔ t?.map Time.toSecond = t? := by
    simp only [Option.mem_toList]
    exact Time.map_toSecond_eq_self_iff.symm
  rw [times, List.forall_mem_append, List.forall_mem_append, one, one, ← fields, and_assoc]
  constructor
  · intro same
    exact ⟨congrArg creationTime same, congrArg deletionTime same, congrArg managedFields same⟩
  · rintro ⟨creation, deletion, managed⟩
    unfold toSecond
    rw [creation, deletion, managed]

/-- Whether all of the metadata can be written as it is, but for its times. -/
structure IsRepresentable (m : Metadata) : Prop where
  generation : ∀ n ∈ m.generation, fitsSignedWord n = true
  deletionGrace : ∀ n ∈ m.deletionGrace, fitsSignedWord n = true
  managedFields : ∀ all ∈ m.managedFields, ∀ fields ∈ all, fields.IsRepresentable

/-- Metadata is written as it is to the second. -/
theorem toJson_toSecond (m : Metadata) : m.toSecond.toJson = m.toJson := by
  have managed (all : List ManagedFields) :
      Json.ofList ManagedFields.toJson (all.map ManagedFields.toSecond)
        = Json.ofList ManagedFields.toJson all := by
    rw [Json.ofList, Json.ofList, List.map_map]
    exact congrArg Json.array (List.map_congr_left fun m _ => m.toJson_toSecond)
  unfold toJson toSecond
  simp only [Json.optionalMember_map, Time.toJsonSeconds_toSecond, managed]

/-- Whether metadata is what the members of a document denote, field by field. -/
structure IsReadFrom (m : Metadata) (members : Members) : Prop where
  name : members.optional "name" Json.string? = some m.name
  namespaceName : members.optional "namespace" Json.string? = some m.namespaceName
  generateName : members.optional "generateName" Json.string? = some m.generateName
  generation : members.optional "generation" Json.int64? = some m.generation
  resourceVersion : members.optional "resourceVersion" Json.string? = some m.resourceVersion
  uid : members.optional "uid" Json.string? = some m.uid
  labels : members.optional "labels" (Json.map? Json.string?) = some m.labels
  annotations : members.optional "annotations" (Json.map? Json.string?) = some m.annotations
  creationTime : members.optional "creationTimestamp" Time.ofJson? = some m.creationTime
  deletionTime : members.optional "deletionTimestamp" Time.ofJson? = some m.deletionTime
  deletionGrace : members.optional "deletionGracePeriodSeconds" Json.int64? = some m.deletionGrace
  finalizers : members.optional "finalizers" (Json.list? Json.string?) = some m.finalizers
  managedFields : members.optional "managedFields" (Json.list? ManagedFields.ofJson?)
    = some m.managedFields
  owners : members.optional "ownerReferences" (Json.list? OwnerReference.ofJson?) = some m.owners
  selfLink : members.optional "selfLink" Json.string? = some m.selfLink

theorem ofJson?_eq_some_iff {json : Json} {m : Metadata} :
    ofJson? json = some m ↔ ∃ members, json = .object members ∧ m.IsReadFrom members := by
  unfold ofJson?
  constructor
  · intro h
    -- One field at a time: with all of them at once, the rest of the record is gone through anew at each.
    obtain ⟨members, object, h⟩ := Option.bind_eq_some_iff.1 h
    obtain ⟨_, name, h⟩ := Option.bind_eq_some_iff.1 h
    obtain ⟨_, namespaceName, h⟩ := Option.bind_eq_some_iff.1 h
    obtain ⟨_, generateName, h⟩ := Option.bind_eq_some_iff.1 h
    obtain ⟨_, generation, h⟩ := Option.bind_eq_some_iff.1 h
    obtain ⟨_, resourceVersion, h⟩ := Option.bind_eq_some_iff.1 h
    obtain ⟨_, uid, h⟩ := Option.bind_eq_some_iff.1 h
    obtain ⟨_, labels, h⟩ := Option.bind_eq_some_iff.1 h
    obtain ⟨_, annotations, h⟩ := Option.bind_eq_some_iff.1 h
    obtain ⟨_, creationTime, h⟩ := Option.bind_eq_some_iff.1 h
    obtain ⟨_, deletionTime, h⟩ := Option.bind_eq_some_iff.1 h
    obtain ⟨_, deletionGrace, h⟩ := Option.bind_eq_some_iff.1 h
    obtain ⟨_, finalizers, h⟩ := Option.bind_eq_some_iff.1 h
    obtain ⟨_, managedFields, h⟩ := Option.bind_eq_some_iff.1 h
    obtain ⟨_, owners, h⟩ := Option.bind_eq_some_iff.1 h
    obtain ⟨_, selfLink, h⟩ := Option.bind_eq_some_iff.1 h
    cases h
    cases json with
    | object members =>
      cases object
      exact ⟨members, rfl, name, namespaceName, generateName, generation, resourceVersion, uid, labels,
        annotations, creationTime, deletionTime, deletionGrace, finalizers, managedFields, owners,
        selfLink⟩
    | _ => cases object
  · rintro ⟨members, rfl, h⟩
    dsimp only [Json.object?, Option.bind_eq_bind, Option.bind_some]
    rw [h.name, h.namespaceName, h.generateName, h.generation, h.resourceVersion, h.uid, h.labels,
      h.annotations, h.creationTime, h.deletionTime, h.deletionGrace, h.finalizers, h.managedFields,
      h.owners, h.selfLink]
    rfl

/-- Metadata is read back to the second. -/
theorem ofJson?_toJson {m : Metadata} (h : m.IsRepresentable) :
    ofJson? m.toJson = some m.toSecond := by
  obtain ⟨members, written⟩ : ∃ members : Members, .object members = m.toJson := ⟨_, rfl⟩
  have values (key : String) := congrArg (Members.values · key) (Json.object.inj written)
  simp only [Members.values_append, Members.values_optionalMember] at values
  rw [← written]
  refine ofJson?_eq_some_iff.2 ⟨members, rfl, ?_⟩
  constructor
  case name => exact Members.optional_string (by simp [values, toSecond])
  case namespaceName => exact Members.optional_string (by simp [values, toSecond])
  case generateName => exact Members.optional_string (by simp [values, toSecond])
  case generation => exact Members.optional_int64 (by simp [values, toSecond]) h.generation
  case resourceVersion => exact Members.optional_string (by simp [values, toSecond])
  case uid => exact Members.optional_string (by simp [values, toSecond])
  case labels =>
    exact Members.optional_same (Json.ofMap .string) (by simp [values, toSecond]) fun _ _ =>
      Json.nullable_of_read Json.noConfusion (Json.map?_ofMap fun _ => rfl)
  case annotations =>
    exact Members.optional_same (Json.ofMap .string) (by simp [values, toSecond]) fun _ _ =>
      Json.nullable_of_read Json.noConfusion (Json.map?_ofMap fun _ => rfl)
  case creationTime =>
    exact Members.optional_of_eq Time.toJsonSeconds (by simp [values]) fun t _ =>
      Json.nullable_of_read Json.noConfusion t.ofJson?_toJsonSeconds
  case deletionTime =>
    exact Members.optional_of_eq Time.toJsonSeconds (by simp [values]) fun t _ =>
      Json.nullable_of_read Json.noConfusion t.ofJson?_toJsonSeconds
  case deletionGrace => exact Members.optional_int64 (by simp [values, toSecond]) h.deletionGrace
  case finalizers =>
    exact Members.optional_same (Json.ofList .string) (by simp [values, toSecond]) fun _ _ =>
      Json.nullable_of_read Json.noConfusion (Json.list?_ofList_same fun _ _ => rfl)
  case managedFields =>
    refine Members.optional_of_eq (Json.ofList ManagedFields.toJson) (by simp [values]) ?_
    intro all set
    refine Json.nullable_of_read Json.noConfusion (Json.list?_ofList fun fields member => ?_)
    exact ManagedFields.ofJson?_toJson (h.managedFields all set fields member)
  case owners =>
    exact Members.optional_same (Json.ofList OwnerReference.toJson) (by simp [values, toSecond]) fun _ _ =>
      Json.nullable_of_read Json.noConfusion (Json.list?_ofList_same fun o _ => o.ofJson?_toJson)
  case selfLink => exact Members.optional_string (by simp [values, toSecond])

/-- Metadata that was read is representable. -/
theorem isRepresentable_of_ofJson? {json : Json} {m : Metadata} (h : ofJson? json = some m) :
    m.IsRepresentable := by
  obtain ⟨members, rfl, reads⟩ := ofJson?_eq_some_iff.1 h
  refine ⟨?_, ?_, ?_⟩
  · intro n set
    obtain ⟨source, -, read⟩ := Members.exists_of_optional (set ▸ reads.generation)
    exact Json.fits_of_fitting? read
  · intro n set
    obtain ⟨source, -, read⟩ := Members.exists_of_optional (set ▸ reads.deletionGrace)
    exact Json.fits_of_fitting? read
  · intro all set fields member
    obtain ⟨source, -, read⟩ := Members.exists_of_optional (set ▸ reads.managedFields)
    obtain ⟨item, read_item⟩ := Json.exists_of_list? read member
    exact ManagedFields.isRepresentable_of_ofJson? read_item

end Metadata

end JenkinsOperator
