import JenkinsOperator.Api.Client
import JenkinsOperator.Proofs.Resource.Document

/-!
# Merge patches

What a server makes of a document by a merge patch (RFC 7386): a member of the patch replaces the one
of its name, or removes it if it is null, and an object in the patch is merged into the object that is
there. `Json.values_mergeMembers` says it for one name at a time.

A patch never takes back what it does not mention. So a status that is written as a patch comes to lie
over the one that is stored, field by field (`JenkinsStatus.laidOver`), and replaces it only if it has all
the fields that the other has (`JenkinsStatus.Covers`). `Jenkins.ofJson?_merge` is what the patch of a
status makes of a whole document.
-/

namespace JenkinsOperator

/-! ## Patches of members -/

/-- The members of an object; any other value has none. -/
def Json.membersOf : Json → Members
  | .object members => members
  | _ => []

namespace Members

/-- The members of all names but one. -/
def without (members : Members) (name : String) : Members := members.filter fun m => m.1 ≠ name

/-- The members with one in place of all of its name. -/
def put (members : Members) (name : String) (value : Json) : Members :=
  members.without name ++ [(name, value)]

theorem values_without_self (members : Members) (name : String) :
    (members.without name).values name = [] := by
  rw [values, without, List.filter_filter]
  simp

theorem values_without_of_ne {name other : String} (differs : other ≠ name) (members : Members) :
    (members.without name).values other = members.values other := by
  rw [values, without, List.filter_filter, values]
  congr 1
  refine List.filter_congr fun m _ => ?_
  by_cases same : m.1 = other
  · simp [same, differs]
  · simp [same]

/-- A member that is put has the new value alone. -/
theorem values_put_self (members : Members) (name : String) (value : Json) :
    (members.put name value).values name = [value] := by
  rw [put, values_append, values_without_self, List.nil_append, values_cons, if_pos rfl]
  rfl

/-- Putting a member leaves the others as they were. -/
theorem values_put_of_ne {name other : String} (differs : other ≠ name) (members : Members)
    (value : Json) : (members.put name value).values other = members.values other := by
  rw [put, values_append, values_without_of_ne differs, values_cons, if_neg differs.symm]
  exact List.append_nil _

theorem optional_congr {α : Type} {members members' : Members} {name : String}
    (same : members'.values name = members.values name) (read : Json → Option α) :
    members'.optional name read = members.optional name read := by
  rw [optional, optional, same]

end Members

namespace Json

theorem memberOf_eq_getLast? (name : String) (members : Members) :
    memberOf name members = (members.values name).getLast? := by
  induction members with
  | nil => rfl
  | cons m rest ih =>
    obtain ⟨key, value⟩ := m
    rw [memberOf, ih, Members.values_cons]
    by_cases same : key = name
    · rw [if_pos same, if_pos same, List.getLast?_cons]
      cases (Members.values rest name).getLast? with
      | none => rfl
      | some later => rfl
    · rw [if_neg same, if_neg same]
      cases (Members.values rest name).getLast? with
      | none => rfl
      | some later => rfl

theorem memberOf_congr {name : String} {members members' : Members}
    (same : members'.values name = members.values name) :
    memberOf name members' = memberOf name members := by
  rw [memberOf_eq_getLast?, memberOf_eq_getLast?, same]

theorem memberOf_eq_none_of_not_mem {name : String} {members : Members}
    (absent : name ∉ members.map Prod.fst) : memberOf name members = none := by
  have none : members.values name = [] := by
    rw [Members.values, List.filter_eq_nil_iff.2, List.map_nil]
    intro m mem same
    exact absent (of_decide_eq_true same ▸ List.mem_map_of_mem mem)
  rw [memberOf_eq_getLast?, none]
  rfl

mutual

/-- What a patch makes of a value. -/
def merge : Json → Json → Json
  | target, .object patch => .object (mergeMembers target.membersOf patch)
  | _, value => value

/-- What the members of a patch make of those of an object, one after another. -/
def mergeMembers : Members → Members → Members
  | target, [] => target
  | target, (name, value) :: patch =>
    mergeMembers
      (if value.isNull then target.without name
        else target.put name (merge ((memberOf name target).getD .null) value))
      patch

end

/-- A member of a patch stands in place of all members of its name; what the patch does not mention
stays. -/
theorem values_mergeMembers {patch : Members} (distinct : (patch.map Prod.fst).Nodup)
    (target : Members) (name : String) :
    (mergeMembers target patch).values name
      = match memberOf name patch with
        | none => target.values name
        | some value =>
          if value.isNull then [] else [merge ((memberOf name target).getD .null) value] := by
  -- The first member of the patch is applied to the target, and the others to what comes of that.
  induction patch generalizing target with
  | nil => rfl
  | cons m patch ih =>
    obtain ⟨key, value⟩ := m
    rw [List.map_cons, List.nodup_cons] at distinct
    rw [mergeMembers, ih distinct.2, memberOf]
    by_cases same : key = name
    · -- The name is not mentioned again.
      subst same
      rw [memberOf_eq_none_of_not_mem distinct.1, if_pos rfl]
      by_cases removes : value.isNull = true
      · simp only [if_pos removes]
        exact target.values_without_self key
      · simp only [if_neg removes]
        exact target.values_put_self key _
    · rw [if_neg same]
      have untouched : Members.values (if value.isNull then target.without key
          else target.put key (merge ((memberOf key target).getD .null) value)) name
            = target.values name := by
        split
        · exact Members.values_without_of_ne (Ne.symm same) target
        · exact Members.values_put_of_ne (Ne.symm same) target _
      rw [untouched, memberOf_congr untouched]
      cases memberOf name patch with
      | none => rfl
      | some later => rfl

/-- Whether a value in a patch stands in place of whatever is there. -/
structure Replaces (value : Json) : Prop where
  isNull : value.isNull = false
  merge : ∀ target, Json.merge target value = value

theorem replaces_string (s : String) : (string s).Replaces := ⟨rfl, fun _ => rfl⟩

theorem replaces_int (n : Int) : (int n).Replaces := ⟨rfl, fun _ => rfl⟩

theorem occurrences_eq_length (name : String) (members : Members) :
    occurrences name members = (members.values name).length := by
  rw [Members.values, List.length_map]
  rfl

/-- The fields of an object are its members, each of them written at most once. -/
theorem of_fields?_object {names : List String} {members : Members} {fields : Fields}
    (h : fields? names (.object members) = some fields) :
    (∀ name ∈ names, (members.values name).length ≤ 1) ∧ fields = fun name => memberOf name members := by
  change objectFields? names members = some fields at h
  unfold objectFields? at h
  split at h
  case isTrue once =>
    refine ⟨fun name mem => ?_, (Option.some.inj h).symm⟩
    rw [← occurrences_eq_length]
    exact of_decide_eq_true (List.all_eq_true.1 once name mem)
  case isFalse => cases h

/-- Fields that are written at most once are so after a patch. -/
theorem fields?_mergeMembers {names : List String} {target patch : Members} {fields : Fields}
    (distinct : (patch.map Prod.fst).Nodup) (reads : fields? names (.object target) = some fields) :
    fields? names (.object (mergeMembers target patch))
      = some fun name => memberOf name (mergeMembers target patch) := by
  refine if_pos (List.all_eq_true.2 fun name mem => decide_eq_true ?_)
  rw [occurrences_eq_length, values_mergeMembers distinct]
  split
  · exact (of_fields?_object reads).1 name mem
  · split
    · exact Nat.zero_le 1
    · exact Nat.le_refl 1

end Json

/-! ## Patches of a status -/

namespace Fields

variable {α : Type} {name : String} {read : Json → Option α}

/-- An optional field after a patch: the one of the patch, if it has it, and else the one that was
there. -/
theorem optional_mergeMembers {patch : Members} (distinct : (patch.map Prod.fst).Nodup)
    {target : Members} (write : α → Json) (new : Option α) {old : Option α}
    (written : Json.memberOf name patch = new.map write) (replaces : ∀ v, (write v).Replaces)
    (back : ∀ v ∈ new, read (write v) = some v)
    (there : optional (fun name => Json.memberOf name target) name read = some old) :
    optional (fun name => Json.memberOf name (Json.mergeMembers target patch)) name read
      = some (new.or old) := by
  have values := Json.values_mergeMembers distinct target name
  rw [written] at values
  cases new with
  | none =>
    rw [optional, Json.memberOf_congr values]
    exact there
  | some v =>
    simp only [Option.map_some, (replaces v).isNull, (replaces v).merge, Bool.false_eq_true,
      if_false] at values
    rw [optional, Json.memberOf_eq_getLast?, values]
    refine Json.nullable_of_read ?_ (back v rfl)
    intro null
    exact Bool.noConfusion ((replaces v).isNull.symm.trans (congrArg Json.isNull null))

end Fields

namespace JenkinsStatus

/-- One status over another: the fields of the first, and of the second those that the first has
not. -/
def laidOver (new old : JenkinsStatus) : JenkinsStatus :=
  ⟨new.provisionStart.or old.provisionStart, new.baseCompleted.or old.baseCompleted,
    new.userCompleted.or old.userCompleted, new.haltedGeneration.or old.haltedGeneration⟩

/-- Whether a status has all the fields that another has. -/
structure Covers (new old : JenkinsStatus) : Prop where
  provisionStart : new.provisionStart = none → old.provisionStart = none
  baseCompleted : new.baseCompleted = none → old.baseCompleted = none
  userCompleted : new.userCompleted = none → old.userCompleted = none
  haltedGeneration : new.haltedGeneration = none → old.haltedGeneration = none

/-- Nothing shows of a status under one that covers it. -/
theorem Covers.laidOver {new old : JenkinsStatus} (covers : new.Covers old) : new.laidOver old = new := by
  have field {α : Type} {a b : Option α} (h : a = none → b = none) : a.or b = a := by
    cases a with
    | none => exact h rfl
    | some v => rfl
  rw [JenkinsStatus.laidOver, field covers.provisionStart, field covers.baseCompleted,
    field covers.userCompleted, field covers.haltedGeneration]

/-- Every status covers the one without any field. -/
theorem covers_unset (new : JenkinsStatus) : new.Covers .unset :=
  ⟨fun _ => rfl, fun _ => rfl, fun _ => rfl, fun _ => rfl⟩

/-- A status that is patched with another lies under it. -/
theorem ofJson?_mergeMembers {target patch : Members} {old new : JenkinsStatus}
    (reads : ofJson? (.object target) = some old) (written : .object patch = new.toJson)
    (fits : new.IsRepresentable) :
    ofJson? (.object (Json.mergeMembers target patch)) = some (new.laidOver old) := by
  have distinct : (patch.map Prod.fst).Nodup := (by decide : List.Nodup _).sublist (names_toJson written)
  have member (key : String) := congrArg (Json.memberOf key) (Json.object.inj written)
  simp only [Json.memberOf_append, Json.memberOf_optionalMember] at member
  have time (t : Time) : t.toJson.Replaces := Json.replaces_string t.rfc3339
  obtain ⟨fields, once, there⟩ := ofJson?_eq_some_iff.1 reads
  obtain rfl := (Json.of_fields?_object once).2
  refine ofJson?_eq_some_iff.2 ⟨_, Json.fields?_mergeMembers distinct once, ?_, ?_, ?_, ?_⟩
  · exact Fields.optional_mergeMembers distinct Time.toJson new.provisionStart (by simp [member]) time
      (fun t _ => t.ofJson?_toJson) there.provisionStart
  · exact Fields.optional_mergeMembers distinct Time.toJson new.baseCompleted (by simp [member]) time
      (fun t _ => t.ofJson?_toJson) there.baseCompleted
  · exact Fields.optional_mergeMembers distinct Time.toJson new.userCompleted (by simp [member]) time
      (fun t _ => t.ofJson?_toJson) there.userCompleted
  · exact Fields.optional_mergeMembers distinct Json.int new.haltedGeneration (by simp [member])
      Json.replaces_int (fun n set => Json.fitting?_int (fits n set)) there.haltedGeneration

end JenkinsStatus

/-! ## Patches of an object -/

/-- A patch of the version leaves the rest of the metadata. -/
theorem Metadata.ofJson?_mergeMembers {target : Members} {m : Metadata} (version : Option String)
    (reads : Metadata.ofJson? (.object target) = some m) :
    Metadata.ofJson? (.object (Json.mergeMembers target
      [("resourceVersion", Json.optionalString version)])) = some { m with resourceVersion := version } := by
  have distinct : ([("resourceVersion", Json.optionalString version)].map Prod.fst).Nodup :=
    List.nodup_singleton _
  have values := Json.values_mergeMembers distinct target
  have other {α : Type} {name : String} {read : Json → Option α} {value : Option α}
      (differs : "resourceVersion" ≠ name) (h : target.optional name read = some value) :
      Members.optional (Json.mergeMembers target [("resourceVersion", Json.optionalString version)])
        name read = some value := by
    refine Eq.trans (Members.optional_congr ?_ read) h
    rw [values, Json.memberOf_singleton, if_neg differs]
  obtain ⟨_, same, old⟩ := ofJson?_eq_some_iff.1 reads
  cases same
  refine ofJson?_eq_some_iff.2 ⟨_, rfl, ?_⟩
  constructor
  case resourceVersion =>
    refine Members.optional_string ?_
    rw [values, Json.memberOf_singleton, if_pos rfl]
    cases version with
    | none => rfl
    | some v => rfl
  case name => exact other (by decide) old.name
  case namespaceName => exact other (by decide) old.namespaceName
  case generateName => exact other (by decide) old.generateName
  case generation => exact other (by decide) old.generation
  case uid => exact other (by decide) old.uid
  case labels => exact other (by decide) old.labels
  case annotations => exact other (by decide) old.annotations
  case creationTime => exact other (by decide) old.creationTime
  case deletionTime => exact other (by decide) old.deletionTime
  case deletionGrace => exact other (by decide) old.deletionGrace
  case finalizers => exact other (by decide) old.finalizers
  case managedFields => exact other (by decide) old.managedFields
  case owners => exact other (by decide) old.owners
  case selfLink => exact other (by decide) old.selfLink

/-- The patch of a status that is set. -/
theorem Client.statusPatch_of_eq_some {object : Jenkins} {status : JenkinsStatus}
    (set : object.status = some status) :
    Client.statusPatch object
      = .object [("metadata", .object
          [("resourceVersion", Json.optionalString object.metadata.resourceVersion)]),
        ("status", status.toJson)] := by
  rw [Client.statusPatch, set]

namespace Jenkins

/-- The status that a patch comes to lie over: the one that is stored, or none if that is no object. -/
theorem exists_under {fields : Fields} {status : Option JenkinsStatus}
    (reads : fields.optional "status" JenkinsStatus.ofJson? = some status) :
    ∃ under, JenkinsStatus.ofJson? (.object ((fields "status").getD .null).membersOf) = some under
      ∧ (status = some under ∨ under = .unset) := by
  have none : JenkinsStatus.ofJson? (.object []) = some .unset := by decide
  unfold Fields.optional at reads
  cases stored : fields "status" with
  | none => exact ⟨.unset, none, .inr rfl⟩
  | some json =>
    cases json with
    | object members =>
      rw [stored] at reads
      obtain ⟨under, read, same⟩ := Option.map_eq_some_iff.1 reads
      exact ⟨under, read, .inl same.symm⟩
    | _ => exact ⟨.unset, none, .inr rfl⟩

/-- What the patch of a status makes of the document of an object: the version is the one that the
patch carries, and the status lies over the one that is stored, or over none if that is no object. -/
theorem ofJson?_merge {document : Members} {old held : Jenkins} {status : JenkinsStatus}
    (reads : ofJson? (.object document) = some old) (set : held.status = some status)
    (fits : status.IsRepresentable) :
    ∃ under, (old.status = some under ∨ under = .unset)
      ∧ ofJson? (Json.merge (.object document) (Client.statusPatch held))
        = some { old with
            metadata := { old.metadata with resourceVersion := held.metadata.resourceVersion }
            status := some (status.laidOver under) } := by
  obtain ⟨fields, once, there⟩ := ofJson?_eq_some_iff.1 reads
  obtain rfl := (Json.of_fields?_object once).2
  -- The metadata is an object, so the version is merged into it.
  obtain ⟨source, stored, readSource⟩ := Fields.exists_of_required there.metadata
  obtain ⟨members, rfl, -⟩ := Metadata.ofJson?_eq_some_iff.1 readSource
  obtain ⟨under, readUnder, which⟩ := exists_under there.status
  obtain ⟨statusMembers, written⟩ : ∃ members : Members, .object members = status.toJson := ⟨_, rfl⟩
  let patch : Members :=
    [("metadata", .object [("resourceVersion", Json.optionalString held.metadata.resourceVersion)]),
      ("status", .object statusMembers)]
  have patched : Client.statusPatch held = .object patch := by
    rw [Client.statusPatch_of_eq_some set, ← written]
  -- The patch mentions two names, and what stands at each of the three shows by itself.
  have distinct : (patch.map Prod.fst).Nodup := (by decide : ["metadata", "status"].Nodup)
  have values := Json.values_mergeMembers distinct document
  refine ⟨under, which, ?_⟩
  rw [patched, Json.merge, Json.membersOf]
  refine ofJson?_eq_some_iff.2 ⟨_, Json.fields?_mergeMembers distinct once, ?_, ?_, ?_⟩
  · refine Fields.required_of_eq ?_ (Metadata.ofJson?_mergeMembers _ readSource)
    rw [Json.memberOf_eq_getLast?, values, stored]
    rfl
  · rw [Fields.required, Json.memberOf_congr (values "spec")]
    exact there.spec
  · rw [Fields.optional, Json.memberOf_eq_getLast?, values]
    exact Json.nullable_of_read Json.noConfusion
      (JenkinsStatus.ofJson?_mergeMembers readUnder written fits)

end Jenkins

end JenkinsOperator
