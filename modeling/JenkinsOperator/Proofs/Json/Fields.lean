import Mathlib.Data.List.Nodup
import JenkinsOperator.Json.Fields
import JenkinsOperator.Proofs.Data.OrderedMap

/-!
# Records read back

A record that was written is read as it was. What a writer of a record puts out are its fields, in a
fixed order and some of them left out, so no name occurs twice (`Json.objectFields?_of_sublist`).
The lemmas on `Json.memberOf` find each field among them, and those on `Fields` and `Members` read
it: an optional field that was left out is unset, and one that was written is what it was.
-/

namespace JenkinsOperator

namespace Json

variable {α β : Type}

/-! ## Members of an object -/

/-- Of the members of a name the last one counts, so those that are appended count first. -/
theorem memberOf_append (name : String) (members more : List (String × Json)) :
    memberOf name (members ++ more) = (memberOf name more).or (memberOf name members) := by
  induction members with
  | nil => simp [memberOf]
  | cons m members ih =>
    rw [List.cons_append, memberOf, memberOf, ih]
    cases memberOf name more with
    | some later => rfl
    | none => rfl

theorem memberOf_singleton (name key : String) (value : Json) :
    memberOf name [(key, value)] = if key = name then some value else none := rfl

/-- An optional member is there if its value is. -/
theorem memberOf_optionalMember (name key : String) (write : α → Json) (value : Option α) :
    memberOf name (optionalMember key write value) = if key = name then value.map write else none := by
  cases value with
  | none => simp [optionalMember, memberOf]
  | some v => simp [optionalMember, memberOf]

theorem optionalMember_map (name : String) (write : β → Json) (f : α → β) (value : Option α) :
    optionalMember name write (value.map f) = optionalMember name (fun v => write (f v)) value := by
  cases value with
  | none => rfl
  | some v => rfl

/-- An optional member has the name that it is given or is missing. -/
theorem names_optionalMember (name : String) (write : α → Json) (value : Option α) :
    ((optionalMember name write value).map Prod.fst).Sublist [name] := by
  cases value with
  | none => exact List.nil_sublist _
  | some v => exact List.Sublist.refl _

theorem occurrences_eq_count (name : String) (members : List (String × Json)) :
    occurrences name members = (members.map Prod.fst).count name := by
  rw [occurrences, List.count_eq_countP, List.countP_map, List.countP_eq_length_filter]
  congr

/-- Members that stand in the order of different names have each name at most once. -/
theorem objectFields?_of_sublist {order : List String} {members : List (String × Json)}
    (sublist : (members.map Prod.fst).Sublist order) (nodup : order.Nodup) (names : List String) :
    objectFields? names members = some fun name => memberOf name members := by
  refine if_pos (List.all_eq_true.2 fun name _ => decide_eq_true ?_)
  rw [occurrences_eq_count]
  exact List.nodup_iff_count_le_one.1 (nodup.sublist sublist) name

/-- Members that are in order and not repeated are the fields of their object. -/
theorem fields?_of_sublist {order : List String} {members : List (String × Json)}
    (sublist : (members.map Prod.fst).Sublist order) (nodup : order.Nodup) (names : List String) :
    fields? names (.object members) = some fun name => memberOf name members :=
  objectFields?_of_sublist sublist nodup names

/-! ## Lists and maps -/

/-- What is read one by one is read as a list. -/
theorem mapM_map {γ : Type} {write : α → β} {read : β → Option γ} {back : α → γ} {items : List α}
    (read_write : ∀ v ∈ items, read (write v) = some (back v)) :
    (items.map write).mapM read = some (items.map back) := by
  induction items with
  | nil => rfl
  | cons v items ih =>
    rw [List.map_cons, List.mapM_cons, read_write v List.mem_cons_self,
      ih fun w member => read_write w (List.mem_cons_of_mem v member)]
    rfl

/-- What was read into a list was read from one of the items. -/
theorem exists_of_mem_mapM {read : β → Option α} {items : List β} {values : List α} {v : α}
    (h : items.mapM read = some values) (member : v ∈ values) : ∃ item ∈ items, read item = some v := by
  induction items generalizing values with
  | nil =>
    cases h
    cases member
  | cons item items ih =>
    rw [List.mapM_cons] at h
    obtain ⟨first, read_first, h⟩ := Option.bind_eq_some_iff.1 h
    obtain ⟨rest, read_rest, h⟩ := Option.bind_eq_some_iff.1 h
    cases h
    rcases List.mem_cons.1 member with rfl | member
    · exact ⟨item, List.mem_cons_self, read_first⟩
    · obtain ⟨other, other_mem, read_other⟩ := ih read_rest member
      exact ⟨other, List.mem_cons_of_mem item other_mem, read_other⟩

/-- A list is read back item by item. -/
theorem list?_ofList {write : β → Json} {read : Json → Option α} {back : β → α} {items : List β}
    (read_write : ∀ v ∈ items, read (write v) = some (back v)) :
    list? read (ofList write items) = some (items.map back) :=
  mapM_map read_write

theorem list?_ofList_same {write : α → Json} {read : Json → Option α} {items : List α}
    (back : ∀ v ∈ items, read (write v) = some v) : list? read (ofList write items) = some items := by
  rw [list?_ofList back, List.map_id']

/-- A map is read back if each of its values is. -/
theorem map?_ofMap {write : α → Json} {read : Json → Option α} {m : OrderedMap String α}
    (back : ∀ v, read (write v) = some v) : map? read (ofMap write m) = some m := by
  have entries : (m.entries.map fun e => (e.1, write e.2)).mapM
      (fun m => (read m.2).map fun v => (m.1, v)) = some (m.entries.map id) := by
    refine mapM_map fun e _ => ?_
    show (read (write e.2)).map (fun v => (e.1, v)) = some e
    rw [back]
    rfl
  rw [ofMap, map?, entries, List.map_id, Option.map_some, OrderedMap.ofList_entries]

/-- What is in a list that was read was read from somewhere. -/
theorem exists_of_list? {read : Json → Option α} {json : Json} {items : List α} {v : α}
    (h : list? read json = some items) (member : v ∈ items) : ∃ item, read item = some v := by
  cases json with
  | array sources =>
    obtain ⟨item, -, read_item⟩ := exists_of_mem_mapM h member
    exact ⟨item, read_item⟩
  | _ => cases h

theorem nullable_of_read {json : Json} {read : Json → Option α} {v : α} (some : json ≠ .null)
    (h : read json = .some v) : json.nullable read = .some (.some v) := by
  unfold nullable
  split
  · exact absurd rfl some
  · rw [h, Option.map_some]

theorem read_of_nullable {json : Json} {read : Json → Option α} {v : α}
    (h : json.nullable read = some (some v)) : json ≠ .null ∧ read json = some v := by
  unfold nullable at h
  split at h
  · cases h
  case h_2 some =>
    obtain ⟨w, read_w, same⟩ := Option.map_eq_some_iff.1 h
    cases same
    exact ⟨some, read_w⟩

theorem fitting?_int {fits : Int → Bool} {n : Int} (h : fits n = true) :
    fitting? fits (.int n) = some n := if_pos h

/-- A number that was read fits what it was read for. -/
theorem fits_of_fitting? {fits : Int → Bool} {json : Json} {n : Int}
    (h : fitting? fits json = some n) : fits n = true := by
  unfold fitting? at h
  split at h
  · split at h
    case isTrue fitting =>
      cases h
      exact fitting
    case isFalse => cases h
  · cases h

end Json

/-! ## Fields -/

namespace Fields

variable {α : Type} {fields : Fields} {name : String} {read : Json → Option α}

theorem required_of_eq {json : Json} {v : α} (field : fields name = some json)
    (back : read json = some v) : fields.required name read = some v := by
  rw [required, field]
  exact back

theorem defaulted_of_eq {json : Json} {default v : α} (field : fields name = some json)
    (back : read json = some v) : fields.defaulted name default read = some v := by
  rw [defaulted, field]
  exact back

/-- A missing field has its default. -/
theorem defaulted_of_eq_none {default : α} (field : fields name = none) :
    fields.defaulted name default read = some default := by
  rw [defaulted, field]

theorem defaulted_string {value default : String} (field : fields name = some (.string value)) :
    fields.defaulted name default Json.string? = some value :=
  defaulted_of_eq field rfl

/-- An optional field is read back, whether it was written or left out. -/
theorem optional_of_eq (write : α → Json) {value : Option α}
    (field : fields name = value.map write)
    (back : ∀ v ∈ value, (write v).nullable read = some (some v)) :
    fields.optional name read = some value := by
  rw [optional, field]
  cases value with
  | none => rfl
  | some v => exact back v rfl

theorem optional_string {value : Option String} (field : fields name = value.map Json.string) :
    fields.optional name Json.string? = some value :=
  optional_of_eq Json.string field fun _ _ => rfl

theorem exists_of_required {v : α} (h : fields.required name read = some v) :
    ∃ json, fields name = some json ∧ read json = some v := by
  unfold required at h
  split at h
  case h_1 json field => exact ⟨json, field, h⟩
  · cases h

/-- An optional field that is set was read from somewhere. -/
theorem exists_of_optional {v : α} (h : fields.optional name read = some (some v)) :
    ∃ json, json ≠ .null ∧ read json = some v := by
  unfold optional at h
  split at h
  · cases h
  case h_2 json _ => exact ⟨json, Json.read_of_nullable h⟩

end Fields

namespace Members

variable {α β : Type} {name : String} {read : Json → Option α}

theorem values_append (members more : Members) (name : String) :
    values (members ++ more) name = values members name ++ values more name := by
  rw [values, List.filter_append, List.map_append]
  rfl

theorem values_cons (key : String) (value : Json) (members : Members) (name : String) :
    values ((key, value) :: members) name =
      if key = name then value :: values members name else values members name := by
  rw [values, List.filter_cons]
  by_cases same : key = name
  · simp [same, values]
  · simp [same, values]

/-- An optional member gives its name one value or none. -/
theorem values_optionalMember (name key : String) (write : β → Json) (value : Option β) :
    values (Json.optionalMember key write value) name =
      if key = name then (value.map write).toList else [] := by
  cases value with
  | none => exact (ite_self []).symm
  | some v => exact values_cons key (write v) [] name

/-- An optional field is read back, whether it was written or left out. What is read may be another
value than what was written. -/
theorem optional_of_eq {members : Members} (write : β → Json) {value : Option β} {back : β → α}
    (field : members.values name = (value.map write).toList)
    (read_write : ∀ v ∈ value, (write v).nullable read = some (some (back v))) :
    members.optional name read = some (value.map back) := by
  rw [optional, field]
  cases value with
  | none => rfl
  | some v =>
    rw [Option.map_some, Option.toList_some, List.mapM_cons, read_write v rfl]
    rfl

theorem optional_same {members : Members} (write : α → Json) {value : Option α}
    (field : members.values name = (value.map write).toList)
    (back : ∀ v ∈ value, (write v).nullable read = some (some v)) :
    members.optional name read = some value := by
  rw [optional_of_eq write field back, Option.map_id']

theorem optional_string {members : Members} {value : Option String}
    (field : members.values name = (value.map Json.string).toList) :
    members.optional name Json.string? = some value :=
  optional_same Json.string field fun _ _ => rfl

theorem optional_int64 {members : Members} {value : Option Int}
    (field : members.values name = (value.map Json.int).toList)
    (fits : ∀ n ∈ value, fitsSignedWord n = true) :
    members.optional name Json.int64? = some value := by
  refine optional_same Json.int field fun n set => Json.nullable_of_read Json.noConfusion ?_
  exact Json.fitting?_int (fits n set)

/-- A field that is set was read from somewhere. -/
theorem exists_of_optional {members : Members} {v : α}
    (h : members.optional name read = some (some v)) : ∃ json, json ≠ .null ∧ read json = some v := by
  obtain ⟨values, read_all, last⟩ := Option.map_eq_some_iff.1 h
  have member : some v ∈ values := List.mem_of_getLast? (Option.join_eq_some_iff.1 last)
  obtain ⟨json, -, read_json⟩ := Json.exists_of_mem_mapM read_all member
  exact ⟨json, Json.read_of_nullable read_json⟩

end Members

end JenkinsOperator
