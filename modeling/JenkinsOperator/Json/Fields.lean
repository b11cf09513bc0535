import JenkinsOperator.Data.Bounds
import JenkinsOperator.Data.OrderedMap
import JenkinsOperator.Json.Basic

/-!
# Reading records

Unknown members are ignored. Of the others there are two ways to read them.

`Fields` is the strict way: a record is read from an object by the names of its fields, or from an
array by their positions. A field that is written twice is refused, as is an array with more items
than there are fields; fields beyond the end of an array count as missing.

`Members` is the way of the common objects of the cluster: a record is read from an object alone. A
field may be written repeatedly, the last member counts, and every one of them must be readable.
-/

namespace JenkinsOperator

/-- The fields of a record that are present. -/
abbrev Fields := String → Option Json

/-- The members of an object, from which a record is read. -/
abbrev Members := List (String × Json)

namespace Json

/-- How many members have a name. -/
def occurrences (name : String) (members : List (String × Json)) : Nat :=
  (members.filter fun m => m.1 = name).length

/-- The fields of an object, each written at most once. -/
def objectFields? (names : List String) (members : List (String × Json)) : Option Fields :=
  if names.all fun name => decide (occurrences name members ≤ 1) then
    some fun name => memberOf name members
  else none

/-- The fields of an array by position. -/
def arrayFields? (names : List String) (items : List Json) : Option Fields :=
  if items.length ≤ names.length then some fun name => (names.zip items).lookup name else none

/-- The fields of a record. -/
def fields? (names : List String) : Json → Option Fields
  | .object members => objectFields? names members
  | .array items => arrayFields? names items
  | _ => none

/-- A value that may be null. -/
def nullable {α : Type} (json : Json) (read : Json → Option α) : Option (Option α) :=
  match json with
  | .null => some none
  | value => (read value).map some

/-- The items of an array, each read. -/
def list? {α : Type} (read : Json → Option α) : Json → Option (List α)
  | .array items => items.mapM read
  | _ => none

/-- The members of an object, each value read. -/
def map? {α : Type} (read : Json → Option α) : Json → Option (OrderedMap String α)
  | .object members =>
    (members.mapM fun m => (read m.2).map fun v => (m.1, v)).map OrderedMap.ofList
  | _ => none

/-- A list as an array. -/
def ofList {α : Type} (write : α → Json) (items : List α) : Json := .array (items.map write)

/-- A map as an object. -/
def ofMap {α : Type} (write : α → Json) (m : OrderedMap String α) : Json :=
  .object (m.entries.map fun e => (e.1, write e.2))

/-- A whole number that fits. -/
def fitting? (fits : Int → Bool) (json : Json) : Option Int :=
  match json.int? with
  | some n => if fits n then some n else none
  | none => none

/-- A whole number of 64 bits with a sign. -/
def int64? : Json → Option Int := fitting? fitsSignedWord

/-- A whole number of 32 bits with a sign. -/
def int32? : Json → Option Int := fitting? fitsSignedHalf

/-- A member for a value that is set, and none for one that is not. -/
def optionalMember {α : Type} (name : String) (write : α → Json) (value : Option α) :
    List (String × Json) :=
  match value with
  | some v => [(name, write v)]
  | none => []

end Json

namespace Fields

variable {α : Type}

/-- A field that must be present. -/
def required (fields : Fields) (name : String) (read : Json → Option α) : Option α :=
  match fields name with
  | some value => read value
  | none => none

/-- A field with a value that stands in for a missing one. -/
def defaulted (fields : Fields) (name : String) (default : α) (read : Json → Option α) : Option α :=
  match fields name with
  | some value => read value
  | none => some default

/-- A field that may be missing or null. -/
def optional (fields : Fields) (name : String) (read : Json → Option α) : Option (Option α) :=
  match fields name with
  | none => some none
  | some value => value.nullable read

end Fields

namespace Members

variable {α : Type}

/-- The values of all members of a name. -/
def values (members : Members) (name : String) : List Json :=
  (members.filter fun m => m.1 = name).map Prod.snd

/-- A field that may be missing or null. -/
def optional (members : Members) (name : String) (read : Json → Option α) :
    Option (Option α) :=
  ((members.values name).mapM fun value => Json.nullable value read).map fun values =>
    values.getLast?.join

/-- Whether a field is missing or holds the given text. -/
def agrees (members : Members) (name expected : String) : Bool :=
  (members.values name).all fun value => value.string? == some expected

end Members

end JenkinsOperator
