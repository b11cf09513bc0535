/-!
# JSON values

The document form of everything that is stored or sent. An object keeps its members as they were
written, repeated names included; which of two members counts is decided by whoever reads it.
`Json.settle` is the usual decision: the last member of each name, in order of the names.

A whole number within 64 bits is an integer. Every other number is a decimal fraction and is never
taken for an integer, even where its value is whole.

A string can be written with half of a surrogate pair in it, and then it has no text. Such a string
is illegible, and so is an object with such a name: it may stand where nobody looks at it, and every
attempt to read it fails.
-/

namespace JenkinsOperator

/-- A number as written: a whole number, or a sign with `digits · 10 ^ exponent`. -/
inductive Number where
  | integer (value : Int)
  | fraction (negative : Bool) (digits : Nat) (exponent : Int)
  deriving DecidableEq

/-- A JSON value. -/
inductive Json where
  | null
  | bool (value : Bool)
  | number (value : Number)
  | string (value : String)
  | array (items : List Json)
  | object (members : List (String × Json))
  | illegible
  deriving Inhabited

namespace Json

/-- The number of a whole value. -/
def int (n : Int) : Json := .number (.integer n)

/-- A string, or null. -/
def optionalString : Option String → Json
  | some s => .string s
  | none => .null

/-- The value of the last member of a name. -/
def memberOf (name : String) : List (String × Json) → Option Json
  | [] => none
  | (key, value) :: rest =>
    match memberOf name rest with
    | some later => some later
    | none => if key = name then some value else none

/-- The string of a text, if it has one. -/
def ofText : Option String → Json
  | some s => .string s
  | none => .illegible

/-- The object of named members, if every name has a text. -/
def ofMembers (members : List (Option String × Json)) : Json :=
  match members.mapM fun m => m.1.map fun name => (name, m.2) with
  | some named => .object named
  | none => .illegible

/-- A member of an object; other values have none. -/
def member? (json : Json) (name : String) : Option Json :=
  match json with
  | .object members => memberOf name members
  | _ => none

/-- Whether a value is null. -/
def isNull : Json → Bool
  | .null => true
  | _ => false

/-- The text of a string value. -/
def string? : Json → Option String
  | .string s => some s
  | _ => none

/-- The value of a boolean. -/
def bool? : Json → Option Bool
  | .bool b => some b
  | _ => none

/-- The whole number of a value. -/
def int? : Json → Option Int
  | .number (.integer n) => some n
  | _ => none

/-- The items of an array. -/
def array? : Json → Option (List Json)
  | .array items => some items
  | _ => none

/-- The members of an object. -/
def object? : Json → Option (List (String × Json))
  | .object members => some members
  | _ => none

/-- Puts a member at its place by name, in place of an earlier one of the same name. -/
def putMember (name : String) (value : Json) : List (String × Json) → List (String × Json)
  | [] => [(name, value)]
  | (key, v) :: rest =>
    if name < key then (name, value) :: (key, v) :: rest
    else if name = key then (name, value) :: rest
    else (key, v) :: putMember name value rest

mutual

/-- Whether two values are the same. -/
def same : Json → Json → Bool
  | .null, .null => true
  | .bool a, .bool b => a == b
  | .number a, .number b => a == b
  | .string a, .string b => a == b
  | .array a, .array b => sameItems a b
  | .object a, .object b => sameMembers a b
  | .illegible, .illegible => true
  | _, _ => false

/-- Whether two lists of items are the same. -/
def sameItems : List Json → List Json → Bool
  | [], [] => true
  | a :: as, b :: bs => same a b && sameItems as bs
  | _, _ => false

/-- Whether two lists of members are the same. -/
def sameMembers : List (String × Json) → List (String × Json) → Bool
  | [], [] => true
  | (m, a) :: as, (n, b) :: bs => m == n && (same a b && sameMembers as bs)
  | _, _ => false

end

mutual

theorem same_iff : ∀ a b : Json, a.same b = true ↔ a = b
  | .null, b => by cases b <;> simp [same]
  | .bool _, b => by cases b <;> simp [same]
  | .number _, b => by cases b <;> simp [same]
  | .string _, b => by cases b <;> simp [same]
  | .array as, b => by cases b <;> simp [same, sameItems_iff as]
  | .object as, b => by cases b <;> simp [same, sameMembers_iff as]
  | .illegible, b => by cases b <;> simp [same]

theorem sameItems_iff : ∀ as bs : List Json, sameItems as bs = true ↔ as = bs
  | [], bs => by cases bs <;> simp [sameItems]
  | a :: as, bs => by cases bs <;> simp [sameItems, same_iff a, sameItems_iff as]

theorem sameMembers_iff : ∀ as bs : List (String × Json), sameMembers as bs = true ↔ as = bs
  | [], bs => by cases bs <;> simp [sameMembers]
  | (m, a) :: as, bs => by
    cases bs <;> simp [sameMembers, same_iff a, sameMembers_iff as, Prod.ext_iff, and_assoc]

end

instance : DecidableEq Json := fun a b => decidable_of_iff _ (same_iff a b)

mutual

/-- The value with the members of every object in order of their names, the last of each name. -/
def settle : Json → Json
  | .array items => .array (settleItems items)
  | .object members => .object (settleMembers members [])
  | value => value

/-- The items, each settled. -/
def settleItems : List Json → List Json
  | [] => []
  | item :: rest => settle item :: settleItems rest

/-- The members, settled and put one after another into what is there already. -/
def settleMembers : List (String × Json) → List (String × Json) → List (String × Json)
  | [], done => done
  | (name, value) :: rest, done => settleMembers rest (putMember name (settle value) done)

end

end Json

end JenkinsOperator
