import JenkinsOperator.Json.Basic
import JenkinsOperator.Json.Shortest

/-!
# Values of any form

A part of a document may be left open: any value may stand there, and it is kept as it is. Such a
value is still read as a whole. Nothing in it may be illegible, its numbers must fit in binary64,
and arrays and objects may stand in one another only to a certain depth, counted from the document
that the value is a part of.
-/

namespace JenkinsOperator

/-- Whether a number fits in binary64. -/
def Number.isFinite : Number → Bool
  | .integer _ => true
  | .fraction _ digits exponent => (Shortest.ofDecimal? digits exponent).isSome

mutual

/-- Whether a value can be read as a whole: nothing in it is illegible, no number is too large, and
arrays and objects stand in one another to at most the given depth. -/
def Json.isReadable : Nat → Json → Bool
  | 0, .array _ => false
  | depth + 1, .array items => Json.areReadable depth items
  | 0, .object _ => false
  | depth + 1, .object members => Json.areMembersReadable depth members
  | _, .number n => n.isFinite
  | _, .illegible => false
  | _, _ => true

/-- Whether all items of an array can be read. -/
def Json.areReadable : Nat → List Json → Bool
  | _, [] => true
  | depth, item :: rest => Json.isReadable depth item && Json.areReadable depth rest

/-- Whether the values of all members of an object can be read. -/
def Json.areMembersReadable : Nat → List (String × Json) → Bool
  | _, [] => true
  | depth, (_, value) :: rest => Json.isReadable depth value && Json.areMembersReadable depth rest

end

namespace Json

/-- To what depth arrays and objects of a document that is read as a whole may stand in one
another. -/
def deepest : Nat := 127

/-- Any value that stands at a given depth of its document. Of members of one name it keeps the
last. -/
def anyAt? (depth : Nat) (json : Json) : Option Json :=
  if json.isReadable (deepest - depth) then some json.settle else none

end Json

end JenkinsOperator
