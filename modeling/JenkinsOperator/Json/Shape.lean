import JenkinsOperator.Json.Fields

/-!
# Shapes of documents

Parts of a document that are not kept must be readable all the same. A `Shape` says whether a value
could be read as one of a kind; it is put together from the shapes of the parts. Records are those
of the common objects of the cluster: a field may be written repeatedly, unknown members are
ignored.
-/

namespace JenkinsOperator

/-- Whether a value could be read as one of a kind. -/
abbrev Shape := Json → Bool

namespace Shape

/-- What a reader can read. -/
def readable {α : Type} (read : Json → Option α) : Shape := fun json => (read json).isSome

/-- A text. -/
def text : Shape := readable Json.string?

/-- A whole number of 32 bits with a sign. -/
def int32 : Shape := readable Json.int32?

/-- An object with fields of given shapes, each of which may be missing or null. -/
def fields (shapes : List (String × Shape)) : Shape := fun json =>
  match json.object? with
  | some members => shapes.all fun (name, shape) =>
      (Members.values members name).all fun value => value.isNull || shape value
  | none => false

/-- An object with a field of a given shape, which must be there. -/
def required (name : String) (shape : Shape) : Shape := fun json =>
  match json.object? with
  | some members =>
    let values := Members.values members name
    !values.isEmpty && values.all shape
  | none => false

end Shape

end JenkinsOperator
