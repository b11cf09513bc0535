import JenkinsOperator.Text.Cut

/-!
# Image references

An image is named by a bare tag or by a reference `name[:tag][@digest]`. A reference is taken apart
from the right: the digest follows the only `@`, the tag follows a colon that has no slash after it,
and what is left is split at its slashes. The first of several components may be a host, whose colon
and digits are never taken for a tag because a slash follows them.

All classes of characters are those of ASCII.
-/

namespace JenkinsOperator.Image

/-- Letters, digits and the underscore. -/
def isWordChar (c : Char) : Bool := c.isAlphanum || c == '_'

/-- Characters of a tag after its first. -/
def isTagChar (c : Char) : Bool := isWordChar c || c == '.' || c == '-'

/-- Whether a text is a tag: at most 128 characters, the first neither a dot nor a hyphen. -/
def isTag : List Char → Bool
  | [] => false
  | c :: rest => isWordChar c && decide (rest.length ≤ 127) && rest.all isTagChar

/-- Small letters and digits. -/
def isLowerAlphanum (c : Char) : Bool := c.isLower || c.isDigit

/-- How far a name component has been read. -/
inductive NameState where
  /-- Nothing yet. -/
  | start
  /-- Inside a run of small letters and digits. -/
  | run
  /-- After a dot. -/
  | dot
  /-- After one underscore. -/
  | underscore
  /-- After two underscores. -/
  | underscores
  /-- After one or more hyphens. -/
  | hyphens
  deriving DecidableEq

/-- The state after one more character of a name component. -/
def NameState.next? (state : NameState) (c : Char) : Option NameState :=
  if isLowerAlphanum c then some .run
  else
    match state with
    | .run =>
      if c = '.' then some .dot
      else if c = '_' then some .underscore
      else if c = '-' then some .hyphens
      else none
    | .underscore => if c = '_' then some .underscores else none
    | .hyphens => if c = '-' then some .hyphens else none
    | _ => none

/-- Whether the rest of a name component may follow a state. -/
def endsName : NameState → List Char → Bool
  | state, [] => state == .run
  | state, c :: rest =>
    match state.next? c with
    | some state' => endsName state' rest
    | none => false

/-- Whether a text is a name component: runs of small letters and digits, joined by a dot, one or
two underscores, or hyphens. -/
def isNameComponent (cs : List Char) : Bool := endsName .start cs

/-- Whether a text is a label of a host: letters, digits and hyphens, with no hyphen at an end. -/
def isLabel (cs : List Char) : Bool :=
  cs.all (fun c => c.isAlphanum || c == '-')
    && cs.head?.any Char.isAlphanum && cs.getLast?.any Char.isAlphanum

/-- Whether a text is labels joined by dots. -/
def isDomain (cs : List Char) : Bool := (Text.splitOn '.' cs).all isLabel

/-- Whether a text is a host: a domain, with a colon and digits or without. -/
def isHost (cs : List Char) : Bool :=
  match Text.cut? ':' cs with
  | none => isDomain cs
  | some (domain, number) => isDomain domain && !number.isEmpty && number.all Char.isDigit

/-- Whether components joined by slashes make a name. -/
def isName : List (List Char) → Bool
  | [] => false
  | [only] => isNameComponent only
  | first :: rest => (isNameComponent first || isHost first) && rest.all isNameComponent

/-- Whether the rest of a digest algorithm may follow; `fresh` says that a word begins here. -/
def endsAlgorithm : Bool → List Char → Bool
  | fresh, [] => !fresh
  | true, c :: rest => c.isAlpha && endsAlgorithm false rest
  | false, c :: rest =>
    if c.isAlphanum then endsAlgorithm false rest
    else (c == '-' || c == '_' || c == '+' || c == '.') && endsAlgorithm true rest

/-- Whether a character is a hexadecimal digit. -/
def isHexDigit (c : Char) : Bool :=
  c.isDigit || (decide ('a' ≤ c) && decide (c ≤ 'f')) || (decide ('A' ≤ c) && decide (c ≤ 'F'))

/-- Whether a text is a digest: an algorithm of words that begin with a letter, a colon and at least
32 hexadecimal digits. -/
def isDigest (cs : List Char) : Bool :=
  match Text.cut? ':' cs with
  | none => false
  | some (algorithm, hex) =>
    endsAlgorithm true algorithm && decide (32 ≤ hex.length) && hex.all isHexDigit

/-- A reference taken apart. -/
structure Split where
  /-- The components of the name. -/
  components : List (List Char)
  tag : Option (List Char)
  digest : Option (List Char)
  deriving DecidableEq

/-- The last element of a list replaced by its image. -/
def mapLast (f : List Char → List Char) : List (List Char) → List (List Char)
  | [] => []
  | [last] => [f last]
  | first :: rest => first :: mapLast f rest

/-- What stands before the first colon, or everything. -/
def beforeColon (cs : List Char) : List Char :=
  match Text.cut? ':' cs with
  | none => cs
  | some (before, _) => before

/-- The reference taken apart from the right. -/
def split (cs : List Char) : Split :=
  let (named, digest) := match Text.cut? '@' cs with
    | none => (cs, none)
    | some (named, digest) => (named, some digest)
  let components := Text.splitOn '/' named
  let tag := (components.getLast?.bind (Text.cut? ':')).map Prod.snd
  ⟨mapLast beforeColon components, tag, digest⟩

/-- Whether every part of a reference is in order. -/
def Split.isValid (s : Split) : Bool :=
  isName s.components && s.tag.all isTag && s.digest.all isDigest

/-- Whether a text names an image, by a tag alone or by a reference. -/
def isValid (image : String) : Bool :=
  isTag image.toList || (split image.toList).isValid

end JenkinsOperator.Image
