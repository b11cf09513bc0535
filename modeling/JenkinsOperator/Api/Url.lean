/-!
# Request targets

A target is a path with an optional query. Names stand in it as they are, so a question mark in a
name begins the query and a number sign ends the target. Characters that neither part can hold make
the target invalid; characters beyond ASCII are let through. After the number sign everything is.
-/

namespace JenkinsOperator

/-- A path and the query after it. -/
structure Target where
  path : String
  query : String
  deriving DecidableEq

namespace Target

/-- Whether a character may stand in a target at all: not a control character or a blank, and
neither a sign of comparison nor the number sign. -/
def isTargetChar (c : Char) : Bool :=
  decide (0x20 < c.toNat) && c != '\x7f' && c != '#' && c != '<' && c != '>'

/-- Whether a character may stand in a path: the grave accent and the question mark may not. -/
def isPathChar (c : Char) : Bool := isTargetChar c && c != '?' && c.toNat != 0x60

/-- Whether a character may stand in a query: the quotation mark may not. -/
def isQueryChar (c : Char) : Bool := isTargetChar c && c != '"'

/-- The longest target, in bytes. -/
def longest : Nat := 65534

/-- The target that a text denotes. -/
def ofText? (text : String) : Option Target :=
  let cs := text.toList.takeWhile (· != '#')
  let path := cs.takeWhile (· != '?')
  let query := (cs.dropWhile (· != '?')).drop 1
  if text.utf8ByteSize ≤ longest ∧ path.all isPathChar ∧ query.all isQueryChar then
    some ⟨String.ofList path, String.ofList query⟩
  else none

end Target

end JenkinsOperator
