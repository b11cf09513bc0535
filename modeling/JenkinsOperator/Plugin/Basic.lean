import JenkinsOperator.Text.Cut

/-!
# Plugins pinned to a version

A plugin is declared by a token `name:version`. The name is a word over letters, digits, `-` and
`_`; the version may also hold dots. Letters and digits are those of ASCII.

A token is cut at its first colon, so a version never begins before it, and a refused token says
which part is at fault.
-/

namespace JenkinsOperator

/-- A plugin name with the version it is pinned to. -/
structure Plugin where
  name : String
  version : String
  deriving DecidableEq

namespace Plugin

/-- Plugins are ordered by name and then by version. -/
instance : Ord Plugin := ⟨compareLex (compareOn name) (compareOn version)⟩

instance : Std.TransOrd Plugin :=
  inferInstanceAs (Std.TransCmp (compareLex (compareOn name) (compareOn version)))

instance : Std.LawfulEqOrd Plugin where
  eq_of_compare {a b} h := by
    have h' : compareLex (compareOn name) (compareOn version) a b = .eq := h
    rw [compareLex_eq_eq] at h'
    cases a; cases b
    have h₁ := Std.compare_eq_iff_eq.1 h'.1
    have h₂ := Std.compare_eq_iff_eq.1 h'.2
    simp_all

/-- The token of a plugin. -/
def token (p : Plugin) : String := p.name ++ ":" ++ p.version

/-- Whether a character may stand in a plugin name. -/
def isNameChar (c : Char) : Bool := c.isAlphanum || c == '-' || c == '_'

/-- Whether a character may stand in a plugin version. -/
def isVersionChar (c : Char) : Bool := isNameChar c || c == '.'

/-- Whether a text is a plugin name. -/
def validName (s : String) : Bool := !s.isEmpty && s.toList.all isNameChar

/-- Whether a text is a plugin version. -/
def validVersion (s : String) : Bool := !s.isEmpty && s.toList.all isVersionChar

/-- Why a token is no plugin. -/
inductive TokenError where
  /-- There is no colon. -/
  | noColon (token : String)
  /-- What stands before the first colon is no plugin name. -/
  | badName (name token : String)
  /-- What stands after the first colon is no plugin version. -/
  | badVersion (version token : String)
  deriving DecidableEq

/-- The message of a refused token. -/
def TokenError.message : TokenError → String
  | .noColon token => s!"invalid plugin format '{token}', expected 'name:version'"
  | .badName name token => s!"invalid plugin name '{name}' in '{token}'"
  | .badVersion version token => s!"invalid plugin version '{version}' in '{token}'"

/-- The plugin of a token, or the reason why there is none. -/
def ofToken (token : String) : Except TokenError Plugin :=
  match Text.cut? ':' token.toList with
  | none => .error (.noColon token)
  | some (before, after) =>
    let name := String.ofList before
    let version := String.ofList after
    if !validName name then .error (.badName name token)
    else if !validVersion version then .error (.badVersion version token)
    else .ok ⟨name, version⟩

end Plugin

end JenkinsOperator
