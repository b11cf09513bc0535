import JenkinsOperator.Data.OrderedMap
import JenkinsOperator.Plugin.Basic

/-!
# Version conflicts

Every root of a dependency map pins its own name to its own version, and every dependent that is
listed under it pins its name to its version on the root's behalf. The pins are gathered by name, root
by root, a root's own pin before those of its dependents. A name is in conflict when its pins ask for
more than one version, and then the conflict lists all of them, each occurrence once.
-/

namespace JenkinsOperator

/-- Roots with the dependents they list. -/
abbrev Dependencies := OrderedMap Plugin (List Plugin)

/-- A declaration group of plugins. -/
inductive PluginGroup where
  | operator
  | user
  deriving DecidableEq

/-- The field of the document that holds a group. -/
def PluginGroup.field : PluginGroup → String
  | .operator => "operatorPlugins"
  | .user => "plugins"

/-- One demand on the version of a plugin name: the root that makes it, and the groups in which that
root was declared, as far as they are known. -/
structure Requirement where
  version : String
  root : Plugin
  groups : List PluginGroup
  deriving DecidableEq

/-- A plugin name that is pinned to different versions, with every pin on it. -/
structure VersionConflict where
  name : String
  requirements : List Requirement
  deriving DecidableEq

/-- The text of a requirement. -/
def Requirement.message (r : Requirement) : String :=
  let groups := if r.groups.isEmpty then ""
    else " (" ++ ", ".intercalate (r.groups.map PluginGroup.field) ++ ")"
  s!"'{r.version}' by '{r.root.token}'" ++ groups

/-- The text of a conflict. -/
def VersionConflict.message (c : VersionConflict) : String :=
  s!"plugin '{c.name}' is required at incompatible versions:"
    ++ String.join (c.requirements.map fun r => " " ++ r.message ++ ";")

/-- The conflict with the groups in which each root was declared. -/
def VersionConflict.located (groupsOf : Plugin → List PluginGroup) (c : VersionConflict) :
    VersionConflict :=
  { c with requirements := c.requirements.map fun r => { r with groups := groupsOf r.root } }

/-- The requirements on each plugin name, in the order in which they were met. -/
abbrev PinTable := OrderedMap String (List Requirement)

namespace PinTable

/-- The requirements on a name. -/
def requirementsOn (table : PinTable) (name : String) : List Requirement :=
  (table.find? name).getD []

/-- The table with one more pin, put on a plugin by a root. -/
def pin (root : Plugin) (table : PinTable) (p : Plugin) : PinTable :=
  table.insert p.name (table.requirementsOn p.name ++ [⟨p.version, root, []⟩])

/-- The table with the pins of one root: its own, then those of its dependents. -/
def pinRoot (table : PinTable) (entry : Plugin × List Plugin) : PinTable :=
  (entry.1 :: entry.2).foldl (pin entry.1) table

end PinTable

/-- The versions that some requirements ask for, each once. -/
def versionsOf (requirements : List Requirement) : List String :=
  (OrderedMap.ofList (requirements.map fun r => (r.version, ()))).keys

/-- Whether requirements ask for more than one version. -/
def disagree (requirements : List Requirement) : Bool :=
  decide (1 < (versionsOf requirements).length)

namespace Dependencies

/-- All pins, gathered by name. -/
def pinTable (deps : Dependencies) : PinTable := deps.entries.foldl PinTable.pinRoot .empty

/-- The conflicts in ascending order of their names. Where a root was declared is not known here. -/
def conflicts (deps : Dependencies) : List VersionConflict :=
  (deps.pinTable.entries.filter fun e => disagree e.2).map fun e => ⟨e.1, e.2⟩

/-- Whether no name is pinned to two versions. -/
def consistent (deps : Dependencies) : Bool := deps.conflicts.isEmpty

end Dependencies

end JenkinsOperator
