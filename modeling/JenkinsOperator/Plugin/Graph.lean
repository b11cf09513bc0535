import JenkinsOperator.Plugin.Conflict

/-!
# The graph of declared plugins

Two groups of declarations, the operator's and the user's, grow into one graph. A declaration is a
root token with the tokens of its dependents. Reading never stops at a bad token: every one is
kept with the place where it stands, and the good ones enter the graph.

Only the two declared levels are looked at. The full closure of dependencies is the business of
whatever installs the plugins.
-/

namespace JenkinsOperator

/-- Root tokens with the tokens of their dependents. -/
abbrev Declarations := OrderedMap String (List String)

/-- A token that is no plugin, with the group and the root under which it was declared. The root is
missing if the token is itself a root. -/
structure InvalidToken where
  group : PluginGroup
  root : Option String
  error : Plugin.TokenError
  deriving DecidableEq

/-- The text of a bad token. -/
def InvalidToken.message (t : InvalidToken) : String :=
  match t.root with
  | some root => s!"{t.group.field}: dependent of root plugin '{root}': {t.error.message}"
  | none => s!"{t.group.field}: root plugin: {t.error.message}"

/-- What is known of a root: its dependents, each once, and the groups that declared it. -/
structure RootEntry where
  dependents : List Plugin
  byOperator : Bool
  byUser : Bool
  deriving DecidableEq

namespace RootEntry

/-- A root that was not declared yet. -/
def empty : RootEntry := ⟨[], false, false⟩

/-- The groups that declared the root, the operator's first. -/
def groups (r : RootEntry) : List PluginGroup :=
  (if r.byOperator then [.operator] else []) ++ if r.byUser then [.user] else []

/-- A list with an element at its end, unless it is there already. -/
def addNew (known : List Plugin) (p : Plugin) : List Plugin :=
  if p ∈ known then known else known ++ [p]

/-- The root after one more declaration of it. -/
def declare (r : RootEntry) (group : PluginGroup) (dependents : List Plugin) : RootEntry where
  dependents := dependents.foldl addNew r.dependents
  byOperator := r.byOperator || group == .operator
  byUser := r.byUser || group == .user

end RootEntry

/-- The merged graph, with the tokens that did not enter it. -/
structure PluginGraph where
  roots : OrderedMap Plugin RootEntry
  invalid : List InvalidToken
  deriving DecidableEq

namespace PluginGraph

/-- The graph of no declarations. -/
def empty : PluginGraph := ⟨.empty, []⟩

/-- The plugins among some tokens. -/
def validIn (tokens : List String) : List Plugin :=
  tokens.filterMap fun t => (Plugin.ofToken t).toOption

/-- The error of a token, if it is no plugin. -/
def errorOf? (token : String) : Option Plugin.TokenError :=
  match Plugin.ofToken token with
  | .ok _ => none
  | .error e => some e

/-- The bad tokens of one declaration, the root before its dependents. -/
def invalidIn (group : PluginGroup) (rootToken : String) (tokens : List String) :
    List InvalidToken :=
  ((errorOf? rootToken).map fun e => ⟨group, none, e⟩).toList
    ++ tokens.filterMap fun t => (errorOf? t).map fun e => ⟨group, some rootToken, e⟩

/-- The graph with one more declaration. -/
def declare (group : PluginGroup) (g : PluginGraph) (declaration : String × List String) :
    PluginGraph where
  roots :=
    match Plugin.ofToken declaration.1 with
    | .error _ => g.roots
    | .ok root =>
      let entry := (g.roots.find? root).getD .empty
      g.roots.insert root (entry.declare group (validIn declaration.2))
  invalid := g.invalid ++ invalidIn group declaration.1 declaration.2

/-- The graph with all declarations of a group, in order of their root tokens. -/
def ingest (g : PluginGraph) (group : PluginGroup) (declarations : Declarations) : PluginGraph :=
  declarations.entries.foldl (declare group) g

/-- The graph of both groups. -/
def ofGroups (operator user : Declarations) : PluginGraph :=
  (empty.ingest .operator operator).ingest .user user

/-- The roots with their dependents. -/
def dependencies (g : PluginGraph) : Dependencies := g.roots.mapValues RootEntry.dependents

/-- The groups that declared a root, the operator's first. -/
def groupsOf (g : PluginGraph) (root : Plugin) : List PluginGroup :=
  ((g.roots.find? root).getD .empty).groups

/-- The version conflicts, each pin with the groups of its root. -/
def conflicts (g : PluginGraph) : List VersionConflict :=
  g.dependencies.conflicts.map fun c => c.located g.groupsOf

/-- Whether every token is a plugin and no name is pinned to two versions. -/
def isValid (g : PluginGraph) : Bool := g.invalid.isEmpty && g.dependencies.consistent

end PluginGraph

end JenkinsOperator
