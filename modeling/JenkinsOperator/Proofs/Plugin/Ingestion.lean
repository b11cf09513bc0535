import Mathlib.Data.List.Basic
import JenkinsOperator.Plugin.Graph
import JenkinsOperator.Proofs.Plugin.Pins

/-!
# What a graph holds of its declarations

A graph grows by calls, each of which takes in the declarations of one group. All declarations of
all calls stand in one list, in the order in which they are taken in, and a graph is what folding
over that list makes of it. For each thing that a graph knows of a root there is a step lemma, of
one declaration, and a run lemma, of a list of them, both from any graph on.

`PluginGraph.records_declarations` puts this together for a graph that grew from nothing: no plugin
and no bad token of the declarations is lost, none is invented, and none is there twice.
-/

namespace JenkinsOperator

/-! ## Declarations one after another -/

/-- A call that takes the declarations of a group into a graph. -/
structure Ingestion where
  group : PluginGroup
  declarations : Declarations

/-- One declaration: a root token with the tokens of its dependents, in a group. -/
structure Declaration where
  group : PluginGroup
  root : String
  dependents : List String

/-- A token where it is declared: in a group, and as a root or under a root token. -/
structure DeclaredToken where
  group : PluginGroup
  root : Option String
  text : String

/-- The declarations of a call, in order of their root tokens. -/
def Ingestion.all (call : Ingestion) : List Declaration :=
  call.declarations.entries.map fun (root, dependents) => ⟨call.group, root, dependents⟩

/-- The declarations of some calls, in the order in which they are taken in. -/
def declarationsOf (calls : List Ingestion) : List Declaration := calls.flatMap Ingestion.all

namespace Declaration

/-- The plugin that is declared as a root, if its token reads. -/
def root? (d : Declaration) : Option Plugin := (Plugin.ofToken d.root).toOption

/-- The plugins that are declared as dependents. -/
def plugins (d : Declaration) : List Plugin := PluginGraph.validIn d.dependents

/-- The tokens of a declaration, the root before its dependents. -/
def tokens (d : Declaration) : List DeclaredToken :=
  ⟨d.group, none, d.root⟩ :: d.dependents.map fun text => ⟨d.group, some d.root, text⟩

end Declaration

/-- A token that does not read, with its error. -/
def DeclaredToken.refused? (t : DeclaredToken) : Option InvalidToken :=
  match Plugin.ofToken t.text with
  | .ok _ => none
  | .error e => some ⟨t.group, t.root, e⟩

/-- The plugins that are listed under a root, in the order in which they are taken in. -/
def listedUnder (root : Plugin) (ds : List Declaration) : List Plugin :=
  (ds.filter fun d => d.root? = some root).flatMap Declaration.plugins

/-- Whether a root is declared in a group. -/
def isDeclared (group : PluginGroup) (root : Plugin) (ds : List Declaration) : Bool :=
  ds.any fun d => d.group == group && d.root? == some root

theorem toOption_eq_some_iff {ε α : Type} {result : Except ε α} {a : α} :
    result.toOption = some a ↔ result = .ok a := by
  cases result with
  | error e => exact ⟨nofun, nofun⟩
  | ok b => exact Option.some_inj.trans ⟨congrArg _, Except.ok.inj⟩

theorem Declaration.root?_eq_some_iff {d : Declaration} {root : Plugin} :
    d.root? = some root ↔ Plugin.ofToken d.root = .ok root := toOption_eq_some_iff

theorem Declaration.mem_plugins_iff {d : Declaration} {p : Plugin} :
    p ∈ d.plugins ↔ ∃ token ∈ d.dependents, Plugin.ofToken token = .ok p := by
  rw [plugins, PluginGraph.validIn, List.mem_filterMap]
  simp only [toOption_eq_some_iff]

/-- A plugin is listed under a root if a declaration with that root has a token for it. -/
theorem mem_listedUnder_iff {root p : Plugin} {ds : List Declaration} :
    p ∈ listedUnder root ds
      ↔ ∃ d ∈ ds, Plugin.ofToken d.root = .ok root
          ∧ ∃ token ∈ d.dependents, Plugin.ofToken token = .ok p := by
  rw [listedUnder, List.mem_flatMap]
  simp only [List.mem_filter, decide_eq_true_eq, Declaration.root?_eq_some_iff,
    Declaration.mem_plugins_iff, and_assoc]

theorem isDeclared_iff {group : PluginGroup} {root : Plugin} {ds : List Declaration} :
    isDeclared group root ds = true
      ↔ ∃ d ∈ ds, d.group = group ∧ Plugin.ofToken d.root = .ok root := by
  rw [isDeclared, List.any_eq_true]
  simp only [Bool.and_eq_true, beq_iff_eq, Declaration.root?_eq_some_iff]

/-! ## Lists that grow by what is new -/

namespace RootEntry

/-- Adding what is new loses nothing that was known. -/
theorem mem_addNew_iff {known : List Plugin} {p q : Plugin} :
    q ∈ addNew known p ↔ q ∈ known ∨ q = p := by
  unfold addNew
  split
  case isTrue old =>
    refine ⟨.inl, fun either => either.elim id ?_⟩
    rintro rfl
    exact old
  case isFalse => rw [List.mem_append, List.mem_singleton]

theorem mem_foldl_addNew_iff {known ps : List Plugin} {q : Plugin} :
    q ∈ ps.foldl addNew known ↔ q ∈ known ∨ q ∈ ps := by
  induction ps generalizing known with
  | nil => simp only [List.foldl_nil, List.not_mem_nil, or_false]
  | cons p ps ih => rw [List.foldl_cons, ih, mem_addNew_iff, List.mem_cons, or_assoc]

/-- What is known already is not added. -/
theorem foldl_addNew_eq_self {known ps : List Plugin} (old : ∀ p ∈ ps, p ∈ known) :
    ps.foldl addNew known = known := by
  induction ps with
  | nil => rfl
  | cons p ps ih =>
    rw [List.foldl_cons, addNew, if_pos (old p List.mem_cons_self)]
    exact ih fun q member => old q (List.mem_cons_of_mem p member)

/-- From nothing on, every plugin stands where it occurred first. -/
theorem foldl_addNew_ordered (ps : List Plugin) :
    (ps.foldl addNew []).Pairwise fun p q => ps.idxOf p < ps.idxOf q := by
  -- The induction is from the end: a later element does not move the first occurrences before it.
  induction ps using List.reverseRecOn with
  | nil => exact .nil
  | append_singleton ps last ih =>
    have earlier {p : Plugin} (member : p ∈ ps.foldl addNew []) : p ∈ ps :=
      (mem_foldl_addNew_iff.1 member).resolve_left List.not_mem_nil
    have kept : (ps.foldl addNew []).Pairwise fun p q =>
        (ps ++ [last]).idxOf p < (ps ++ [last]).idxOf q := by
      refine ih.imp_of_mem fun memberp memberq before => ?_
      rw [List.idxOf_append_of_mem (earlier memberp), List.idxOf_append_of_mem (earlier memberq)]
      exact before
    rw [List.foldl_append, List.foldl_cons, List.foldl_nil, addNew]
    split
    case isTrue => exact kept
    case isFalse fresh =>
      refine List.pairwise_append.2 ⟨kept, List.pairwise_singleton _ _, fun p member q last' => ?_⟩
      obtain rfl := List.mem_singleton.1 last'
      have new : q ∉ ps := fun old => fresh (mem_foldl_addNew_iff.2 (.inr old))
      rw [List.idxOf_append_of_mem (earlier member), List.idxOf_append_of_notMem new]
      exact Nat.lt_add_right _ (List.idxOf_lt_length_of_mem (earlier member))

/-- Whether a group declared the root. -/
def isDeclaredBy (r : RootEntry) : PluginGroup → Bool
  | .operator => r.byOperator
  | .user => r.byUser

theorem isDeclaredBy_declare (r : RootEntry) (group other : PluginGroup) (ps : List Plugin) :
    (r.declare group ps).isDeclaredBy other = (r.isDeclaredBy other || group == other) := by
  cases other with
  | operator => rfl
  | user => rfl

theorem groups_eq_filter (r : RootEntry) : r.groups = [.operator, .user].filter r.isDeclaredBy := by
  obtain ⟨dependents, byOperator, byUser⟩ := r
  cases byOperator <;> cases byUser <;> rfl

theorem groups_sublist (r : RootEntry) : r.groups.Sublist [.operator, .user] := by
  rw [groups_eq_filter]
  exact List.filter_sublist

theorem mem_groups_iff {r : RootEntry} {group : PluginGroup} :
    group ∈ r.groups ↔ r.isDeclaredBy group = true := by
  have known : group ∈ [.operator, PluginGroup.user] := by cases group <;> decide
  rw [groups_eq_filter, List.mem_filter]
  exact and_iff_right known

/-- A declaration of what is known already changes nothing. -/
theorem declare_eq_self {r : RootEntry} {group : PluginGroup} {ps : List Plugin}
    (declared : r.isDeclaredBy group = true) (known : ∀ p ∈ ps, p ∈ r.dependents) :
    r.declare group ps = r := by
  obtain ⟨dependents, byOperator, byUser⟩ := r
  cases group <;> cases declared <;> simp [declare, foldl_addNew_eq_self known]

end RootEntry

namespace PluginGraph

/-! ## One declaration -/

/-- What is known of a root, whether it was declared or not. -/
def entryOf (g : PluginGraph) (root : Plugin) : RootEntry := (g.roots.find? root).getD .empty

/-- The graph with one more declaration. -/
def take (g : PluginGraph) (d : Declaration) : PluginGraph :=
  declare d.group g (d.root, d.dependents)

variable {g : PluginGraph} {d : Declaration} {root : Plugin}

theorem roots_take_of_root (h : d.root? = some root) :
    (g.take d).roots = g.roots.insert root ((g.entryOf root).declare d.group d.plugins) := by
  rw [take, declare, Declaration.root?_eq_some_iff.1 h]
  rfl

/-- A declaration whose root is refused leaves the roots as they are. -/
theorem roots_take_of_no_root (h : d.root? = none) : (g.take d).roots = g.roots := by
  rw [take, declare]
  cases read : Plugin.ofToken d.root with
  | error e => rfl
  | ok p =>
    rw [Declaration.root?, read] at h
    cases h

/-- A declaration changes what is known of its root, and of no other. -/
theorem entryOf_take (g : PluginGraph) (d : Declaration) (root : Plugin) :
    (g.take d).entryOf root
      = if d.root? = some root then (g.entryOf root).declare d.group d.plugins
        else g.entryOf root := by
  split
  case isTrue same =>
    rw [entryOf, roots_take_of_root same, OrderedMap.find?_insert_self, Option.getD_some]
  case isFalse differ =>
    cases own : d.root? with
    | none => rw [entryOf, roots_take_of_no_root own, entryOf]
    | some p =>
      have ne : root ≠ p := by
        rintro rfl
        exact differ own
      rw [entryOf, roots_take_of_root own, OrderedMap.find?_insert_of_ne _ _ ne, entryOf]

/-- A declaration adds its root, if it has one, and no other. -/
theorem mem_roots_take_iff :
    root ∈ (g.take d).roots.keys ↔ root ∈ g.roots.keys ∨ d.root? = some root := by
  cases own : d.root? with
  | none =>
    rw [roots_take_of_no_root own]
    simp only [reduceCtorEq, or_false]
  | some p =>
    rw [roots_take_of_root own, OrderedMap.mem_keys_insert, or_comm, Option.some_inj]
    exact or_congr_right eq_comm

theorem invalidIn_eq (group : PluginGroup) (root : String) (dependents : List String) :
    invalidIn group root dependents
      = (Declaration.tokens ⟨group, root, dependents⟩).filterMap DeclaredToken.refused? := by
  have refused (t : DeclaredToken) :
      t.refused? = (errorOf? t.text).map fun e => ⟨t.group, t.root, e⟩ := by
    unfold DeclaredToken.refused? errorOf?
    cases Plugin.ofToken t.text with
    | error e => rfl
    | ok p => rfl
  rw [invalidIn, Declaration.tokens, List.filterMap_cons, List.filterMap_map]
  simp only [refused, Function.comp_def]
  cases errorOf? root with
  | none => rfl
  | some e => rfl

/-- A declaration adds the tokens of it that are refused, in order. -/
theorem invalid_take (g : PluginGraph) (d : Declaration) :
    (g.take d).invalid = g.invalid ++ d.tokens.filterMap DeclaredToken.refused? := by
  rw [take, declare, invalidIn_eq]

/-! ## Many declarations -/

/-- The graph with the declarations of all calls. -/
def ingestAll (g : PluginGraph) (calls : List Ingestion) : PluginGraph :=
  calls.foldl (fun g call => g.ingest call.group call.declarations) g

/-- Taking in the declarations of a group is taking in one after the other. -/
theorem ingest_eq_foldl (g : PluginGraph) (call : Ingestion) :
    g.ingest call.group call.declarations = call.all.foldl take g := by
  rw [ingest, Ingestion.all, List.foldl_map]
  rfl

/-- Taking in calls is taking in their declarations, one after another. -/
theorem ingestAll_eq_foldl (g : PluginGraph) (calls : List Ingestion) :
    g.ingestAll calls = (declarationsOf calls).foldl take g := by
  induction calls generalizing g with
  | nil => rfl
  | cons call calls ih =>
    rw [ingestAll, List.foldl_cons, ← ingestAll, ih, ingest_eq_foldl, declarationsOf,
      declarationsOf, List.flatMap_cons, List.foldl_append]

variable (g : PluginGraph) (ds : List Declaration)

/-- What is known of a root after several declarations is what was known before, with all that they
list under it. -/
theorem dependents_foldl_take (root : Plugin) :
    ((ds.foldl take g).entryOf root).dependents
      = (listedUnder root ds).foldl RootEntry.addNew (g.entryOf root).dependents := by
  -- Only declarations of this root count, and what they list is added in one go.
  induction ds generalizing g with
  | nil => rfl
  | cons d ds ih =>
    rw [List.foldl_cons, ih, entryOf_take, listedUnder, listedUnder, List.filter_cons]
    by_cases same : d.root? = some root
    · rw [if_pos same, if_pos (decide_eq_true same), List.flatMap_cons, List.foldl_append]
      rfl
    · rw [if_neg same, if_neg (by simpa using same)]

theorem isDeclaredBy_foldl_take (root : Plugin) (group : PluginGroup) :
    ((ds.foldl take g).entryOf root).isDeclaredBy group
      = ((g.entryOf root).isDeclaredBy group || isDeclared group root ds) := by
  induction ds generalizing g with
  | nil => exact (Bool.or_false _).symm
  | cons d ds ih =>
    rw [List.foldl_cons, ih, entryOf_take, isDeclared, isDeclared, List.any_cons, ← Bool.or_assoc]
    congr 1
    split
    case isTrue same => rw [RootEntry.isDeclaredBy_declare, same, beq_self_eq_true, Bool.and_true]
    case isFalse differ => rw [beq_eq_false_iff_ne.2 differ, Bool.and_false, Bool.or_false]

theorem mem_roots_foldl_take_iff (root : Plugin) :
    root ∈ (ds.foldl take g).roots.keys
      ↔ root ∈ g.roots.keys ∨ ∃ d ∈ ds, Plugin.ofToken d.root = .ok root := by
  induction ds generalizing g with
  | nil => simp only [List.foldl_nil, List.not_mem_nil, false_and, exists_false, or_false]
  | cons d ds ih =>
    rw [List.foldl_cons, ih, mem_roots_take_iff, List.exists_mem_cons_iff, or_assoc,
      Declaration.root?_eq_some_iff]

/-- The tokens that are refused add up in the order of the declarations. -/
theorem invalid_foldl_take :
    (ds.foldl take g).invalid
      = g.invalid ++ (ds.flatMap Declaration.tokens).filterMap DeclaredToken.refused? := by
  induction ds generalizing g with
  | nil => exact (List.append_nil _).symm
  | cons d ds ih =>
    rw [List.foldl_cons, ih, invalid_take, List.append_assoc, List.flatMap_cons,
      List.filterMap_append]

/-! ## Reading a graph -/

variable {g} in
theorem find?_dependencies_iff {root : Plugin} {ps : List Plugin} :
    g.dependencies.find? root = some ps
      ↔ root ∈ g.roots.keys ∧ (g.entryOf root).dependents = ps := by
  rw [dependencies, OrderedMap.find?_mapValues, OrderedMap.mem_keys_iff, entryOf]
  cases g.roots.find? root with
  | none => exact ⟨nofun, fun ⟨⟨entry, found⟩, _⟩ => nomatch found⟩
  | some entry => exact Option.some_inj.trans ⟨fun same => ⟨⟨entry, rfl⟩, same⟩, And.right⟩

theorem keys_dependencies : g.dependencies.keys = g.roots.keys := by
  rw [OrderedMap.keys, OrderedMap.keys, dependencies, OrderedMap.mapValues, List.map_map]
  rfl

/-- Every requirement of a conflict has the groups of its root. -/
theorem groups_of_conflict {c : VersionConflict} {r : Requirement} (member : c ∈ g.conflicts)
    (asked : r ∈ c.requirements) : r.groups = (g.entryOf r.root).groups := by
  obtain ⟨bare, -, rfl⟩ := List.mem_map.1 member
  obtain ⟨requirement, -, rfl⟩ := List.mem_map.1 asked
  rfl

/-! ## A graph that grew from nothing -/

/-- The dependents of a root stand in the order in which they were listed first. -/
theorem dependents_ordered (root : Plugin) :
    ((ds.foldl take empty).entryOf root).dependents.Pairwise fun p q =>
      (listedUnder root ds).idxOf p < (listedUnder root ds).idxOf q := by
  rw [dependents_foldl_take]
  exact RootEntry.foldl_addNew_ordered _

/-- No dependent is recorded twice. -/
theorem nodup_dependents (root : Plugin) :
    ((ds.foldl take empty).entryOf root).dependents.Nodup := by
  refine (dependents_ordered ds root).imp ?_
  rintro p _ before rfl
  exact Nat.lt_irrefl _ before

/-- The dependents of a root are the plugins that are listed under it. -/
theorem mem_dependents_iff (root p : Plugin) :
    p ∈ ((ds.foldl take empty).entryOf root).dependents ↔ p ∈ listedUnder root ds := by
  rw [dependents_foldl_take, RootEntry.mem_foldl_addNew_iff]
  exact or_iff_right List.not_mem_nil

/-- The roots of a graph are those that are declared. -/
theorem mem_roots_iff (root : Plugin) :
    root ∈ (ds.foldl take empty).roots.keys ↔ ∃ d ∈ ds, Plugin.ofToken d.root = .ok root :=
  (mem_roots_foldl_take_iff empty ds root).trans (or_iff_right List.not_mem_nil)

/-- What a graph is to hold of the calls that went into it. -/
structure Records (g : PluginGraph) (calls : List Ingestion) : Prop where
  /-- The roots are the plugins that were declared as roots. -/
  roots (root : Plugin) :
    root ∈ g.dependencies.keys ↔ ∃ d ∈ declarationsOf calls, Plugin.ofToken d.root = .ok root
  /-- The dependents of a root are the plugins that were listed under it. -/
  dependents (root p : Plugin) :
    (∃ ps, g.dependencies.find? root = some ps ∧ p ∈ ps)
      ↔ ∃ d ∈ declarationsOf calls, Plugin.ofToken d.root = .ok root
          ∧ ∃ token ∈ d.dependents, Plugin.ofToken token = .ok p
  /-- None of them is there twice, and each stands where it occurred first. -/
  inOrder (root : Plugin) (ps : List Plugin) (found : g.dependencies.find? root = some ps) :
    ps.Nodup ∧ ps.Pairwise fun p q =>
      (listedUnder root (declarationsOf calls)).idxOf p
        < (listedUnder root (declarationsOf calls)).idxOf q
  /-- The requirements of a conflict have the groups in which their roots were declared, each once
  and the operator's first. -/
  groups (c : VersionConflict) (member : c ∈ g.conflicts) (r : Requirement)
    (asked : r ∈ c.requirements) :
    r.groups.Sublist [.operator, .user]
      ∧ ∀ group, group ∈ r.groups
          ↔ ∃ d ∈ declarationsOf calls, d.group = group ∧ Plugin.ofToken d.root = .ok r.root
  /-- The bad tokens are those that do not read, one for each occurrence and in order. -/
  invalid :
    g.invalid = ((declarationsOf calls).flatMap Declaration.tokens).filterMap DeclaredToken.refused?

/-- A graph holds what went into it, all of it and nothing else, each thing once. The declarations
of a call are taken in by the bytes of their root tokens. -/
theorem records_declarations (calls : List Ingestion) :
    (empty.ingestAll calls).Records calls
      ∧ ∀ call ∈ calls,
          (call.all.map (·.root)).Pairwise fun s t => Text.bytes s < Text.bytes t := by
  rw [ingestAll_eq_foldl]
  refine ⟨⟨?roots, ?dependents, ?inOrder, ?groups, invalid_foldl_take empty _⟩, ?keys⟩
  case roots =>
    intro root
    rw [keys_dependencies, mem_roots_iff]
  case dependents =>
    intro root p
    rw [← mem_listedUnder_iff, ← mem_dependents_iff]
    constructor
    · rintro ⟨ps, found, member⟩
      obtain ⟨-, rfl⟩ := find?_dependencies_iff.1 found
      exact member
    · intro member
      have listed := (mem_dependents_iff _ root p).1 member
      obtain ⟨d, declared, read, -⟩ := mem_listedUnder_iff.1 listed
      have isRoot := (mem_roots_iff _ root).2 ⟨d, declared, read⟩
      exact ⟨_, find?_dependencies_iff.2 ⟨isRoot, rfl⟩, member⟩
  case inOrder =>
    intro root ps found
    obtain ⟨-, rfl⟩ := find?_dependencies_iff.1 found
    exact ⟨nodup_dependents _ root, dependents_ordered _ root⟩
  case groups =>
    intro c member r asked
    rw [groups_of_conflict _ member asked]
    refine ⟨RootEntry.groups_sublist _, fun group => ?_⟩
    rw [RootEntry.mem_groups_iff, isDeclaredBy_foldl_take, ← isDeclared_iff]
    cases group <;> rfl
  case keys =>
    intro call _
    rw [Ingestion.all, List.map_map]
    refine call.declarations.keys_ordered.imp fun lt => ?_
    exact (Text.lt_iff_bytes_lt _ _).1 ((Text.compare_eq_lt_iff _ _).1 lt)

/-- Calls with a bad root that has a bad dependent, and a root of both groups that is taken in
again. -/
def growing : List Ingestion :=
  let user : Declarations :=
    .ofList [("structs:1.14", []), ("git:3.9.1", ["scm-api:2.3.0", "structs:1.17"])]
  [⟨.operator, .ofList [("git:3.9.1", ["structs:1.17", "mailer"]), ("git", ["structs"])]⟩,
    ⟨.user, user⟩, ⟨.user, user⟩]

/-- The bad tokens are listed in order, the merged root has its dependents by their first
occurrence, and is reported with both groups. -/
theorem records_declarations_growing :
    (empty.ingestAll growing).invalid
        = [⟨.operator, none, .noColon "git"⟩, ⟨.operator, some "git", .noColon "structs"⟩,
            ⟨.operator, some "git:3.9.1", .noColon "mailer"⟩]
      ∧ (empty.ingestAll growing).dependencies.find? ⟨"git", "3.9.1"⟩
          = some [⟨"structs", "1.17"⟩, ⟨"scm-api", "2.3.0"⟩]
      ∧ [⟨"structs", "1.17"⟩, (⟨"scm-api", "2.3.0"⟩ : Plugin)].Nodup
      ∧ (⟨"structs", [⟨"1.17", ⟨"git", "3.9.1"⟩, [.operator, .user]⟩,
          ⟨"1.14", ⟨"structs", "1.14"⟩, [.user]⟩]⟩ : VersionConflict)
            ∈ (empty.ingestAll growing).conflicts
      ∧ (∃ d ∈ declarationsOf growing,
          d.group = .user ∧ Plugin.ofToken d.root = .ok ⟨"git", "3.9.1"⟩) := by
  obtain ⟨records, -⟩ := records_declarations growing
  have found : (empty.ingestAll growing).dependencies.find? ⟨"git", "3.9.1"⟩
      = some [⟨"structs", "1.17"⟩, ⟨"scm-api", "2.3.0"⟩] := by decide +kernel
  have reported : (⟨"structs", [⟨"1.17", ⟨"git", "3.9.1"⟩, [.operator, .user]⟩,
      ⟨"1.14", ⟨"structs", "1.14"⟩, [.user]⟩]⟩ : VersionConflict)
        ∈ (empty.ingestAll growing).conflicts := by
    decide +kernel
  refine ⟨?_, found, (records.inOrder _ _ found).1, reported, ?_⟩
  · rw [records.invalid]
    decide +kernel
  · exact ((records.groups _ reported _ List.mem_cons_self).2 .user).1 (by decide)

end PluginGraph

end JenkinsOperator
