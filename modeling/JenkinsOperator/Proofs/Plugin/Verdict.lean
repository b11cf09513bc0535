import Mathlib.Data.List.Perm.Basic
import JenkinsOperator.Proofs.Plugin.Ingestion

/-!
# The verdict on declared plugins

A graph is valid if every token reads and no name is pinned to two versions. What it pins is what
its declarations pin (`PluginGraph.pins_foldl_take_iff`), whatever group they are in and however
they are spread over calls, so the verdict has a say on sets of declarations only.
`PluginGraph.verdict_compositional` draws the conclusions: declarations can be regrouped, split and
reordered, two groups are valid together if each is and they agree, further declarations only ever
add to what is wrong, and what was taken in before adds nothing.
-/

namespace JenkinsOperator

/-! ## What declarations pin -/

/-- A root token with the tokens under it pins a plugin: the root reads, and the plugin is the root
or one of the dependents that read. -/
def TokensPin (root : String) (dependents : List String) (p : Plugin) : Prop :=
  ∃ r, Plugin.ofToken root = .ok r ∧ (p = r ∨ ∃ token ∈ dependents, Plugin.ofToken token = .ok p)

/-- A root token and all tokens under it read. -/
def TokensRead (root : String) (dependents : List String) : Prop :=
  ∀ token ∈ root :: dependents, ∃ p, Plugin.ofToken token = .ok p

namespace Declaration

/-- A declaration pins a plugin. -/
def Pins (d : Declaration) (p : Plugin) : Prop := TokensPin d.root d.dependents p

/-- Every token of a declaration reads. -/
def Reads (d : Declaration) : Prop := TokensRead d.root d.dependents

theorem refused?_eq_none_iff {t : DeclaredToken} :
    t.refused? = none ↔ ∃ p, Plugin.ofToken t.text = .ok p := by
  unfold DeclaredToken.refused?
  cases Plugin.ofToken t.text with
  | error e => exact ⟨nofun, nofun⟩
  | ok p => exact ⟨fun _ => ⟨p, rfl⟩, fun _ => rfl⟩

/-- Nothing of a declaration is refused if and only if all of it can be read. -/
theorem refused_eq_nil_iff {d : Declaration} :
    d.tokens.filterMap DeclaredToken.refused? = [] ↔ d.Reads := by
  rw [List.filterMap_eq_nil_iff, tokens, Reads, TokensRead, List.forall_mem_cons,
    List.forall_mem_cons, List.forall_mem_map]
  simp only [refused?_eq_none_iff]

end Declaration

namespace PluginGraph

variable {g h : PluginGraph}

/-- A graph pins its roots and their dependents. -/
theorem pins_dependencies_iff {p : Plugin} :
    g.dependencies.Pins p
      ↔ ∃ root ∈ g.roots.keys, p = root ∨ p ∈ (g.entryOf root).dependents := by
  constructor
  · rintro ⟨⟨root, ps⟩, listed, pinned⟩
    obtain ⟨declared, rfl⟩ := find?_dependencies_iff.1 (OrderedMap.mem_entries_iff.1 listed)
    exact ⟨root, declared, List.mem_cons.1 pinned⟩
  · rintro ⟨root, declared, pinned⟩
    refine ⟨(root, (g.entryOf root).dependents), ?_, List.mem_cons.2 pinned⟩
    exact OrderedMap.mem_entries_iff.2 (find?_dependencies_iff.2 ⟨declared, rfl⟩)

theorem mem_roots_of_dependent {root p : Plugin} (member : p ∈ (g.entryOf root).dependents) :
    root ∈ g.roots.keys := by
  rw [entryOf] at member
  cases found : g.roots.find? root with
  | none =>
    rw [found] at member
    cases member
  | some entry => exact OrderedMap.mem_keys_iff.2 ⟨entry, found⟩

/-- A graph pins what it pinned before, and what the declarations that it took in pin. -/
theorem pins_foldl_take_iff (g : PluginGraph) (ds : List Declaration) (p : Plugin) :
    (ds.foldl take g).dependencies.Pins p ↔ g.dependencies.Pins p ∨ ∃ d ∈ ds, d.Pins p := by
  rw [pins_dependencies_iff, pins_dependencies_iff]
  simp only [mem_roots_foldl_take_iff, dependents_foldl_take, RootEntry.mem_foldl_addNew_iff,
    mem_listedUnder_iff]
  constructor
  · rintro ⟨root, declared, rfl | known | ⟨d, member, read, listed⟩⟩
    · -- The plugin is a root itself, of the graph before or of a declaration.
      rcases declared with old | ⟨d, member, read⟩
      · exact .inl ⟨p, old, .inl rfl⟩
      · exact .inr ⟨d, member, p, read, .inl rfl⟩
    · exact .inl ⟨root, mem_roots_of_dependent known, .inr known⟩
    · exact .inr ⟨d, member, root, read, .inr listed⟩
  · rintro (⟨root, declared, pinned⟩ | ⟨d, member, root, read, pinned⟩)
    · exact ⟨root, .inl declared, pinned.imp id .inl⟩
    · refine ⟨root, .inr ⟨d, member, read⟩, pinned.imp id fun listed => ?_⟩
      exact .inr ⟨d, member, read, listed⟩

theorem invalid_foldl_take_eq_nil_iff (g : PluginGraph) (ds : List Declaration) :
    (ds.foldl take g).invalid = [] ↔ g.invalid = [] ∧ ∀ d ∈ ds, d.Reads := by
  rw [invalid_foldl_take, List.append_eq_nil_iff, List.filterMap_flatMap, List.flatMap_eq_nil_iff]
  simp only [Declaration.refused_eq_nil_iff]

/-- A graph is valid if no token was refused and no name is pinned twice. -/
theorem isValid_iff :
    g.isValid = true ↔ g.invalid = [] ∧ ∀ name, ¬g.dependencies.PinsTwice name := by
  rw [isValid, Bool.and_eq_true, List.isEmpty_iff, Dependencies.consistent_iff]

theorem conflicts_names (g : PluginGraph) :
    g.conflicts.map (·.name) = g.dependencies.conflicts.map (·.name) := by
  rw [conflicts, List.map_map]
  rfl

/-! ## The same declarations, grouped and ordered in another way -/

/-- Two lists of declarations with the same root tokens, and the same dependents under each. -/
structure SameDeclared (ds ds' : List Declaration) : Prop where
  roots (root : String) : (∃ d ∈ ds, d.root = root) ↔ ∃ d ∈ ds', d.root = root
  dependents (root token : String) :
    (∃ d ∈ ds, d.root = root ∧ token ∈ d.dependents)
      ↔ ∃ d ∈ ds', d.root = root ∧ token ∈ d.dependents

/-- Two graphs with the same verdict, the same roots and edges, and the same conflicts up to the
order of their requirements and the groups that are named in them. -/
structure Alike (g h : PluginGraph) : Prop where
  valid : g.isValid = h.isValid
  roots : g.dependencies.keys = h.dependencies.keys
  edges (root p : Plugin) :
    (∃ ps, g.dependencies.find? root = some ps ∧ p ∈ ps)
      ↔ ∃ ps, h.dependencies.find? root = some ps ∧ p ∈ ps
  conflicts : List.Forall₂ (fun c c' => c.name = c'.name
      ∧ (c.requirements.map fun r => (r.version, r.root)).Perm
          (c'.requirements.map fun r => (r.version, r.root))) g.conflicts h.conflicts

namespace SameDeclared

variable {ds ds' : List Declaration}

theorem reads (same : SameDeclared ds ds') (reads : ∀ d ∈ ds, d.Reads) : ∀ d ∈ ds', d.Reads := by
  intro d' member token declared
  rcases List.mem_cons.1 declared with rfl | dependent
  · obtain ⟨d, member, root⟩ := (same.roots d'.root).2 ⟨d', member, rfl⟩
    exact root ▸ reads d member d.root List.mem_cons_self
  · obtain ⟨d, member, -, dependent⟩ :=
      (same.dependents d'.root token).2 ⟨d', member, rfl, dependent⟩
    exact reads d member token (List.mem_cons_of_mem _ dependent)

theorem symm (same : SameDeclared ds ds') : SameDeclared ds' ds :=
  ⟨fun root => (same.roots root).symm, fun root token => (same.dependents root token).symm⟩

theorem root (same : SameDeclared ds ds') {root : Plugin}
    (declared : ∃ d ∈ ds, Plugin.ofToken d.root = .ok root) :
    ∃ d ∈ ds', Plugin.ofToken d.root = .ok root := by
  obtain ⟨d, member, read⟩ := declared
  obtain ⟨d', member', root⟩ := (same.roots d.root).1 ⟨d, member, rfl⟩
  exact ⟨d', member', root ▸ read⟩

theorem listed (same : SameDeclared ds ds') {root p : Plugin} (listed : p ∈ listedUnder root ds) :
    p ∈ listedUnder root ds' := by
  obtain ⟨d, member, read, token, dependent, reads⟩ := mem_listedUnder_iff.1 listed
  obtain ⟨d', member', root, dependent'⟩ :=
    (same.dependents d.root token).1 ⟨d, member, rfl, dependent⟩
  exact mem_listedUnder_iff.2 ⟨d', member', root ▸ read, token, dependent', reads⟩

end SameDeclared

theorem requirementsIn_perm {name : String} {root : Plugin} {ps qs : List Plugin}
    (perm : ps.Perm qs) :
    (requirementsIn name (root, ps)).Perm (requirementsIn name (root, qs)) :=
  ((perm.cons root).filter _).map _

/-- The requirements on a name, up to their order, are known from the roots and the sets of their
dependents. -/
theorem requirementsOn_perm (keys : g.dependencies.keys = h.dependencies.keys)
    (perm : ∀ root, (g.entryOf root).dependents.Perm (h.entryOf root).dependents) (name : String) :
    (g.dependencies.requirementsOn name).Perm (h.dependencies.requirementsOn name) := by
  have through (k : PluginGraph) : k.dependencies.requirementsOn name
      = k.dependencies.keys.flatMap fun root =>
          requirementsIn name (root, (k.entryOf root).dependents) := by
    rw [Dependencies.requirementsOn, OrderedMap.entries_eq_map_keys k.dependencies [],
      List.flatMap_map]
    refine List.flatMap_congr fun root declared => ?_
    rw [find?_dependencies_iff.2 ⟨keys_dependencies k ▸ declared, rfl⟩]
    rfl
  rw [through g, through h, keys]
  exact List.Perm.flatMap_left _ fun root _ => requirementsIn_perm (perm root)

/-- Conflicts are known from their names: each has the requirements on its name. -/
theorem conflicts_eq_map_names (g : PluginGraph) :
    g.conflicts = (g.conflicts.map (·.name)).map fun name =>
      VersionConflict.located g.groupsOf ⟨name, g.dependencies.requirementsOn name⟩ := by
  rw [conflicts_names, conflicts, List.map_map]
  refine List.map_congr_left fun c member => ?_
  have whole : c = ⟨c.name, g.dependencies.requirementsOn c.name⟩ := by
    rw [← (Dependencies.mem_conflicts_iff.1 member).2]
  exact congrArg (VersionConflict.located g.groupsOf) whole

theorem located_untagged (groupsOf : Plugin → List PluginGroup) (c : VersionConflict) :
    (c.located groupsOf).requirements.map (fun r => (r.version, r.root))
      = c.requirements.map fun r => (r.version, r.root) := by
  rw [VersionConflict.located, List.map_map]
  rfl

/-- Graphs of the same declarations are alike. -/
theorem alike_of_sameDeclared {ds ds' : List Declaration} (same : SameDeclared ds ds') :
    (ds.foldl take empty).Alike (ds'.foldl take empty) := by
  have keys : (ds.foldl take empty).dependencies.keys
      = (ds'.foldl take empty).dependencies.keys := by
    apply OrderedMap.keys_eq_of_mem_iff
    intro root
    rw [keys_dependencies, keys_dependencies, mem_roots_iff, mem_roots_iff]
    exact ⟨same.root, same.symm.root⟩
  have perm (root : Plugin) : ((ds.foldl take empty).entryOf root).dependents.Perm
      ((ds'.foldl take empty).entryOf root).dependents := by
    rw [List.perm_ext_iff_of_nodup (nodup_dependents ds root) (nodup_dependents ds' root)]
    intro p
    rw [mem_dependents_iff, mem_dependents_iff]
    exact ⟨same.listed, same.symm.listed⟩
  have twice (name : String) : (ds.foldl take empty).dependencies.PinsTwice name
      ↔ (ds'.foldl take empty).dependencies.PinsTwice name := by
    have pins (p : Plugin) : (ds.foldl take empty).dependencies.Pins p
        ↔ (ds'.foldl take empty).dependencies.Pins p := by
      simp only [pins_dependencies_iff, ← keys_dependencies, keys, (perm _).mem_iff]
    simp only [Dependencies.PinsTwice, pins]
  -- Both lists of names are in ascending order, so it is enough that they have the same members.
  have names : (ds.foldl take empty).conflicts.map (·.name)
      = (ds'.foldl take empty).conflicts.map (·.name) := by
    rw [conflicts_names, conflicts_names]
    refine (Dependencies.conflicts_names_ordered _).eq_of_mem_iff
      (Dependencies.conflicts_names_ordered _) fun name => ?_
    rw [Dependencies.mem_conflicts_names_iff, Dependencies.mem_conflicts_names_iff, twice]
  refine ⟨?valid, keys, ?edges, ?conflicts⟩
  case valid =>
    rw [Bool.eq_iff_iff, isValid_iff, isValid_iff, invalid_foldl_take_eq_nil_iff,
      invalid_foldl_take_eq_nil_iff]
    simp only [twice]
    exact and_congr_left' (and_congr_right' ⟨same.reads, same.symm.reads⟩)
  case edges =>
    intro root p
    have edge (k : PluginGraph) : (∃ ps, k.dependencies.find? root = some ps ∧ p ∈ ps)
        ↔ root ∈ k.dependencies.keys ∧ p ∈ (k.entryOf root).dependents := by
      simp only [find?_dependencies_iff, keys_dependencies, and_assoc, exists_and_left,
        exists_eq_left']
    rw [edge, edge, keys, (perm root).mem_iff]
  case conflicts =>
    rw [conflicts_eq_map_names (ds.foldl take empty),
      conflicts_eq_map_names (ds'.foldl take empty), names, List.forall₂_map_left_iff,
      List.forall₂_map_right_iff]
    refine List.forall₂_same.2 fun name _ => ⟨rfl, ?_⟩
    rw [located_untagged, located_untagged]
    exact (requirementsOn_perm keys perm name).map _

/-! ## Two groups -/

end PluginGraph

namespace Declarations

/-- The declarations of a group pin a plugin. -/
def Pins (declarations : Declarations) (p : Plugin) : Prop :=
  ∃ entry ∈ declarations.entries, TokensPin entry.1 entry.2 p

/-- Every token of a group reads. -/
def Read (declarations : Declarations) : Prop :=
  ∀ entry ∈ declarations.entries, TokensRead entry.1 entry.2

variable {a b : Declarations}

/-- In what group declarations are made is a matter of their tags alone. -/
theorem exists_mem_both_iff (group group' : PluginGroup) (holds : String → List String → Prop) :
    (∃ d ∈ declarationsOf [⟨group, a⟩, ⟨group', b⟩], holds d.root d.dependents)
      ↔ (∃ entry ∈ a.entries, holds entry.1 entry.2)
        ∨ ∃ entry ∈ b.entries, holds entry.1 entry.2 := by
  simp only [declarationsOf, Ingestion.all, List.flatMap_cons, List.flatMap_nil, List.append_nil,
    List.mem_append, List.mem_map, or_and_right, exists_or, exists_exists_and_eq_and]

theorem sameDeclared_swap (group group' other other' : PluginGroup) :
    PluginGraph.SameDeclared (declarationsOf [⟨group, a⟩, ⟨group', b⟩])
      (declarationsOf [⟨other, b⟩, ⟨other', a⟩]) := by
  constructor
  · intro root
    rw [exists_mem_both_iff _ _ fun r _ => r = root, exists_mem_both_iff _ _ fun r _ => r = root]
    exact or_comm
  · intro root token
    rw [exists_mem_both_iff _ _ fun r ts => r = root ∧ token ∈ ts,
      exists_mem_both_iff _ _ fun r ts => r = root ∧ token ∈ ts]
    exact or_comm

theorem not_pins_empty {p : Plugin} : ¬Pins .empty p := fun ⟨_, member, _⟩ => nomatch member

theorem read_empty : Read .empty := fun _ member => nomatch member

end Declarations

namespace PluginGraph

theorem ofGroups_eq_foldl (a b : Declarations) :
    ofGroups a b = (declarationsOf [⟨.operator, a⟩, ⟨.user, b⟩]).foldl take empty :=
  ingestAll_eq_foldl empty [⟨.operator, a⟩, ⟨.user, b⟩]

variable {a b : Declarations}

theorem pins_ofGroups_iff {p : Plugin} :
    (ofGroups a b).dependencies.Pins p ↔ a.Pins p ∨ b.Pins p := by
  have none : ¬empty.dependencies.Pins p := fun ⟨_, member, _⟩ => nomatch member
  rw [ofGroups_eq_foldl, pins_foldl_take_iff]
  refine (or_iff_right none).trans ?_
  exact Declarations.exists_mem_both_iff _ _ fun root dependents => TokensPin root dependents p

theorem invalid_ofGroups_eq_nil_iff : (ofGroups a b).invalid = [] ↔ a.Read ∧ b.Read := by
  rw [ofGroups_eq_foldl, invalid_foldl_take_eq_nil_iff]
  refine (and_iff_right rfl).trans ?_
  -- Said as "some declaration does not read", so that the groups can be taken away.
  rw [← not_iff_not, not_and_or]
  simp only [Declarations.Read, Declaration.Reads, not_forall, exists_prop]
  exact Declarations.exists_mem_both_iff _ _ fun root dependents => ¬TokensRead root dependents

/-- Two groups are valid together if and only if each is valid and they agree on what both pin. -/
theorem isValid_ofGroups_iff :
    (ofGroups a b).isValid = true
      ↔ (ofGroups a .empty).isValid = true ∧ (ofGroups b .empty).isValid = true
          ∧ ∀ name v w, a.Pins ⟨name, v⟩ → b.Pins ⟨name, w⟩ → v = w := by
  simp only [isValid_iff, invalid_ofGroups_eq_nil_iff, Dependencies.PinsTwice, pins_ofGroups_iff,
    iff_true_intro Declarations.read_empty, iff_false_intro Declarations.not_pins_empty, and_true,
    or_false]
  constructor
  · rintro ⟨⟨readA, readB⟩, never⟩
    refine ⟨⟨readA, fun name twice => ?_⟩, ⟨readB, fun name twice => ?_⟩, ?_⟩
    · obtain ⟨v, w, differ, first, second⟩ := twice
      exact never name ⟨v, w, differ, .inl first, .inl second⟩
    · obtain ⟨v, w, differ, first, second⟩ := twice
      exact never name ⟨v, w, differ, .inr first, .inr second⟩
    · intro name v w first second
      by_contra differ
      exact never name ⟨v, w, differ, .inl first, .inr second⟩
  · rintro ⟨⟨readA, neverA⟩, ⟨readB, neverB⟩, agree⟩
    refine ⟨⟨readA, readB⟩, ?_⟩
    -- Two pins on a name are both of one group, or one of each.
    rintro name ⟨v, w, differ, first | first, second | second⟩
    · exact neverA name ⟨v, w, differ, first, second⟩
    · exact differ (agree name v w first second)
    · exact differ (agree name w v second first).symm
    · exact neverB name ⟨v, w, differ, first, second⟩

/-! ## Further declarations -/

variable {g : PluginGraph}

/-- A name that is pinned to two versions stays so. -/
theorem pinsTwice_foldl_take (ds : List Declaration) {name : String}
    (twice : g.dependencies.PinsTwice name) : (ds.foldl take g).dependencies.PinsTwice name := by
  obtain ⟨v, w, differ, first, second⟩ := twice
  exact ⟨v, w, differ, (pins_foldl_take_iff g ds _).2 (.inl first),
    (pins_foldl_take_iff g ds _).2 (.inl second)⟩

theorem conflicts_names_subset (g : PluginGraph) (ds : List Declaration) :
    g.conflicts.map (·.name) ⊆ (ds.foldl take g).conflicts.map (·.name) := by
  intro name
  rw [conflicts_names, conflicts_names, Dependencies.mem_conflicts_names_iff,
    Dependencies.mem_conflicts_names_iff]
  exact pinsTwice_foldl_take ds

/-- Further declarations never take back that a token was refused. -/
theorem invalid_isPrefix (g : PluginGraph) (ds : List Declaration) :
    g.invalid <+: (ds.foldl take g).invalid := by
  rw [invalid_foldl_take]
  exact List.prefix_append _ _

/-- A graph that is valid was valid before it took in more. -/
theorem isValid_of_foldl_take {ds : List Declaration} (valid : (ds.foldl take g).isValid = true) :
    g.isValid = true := by
  obtain ⟨read, never⟩ := isValid_iff.1 valid
  exact isValid_iff.2 ⟨((invalid_foldl_take_eq_nil_iff g ds).1 read).1,
    fun name twice => never name (pinsTwice_foldl_take ds twice)⟩

/-! ## The same declarations again -/

/-- A graph has a declaration: its root with the group and all its dependents. -/
def Has (g : PluginGraph) (d : Declaration) : Prop :=
  ∀ root, d.root? = some root → root ∈ g.roots.keys
    ∧ (g.entryOf root).isDeclaredBy d.group = true
    ∧ ∀ p ∈ d.plugins, p ∈ (g.entryOf root).dependents

/-- A graph has what it took in, whatever else it took in. -/
theorem has_foldl_take {ds : List Declaration} {d : Declaration} (member : d ∈ ds) :
    (ds.foldl take g).Has d := by
  intro root own
  have read := Declaration.root?_eq_some_iff.1 own
  refine ⟨?_, ?_, fun p listed => ?_⟩
  · exact (mem_roots_foldl_take_iff g ds root).2 (.inr ⟨d, member, read⟩)
  · rw [isDeclaredBy_foldl_take, Bool.or_eq_true]
    exact .inr (isDeclared_iff.2 ⟨d, member, rfl, read⟩)
  · rw [dependents_foldl_take, RootEntry.mem_foldl_addNew_iff]
    exact .inr (mem_listedUnder_iff.2 ⟨d, member, read, Declaration.mem_plugins_iff.1 listed⟩)

theorem roots_take_eq_self {d : Declaration} (has : g.Has d) : (g.take d).roots = g.roots := by
  cases own : d.root? with
  | none => exact roots_take_of_no_root own
  | some root =>
    obtain ⟨declared, inGroup, known⟩ := has root own
    obtain ⟨entry, found⟩ := OrderedMap.mem_keys_iff.1 declared
    rw [roots_take_of_root own, RootEntry.declare_eq_self inGroup known, entryOf, found]
    exact OrderedMap.insert_eq_self found

/-- Declarations that a graph has leave its roots as they are. -/
theorem roots_foldl_take_eq_self {ds : List Declaration} (has : ∀ d ∈ ds, g.Has d) :
    (ds.foldl take g).roots = g.roots := by
  induction ds generalizing g with
  | nil => rfl
  | cons d ds ih =>
    have same : (g.take d).roots = g.roots := roots_take_eq_self (has d List.mem_cons_self)
    rw [List.foldl_cons, ih fun d' member => ?_, same]
    -- The roots are as they were, so the graph still has what comes later.
    have has := has d' (List.mem_cons_of_mem d member)
    unfold Has entryOf at has ⊢
    rwa [same]

/-- The verdict is about what is declared. It does not depend on how declarations are split over
calls and groups, or in what order they come. Two groups are valid together if and only if each is
valid and they agree on every name that both pin. A further call removes no conflict and no bad
token and makes no graph valid, and calls that were made before, in whatever company, leave
dependencies and conflicts as they are. -/
theorem verdict_compositional (a b : Declarations) (g : PluginGraph) :
    (ofGroups a b).Alike (ofGroups b a)
      ∧ (∀ calls calls', SameDeclared (declarationsOf calls) (declarationsOf calls') →
          (empty.ingestAll calls).Alike (empty.ingestAll calls'))
      ∧ ((ofGroups a b).isValid = true
          ↔ (ofGroups a .empty).isValid = true ∧ (ofGroups b .empty).isValid = true
              ∧ ∀ name v w, a.Pins ⟨name, v⟩ → b.Pins ⟨name, w⟩ → v = w)
      ∧ (∀ group declarations,
          g.conflicts.map (·.name) ⊆ (g.ingest group declarations).conflicts.map (·.name)
            ∧ g.invalid <+: (g.ingest group declarations).invalid
            ∧ (g.isValid = false → (g.ingest group declarations).isValid = false))
      ∧ (∀ calls again, again ⊆ calls →
          ((g.ingestAll calls).ingestAll again).dependencies = (g.ingestAll calls).dependencies
            ∧ ((g.ingestAll calls).ingestAll again).conflicts = (g.ingestAll calls).conflicts) := by
  refine ⟨?swapped, ?regrouped, isValid_ofGroups_iff, ?further, ?again⟩
  case swapped =>
    rw [ofGroups_eq_foldl, ofGroups_eq_foldl]
    exact alike_of_sameDeclared (Declarations.sameDeclared_swap _ _ _ _)
  case regrouped =>
    intro calls calls' same
    rw [ingestAll_eq_foldl, ingestAll_eq_foldl]
    exact alike_of_sameDeclared same
  case further =>
    intro group declarations
    rw [ingest_eq_foldl g ⟨group, declarations⟩]
    refine ⟨conflicts_names_subset g _, invalid_isPrefix g _, fun invalid => ?_⟩
    rw [← Bool.not_eq_true] at invalid ⊢
    exact fun valid => invalid (isValid_of_foldl_take valid)
  case again =>
    intro calls again within
    have roots : ((g.ingestAll calls).ingestAll again).roots = (g.ingestAll calls).roots := by
      rw [ingestAll_eq_foldl, ingestAll_eq_foldl g]
      refine roots_foldl_take_eq_self fun d member => has_foldl_take ?_
      obtain ⟨call, made, declared⟩ := List.mem_flatMap.1 member
      exact List.mem_flatMap.2 ⟨call, within made, declared⟩
    unfold conflicts groupsOf dependencies
    rw [roots]
    exact ⟨rfl, rfl⟩

/-- Two groups that are valid each but not together, whichever way they are taken in, with whatever
is added, and however often. -/
theorem verdict_compositional_clash :
    let a : Declarations := .ofList [("git:3.9.1", ["credentials:2.1.18"])]
    let b : Declarations := .ofList [("credentials:2.1.16", [])]
    (ofGroups a .empty).isValid = true ∧ (ofGroups b .empty).isValid = true
      ∧ (ofGroups a b).isValid = false ∧ (ofGroups b a).isValid = false
      ∧ (empty.ingestAll [⟨.user, b⟩, ⟨.user, a⟩]).isValid = false
      ∧ ((ofGroups a b).ingest .user (.ofList [("job-dsl:1.70", [])])).isValid = false
      ∧ ((empty.ingestAll [⟨.operator, a⟩, ⟨.user, b⟩]).ingestAll [⟨.user, b⟩]).conflicts
          = (empty.ingestAll [⟨.operator, a⟩, ⟨.user, b⟩]).conflicts := by
  intro a b
  obtain ⟨swapped, regrouped, together, further, again⟩ := verdict_compositional a b (ofGroups a b)
  have clash : (ofGroups a b).isValid = false := by decide +kernel
  refine ⟨by decide +kernel, by decide +kernel, clash, ?_, ?_, ?_, ?_⟩
  · exact swapped.valid.symm.trans clash
  · exact (regrouped _ _ (Declarations.sameDeclared_swap _ _ _ _)).valid.symm.trans clash
  · exact (further _ _).2.2 clash
  · exact (verdict_compositional a b empty).2.2.2.2 _ _ (List.subset_cons_self _ _) |>.2

end PluginGraph

end JenkinsOperator
