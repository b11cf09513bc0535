import Mathlib.Data.Finset.Card
import JenkinsOperator.Plugin.Conflict
import JenkinsOperator.Proofs.Data.OrderedMap
import JenkinsOperator.Proofs.Text.Bytes

/-!
# Pins and the conflicts between them

A dependency map pins plugins: each root pins itself, and each dependent that is listed under it.
One pin after another is put into a table, which then has, for every name, exactly the pins on that
name in the order of the map (`Dependencies.requirementsOn_pinTable`). From this,
`Dependencies.conflicts_exact` shows that the conflicts are the names that are pinned to two
versions, each once and in ascending order, that every conflict lists all pins on its name and
nothing else, and that there is none if and only if the pins are a function from names to versions.
-/

namespace JenkinsOperator

/-! ## What the table gathers -/

/-- What an entry asks of a name: the pin of the root itself, then those of its dependents. -/
def requirementsIn (name : String) (entry : Plugin × List Plugin) : List Requirement :=
  ((entry.1 :: entry.2).filter fun p => p.name = name).map fun p => ⟨p.version, entry.1, []⟩

namespace PinTable

/-- Pinning a plugin adds a requirement under its name and under no other. -/
theorem requirementsOn_pin (table : PinTable) (root p : Plugin) (name : String) :
    (table.pin root p).requirementsOn name
      = table.requirementsOn name ++ if p.name = name then [⟨p.version, root, []⟩] else [] := by
  unfold pin
  split
  case isTrue same =>
    subst same
    rw [requirementsOn, OrderedMap.find?_insert_self]
    rfl
  case isFalse differ =>
    rw [requirementsOn, OrderedMap.find?_insert_of_ne table _ (Ne.symm differ), List.append_nil]
    rfl

theorem requirementsOn_foldl_pin (root : Plugin) (ps : List Plugin) (table : PinTable)
    (name : String) :
    (ps.foldl (pin root) table).requirementsOn name
      = table.requirementsOn name
        ++ (ps.filter fun p => p.name = name).map fun p => ⟨p.version, root, []⟩ := by
  induction ps generalizing table with
  | nil => exact (List.append_nil _).symm
  | cons p ps ih =>
    rw [List.foldl_cons, ih, requirementsOn_pin, List.append_assoc, List.filter_cons]
    by_cases same : p.name = name
    · rw [if_pos same, if_pos (decide_eq_true same)]
      rfl
    · rw [if_neg same, if_neg (by simpa using same)]
      rfl

/-- One root after another adds what its entry asks of the name. -/
theorem requirementsOn_foldl_pinRoot (entries : List (Plugin × List Plugin)) (table : PinTable)
    (name : String) :
    (entries.foldl pinRoot table).requirementsOn name
      = table.requirementsOn name ++ entries.flatMap (requirementsIn name) := by
  -- From any table on: what it has on the name stays in front.
  induction entries generalizing table with
  | nil => exact (List.append_nil _).symm
  | cons entry entries ih =>
    rw [List.foldl_cons, ih, pinRoot, requirementsOn_foldl_pin, List.append_assoc,
      List.flatMap_cons]
    rfl

end PinTable

namespace Dependencies

/-- The pins on a name, root by root. -/
def requirementsOn (deps : Dependencies) (name : String) : List Requirement :=
  deps.entries.flatMap (requirementsIn name)

/-- The table holds the requirements on each name, in the order in which they were pinned. -/
theorem requirementsOn_pinTable (deps : Dependencies) (name : String) :
    deps.pinTable.requirementsOn name = deps.requirementsOn name :=
  PinTable.requirementsOn_foldl_pinRoot deps.entries .empty name

/-! ## Pins -/

/-- A plugin is pinned: it is a root, or is listed under one. -/
def Pins (deps : Dependencies) (p : Plugin) : Prop := ∃ entry ∈ deps.entries, p ∈ entry.1 :: entry.2

/-- A name is pinned to two versions. -/
def PinsTwice (deps : Dependencies) (name : String) : Prop :=
  ∃ v w, v ≠ w ∧ deps.Pins ⟨name, v⟩ ∧ deps.Pins ⟨name, w⟩

/-- A version is pinned if and only if a requirement is for it. -/
theorem pins_iff_requirement {deps : Dependencies} {name version : String} :
    deps.Pins ⟨name, version⟩ ↔ ∃ r ∈ deps.requirementsOn name, r.version = version := by
  constructor
  · rintro ⟨entry, listed, pinned⟩
    refine ⟨⟨version, entry.1, []⟩, List.mem_flatMap.2 ⟨entry, listed, ?_⟩, rfl⟩
    exact List.mem_map.2 ⟨_, List.mem_filter.2 ⟨pinned, decide_eq_true rfl⟩, rfl⟩
  · rintro ⟨r, member, rfl⟩
    obtain ⟨entry, listed, asked⟩ := List.mem_flatMap.1 member
    obtain ⟨p, chosen, rfl⟩ := List.mem_map.1 asked
    obtain ⟨pinned, same⟩ := List.mem_filter.1 chosen
    rw [← of_decide_eq_true same]
    exact ⟨entry, listed, pinned⟩

end Dependencies

/-! ## Disagreement -/

theorem mem_versionsOf {requirements : List Requirement} {version : String} :
    version ∈ versionsOf requirements ↔ ∃ r ∈ requirements, r.version = version := by
  rw [versionsOf, OrderedMap.mem_keys_ofList, List.map_map]
  exact List.mem_map

/-- A set of versions has more than one element if and only if two requirements differ. -/
theorem disagree_iff (requirements : List Requirement) :
    disagree requirements = true
      ↔ ∃ r ∈ requirements, ∃ r' ∈ requirements, r.version ≠ r'.version := by
  have once : (versionsOf requirements).Nodup := (OrderedMap.keys_ordered _).nodup
  rw [disagree, decide_eq_true_iff, ← List.toFinset_card_of_nodup once, Finset.one_lt_card_iff]
  simp only [List.mem_toFinset, mem_versionsOf]
  constructor
  · rintro ⟨v, w, ⟨r, member, rfl⟩, ⟨r', member', rfl⟩, differ⟩
    exact ⟨r, member, r', member', differ⟩
  · rintro ⟨r, member, r', member', differ⟩
    exact ⟨_, _, ⟨r, member, rfl⟩, ⟨r', member', rfl⟩, differ⟩

namespace Dependencies

variable {deps : Dependencies}

/-- A name is pinned twice if and only if its requirements disagree. -/
theorem pinsTwice_iff {name : String} :
    deps.PinsTwice name ↔ disagree (deps.requirementsOn name) = true := by
  rw [disagree_iff]
  constructor
  · rintro ⟨v, w, differ, first, second⟩
    obtain ⟨r, member, rfl⟩ := pins_iff_requirement.1 first
    obtain ⟨r', member', rfl⟩ := pins_iff_requirement.1 second
    exact ⟨r, member, r', member', differ⟩
  · rintro ⟨r, member, r', member', differ⟩
    exact ⟨_, _, differ, pins_iff_requirement.2 ⟨r, member, rfl⟩,
      pins_iff_requirement.2 ⟨r', member', rfl⟩⟩

/-! ## Conflicts -/

/-- A conflict is a name that is pinned twice, with all pins on it. -/
theorem mem_conflicts_iff {c : VersionConflict} :
    c ∈ deps.conflicts ↔ deps.PinsTwice c.name ∧ c.requirements = deps.requirementsOn c.name := by
  rw [pinsTwice_iff, conflicts, List.mem_map]
  constructor
  · rintro ⟨⟨name, requirements⟩, member, rfl⟩
    obtain ⟨listed, disagreeing⟩ := List.mem_filter.1 member
    have gathered := deps.requirementsOn_pinTable name
    rw [PinTable.requirementsOn, OrderedMap.mem_entries_iff.1 listed] at gathered
    exact ⟨gathered ▸ disagreeing, gathered⟩
  · rintro ⟨disagreeing, all⟩
    refine ⟨(c.name, c.requirements), List.mem_filter.2 ⟨?_, all ▸ disagreeing⟩, rfl⟩
    rw [← requirementsOn_pinTable] at all disagreeing
    rw [PinTable.requirementsOn] at all disagreeing
    cases found : deps.pinTable.find? c.name with
    | none =>
      -- A name that is not in the table has no pins that could differ.
      rw [found] at disagreeing
      cases disagreeing
    | some requirements =>
      rw [found] at all
      rw [OrderedMap.mem_entries_iff, found, all]
      rfl

/-- The conflicts are about the names that are pinned twice. -/
theorem mem_conflicts_names_iff {name : String} :
    name ∈ deps.conflicts.map (·.name) ↔ deps.PinsTwice name := by
  rw [List.mem_map]
  constructor
  · rintro ⟨c, member, rfl⟩
    exact (mem_conflicts_iff.1 member).1
  · intro twice
    exact ⟨⟨name, deps.requirementsOn name⟩, mem_conflicts_iff.2 ⟨twice, rfl⟩, rfl⟩

/-- The conflicts are in ascending order of their names, and each name has one. -/
theorem conflicts_names_ordered (deps : Dependencies) :
    (deps.conflicts.map (·.name)).Pairwise (· < ·) := by
  have ordered : (deps.conflicts.map (·.name)).Pairwise fun s t => compare s t = .lt := by
    rw [conflicts, List.map_map]
    exact deps.pinTable.keys_ordered.sublist (List.filter_sublist.map Prod.fst)
  exact ordered.imp fun lt => (Text.compare_eq_lt_iff _ _).1 lt

/-- The pins are consistent if no name is pinned twice. -/
theorem consistent_iff : deps.consistent = true ↔ ∀ name, ¬deps.PinsTwice name := by
  rw [consistent, List.isEmpty_iff]
  constructor
  · intro none name twice
    rw [← mem_conflicts_names_iff, none] at twice
    cases twice
  · intro never
    refine List.eq_nil_iff_forall_not_mem.2 fun c member => ?_
    exact never c.name (mem_conflicts_iff.1 member).1

/-- Without a name that is pinned twice, the pins are a function, and the other way round. -/
theorem forall_not_pinsTwice_iff :
    (∀ name, ¬deps.PinsTwice name)
      ↔ ∃ versionOf : String → String, ∀ p, deps.Pins p → versionOf p.name = p.version := by
  classical
  constructor
  · intro never
    -- A name without pins may have any version.
    refine ⟨fun name => if pinned : ∃ v, deps.Pins ⟨name, v⟩ then pinned.choose else "", ?_⟩
    intro p pins
    have pinned : ∃ v, deps.Pins ⟨p.name, v⟩ := ⟨p.version, pins⟩
    show (if pinned : ∃ v, deps.Pins ⟨p.name, v⟩ then pinned.choose else "") = p.version
    rw [dif_pos pinned]
    by_contra differ
    exact never p.name ⟨_, _, differ, pinned.choose_spec, pins⟩
  · rintro ⟨versionOf, follows⟩ name ⟨v, w, differ, first, second⟩
    exact differ ((follows _ first).symm.trans (follows _ second))

/-- The conflicts of a dependency map come in ascending order of their names. They are on the names
that are pinned to two versions anywhere in the map, and each has all pins on its name, once for
each occurrence, in the order of the roots, a root's own before those of its dependents. The map is
consistent if and only if the pins are a function from names to versions. -/
theorem conflicts_exact (deps : Dependencies) :
    (deps.conflicts.map (·.name)).Pairwise (· < ·)
      ∧ (∀ name, name ∈ deps.conflicts.map (·.name)
          ↔ ∃ v w, v ≠ w ∧ deps.Pins ⟨name, v⟩ ∧ deps.Pins ⟨name, w⟩)
      ∧ (∀ c ∈ deps.conflicts, c.requirements
          = deps.entries.flatMap fun (root, dependents) =>
              ((root :: dependents).filter fun p => p.name = c.name).map fun p =>
                ⟨p.version, root, []⟩)
      ∧ (deps.consistent = true
          ↔ ∃ versionOf : String → String, ∀ p, deps.Pins p → versionOf p.name = p.version) := by
  refine ⟨deps.conflicts_names_ordered, fun name => mem_conflicts_names_iff, ?_, ?_⟩
  · intro c member
    exact (mem_conflicts_iff.1 member).2
  · exact consistent_iff.trans forall_not_pinsTwice_iff

/-- A map with two roots of one name, a root that clashes with its own dependent, and a dependent
that is listed twice. -/
def crowded : Dependencies :=
  .ofList [(⟨"git", "4.0"⟩, []),
    (⟨"git", "3.9.1"⟩, [⟨"structs", "1.17"⟩, ⟨"structs", "1.17"⟩, ⟨"git", "3.8"⟩]),
    (⟨"job-dsl", "1.70"⟩, [⟨"structs", "1.14"⟩])]

/-- Each occurrence is reported, the roots in order. -/
theorem conflicts_exact_crowded :
    ⟨"git", [⟨"3.9.1", ⟨"git", "3.9.1"⟩, []⟩, ⟨"3.8", ⟨"git", "3.9.1"⟩, []⟩,
        ⟨"4.0", ⟨"git", "4.0"⟩, []⟩]⟩ ∈ crowded.conflicts
      ∧ ∀ c ∈ crowded.conflicts, c.name = "structs" → c.requirements
          = [⟨"1.17", ⟨"git", "3.9.1"⟩, []⟩, ⟨"1.17", ⟨"git", "3.9.1"⟩, []⟩,
              ⟨"1.14", ⟨"job-dsl", "1.70"⟩, []⟩] := by
  refine ⟨by decide +kernel, fun c member named => ?_⟩
  rw [(conflicts_exact crowded).2.2.1 c member, named]
  decide +kernel

end Dependencies

end JenkinsOperator
