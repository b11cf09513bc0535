import JenkinsOperator.Proofs.Image.Grammar
import JenkinsOperator.Proofs.Plugin.Verdict
import JenkinsOperator.Proofs.Text.Cut
import JenkinsOperator.Validation.Base

/-!
# What the validation of a master finds

The validation of a master is one call, which asks the provisioner, and a report that is known but
for the answer. `validateBase_exact` says what is in it, in order: the violation of the image,
those of the plugin tokens or else of the names that are pinned to two versions, and that of the
provisioner. No check hides another but this one, and the report is empty if and only if the image
is a reference, the graph of both groups is valid, and the provisioner agreed.
-/

namespace JenkinsOperator

/-! ## Blank images -/

namespace Text

/-- No visible character of ASCII is blank. -/
theorem isBlank_of_visible {c : Char} (low : 0x20 < c.toNat) (high : c.toNat < 0x7F) :
    isBlank c = false := by
  simp only [isBlank, Bool.or_eq_false_iff, Bool.and_eq_false_iff, decide_eq_false_iff_not,
    beq_eq_false_iff_ne]
  omega

end Text

namespace Image

/-- A blank text is taken apart into itself, and is neither a tag nor a name. -/
theorem isValid_of_allBlank {image : String} (blank : Text.allBlank image = true) :
    isValid image = false := by
  have blank : ∀ c ∈ image.toList, Text.isBlank c = true := List.all_eq_true.1 blank
  have without {sep : Char} (solid : Text.isBlank sep = false) : sep ∉ image.toList := fun member =>
    Bool.false_ne_true (solid.symm.trans (blank sep member))
  -- No separator is blank, so nothing is split off.
  have notSplit : split image.toList = ⟨[image.toList], none, none⟩ := by
    unfold split
    rw [Text.cut?_eq_none_iff.2 (without rfl)]
    dsimp only
    rw [Text.splitOn_eq_singleton.2 ⟨rfl, without rfl⟩]
    simp only [List.getLast?_singleton, Option.bind_some, mapLast, beforeColon,
      Text.cut?_eq_none_iff.2 (without rfl : ':' ∉ image.toList), Option.map_none]
  rw [isValid, notSplit, Split.isValid]
  cases chars : image.toList with
  | nil => rfl
  | cons c rest =>
    have notWord : isWordChar c = false := by
      by_contra word
      obtain ⟨low, high⟩ := visible_of_isWordChar (Bool.not_eq_false _ ▸ word)
      have first := blank c (chars ▸ List.mem_cons_self)
      rw [Text.isBlank_of_visible low high] at first
      exact Bool.false_ne_true first
    have notSmall : isLowerAlphanum c = false := by
      by_contra small
      rw [isWordChar_of_isLowerAlphanum (Bool.not_eq_false _ ▸ small)] at notWord
      exact Bool.false_ne_true notWord.symm
    simp only [isTag, notWord, isName, isNameComponent, endsName, NameState.next?, notSmall,
      Bool.false_and, Bool.false_eq_true, if_false, Bool.or_false]

end Image

/-! ## The parts of a report -/

/-- The image is at fault if it is blank or no reference, and in no other case. -/
theorem imageViolation?_toList (image : String) :
    (imageViolation? image).toList
      = if Text.allBlank image = true ∨ Image.isValid image = false then
          [if Text.allBlank image = true then "image not set" else s!"invalid image '{image}'"]
        else [] := by
  unfold imageViolation?
  cases Text.allBlank image with
  | true => rfl
  | false =>
    cases Image.isValid image with
    | true => rfl
    | false => rfl

/-- There is a violation of the image unless it is a reference; no reference is blank. -/
theorem imageViolation?_eq_none_iff {image : String} :
    (imageViolation? image).toList = [] ↔ Image.isValid image = true := by
  rw [imageViolation?_toList]
  constructor
  · intro none
    by_contra invalid
    rw [if_pos (.inr (Bool.not_eq_true _ ▸ invalid))] at none
    cases none
  · intro valid
    refine if_neg ?_
    rintro (blank | invalid)
    · exact Bool.false_ne_true ((Image.isValid_of_allBlank blank).symm.trans valid)
    · exact Bool.false_ne_true (invalid.symm.trans valid)

namespace PluginGraph

theorem conflicts_eq_nil_iff {g : PluginGraph} :
    g.conflicts = [] ↔ g.dependencies.consistent = true := by
  rw [conflicts, List.map_eq_nil_iff, Dependencies.consistent, List.isEmpty_iff]

/-- A graph has nothing to report if and only if it is valid. -/
theorem violations_eq_nil_iff {g : PluginGraph} : g.violations = [] ↔ g.isValid = true := by
  rw [violations, isValid]
  cases read : g.invalid.isEmpty with
  | true => rw [if_pos rfl, List.map_eq_nil_iff, conflicts_eq_nil_iff, Bool.true_and]
  | false =>
    rw [if_neg Bool.false_ne_true, List.map_eq_nil_iff, ← List.isEmpty_iff, read, Bool.false_and]

end PluginGraph

namespace MasterSpec

/-- The tokens of both groups, each where it is declared: the operator's group first, in each group
the roots in order, and each root before its dependents. -/
def tokens (m : MasterSpec) : List DeclaredToken :=
  (declarationsOf [⟨.operator, m.operatorPlugins⟩, ⟨.user, m.plugins⟩]).flatMap Declaration.tokens

/-- The tokens of both groups that do not read, each occurrence with its error. -/
def refused (m : MasterSpec) : List InvalidToken := m.tokens.filterMap DeclaredToken.refused?

/-- One of the groups pins a plugin. -/
def Pins (m : MasterSpec) (p : Plugin) : Prop := m.operatorPlugins.Pins p ∨ m.plugins.Pins p

theorem invalid_pluginGraph (m : MasterSpec) : m.pluginGraph.invalid = m.refused := by
  rw [pluginGraph, PluginGraph.ofGroups_eq_foldl, PluginGraph.invalid_foldl_take]
  rfl

/-- What is found of a master, part by part, if the provisioner answers with `accepted`. -/
structure Findings (m : MasterSpec) (accepted : Bool) (image plugins provisioner : List String) :
    Prop where
  /-- The image is reported if it is blank or no reference. -/
  image : image = if Text.allBlank m.image = true ∨ Image.isValid m.image = false then
      [if Text.allBlank m.image = true then "image not set" else s!"invalid image '{m.image}'"]
    else []
  /-- If tokens do not read, each of them is reported. -/
  tokens : m.refused ≠ [] → plugins = m.refused.map InvalidToken.message
  /-- If all tokens read, each conflict is reported. -/
  conflicts : m.refused = [] → plugins = m.pluginGraph.conflicts.map VersionConflict.message
  /-- The conflicts come in ascending order of their names. -/
  ascending : (m.pluginGraph.conflicts.map (·.name)).Pairwise (· < ·)
  /-- They are on the names that are pinned to two versions. -/
  twice (name : String) : name ∈ m.pluginGraph.conflicts.map (·.name)
    ↔ ∃ v w, v ≠ w ∧ m.Pins ⟨name, v⟩ ∧ m.Pins ⟨name, w⟩
  /-- The provisioner is reported if it did not agree. -/
  provisioner : provisioner = if accepted = true then [] else ["rejected by base provisioner"]

/-- The violations of the master are those of the image, of the plugins and of the provisioner. -/
theorem findings (m : MasterSpec) (accepted : Bool) :
    m.Findings accepted (imageViolation? m.image).toList m.pluginGraph.violations
      (if accepted then [] else ["rejected by base provisioner"]) := by
  refine ⟨imageViolation?_toList m.image, ?tokens, ?conflicts, ?ascending, ?twice, rfl⟩
  case tokens =>
    intro some
    rw [PluginGraph.violations, invalid_pluginGraph, if_neg (mt List.isEmpty_iff.1 some)]
  case conflicts =>
    intro none
    rw [PluginGraph.violations, invalid_pluginGraph, if_pos (List.isEmpty_iff.2 none)]
  case ascending =>
    rw [PluginGraph.conflicts_names]
    exact Dependencies.conflicts_names_ordered _
  case twice =>
    intro name
    rw [PluginGraph.conflicts_names, Dependencies.mem_conflicts_names_iff]
    simp only [Dependencies.PinsTwice, pluginGraph, PluginGraph.pins_ofGroups_iff, Pins]

end MasterSpec

/-- The validation of a master asks the provisioner, once and whatever else is wrong, and fails
only if that fails. Its report has what is found of the image, of the plugins and of the
provisioner, in this order, and is valid if and only if the image is a reference, the graph of both
groups is valid, and the provisioner agreed. -/
theorem validateBase_exact (object : Jenkins) :
    ∃ report : Bool → Report,
      (validateBase object
        = .call (.acceptsSpec object) fun (answer : Except Failure Bool) =>
            match answer with
            | .error failure => .exit failure
            | .ok accepted => .done (report accepted))
      ∧ ∀ accepted,
        (∃ image plugins provisioner,
          (report accepted).violations = image ++ plugins ++ provisioner
            ∧ object.spec.master.Findings accepted image plugins provisioner)
        ∧ ((report accepted).isValid = true
            ↔ Image.isValid object.spec.master.image = true
              ∧ (PluginGraph.ofGroups object.spec.master.operatorPlugins
                  object.spec.master.plugins).isValid = true
              ∧ accepted = true) := by
  refine ⟨fun accepted => ⟨object.spec.master.violations
    ++ if accepted then [] else ["rejected by base provisioner"]⟩, ?asked,
    fun accepted => ⟨?found, ?valid⟩⟩
  case asked =>
    refine congrArg (Program.call (.acceptsSpec object)) (funext fun answer => ?_)
    cases answer with
    | error failure => rfl
    | ok accepted => rfl
  case found => exact ⟨_, _, _, rfl, object.spec.master.findings accepted⟩
  case valid =>
    rw [Report.isValid, List.isEmpty_iff, MasterSpec.violations, List.append_eq_nil_iff,
      List.append_eq_nil_iff, imageViolation?_eq_none_iff, PluginGraph.violations_eq_nil_iff,
      and_assoc]
    refine and_congr_right' (and_congr_right' ?_)
    cases accepted with
    | true => exact ⟨fun _ => rfl, fun _ => rfl⟩
    | false => exact ⟨nofun, nofun⟩

/-- A master with an image that is no reference, tokens that do not read, and two versions of one
plugin, which are not looked at before all tokens read. -/
def Jenkins.spoiled : Jenkins :=
  ⟨.unset, ⟨⟨"Jenkins/Jenkins:lts", .ofList [("git:3.9.1", []), ("git:4.0", [])],
    .ofList [("job-dsl", ["structs"]), ("bad name:1.0", [])], .unset⟩, []⟩, none⟩

/-- All that is wrong stands in one report, and the provisioner is asked nevertheless. -/
theorem validateBase_exact_spoiled :
    ∃ report : Bool → Report, validateBase Jenkins.spoiled
        = .call (.acceptsSpec Jenkins.spoiled) (fun (answer : Except Failure Bool) =>
            match answer with
            | .error failure => .exit failure
            | .ok accepted => .done (report accepted))
      ∧ Jenkins.spoiled.spec.master.refused ≠ []
      ∧ (report false).violations
          = ["invalid image 'Jenkins/Jenkins:lts'",
              "plugins: root plugin: invalid plugin name 'bad name' in 'bad name:1.0'",
              "plugins: root plugin: invalid plugin format 'job-dsl', expected 'name:version'",
              "plugins: dependent of root plugin 'job-dsl': invalid plugin format 'structs', expected 'name:version'",
              "rejected by base provisioner"] := by
  obtain ⟨report, asked, reported⟩ := validateBase_exact Jenkins.spoiled
  obtain ⟨⟨image, plugins, provisioner, all, found⟩, -⟩ := reported false
  have some : Jenkins.spoiled.spec.master.refused ≠ [] := by decide +kernel
  refine ⟨report, asked, some, ?_⟩
  rw [all, found.image, found.tokens some, found.provisioner]
  decide +kernel

end JenkinsOperator
