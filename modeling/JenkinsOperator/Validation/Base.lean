import JenkinsOperator.Image
import JenkinsOperator.Pass.Program
import JenkinsOperator.Text.Blank
import JenkinsOperator.Validation.Report

/-!
# Validation of the master

The image must be a reference, every plugin token must read, the plugins must agree on versions, and
the provisioner must accept the specification. All of it is checked every time, so one report has
everything that is wrong. Conflicts are looked for only once every token reads.
-/

namespace JenkinsOperator

/-- The violation of an image, if there is one. -/
def imageViolation? (image : String) : Option String :=
  if Text.allBlank image then some "image not set"
  else if !Image.isValid image then some s!"invalid image '{image}'"
  else none

/-- The violations of a plugin graph: its bad tokens, or else its conflicts. -/
def PluginGraph.violations (g : PluginGraph) : List String :=
  if g.invalid.isEmpty then g.conflicts.map VersionConflict.message
  else g.invalid.map InvalidToken.message

/-- The plugins of a master. -/
def MasterSpec.pluginGraph (m : MasterSpec) : PluginGraph := .ofGroups m.operatorPlugins m.plugins

/-- The violations of a master that can be told without asking anyone. -/
def MasterSpec.violations (m : MasterSpec) : List String :=
  (imageViolation? m.image).toList ++ m.pluginGraph.violations

/-- Validates the master of an object. -/
def validateBase (object : Jenkins) : Program Failure Report := do
  let accepted ← acceptsSpec object
  let own := object.spec.master.violations
  return ⟨own ++ if accepted then [] else ["rejected by base provisioner"]⟩

end JenkinsOperator
