/-!
# Validation reports

The violations that a validation found, in the order in which it found them.
-/

namespace JenkinsOperator

/-- The violations that were found. -/
structure Report where
  violations : List String
  deriving DecidableEq

namespace Report

/-- The report without violations. -/
def valid : Report := ⟨[]⟩

/-- The report with one more violation. -/
def push (r : Report) (violation : String) : Report := ⟨r.violations ++ [violation]⟩

/-- Whether nothing was found. -/
def isValid (r : Report) : Bool := r.violations.isEmpty

/-- The violations in one line. -/
def message (r : Report) : String :=
  if r.isValid then "valid" else "; ".intercalate r.violations

end Report

end JenkinsOperator
