/-!
# Logging

How much is logged and in which format. The chosen verbosity holds for the operator's own parts; the
libraries it stands on stay at a fixed, lower one. A process sets up its logging once.
-/

namespace JenkinsOperator

/-- How much is logged. -/
inductive Verbosity where
  | error
  | warn
  | info
  | debug
  | trace
  deriving DecidableEq

/-- How log entries are written. -/
inductive LogFormat where
  | json
  | text
  deriving DecidableEq

/-- Whether two texts are equal, where the case of the letters A to Z may count or not. -/
def sameText (ignoreCase : Bool) (a b : String) : Bool :=
  if ignoreCase then a.toList.map Char.toLower == b.toList.map Char.toLower else a == b

namespace Verbosity

/-- Every verbosity, from the least to the most. -/
def all : List Verbosity := [.error, .warn, .info, .debug, .trace]

/-- The word for a verbosity. -/
def word : Verbosity → String
  | .error => "error"
  | .warn => "warn"
  | .info => "info"
  | .debug => "debug"
  | .trace => "trace"

/-- The words that choose a verbosity. -/
def choices (v : Verbosity) : List String :=
  match v with
  | .warn => [v.word, "warning"]
  | _ => [v.word]

/-- The verbosity that a text chooses. -/
def ofText? (ignoreCase : Bool) (text : String) : Option Verbosity :=
  all.find? fun v => v.choices.any (sameText ignoreCase text)

end Verbosity

namespace LogFormat

/-- Every format. -/
def all : List LogFormat := [.json, .text]

/-- The word for a format. -/
def word : LogFormat → String
  | .json => "json"
  | .text => "text"

/-- The format that a text chooses. -/
def ofText? (ignoreCase : Bool) (text : String) : Option LogFormat :=
  all.find? fun f => sameText ignoreCase text f.word

end LogFormat

/-- The settings of logging. -/
structure LogSettings where
  verbosity : Verbosity
  format : LogFormat
  deriving DecidableEq

namespace LogSettings

/-- The settings unless chosen otherwise. -/
def standard : LogSettings := ⟨.info, .json⟩

/-- The directive that says what is logged by which part. -/
def filter (s : LogSettings) : String :=
  let own := s.verbosity.word
  s!"warn,steward_common={own},steward_controller={own},kube=info,tower=warn,hyper=warn"

end LogSettings

/-- Why logging is not set up. -/
inductive LoggingError where
  /-- The process logs already. -/
  | alreadySetUp
  deriving DecidableEq

/-- The text of a logging error. -/
def LoggingError.message : LoggingError → String
  | .alreadySetUp =>
    "failed to initialize tracing subscriber: "
      ++ "a global default trace dispatcher has already been set"

/-- The logging of a process that has none is set up by its settings; one that is there stays. -/
def setUpLogging (current : Option LogSettings) (settings : LogSettings) :
    Except LoggingError LogSettings :=
  match current with
  | none => .ok settings
  | some _ => .error .alreadySetUp

end JenkinsOperator
