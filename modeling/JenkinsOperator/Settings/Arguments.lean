import JenkinsOperator.Data.OrderedMap
import JenkinsOperator.Settings.Basic
import JenkinsOperator.Text.Cut

/-!
# Settings from arguments and variables

Settings are given by flags, each with its value after an equals sign or in the next word, and where
a flag is missing by an environment variable. A flag that is given hides its variable, whatever that
holds.

A flag waits for its value in the next word. Its value is looked at only when the next flag is met
or the words end; a word that can be no flag and no value is refused before that.
-/

namespace JenkinsOperator

/-- Why arguments or variables give no settings. -/
inductive ArgumentError where
  /-- Help was asked for. -/
  | helpRequested
  | unknownWord (word : String)
  | missingValue (key : SettingKey)
  /-- The flag was given before. -/
  | repeated (key : SettingKey)
  | badValue (key : SettingKey) (value : String) (error : ValueError)
  /-- A flag that takes no value was given one. -/
  | needlessValue (value : String)
  deriving DecidableEq

/-- A word of the arguments by its form. -/
inductive Word where
  /-- Two hyphens alone, after which no flags stand. -/
  | endOfFlags
  /-- Two hyphens and a name, and the value after an equals sign. -/
  | long (name : String) (attached : Option String)
  /-- One hyphen and letters, of which the first decides. -/
  | short (letter : Char)
  /-- Anything else, also a hyphen alone. -/
  | plain
  deriving DecidableEq

/-- The form of a word. -/
def Word.ofText (text : String) : Word :=
  match text.toList with
  | ['-', '-'] => .endOfFlags
  | '-' :: '-' :: rest =>
    match Text.cut? '=' rest with
    | some (name, value) => .long (String.ofList name) (some (String.ofList value))
    | none => .long (String.ofList rest) none
  | '-' :: letter :: _ => .short letter
  | _ => .plain

/-- A flag whose value has come or is to come. -/
structure PendingFlag where
  key : SettingKey
  value : Option String
  deriving DecidableEq

/-- What is known between two words. -/
structure ArgumentState where
  settings : Settings
  /-- The flags that were settled. -/
  given : List SettingKey
  pending : Option PendingFlag
  deriving DecidableEq

namespace ArgumentState

/-- Nothing was read yet. -/
def start : ArgumentState := ⟨.standard, [], none⟩

/-- Sets a value. -/
def set (s : ArgumentState) (key : SettingKey) (value : String) :
    Except ArgumentError ArgumentState :=
  match s.settings.set key value with
  | .ok settings => .ok { s with settings }
  | .error e => .error (.badValue key value e)

/-- Settles a flag: it has a value, it was not given before, and the value can be set. -/
def settle (s : ArgumentState) (flag : PendingFlag) : Except ArgumentError ArgumentState :=
  match flag.value with
  | none => .error (.missingValue flag.key)
  | some value =>
    if flag.key ∈ s.given then .error (.repeated flag.key)
    else { s with given := flag.key :: s.given }.set flag.key value

/-- Settles the flag that is pending. -/
def settlePending (s : ArgumentState) : Except ArgumentError ArgumentState :=
  match s.pending with
  | none => .ok s
  | some flag => { s with pending := none }.settle flag

/-- Gives help once the pending flag is settled. -/
def help (s : ArgumentState) : Except ArgumentError ArgumentState := do
  let _ ← s.settlePending
  .error .helpRequested

/-- Meets a long flag. -/
def meetLong (s : ArgumentState) (text name : String) (attached : Option String) :
    Except ArgumentError ArgumentState :=
  if name = "help" then
    match attached with
    | none => s.help
    | some value => .error (.needlessValue value)
  else
    match SettingKey.ofFlag? name with
    | none => .error (.unknownWord text)
    | some key => do
      let s ← s.settlePending
      match attached with
      | none => return { s with pending := some ⟨key, none⟩ }
      | some value => s.settle ⟨key, some value⟩

/-- Meets a word that is no flag, which is the value of a flag that waits for one. -/
def meetPlain (s : ArgumentState) (text : String) : Except ArgumentError ArgumentState :=
  match s.pending with
  | some ⟨key, none⟩ => .ok { s with pending := some ⟨key, some text⟩ }
  | _ => .error (.unknownWord text)

/-- Reads the words one after another. -/
def readWords (s : ArgumentState) : List String → Except ArgumentError ArgumentState
  | [] => s.settlePending
  | text :: rest =>
    match Word.ofText text with
    | .endOfFlags =>
      match rest with
      | [] => s.settlePending
      | stray :: _ => .error (.unknownWord stray)
    | .long name attached => do (← s.meetLong text name attached).readWords rest
    | .short letter =>
      if letter = 'h' then s.help else .error (.unknownWord text)
    | .plain => do (← s.meetPlain text).readWords rest

/-- Looks at the variable of a key for which no flag was given. -/
def readVariable (environment : OrderedMap String String) (s : ArgumentState) (key : SettingKey) :
    Except ArgumentError ArgumentState :=
  if key ∈ s.given then .ok s
  else
    match environment.find? key.environmentVariable with
    | none => .ok s
    | some value => s.set key value

end ArgumentState

/-- The settings that arguments and variables give. -/
def Settings.ofArguments (words : List String) (environment : OrderedMap String String) :
    Except ArgumentError Settings := do
  let flagged ← ArgumentState.start.readWords words
  let s ← SettingKey.all.foldlM (ArgumentState.readVariable environment) flagged
  return s.settings

end JenkinsOperator
