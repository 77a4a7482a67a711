import LinearProgram.Notation.Policy
import LinearProgram.Source.SettingsFile
import LinearProgram.Source.Utf8
import LinearProgram.Text.LowerCase

/-!
# Settings from the environment

The policy is taken from two environment variables. A settings file can set variables that the
environment leaves unset, these two and any others; what no environment can hold is a fault,
whatever variable it is meant for. A third variable keeps the settings file from being read.

Values count without blanks at their ends and without regard to case.
-/

namespace LinearProgram

/-- Why the settings give no policy. -/
inductive SettingsFault where
  | notUtf8 (fault : Utf8.Fault)
  /-- The settings file sets a variable whose name or value holds the null character. -/
  | nullCharacter
  /-- The settings file sets a variable whose name holds an equals sign. -/
  | illegalName
  | policy (fault : Policy.Fault)
  deriving DecidableEq

/-- What is said of settings that give no policy. -/
def SettingsFault.message : SettingsFault → String
  | .notUtf8 fault => fault.message
  | .nullCharacter => "embedded null byte"
  | .illegalName => "illegal environment variable name"
  | .policy fault => fault.message

namespace SettingsFile

/-- The variable that keeps settings files from being read. -/
def disablingKey : Text := "PYTHON_DOTENV_DISABLED".toList

/-- A word without regard to case, as far as letters go for which there is an English one. -/
def foldCase (word : Text) : Text :=
  (Text.lower word).map fun c => if c = 'ſ' then 's' else c

/-- Whether the environment keeps settings files from being read. -/
def isDisabled (env : Environment) : Bool :=
  match env.get? disablingKey with
  | some value => ["1", "true", "t", "yes", "y"].contains (String.ofList (foldCase value))
  | none => false

/-- The fault of a variable that no environment can hold. -/
def settingFault? (key value : Text) : Option SettingsFault :=
  if key.contains (Char.ofNat 0) || value.contains (Char.ofNat 0) then some .nullCharacter
  else if key.contains '=' then some .illegalName
  else none

/-- The bindings that the bytes of a settings file make, if the variables can be set. The first
one that cannot be set counts. -/
def ofBytes (env : Environment) (bytes : List UInt8) : Except SettingsFault (List Binding) :=
  if isDisabled env then .ok []
  else match Utf8.decode bytes with
    | .error fault => .error (.notUtf8 fault)
    | .ok text =>
      let list := expandAll env (bindings text)
      match (settings env list).findSome? fun (key, value) => settingFault? key value with
      | some fault => .error fault
      | none => .ok list

/-- The variables of the environment that matter for a settings file: those that it sets or refers
to, and the one that keeps it from being read. -/
def relevantKeys (bytes : List UInt8) : List Text :=
  match Utf8.decode bytes with
  | .error _ => [disablingKey]
  | .ok text => disablingKey :: (keys (bindings text) ++ referredNames (bindings text))

end SettingsFile

/-- The value of a variable in the environment, and in the settings file if the environment leaves
it unset. -/
def settingFrom (env : Environment) (file : List SettingsFile.Binding) (key : Text) :
    Option Text :=
  match env.get? key with
  | some value => some value
  | none => SettingsFile.get? file key

namespace Policy

/-- The variable that says what a second objective does. -/
def repeatedObjectiveKey : Text := "LPPARSE_DUPLICATE_OBJECTIVE".toList

/-- The variable that says whether operators are read strictly. -/
def strictOperatorsKey : Text := "LPPARSE_STRICT_RELATIONS".toList

/-- Whether a word means yes or no. -/
def switch? (word : Text) : Option Bool :=
  if ["1", "true", "yes", "on"].contains (String.ofList word) then some true
  else if ["0", "false", "no", "off", ""].contains (String.ofList word) then some false
  else none

/-- A value without blanks at its ends and in lower case. -/
def canonicalValue (value : Text) : Text := Text.lower (Text.trim value)

/-- The policy that the environment and bindings of a settings file ask for. The switch for
operators is looked at first. -/
def ofBindings (env : Environment) (file : List SettingsFile.Binding) : Except Fault Policy :=
  let repeatedObjective := canonicalValue
    ((settingFrom env file repeatedObjectiveKey).getD RepeatedObjective.replaces.label.toList)
  let strictness := canonicalValue ((settingFrom env file strictOperatorsKey).getD [])
  match switch? strictness with
  | none => .error (.unknownStrictness strictness)
  | some strict => ofLabels repeatedObjective strict

/-- The policy that the environment and the bytes of the settings file ask for. -/
def ofSettings (env : Environment) (settingsFile : List UInt8) : Except SettingsFault Policy :=
  match SettingsFile.ofBytes env settingsFile with
  | .error fault => .error fault
  | .ok file =>
    match ofBindings env file with
    | .error fault => .error (.policy fault)
    | .ok policy => .ok policy

/-- The report of a policy that has been taken from the settings. -/
def loadedEntry (policy : Policy) : Journal.Entry :=
  ⟨.debug, .policy, "Loaded parser config from environment: " ++ policy.describe⟩

/-- The policy that the settings ask for, with the report. -/
def ofSettingsJournaled (env : Environment) (settingsFile : List UInt8) :
    Journaled (Except SettingsFault Policy) :=
  let policy := ofSettings env settingsFile
  ⟨policy, match policy with
    | .ok loaded => [loaded.loadedEntry]
    | .error _ => []⟩

end Policy

end LinearProgram
