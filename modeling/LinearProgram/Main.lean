import LinearProgram.CommandLine.Run

/-!
# The command line program

Gathers what a run is given, prints what it prints and ends with its status.
-/

open LinearProgram

/-- Where a settings file is looked for: in the working directory and those above it. -/
def settingsPlaces : List String :=
  (List.range 32).map fun depth => String.join (List.replicate depth "../") ++ ".env"

/-- The bytes of the first settings file there is. -/
def findSettings : List String → IO (List UInt8)
  | [] => return []
  | place :: rest => do
    match ← (IO.FS.readBinFile place).toBaseIO with
    | .ok bytes => return bytes.toList
    | .error _ => findSettings rest

/-- The number that the system gives for a fault. Its sign depends on the call that failed. -/
def systemNumber (fault : IO.Error) : UInt32 :=
  let code :=
    match fault with
    | .otherError code _ | .resourceBusy code _ | .resourceVanished code _
    | .unsupportedOperation code _ | .hardwareFault code _ | .unsatisfiedConstraints code _
    | .illegalOperation code _ | .protocolError code _ | .timeExpired code _ => code
    | .interrupted _ code _ | .noFileOrDirectory _ code _ => code
    | .alreadyExists _ code _ | .invalidArgument _ code _ | .permissionDenied _ code _
    | .resourceExhausted _ code _ | .inappropriateType _ code _ | .noSuchThing _ code _ => code
    | .unexpectedEof | .userError _ => 0
  min code (0 - code)

/-- The system's words for what can be wrong with a file that is there. -/
def systemWords : List (UInt32 × String) :=
  [(1, "Operation not permitted"), (5, "Input/output error"), (6, "No such device or address"),
   (12, "Cannot allocate memory"), (13, "Permission denied"), (16, "Device or resource busy"),
   (19, "No such device"), (22, "Invalid argument"), (23, "Too many open files in system"),
   (24, "Too many open files"), (40, "Too many levels of symbolic links"),
   (75, "Value too large for defined data type"), (116, "Stale file handle")]

/-- What there is at a path that the system does not read, by the number that it gives. -/
def stateOf (number : UInt32) : FileState :=
  if number = 2 then .missing
  else if number = 20 then .underFile
  else if number = 21 then .directory
  else if number = 36 then .nameTooLong
  else
    let words := (systemWords.lookup number).getD ("Unknown error " ++ toString number)
    .unreadable number.toNat words

/-- What there is at a path. -/
def lookUp (path : String) : IO FileState := do
  match ← (IO.FS.readBinFile path).toBaseIO with
  | .ok bytes => return .contents bytes.toList
  | .error fault => return stateOf (systemNumber fault)

/-- The variables of the environment that matter. -/
def settingsOf (keys : List Text) : IO Environment := do
  let possible := keys.filter fun key => !key.contains '=' && !key.contains (Char.ofNat 0)
  let values ← possible.mapM fun key => return (key, ← IO.getEnv (String.ofList key))
  return values.filterMap fun (key, value) => value.map fun text => (key, text.toList)

/-- Runs the program; a fault of the markup ends it with status 1. -/
def main (arguments : List String) : IO UInt32 := do
  let texts := arguments.map String.toList
  let path :=
    match Options.scan texts with
    | .ok options => normalPath options.path
    | .error _ => ['.']
  let state ← lookUp (String.ofList path)
  let settingsFile ← findSettings settingsPlaces
  let world : CommandLine.World := {
    environment := ← settingsOf ([Policy.repeatedObjectiveKey, Policy.strictOperatorsKey] ++
      SettingsFile.relevantKeys settingsFile)
    settingsFile := settingsFile
    files := fun _ => state }
  match CommandLine.run world texts with
  | .ok outcome =>
    for entry in outcome.entries do IO.eprintln entry.line
    for line in outcome.output do IO.println (String.ofList line)
    return outcome.status.toUInt32
  | .error fault =>
    IO.eprintln fault.message
    return 1
