import LinearProgram.Solver.Problem

/-!
# Command line options

Arguments are read from left to right. The option `--method` and the argument after it are one
unit; of several paths or methods the last counts. The first argument that is at fault ends the
reading, and a missing path is noticed at the end.
-/

namespace LinearProgram

/-- What the arguments ask for. -/
structure Options where
  path : Text
  solve : Bool
  strict : Bool
  verbose : Bool
  method : Text
  deriving DecidableEq

namespace Options

/-- Why arguments cannot be followed. -/
inductive Fault where
  | missingMethod
  | unknownOption (argument : Text)
  | missingPath
  deriving DecidableEq

/-- The options read so far; there may be no path yet. -/
structure Draft where
  path : Option Text := none
  solve : Bool := false
  strict : Bool := false
  verbose : Bool := false
  method : Text := Method.automatic.label.toList
  deriving DecidableEq

/-- Arguments that begin with two hyphens are options. -/
def isOption (argument : Text) : Bool := ['-', '-'].isPrefixOf argument

def solveOption : Text := "--solve".toList

def strictOption : Text := "--strict".toList

def verboseOption : Text := "--verbose".toList

def methodOption : Text := "--method".toList

/-- Reads the arguments that are left. -/
def scanFrom : Draft → List Text → Except Fault Draft
  | draft, [] => .ok draft
  | draft, argument :: rest =>
    if argument = solveOption then scanFrom { draft with solve := true } rest
    else if argument = strictOption then scanFrom { draft with strict := true } rest
    else if argument = verboseOption then scanFrom { draft with verbose := true } rest
    else if argument = methodOption then
      match rest with
      | [] => .error .missingMethod
      | value :: rest =>
        if isOption value then .error .missingMethod
        else scanFrom { draft with method := value } rest
    else if isOption argument then .error (.unknownOption argument)
    else scanFrom { draft with path := some argument } rest

/-- Reads all arguments. -/
def scan (arguments : List Text) : Except Fault Options :=
  match scanFrom {} arguments with
  | .error fault => .error fault
  | .ok draft =>
    match draft.path with
    | some path => .ok ⟨path, draft.solve, draft.strict, draft.verbose, draft.method⟩
    | none => .error .missingPath

end Options

end LinearProgram
