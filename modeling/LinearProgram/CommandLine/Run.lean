import LinearProgram.CommandLine.Options
import LinearProgram.Display.Markup
import LinearProgram.Display.Report
import LinearProgram.Solver.Simplex
import LinearProgram.Source.File
import LinearProgram.Source.Settings

/-!
# A run of the command line

What a run prints and with what status it ends, as a function of the arguments, the environment,
the settings file and the files. The status is 0 when all that was asked for has been done, 1 when
something failed on the way, and 2 when the arguments cannot be followed; in that case neither the
environment nor any file is looked at.

The solver and the console are left open (`CommandLine.runUsing`); `CommandLine.run` takes the exact
solver and a wide console.

Messages are styled text. What they quote is escaped, except for an unknown option, in which
brackets are taken for tags. If these end a style that has not been begun, the run has no outcome
but that fault.
-/

namespace LinearProgram

namespace CommandLine

/-- What a run is given besides its arguments. -/
structure World where
  environment : Environment
  /-- The bytes of the settings file; there are none without such a file. -/
  settingsFile : List UInt8
  /-- What there is at each path. -/
  files : Text → FileState

/-- The end of a run: its status, the printed lines and the journal as far as it is shown. -/
structure Outcome where
  status : Nat
  output : List Text
  entries : List Journal.Entry

/-- How the program is to be called. -/
def usage : String :=
  "Usage: python -m lpparse.cli FILE [--solve] [--strict] [--method NAME] [--verbose]"

/-- What a console prints of a text with style markup. -/
def styledLines (console : Console) (s : Text) : Except Markup.Fault (List Text) :=
  (Markup.render console.emojis s).map console.lines

/-- A message in the style of errors. What stands in the message is marked up already. -/
def inErrorStyle (message : Text) : Text := "[red]".toList ++ message ++ "[/red]".toList

/-- What is printed when the arguments cannot be followed. -/
def refusal (console : Console) : Options.Fault → Except Markup.Fault (List Text)
  | .missingMethod =>
    styledLines console
      (inErrorStyle "Missing value for --method".toList ++ ('\n' :: usage.toList))
  | .unknownOption argument =>
    styledLines console
      (inErrorStyle ("Unknown option: ".toList ++ argument) ++ ('\n' :: usage.toList))
  | .missingPath => styledLines console usage.toList

/-- The lines of an error message. -/
def errorLines (console : Console) (message : String) : Except Markup.Fault (List Text) :=
  styledLines console (inErrorStyle ("Error: ".toList ++ Markup.escape message.toList))

/-- The lines of the message for a file that the system cannot read. -/
def unreadableLines (console : Console) (path : Text) (message : String) :
    Except Markup.Fault (List Text) :=
  styledLines console (inErrorStyle ("Cannot read ".toList ++ Markup.escape path ++ ": ".toList ++
    Markup.escape message.toList))

/-- Why there is no program to show. -/
inductive LoadFault where
  | settings (fault : SettingsFault)
  | file (fault : FileFault)
  | document (failure : Failure AssemblyFault)
  deriving DecidableEq

/-- What is printed when there is no program to show. -/
def LoadFault.report (console : Console) (path : Text) :
    LoadFault → Except Markup.Fault (List Text)
  | .settings fault => errorLines console fault.message
  | .file fault =>
    if fault.isSystem then unreadableLines console path fault.message
    else errorLines console fault.message
  | .document (.reading fault) => errorLines console fault.message
  | .document (.assembling fault) => errorLines console fault.message

/-- The policy with strict operators where the options ask for them. -/
def effectivePolicy (options : Options) (policy : Policy) : Policy :=
  if options.strict then { policy with strictOperators := true } else policy

/-- The report that a file is about to be read. -/
def readingEntry (path : Text) : Journal.Entry :=
  ⟨.debug, .reader, "Reading LP document from " ++ String.ofList (normalPath path)⟩

/-- The model of a text and its program. -/
def assembled (policy : Policy) (text : Text) :
    Journaled (Except LoadFault (Model Number × Program Number)) :=
  match Document.read policy text with
  | .error fault => ⟨.error (.document (.reading fault)), Document.journal policy text⟩
  | .ok m =>
    match m.program with
    | .error fault => ⟨.error (.document (.assembling fault)), Document.journal policy text⟩
    | .ok p => ⟨.ok (m, p), Document.journal policy text ++ [p.summary]⟩

/-- The model in the file that the options name, and its program. -/
def load (world : World) (options : Options) :
    Journaled (Except LoadFault (Model Number × Program Number)) :=
  match Policy.ofSettings world.environment world.settingsFile with
  | .error fault => ⟨.error (.settings fault), []⟩
  | .ok policy =>
    let opening := [policy.loadedEntry, readingEntry options.path]
    match fileText options.path (world.files options.path) with
    | .error fault => ⟨.error (.file fault), opening⟩
    | .ok text =>
      let result := assembled (effectivePolicy options policy) text
      ⟨result.value, opening ++ result.entries⟩

/-- The part of a run that solves the program: status, lines and entries. -/
def solvePart (solver : Solver) (console : Console) (options : Options) (p : Program Number) :
    Except Markup.Fault Outcome :=
  let result := p.solveNamed solver options.method
  match result.value with
  | .error method =>
    (errorLines console (Method.unknownMessage method)).map fun output =>
      ⟨1, output, result.entries⟩
  | .ok solution =>
    .ok ⟨if solution.solved then 0 else 1, solution.rounded.report console, result.entries⟩

/-- The journal as far as it is shown: errors, or all of it. -/
def shown (options : Options) (entries : List Journal.Entry) : List Journal.Entry :=
  if options.verbose then entries else entries.filter (·.level = .error)

/-- A run whose arguments have been read. -/
def runWith (solver : Solver) (console : Console) (world : World) (options : Options) :
    Except Markup.Fault Outcome :=
  let loaded := load world options
  match loaded.value with
  | .error fault =>
    (fault.report console options.path).map fun output =>
      ⟨1, output, shown options loaded.entries⟩
  | .ok (m, p) =>
    let displays := m.report console ++ p.report console
    if options.solve then
      (solvePart solver console options p).map fun solved =>
        ⟨solved.status, displays ++ solved.output,
          shown options (loaded.entries ++ solved.entries)⟩
    else .ok ⟨0, displays, shown options loaded.entries⟩

/-- A run that solves programs with the given solver and prints on the given console. -/
def runUsing (solver : Solver) (console : Console) (world : World) (arguments : List Text) :
    Except Markup.Fault Outcome :=
  match Options.scan arguments with
  | .ok options => runWith solver console world options
  | .error fault => (refusal console fault).map fun output => ⟨2, output, []⟩

/-- A run. -/
def run (world : World) (arguments : List Text) : Except Markup.Fault Outcome :=
  runUsing exactSolver Console.wide world arguments

end CommandLine

end LinearProgram
