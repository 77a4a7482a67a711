/-!
# Journal entries

What the program reports about its work beside its results. Entries are values that the operations
return in the order in which they arise; only the command line writes them.
-/

namespace LinearProgram

namespace Journal

/-- How important an entry is. -/
inductive Level where
  | debug
  | info
  | error
  deriving DecidableEq

/-- The part of the program that reports. -/
inductive Source where
  | policy
  | reader
  | assembly
  | solver
  deriving DecidableEq

/-- One entry. -/
structure Entry where
  level : Level
  source : Source
  message : String
  deriving DecidableEq

/-- The name of a level in a written entry. -/
def Level.label : Level → String
  | .debug => "DEBUG"
  | .info => "INFO"
  | .error => "ERROR"

/-- The name of a source in a written entry. -/
def Source.label : Source → String
  | .policy => "lpparse.modeling.config"
  | .reader => "lpparse.modeling.parsers"
  | .assembly => "lpparse.builder.standard_form"
  | .solver => "lpparse.optimizers.linprog_backend"

/-- A written entry: level, source and message. -/
def Entry.line (entry : Entry) : String :=
  entry.level.label ++ ":" ++ entry.source.label ++ ":" ++ entry.message

end Journal

/-- A result together with the entries that were made on the way to it. -/
structure Journaled (α : Type) where
  value : α
  entries : List Journal.Entry

end LinearProgram
