import LinearProgram.Source.Utf8
import LinearProgram.StandardForm.Assembly
import LinearProgram.Text.LineBreak

/-!
# Documents in files

A file is read whole: its bytes are decoded, and every line break, however it is written, becomes a
single line feed. What the file system has at a path is an input here (`FileState`); looking it up
is left to the command line.
-/

namespace LinearProgram

/-! ## Paths -/

/-- A path without what does not matter in it: doubled and closing slashes, and components that
stay in the same directory. Two slashes at the beginning, but not more, differ from one. -/
def normalPath (path : Text) : Text :=
  let parts := (path.splitOn '/').filter fun part => part != [] && part != ['.']
  let slashes := (path.takeWhile (· = '/')).length
  let root : Text := if slashes = 0 then [] else if slashes = 2 then ['/', '/'] else ['/']
  match root ++ ['/'].intercalate parts with
  | [] => ['.']
  | normal => normal

/-! ## Contents -/

/-- What there is at a path. -/
inductive FileState where
  | contents (bytes : List UInt8)
  | missing
  | directory
  /-- A part of the path before the last is a file. -/
  | underFile
  /-- The path, or a part of it, is longer than the file system allows. -/
  | nameTooLong
  /-- The file cannot be opened for another reason, of which the system gives a number and words. -/
  | unreadable (number : Nat) (words : String)

/-- Why a file cannot be read. -/
inductive FileFault where
  | missing (path : Text)
  | isDirectory (path : Text)
  | underFile (path : Text)
  | nameTooLong (path : Text)
  | unreadable (number : Nat) (words : String) (path : Text)
  /-- The path holds a character that no path can hold. -/
  | nullInPath
  | notUtf8 (fault : Utf8.Fault)
  deriving DecidableEq

namespace FileFault

/-- Whether the fault lies in the file system and not in the path or the contents as such. -/
def isSystem : FileFault → Bool
  | .missing _ => true
  | .isDirectory _ => true
  | .underFile _ => true
  | .nameTooLong _ => true
  | .unreadable _ _ _ => true
  | .nullInPath => false
  | .notUtf8 _ => false

/-- What the system says of a path: the number of the reason, and the reason in words. -/
def systemMessage (number : Nat) (words : String) (path : Text) : String :=
  "[Errno " ++ (toString number ++ "] " ++ words ++ ": ") ++ quoted path

/-- What is said of a file that cannot be read. -/
def message : FileFault → String
  | .missing path => systemMessage 2 "No such file or directory" path
  | .isDirectory path => systemMessage 21 "Is a directory" path
  | .underFile path => systemMessage 20 "Not a directory" path
  | .nameTooLong path => systemMessage 36 "File name too long" path
  | .unreadable number words path => systemMessage number words path
  | .nullInPath => "embedded null byte"
  | .notUtf8 fault => fault.message

end FileFault

/-- The text of the file at a path, given what there is at the path. -/
def fileText (path : Text) (state : FileState) : Except FileFault Text :=
  if path.contains (Char.ofNat 0) then .error .nullInPath
  else match state with
    | .missing => .error (.missing (normalPath path))
    | .directory => .error (.isDirectory (normalPath path))
    | .underFile => .error (.underFile (normalPath path))
    | .nameTooLong => .error (.nameTooLong (normalPath path))
    | .unreadable number words => .error (.unreadable number words (normalPath path))
    | .contents bytes =>
      match Utf8.decode bytes with
      | .ok text => .ok (unifyBreaks text)
      | .error fault => .error (.notUtf8 fault)

/-! ## Documents -/

/-- Why nothing has been made of a file: it cannot be read, or what is in it is at fault. -/
inductive FileFailure (ε : Type) where
  | file (fault : FileFault)
  | text (fault : ε)
  deriving DecidableEq

/-- Reads a file and makes something of its text. -/
def withFile {ε α : Type} (path : Text) (state : FileState) (use : Text → Except ε α) :
    Except (FileFailure ε) α :=
  match fileText path state with
  | .error fault => .error (.file fault)
  | .ok text =>
    match use text with
    | .ok result => .ok result
    | .error fault => .error (.text fault)

/-- Reads the document in a file. -/
def Document.fileModel (policy : Policy) (path : Text) (state : FileState) :
    Except (FileFailure Fault) (Model Number) :=
  withFile path state (Document.read policy)

/-- The program of the document in a file. -/
def Document.fileProgram (policy : Policy) (path : Text) (state : FileState) :
    Except (FileFailure (Failure AssemblyFault)) (Program Number) :=
  withFile path state (Document.program policy)

end LinearProgram
