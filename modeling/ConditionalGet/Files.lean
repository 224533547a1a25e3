import ConditionalGet.Program

/-!
# File operations

What the library asks of a file system, as an interface: reading a text, writing one, renaming,
removing, and making directories. An answer is a result or an `IoFault`.
-/

set_option autoImplicit false

namespace ConditionalGet

/-- Why a file operation failed. -/
inductive IoFault where
  /-- There is no such file, or the directory it should be in does not exist. -/
  | notFound
  /-- A name on the way belongs to no directory. -/
  | notDirectory
  | isDirectory
  | exists
  | notEmpty
  | nameTooLong
  /-- The path has a character that no file name can have. -/
  | nulInName
  /-- The file's bytes are no text. -/
  | notText
  /-- Anything else that a system may complain about. -/
  | other (text : String)
  deriving DecidableEq, Repr

def IoFault.text : IoFault → String
  | .notFound => "No such file or directory (os error 2)"
  | .notDirectory => "Not a directory (os error 20)"
  | .isDirectory => "Is a directory (os error 21)"
  | .exists => "File exists (os error 17)"
  | .notEmpty => "Directory not empty (os error 39)"
  | .nameTooLong => "File name too long (os error 36)"
  | .nulInName => "file name contained an unexpected NUL byte"
  | .notText => "stream did not contain valid UTF-8"
  | .other text => text

namespace Files

inductive Operation where
  | read (path : String)
  | write (path text : String)
  | rename (source target : String)
  | remove (path : String)
  /-- Makes a directory and those it is in. -/
  | createAll (path : String)
  deriving DecidableEq, Repr

/-- What an operation answers if it succeeds. -/
def Operation.Result : Operation → Type
  | .read _ => String
  | _ => Unit

/-- The interface of file operations. -/
def interface : Interface where
  Question := Operation
  Answer op := Except IoFault op.Result

def Operation.paths : Operation → List String
  | .read path => [path]
  | .write path _ => [path]
  | .rename source target => [source, target]
  | .remove path => [path]
  | .createAll path => [path]

end Files

/-- A program whose questions are file operations. -/
abbrev FileProgram (α : Type) := Program Files.interface α

namespace FileProgram

def read (path : String) : FileProgram (Except IoFault String) :=
  .ask (Files.Operation.read path) .pure

/-- Makes a file of a text, or replaces the text of a file. -/
def write (path text : String) : FileProgram (Except IoFault Unit) :=
  .ask (Files.Operation.write path text) .pure

/-- Gives a file another path; a file that has that path already is lost. -/
def rename (source target : String) : FileProgram (Except IoFault Unit) :=
  .ask (Files.Operation.rename source target) .pure

def remove (path : String) : FileProgram (Except IoFault Unit) :=
  .ask (Files.Operation.remove path) .pure

/-- Makes a directory and those it is in. -/
def createAll (path : String) : FileProgram (Except IoFault Unit) :=
  .ask (Files.Operation.createAll path) .pure

end FileProgram

end ConditionalGet
