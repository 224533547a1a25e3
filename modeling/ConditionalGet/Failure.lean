/-!
# Reports of failures

A failure is told by what went wrong and by what brought it about, the nearest cause first.
-/

set_option autoImplicit false

namespace ConditionalGet

structure Failure where
  message : String
  causes : List String := []
  deriving DecidableEq, Repr

namespace Failure

/-- A text whose lines after the first are indented by `width` blanks. -/
def hanging (width : Nat) (s : String) : String :=
  String.ofList (s.toList.flatMap fun c => if c = '\n' then c :: List.replicate width ' ' else [c])

/-- A cause with its number, which stands right in a column of five. -/
def numbered (n : Nat) (cause : String) : String :=
  let digits := toString n
  "".pushn ' ' (5 - digits.length) ++ digits ++ ": " ++ hanging 7 cause

/-- The failure on several lines; several causes are numbered. -/
def report (f : Failure) : String :=
  match f.causes with
  | [] => f.message
  | [cause] => f.message ++ "\n\nCaused by:\n    " ++ hanging 4 cause
  | causes =>
    f.message ++ "\n\nCaused by:\n" ++
      "\n".intercalate (causes.zipIdx.map fun (cause, n) => numbered n cause)

def line (f : Failure) : String := ": ".intercalate (f.message :: f.causes)

end Failure

end ConditionalGet
