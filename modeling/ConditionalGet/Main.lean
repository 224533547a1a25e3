import ConditionalGet.Command
import Std.Time.DateTime.Timestamp

/-!
# The program

Runs the command on the system: its files, its clock, its environment and its terminal. No way to
reach servers is built in, so every exchange ends as on a machine without a network.
-/

set_option autoImplicit false

namespace ConditionalGet.System

/-- The fault with a number of the system. -/
def faultOf (code : UInt32) (details : String) : IoFault :=
  match code with
  | 2 => .notFound
  | 17 => .exists
  | 20 => .notDirectory
  | 21 => .isDirectory
  | 36 => .nameTooLong
  | 39 => .notEmpty
  | _ => .other (details ++ " (os error " ++ toString code ++ ")")

/-- An error of the system as a fault. -/
def fault : IO.Error → IoFault
  | .alreadyExists _ code details | .otherError code details | .resourceBusy code details
  | .resourceVanished code details | .unsupportedOperation code details
  | .hardwareFault code details | .unsatisfiedConstraints code details
  | .illegalOperation code details | .protocolError code details | .timeExpired code details
  | .interrupted _ code details | .noFileOrDirectory _ code details
  | .invalidArgument _ code details | .permissionDenied _ code details
  | .resourceExhausted _ code details | .inappropriateType _ code details
  | .noSuchThing _ code details => faultOf code details
  | .unexpectedEof => .other "end of file"
  | .userError text => .other text

/-- What an action gives, or its fault. -/
def attempt {α : Type} (action : IO α) : IO (Except IoFault α) := do
  try return .ok (← action)
  catch e => return .error (fault e)

/-- Answers a file operation. -/
def files : (op : Files.Operation) → IO (Except IoFault op.Result)
  | .read path => do
    match ← attempt (IO.FS.readBinFile path) with
    | .error e => return .error e
    | .ok bytes =>
      match Text.decode? bytes with
      | some text => return .ok text
      | none => return .error .notText
  | .write path text => attempt (IO.FS.writeBinFile path (Text.encode text))
  | .rename source target => attempt (IO.FS.rename source target)
  | .remove path => attempt (IO.FS.removeFile path)
  | .createAll path => attempt (IO.FS.createDirAll path)

/-- The instant that a clock beyond the calendar is taken to show. -/
def epoch : Instant := ⟨⟨1970, 1, 1, by decide⟩, 0, 0, 0, 0, by decide⟩

/-- The time. -/
def now : IO Instant := do
  let nanos := (← Std.Time.Timestamp.now).toNanosecondsSinceUnixEpoch.val
  return (Instant.ofUnix? (nanos.fdiv 1000000000) (nanos.fmod 1000000000).toNat).getD epoch

/-- Answers what a run asks for. -/
def answer : (q : Command.Question) → IO (Command.Answer q)
  | .files op => files op
  | .now => now
  | .exchange request => Transport.unreachable request
  | .notify notice => do (← IO.getStderr).putStrLn notice.text
  | .print text => do
    let out ← IO.getStdout
    out.putStr text
    out.flush

/-- The values of some variables. -/
def environment (names : List String) : IO Environment := do
  let values ← names.mapM fun name => do return (name, ← IO.getEnv name)
  return fun name => (values.find? (·.1 = name)).bind Prod.snd

end ConditionalGet.System

open ConditionalGet in
/-- Runs the command. -/
def main (arguments : List String) : IO UInt32 := do
  let env ← System.environment (Command.variableNames arguments)
  let ending ← Program.run System.answer (Command.run env none arguments)
  if !ending.report.isEmpty then (← IO.getStderr).putStrLn ending.report
  return UInt32.ofNat ending.exitCode
