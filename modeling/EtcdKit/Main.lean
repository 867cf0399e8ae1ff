import Std.Time.DateTime.Timestamp
import EtcdKit.CommandLine.Program
/-!
# Main — the command line as a program

The program reads the profile from the file system and prints what the command line comes to.  It
reaches no server and asks no user: requests and questions fail here, so soon that one reading of the
clock serves for all lines.
-/
namespace EtcdKit

def readFile (path : String) : IO (Except Error String) := do
  try
    match String.fromUTF8? (← IO.FS.readBinFile path) with
    | some text => return .ok text
    | none => return .error (.file .notText)
  catch
    | .noFileOrDirectory .. => return .error (.profileNotFound path)
    | .inappropriateType _ 20 _ => return .error (.file .notDirectory)
    | .inappropriateType .. => return .error (.file .isDirectory)
    | .invalidArgument _ 36 _ => return .error (.file .nameTooLong)
    | other => return .error (.file (.other (toString other)))

/-- Reads the file that the arguments name, if they name one. -/
def readProfileFile (arguments : List String) : IO (String → Except Error String) := do
  match CommandLine.Invocation.ofArguments arguments with
  | .ok ⟨some path, _⟩ =>
    let text ← readFile path
    return fun _ => text
  | _ => return fun path => .error (.profileNotFound path)

end EtcdKit

def main (arguments : List String) : IO UInt32 := do
  let readText ← EtcdKit.readProfileFile arguments
  let now := (← Std.Time.Timestamp.now).toSecondsSinceUnixEpoch.val
  let stamp := fun moment => (EtcdKit.Calendar.ofSeconds moment).text
  let outcome := EtcdKit.CommandLine.run readText stamp { clock := fun _ => now } arguments
  IO.print outcome.output
  IO.eprint outcome.report
  return UInt32.ofNat outcome.code
