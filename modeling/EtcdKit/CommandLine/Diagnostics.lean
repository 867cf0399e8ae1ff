/-!
# Diagnostics — how much a program says about its work
-/
namespace EtcdKit.CommandLine

inductive Diagnostics where
  | warnings
  | information
  | details
  deriving DecidableEq, Repr

namespace Diagnostics

def ofVerbosity : Nat → Diagnostics
  | 0 => .warnings
  | 1 => .information
  | _ => .details

def text : Diagnostics → String
  | .warnings => "WARN"
  | .information => "INFO"
  | .details => "DEBUG"

end Diagnostics
end EtcdKit.CommandLine
