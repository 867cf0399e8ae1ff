/-!
# Error — everything that can go wrong, and its wording

An error is a cause; the wording is in `Error.message`, and `Error.kind` sorts the causes.
-/
namespace EtcdKit

inductive FileFault where
  | isDirectory
  | notDirectory
  | notText
  | zeroInName
  | nameTooLong
  | other (text : String)
  deriving DecidableEq, Repr

inductive ProfileFault where
  | blankNodeName
  | repeatedNodeName (name : String)
  | tooFewNodes (declared required found : Nat)
  | zeroTimeout
  | endpointNotBase (endpoint : String)
  | noNodes
  deriving DecidableEq, Repr

/-- A word that stands for no choice, or another problem of the environment. -/
inductive ConfigurationFault where
  | unknownUnitKind (word : String)
  | unknownAction (word : String)
  | other (text : String)
  deriving DecidableEq, Repr

inductive Error where
  | file (fault : FileFault)
  | configuration (fault : ConfigurationFault)
  | profileNotFound (path : String)
  | unsupportedFormat (path : String)
  | invalidProfile (fault : ProfileFault)
  | nodeNotFound (name : String) (available : List String)
  | backend (message : String) (status : Option Nat)
  | tomlUnreadable
  | tomlUnwritable
  | yamlUnreadable
  | prompt (text : String)
  deriving DecidableEq, Repr

inductive ErrorKind where
  | invalidInput
  | notFound
  | invalidData
  | isDirectory
  | notDirectory
  | invalidFilename
  | other
  deriving DecidableEq, Repr

def FileFault.message : FileFault → String
  | .isDirectory => "Is a directory (os error 21)"
  | .notDirectory => "Not a directory (os error 20)"
  | .notText => "stream did not contain valid UTF-8"
  | .zeroInName => "file name contained an unexpected NUL byte"
  | .nameTooLong => "File name too long (os error 36)"
  | .other text => text

def ProfileFault.message : ProfileFault → String
  | .blankNodeName => "node name must not be empty"
  | .repeatedNodeName name => "duplicate node name '" ++ name ++ "'"
  | .tooFewNodes declared required found =>
    "cluster_size " ++ toString declared ++ " needs at least " ++ toString required ++
      " node(s), found " ++ toString found
  | .zeroTimeout => "playground timeout_secs must be greater than 0"
  | .endpointNotBase endpoint =>
    "playground endpoint '" ++ endpoint ++ "' cannot be used as a base URL"
  | .noNodes => "cluster has no nodes"

def ConfigurationFault.message : ConfigurationFault → String
  | .unknownUnitKind word =>
    "Unknown unit kind '" ++ word ++ "': expected one of systemd, docker, rkt, coreos"
  | .unknownAction word =>
    "Unknown action '" ++ word ++
      "': expected one of write, stress, get, delete, stop-node, restart-node"
  | .other text => text

namespace Error

def message : Error → String
  | .file fault => fault.message
  | .configuration fault => fault.message
  | .profileNotFound path => "Profile not found: " ++ path
  | .unsupportedFormat path =>
    "Unsupported profile format '" ++ path ++ "': expected .toml, .yaml or .yml"
  | .invalidProfile fault => "Invalid profile: " ++ fault.message
  | .nodeNotFound name available =>
    "Node '" ++ name ++ "' not found. Available: " ++ String.intercalate ", " available
  | .backend message _ => "Playground backend error: " ++ message
  | .tomlUnreadable => "TOML parse error"
  | .tomlUnwritable => "TOML serialize error"
  | .yamlUnreadable => "YAML parse error"
  | .prompt text => "Prompt failed: " ++ text

def kind : Error → ErrorKind
  | .file .isDirectory => .isDirectory
  | .file .notDirectory => .notDirectory
  | .file .notText => .invalidData
  | .file .zeroInName => .invalidInput
  | .file .nameTooLong => .invalidFilename
  | .file (.other _) => .other
  | .configuration _ => .invalidInput
  | .profileNotFound _ => .notFound
  | .unsupportedFormat _ => .invalidInput
  | .invalidProfile _ => .invalidInput
  | .nodeNotFound _ _ => .notFound
  | .backend _ _ => .other
  | .tomlUnreadable => .invalidInput
  | .tomlUnwritable => .invalidData
  | .yamlUnreadable => .invalidInput
  | .prompt _ => .other

end Error
end EtcdKit
