import EtcdKit.FileTree
import EtcdKit.Profile.Encoding
import EtcdKit.Toml.Reader
import EtcdKit.Toml.Writer
import EtcdKit.Yaml.Node
/-!
# Loading — profiles from text and from files

The ending of a file name chooses the format.  Every profile that is loaded is valid.
-/
namespace EtcdKit.Profile

/-- A profile that has no fault. -/
def checked (p : Profile) : Except Error Profile :=
  match p.validate with
  | .ok () => .ok p
  | .error e => .error e

def parseToml (text : String) : Except Error Profile :=
  match (Toml.read? text).bind (ofDocument? .toml) with
  | some p => p.checked
  | none => .error .tomlUnreadable

def parseYaml (text : String) : Except Error Profile :=
  match (Yaml.read? text).bind (ofDocument? .yaml) with
  | some p => p.checked
  | none => .error .yamlUnreadable

def toToml (p : Profile) : Except Error String :=
  match Toml.write? p.sections with
  | some text => .ok text
  | none => .error .tomlUnwritable

def readerFor? (extension : Option String) : Option (String → Except Error Profile) :=
  match extension with
  | some "toml" => some parseToml
  | some "yaml" => some parseYaml
  | some "yml" => some parseYaml
  | _ => none

/-- The profile in the file at a path; `readText` gives the text of a file. -/
def loadFile (readText : String → Except Error String) (path : String) : Except Error Profile :=
  match readerFor? (pathExtension? path) with
  | none => .error (.unsupportedFormat path)
  | some read =>
    match readText path with
    | .ok text => read text
    | .error e => .error e

/-- The profile in the file at a path, or the sample profile if there is no path. -/
def load (readText : String → Except Error String) : Option String → Except Error Profile
  | none => .ok Sample.profile
  | some path => loadFile readText path

end EtcdKit.Profile
