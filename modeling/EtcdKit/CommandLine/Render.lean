import EtcdKit.Arguments.Grammar
import EtcdKit.Profile.Loading
import EtcdKit.Target
/-!
# Render — the targets on the command line
-/
namespace EtcdKit.CommandLine

open Arguments

def nodeOption : OptionSpec := { long := "node", short := some 'n', kind := .valued .anyText }

def kindOption : OptionSpec := { long := "kind", short := some 'k', kind := .valued .anyText }

def styleOptions : List OptionSpec :=
  [{ long := "one-line" }, { long := "skip-data-dir" }, { long := "containerized" }]

def renderSpec : CommandSpec where
  name := "render"
  aliases := ["r"]
  commands := [
    { name := "install", aliases := ["i"], options := [{ long := "osx" }, { long := "source" }],
      conflicts := [("osx", "source")] },
    { name := "go" },
    { name := "kubernetes" },
    { name := "rkt-install" },
    { name := "rkt-trust" },
    { name := "cfssl-install" },
    { name := "root-ca" },
    { name := "root-ca-files" },
    { name := "cert", options := [nodeOption] },
    { name := "certs-copy", options := [nodeOption] },
    { name := "cert-files", options := [nodeOption] },
    { name := "data-dir", options := [nodeOption] },
    { name := "flags", options := nodeOption :: styleOptions },
    { name := "command", options := nodeOption :: styleOptions },
    { name := "initial-cluster" },
    { name := "endpoints", options := [{ long := "scheme" }] },
    { name := "health", options := [nodeOption, { long := "containerized" }] },
    { name := "unit", aliases := ["u"], options := [nodeOption, kindOption] },
    { name := "systemctl", options := [nodeOption, kindOption] },
    { name := "operator", options := [{ long := "health" }] },
    { name := "guide", aliases := ["g"], options := [kindOption, { long := "operator" }] }]

def styleOf (g : Given) : FlagStyle where
  skipDataDir := g.has "skip-data-dir"
  oneLine := g.has "one-line"
  containerized := g.has "containerized"

def kindOf (g : Given) : Except Error UnitKind :=
  UnitKind.ofText ((g.value? "kind").getD UnitKind.systemd.text)

def sourceOf (g : Given) : InstallSource :=
  if g.has "osx" then .mac else if g.has "source" then .source else .linux

/-- The target of a name; none if there is no such target, and an error if the word for how the
daemon is run is none. -/
def targetOf? (name : String) (g : Given) : Option (Except Error Target) :=
  let node := g.value? "node"
  match name with
  | "install" => some (.ok (.install (sourceOf g)))
  | "go" => some (.ok .goToolchain)
  | "kubernetes" => some (.ok .kubernetes)
  | "rkt-install" => some (.ok .rkt)
  | "rkt-trust" => some (.ok .rktTrust)
  | "cfssl-install" => some (.ok .certificatePrograms)
  | "root-ca" => some (.ok .authority)
  | "root-ca-files" => some (.ok .authorityFiles)
  | "cert" => some (.ok (.certificate node))
  | "certs-copy" => some (.ok (.certificateCopy node))
  | "cert-files" => some (.ok (.certificateFiles node))
  | "data-dir" => some (.ok (.dataDir node))
  | "flags" => some (.ok (.flags node (styleOf g)))
  | "command" => some (.ok (.command node (styleOf g)))
  | "initial-cluster" => some (.ok .initialCluster)
  | "endpoints" => some (.ok (.endpoints (g.has "scheme")))
  | "health" => some (.ok (.health node (g.has "containerized")))
  | "unit" => some ((kindOf g).map (.unit node))
  | "systemctl" => some ((kindOf g).map (.control node))
  | "operator" => some (.ok (if g.has "health" then .operatedHealth else .operated))
  | "guide" => some ((kindOf g).map (.guide · (g.has "operator")))
  | _ => none

def withLineEnd (text : String) : String :=
  if Block.endsLine text then text else text ++ "\n"

/-- Prints a target of the profile at a path: the profile is loaded first, then the target is looked
at. -/
def render (readText : String → Except Error String) (path : Option String)
    (target : Except Error Target) : Except Error String :=
  match Profile.load readText path, target with
  | .error e, _ => .error e
  | .ok _, .error e => .error e
  | .ok p, .ok target => (target.render p).map withLineEnd

end EtcdKit.CommandLine
