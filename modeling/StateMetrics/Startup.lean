import StateMetrics.CommandLine.Help
import StateMetrics.Controller.Identity
import StateMetrics.Error
import StateMetrics.Log.Line
import StateMetrics.Yaml.Node.Reading

/-!
# Starting the program

What the program prints and how it ends up to the point where it needs a cluster: a usage error, the
help or the version end it at once; without a cluster that answers it fails.
-/

namespace StateMetrics

open CommandLine

/-- Why there is no cluster to work with. -/
inductive Access where
  /-- No configuration says where the cluster is, or none that can be read. -/
  | unconfigured
  /-- The cluster does not answer. -/
  | unanswered
  deriving DecidableEq, Repr, Inhabited

/-- What a configuration leads to, if there is one, as long as nothing answers: it has to be a YAML
map to be used at all. -/
def Access.ofConfiguration (text : Option String) : Access :=
  match text.bind Yaml.Document.read? with
  | some ⟨.map _, _⟩ => unanswered
  | _ => unconfigured

/-- How the program ended. -/
structure Outcome where
  exitCode : UInt32
  failure : Option Error := none
  /-- What was printed. -/
  output : List String := []
  deriving DecidableEq, Repr, Inhabited

namespace Startup

/-- The variable with the log filter. -/
def filterVariable : String := "RUST_LOG"

/-- The variable that, unless empty, switches colours off. -/
def plainVariable : String := "NO_COLOR"

/-- How log lines are written. -/
def form (options : Options) (environment : Environment) : Log.Form :=
  match options.logFormat with
  | .json => .json
  | .text => if ((environment plainVariable).getD "").isEmpty then .coloured else .plain

/-- What is told first. -/
def greeting : Log.Entry :=
  ⟨.info, "operator", "Starting " ++ Reporter.clientName programName ++ " " ++ programVersion⟩

/-- What is told when the cluster does not answer. -/
def advice : Log.Entry :=
  ⟨.error, "controller::manager",
    "is the crd installed? please run: cargo run --bin crdgen | kubectl apply -f -"⟩

/-- What is told on the way to a failure. -/
def told : Access → List Log.Entry
  | .unconfigured => [greeting]
  | .unanswered => [greeting, advice]

/-- The failure without a cluster. -/
def failure : Access → Error
  | .unconfigured => .cluster (.unreachable "no configuration of a cluster")
  | .unanswered => .cluster (.unreachable "the cluster does not answer")

/-- The exit code of a program that breaks off. -/
def abortCode : UInt32 := 101

/-- Starts the program without a cluster. Log lines are written under the given time. -/
def run (arguments : List String) (environment : Environment) (access : Access) (time : String) :
    Outcome :=
  match Options.read arguments environment with
  | .error .help => { exitCode := 0, output := helpLines environment }
  | .error .version => { exitCode := 0, output := [versionLine] }
  | .error _ => { exitCode := 2 }
  | .ok options =>
    match Log.Filter.ofEnvironment? (environment filterVariable) with
    | none => { exitCode := abortCode }
    | some filter =>
      let lines := (told access).filter fun e => filter.admits e.part e.level
      { exitCode := 1, failure := some (failure access)
        output := lines.map (·.line (form options environment) time) }

end Startup

end StateMetrics
