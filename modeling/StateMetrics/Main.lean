import StateMetrics.Definition.Manifest
import StateMetrics.Startup
import StateMetrics.Time.Timestamp
import Std.Time.DateTime.Timestamp

/-!
# The program

Under the name of the manifest generator the program prints the definition of the resource. Under
any other name it starts the controller, as far as that goes without a transport to a cluster.
-/

namespace StateMetrics.Startup

/-- The file name under which the program prints the definition. -/
def generatorName : String := "crdgen"

/-- The variable that names the configuration of the cluster. -/
def configurationVariable : String := "KUBECONFIG"

/-- The variables that a start looks at, with what they hold. -/
def readEnvironment : IO CommandLine.Environment := do
  let names := [filterVariable, plainVariable]
    ++ CommandLine.Setting.all.map CommandLine.Setting.variableName
  let held ← names.mapM fun name => do pure (name, ← IO.getEnv name)
  pure fun name => (held.lookup name).join

/-- What the configuration of the cluster leads to; nothing answers in any case. -/
def readAccess : IO Access := do
  match ← IO.getEnv configurationVariable with
  | none => pure (.ofConfiguration none)
  | some path =>
    try pure (.ofConfiguration (← IO.FS.readFile path))
    catch _ => pure (.ofConfiguration none)

/-- What time it is, as log lines show it. -/
def readClock : IO String := do
  let now ← Std.Time.Timestamp.now
  pure (Timestamp.ofNanoseconds now.toNanosecondsSinceUnixEpoch.val).textInMicroseconds

/-- Prints what a start prints and ends as it ends. -/
def start (arguments : List String) : IO UInt32 := do
  let outcome := run arguments (← readEnvironment) (← readAccess) (← readClock)
  outcome.output.forM IO.println
  if let some failure := outcome.failure then IO.eprintln failure.message
  pure outcome.exitCode

end StateMetrics.Startup

/-- Prints the definition or starts the controller, as the program's file name says. -/
def main (arguments : List String) : IO UInt32 := do
  if (← IO.appPath).fileName = some StateMetrics.Startup.generatorName then
    IO.print StateMetrics.Definition.manifest
    pure 0
  else StateMetrics.Startup.start arguments
