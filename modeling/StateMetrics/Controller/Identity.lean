/-!
# Names of the controller

The program is known to the cluster by a client name, and its events by a reporter: a short name and
the name of the pod that it runs in.
-/

namespace StateMetrics

/-- Who reports an event. -/
structure Reporter where
  controller : String
  /-- The pod, or a word for none. -/
  pod : String
  deriving DecidableEq, Repr, Inhabited

namespace Reporter

/-- The client name of the controller itself. -/
def controllerName : String := "controller.ksm.jtyr.io"

/-- The client name of anything else that uses the library. -/
def libraryName : String := "ksm.jtyr.io"

/-- The file name of the controller's program. -/
def programName : String := "operator"

/-- The client name of a program. -/
def clientName (program : String) : String :=
  if program = programName then controllerName else libraryName

/-- The short form of a client name: a name of more than three parts keeps its first. -/
def shortName (client : String) : String :=
  if 3 ≤ client.toList.count '.' then "crsm-" ++ String.ofList (client.toList.takeWhile (· ≠ '.'))
  else "crsm"

/-- The reporter of a program in a pod, if it runs in one. -/
def ofProgram (program : String) (pod : Option String) : Reporter :=
  ⟨shortName (clientName program), pod.getD "unknown"⟩

end Reporter

end StateMetrics
