import StateMetrics.Error
import StateMetrics.NameMap

/-!
# Namespaces

What a lookup of a namespace finds: its labels, nothing, or a failure.
-/

namespace StateMetrics

/-- What the lookup of a namespace comes to. -/
inductive NamespaceState where
  /-- The namespace exists and has labels. -/
  | labelled (labels : TextMap)
  /-- The namespace does not exist. -/
  | missing
  /-- The lookup fails. -/
  | unreachable
  deriving DecidableEq, Repr, Inhabited

/-- The namespaces of a cluster. -/
structure Namespaces where
  listed : NameMap NamespaceState := []
  /-- What is true of a namespace that is not listed. -/
  others : NamespaceState := .labelled []
  deriving DecidableEq, Repr, Inhabited

namespace Namespaces

/-- What is true of a namespace. -/
def state (n : Namespaces) (name : String) : NamespaceState := (n.listed.lookup name).getD n.others

/-- Looks a namespace up. -/
def labels (n : Namespaces) (name : String) : Result (Option TextMap) :=
  match n.state name with
  | .labelled labels => .ok (some labels)
  | .missing => .ok none
  | .unreachable => .error (.other "namespace lookup failed")

/-- Lists a namespace. -/
def set (n : Namespaces) (name : String) (state : NamespaceState) : Namespaces :=
  { n with listed := NameMap.insert name state n.listed }

end Namespaces

end StateMetrics
