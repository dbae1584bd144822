import StateMetrics.Admission.Notification
import StateMetrics.Controller.Program
import StateMetrics.Selector.Basic

/-!
# Scope and admission

An object is in scope when its labels and those of its namespace match the selectors. A notification
is admitted when it is about a change that matters and its object is in scope. The controller
compares each version of an instance with the one it reconciled last.
-/

namespace StateMetrics

/-- The selectors of a controller; an unset one selects everything. -/
structure Scope where
  selector : Option Selector := none
  namespaceSelector : Option Selector := none
  deriving DecidableEq, Repr, Inhabited

namespace Scope

/-- Whether labels match a selector, if there is one. -/
def selectorMatches (selector : Option Selector) (labels : TextMap) : Bool :=
  selector.all (·.selects labels)

/-- Whether the labels of a namespace match a selector, if there is one. A namespace that is missing
or cannot be looked up matches none. -/
def namespaceMatches (selector : Option Selector) (name : String) : Program Bool :=
  match selector with
  | none => pure true
  | some selector => do
    match ← Program.send (.namespaceLabels name) with
    | .ok (some labels) => pure (selector.selects labels)
    | .ok none => pure false
    | .error _ => pure false

/-- Whether an object and its namespace match the selectors. The namespace is looked up only if the
object itself matches. -/
def includes (scope : Scope) (object : ObjectMeta) : Program Bool :=
  if selectorMatches scope.selector object.labelMap then
    namespaceMatches scope.namespaceSelector object.namespaceName
  else pure false

/-- Whether a notification is about a change that matters to an object in scope. -/
def admits (scope : Scope) (n : Notification) : Program Bool :=
  if n.changed then scope.includes n.object else pure false

/-- What a version of an instance tells, given the version reconciled last. -/
def notification (last : Option Instance) (version : Instance) : Notification :=
  if version.isDeleting then .deleted version.metadata
  else match last with
    | none => .created version.metadata
    | some old => .updated old.metadata version.metadata

/-- Whether a version of an instance deserves a reconciliation. An instance that changed and is out
of scope is forgotten. -/
def admitInstance (scope : Scope) (version : Instance) : Program Bool := do
  let last ← Program.inquire (.lastSeen version.key)
  if (notification last version).changed then
    let admitted ← scope.includes version.metadata
    if !admitted then Program.inquire (.forget version.key)
    pure admitted
  else pure false

end Scope

end StateMetrics
