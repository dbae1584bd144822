import StateMetrics.Decimal.Digits
import StateMetrics.Text.Quoted

/-!
# Errors

Why a reconciliation or the start of the program fails. Each cause carries what its message needs;
the wording, the label under which a failure is counted and the two questions that decide what
happens next (`isConflict`, `isPermanent`) are stated once, here.
-/

namespace StateMetrics

/-- What an API server says about a request that it refuses. -/
structure Refusal where
  status : String
  message : String
  reason : String
  code : Nat
  deriving DecidableEq, Repr, Inhabited

/-- The refusal on one line, every field by its name. -/
def Refusal.summary (r : Refusal) : String :=
  "ErrorResponse \x7b status: " ++ Text.quoted r.status ++ ", message: " ++ Text.quoted r.message
    ++ ", reason: " ++ Text.quoted r.reason ++ ", code: " ++ Decimal.natText r.code ++ " \x7d"

/-- Why a request to the cluster brought no answer that can be used. -/
inductive ClusterFault where
  /-- The API server refused the request. -/
  | refused (refusal : Refusal)
  /-- The request could not be made, did not get through, or its answer could not be read. -/
  | unreachable (detail : String)
  deriving DecidableEq, Repr, Inhabited

/-- The text of a cluster fault. -/
def ClusterFault.message : ClusterFault → String
  | refused r => "ApiError: " ++ r.message ++ ": " ++ r.reason ++ " (" ++ r.summary ++ ")"
  | unreachable detail => detail

/-- Why a label selector is not accepted. -/
inductive SelectorFault where
  /-- The text does not write a label selector. -/
  | unreadable (text : String)
  /-- The selector asks for something that has no meaning. -/
  | meaningless (detail : String)
  deriving DecidableEq, Repr, Inhabited

/-- The text of a selector fault. -/
def SelectorFault.message : SelectorFault → String
  | unreadable text => text
  | meaningless detail => detail

/-- Why something failed. -/
inductive Error where
  /-- YAML text could not be produced. -/
  | yaml (detail : String)
  /-- A request to the cluster failed. -/
  | cluster (fault : ClusterFault)
  /-- The resource of this number has no JSON form. -/
  | encoding (index : Nat) (detail : String)
  /-- A stored object changed since it was read. -/
  | conflict (what : String)
  /-- An object to be created exists already. -/
  | alreadyExists (what : String)
  /-- A label selector is not accepted. -/
  | selector (fault : SelectorFault)
  /-- Input or output of the program itself failed. -/
  | stdio (detail : String)
  /-- Anything else. -/
  | other (detail : String)
  deriving DecidableEq, Repr, Inhabited

namespace Error

/-- The label under which failures of this cause are counted. -/
def label : Error → String
  | yaml _ => "yamlerror"
  | cluster _ => "kubeerror"
  | encoding .. => "encoding"
  | conflict _ => "conflict"
  | alreadyExists _ => "alreadyexists"
  | selector _ => "selector"
  | stdio _ => "stdio"
  | other _ => "other"

/-- The message. -/
def message : Error → String
  | yaml detail => "YamlError: " ++ detail
  | cluster fault => "K8s error: " ++ fault.message
  | encoding index detail =>
    "Failed to encode resources #" ++ Decimal.natText index ++ " to JSON: " ++ detail
  | conflict what => "Conflict: " ++ what
  | alreadyExists what => "Already exists: " ++ what
  | selector fault => "Invalid label selector: " ++ fault.message
  | stdio detail => "Stdio error " ++ detail
  | other detail => "Error: " ++ detail

/-- Whether a fresh read may help: what was read is no longer what is stored. -/
def isConflict : Error → Bool
  | conflict _ => true
  | alreadyExists _ => true
  | _ => false

/-- Whether trying again cannot help before the instance changes. -/
def isPermanent : Error → Bool
  | encoding .. => true
  | selector _ => true
  | _ => false

/-- The error of a refused request or a failed one. A refusal with code 409 means that the object
exists already or that it changed since it was read, as its reason tells. -/
def ofFault : ClusterFault → Error
  | .refused r =>
    if r.code = 409 then
      if r.reason = "AlreadyExists" then alreadyExists r.message else conflict r.message
    else cluster (.refused r)
  | fault => cluster fault

end Error

/-- A value, or why there is none. -/
abbrev Result (α : Type) := Except Error α

end StateMetrics
