import StateMetrics.Store.Cluster

/-!
# Clusters under trial

A cluster whose requests are disturbed by a plan: the next request of some kind fails, or somebody
else comes in between. All that the controller asks for is written down with its outcome.
-/

namespace StateMetrics

/-- The kinds of requests that can be disturbed. -/
inductive CallPoint where
  | getInstance
  | updateInstance
  | updateStatus
  | getDocument
  | createDocument
  | updateDocument
  deriving DecidableEq, Repr, Inhabited

/-- How a request is disturbed. -/
inductive Disturbance where
  /-- It is not. -/
  | calm
  /-- It fails and does nothing. -/
  | fault (error : Error)
  /-- Somebody else acts just before. -/
  | race (act : Intervention)

/-- What was asked for, and how that went. -/
inductive Observation where
  /-- A request about the object of a key. -/
  | call (point : CallPoint) (key : String) (failure : Option Error)
  /-- A write of the status of an instance, with the condition about readiness in it. -/
  | statusCall (key : String) (ready : Option Condition) (failure : Option Error)
  | lookup (namespaceName : String)
  | event (key : String) (event : Event)

/-- Why a request failed, if it did. -/
def Observation.failure? {α : Type} : Result α → Option Error
  | .ok _ => none
  | .error e => some e

/-- A cluster with a plan of disturbances and the record of what was asked. -/
structure Trial where
  cluster : Cluster := {}
  /-- The disturbances to come, next first, for each kind of request. -/
  plan : CallPoint → List Disturbance := fun _ => []
  /-- What was asked, in order. -/
  log : List Observation := []

namespace Trial

/-- Adds disturbances behind the others of their kind. -/
def schedule (t : Trial) (point : CallPoint) (disturbances : List Disturbance) : Trial :=
  { t with plan := fun p => if p = point then t.plan p ++ disturbances else t.plan p }

/-- Someone else acts on the cluster. -/
def intervene (t : Trial) (act : Intervention) : Trial :=
  { t with cluster := t.cluster.intervene act }

/-- Writes something down. -/
def note (t : Trial) (observation : Observation) : Trial := { t with log := t.log ++ [observation] }

/-- Makes a request under the next disturbance of its kind. -/
def disturb {α : Type} (t : Trial) (point : CallPoint) (act : Cluster → Result α × Cluster) :
    Result α × Trial :=
  let rest := { t with plan := fun p => if p = point then (t.plan p).tail else t.plan p }
  match (t.plan point).head?.getD .calm with
  | .calm =>
    let (result, cluster) := act t.cluster
    (result, { rest with cluster })
  | .fault e => (.error e, rest)
  | .race act' =>
    let (result, cluster) := act (t.cluster.intervene act')
    (result, { rest with cluster })

/-- Makes a request under the next disturbance of its kind and writes it down. -/
def request {α : Type} (t : Trial) (point : CallPoint) (key : String)
    (act : Cluster → Result α × Cluster) : Result α × Trial :=
  let (result, t) := t.disturb point act
  (result, t.note (.call point key (Observation.failure? result)))

/-- Answers the requests of the controller. -/
def handle : Handler Trial
  | .getInstance namespaceName name, t =>
    let key := Instance.keyOf name namespaceName
    t.request .getInstance key fun c => (.ok (c.instances.lookup key), c)
  | .updateInstance given, t => t.request .updateInstance given.key (·.updateInstance given)
  | .updateStatus given, t =>
    let (result, t) := t.disturb .updateStatus (·.updateStatus given)
    (result, t.note (.statusCall given.key given.ready? (Observation.failure? result)))
  | .getDocument target, t =>
    t.request .getDocument target.mapKey fun c => (.ok (c.documents.lookup target.mapKey), c)
  | .createDocument given, t => t.request .createDocument given.mapKey (·.createDocument given)
  | .updateDocument given, t => t.request .updateDocument given.mapKey (·.updateDocument given)
  | .namespaceLabels name, t => (t.cluster.namespaces.labels name, t.note (.lookup name))
  | .record about event, t => ((), t.note (.event about.key event))

end Trial

end StateMetrics
