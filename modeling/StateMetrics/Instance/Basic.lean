import StateMetrics.Instance.Condition
import StateMetrics.Object.ConfigMap

/-!
# Instances

An instance asks for its resources to stand in a document. Its specification names the document and
lists the resources, its status says how far that has come, and its finalizer keeps it in the
cluster until its block is out of the document again.
-/

namespace StateMetrics

/-- Where the resources of an instance are to stand, as the instance says it. -/
structure TargetSpec where
  name : String
  /-- The namespace of the config map; that of the instance when it is unset or empty. -/
  namespaceName? : Option String
  /-- The data key; the default key when it is empty. -/
  key : String
  deriving DecidableEq, Repr, Inhabited

/-- What an instance asks for. -/
structure InstanceSpec where
  target : TargetSpec
  /-- The resources, written into the document as they are. -/
  resources : List Json
  deriving Repr, Inhabited

/-- What an instance says about itself. -/
structure InstanceStatus where
  conditions : List Condition := []
  deriving DecidableEq, Repr, Inhabited

/-- An instance. -/
structure Instance where
  metadata : ObjectMeta
  spec : InstanceSpec
  status : Option InstanceStatus
  deriving Repr, Inhabited

namespace Instance

/-- The finalizer of every instance whose block was written. -/
def finalizer : String := "ksm.jtyr.io/finalizer"

/-- The identity of an instance of this name and namespace in the markers of its block. -/
def keyOf (name namespaceName : String) : String := name ++ "@" ++ namespaceName

/-- The identity of the instance in the markers of its block. -/
def key (i : Instance) : String := keyOf i.metadata.anyName i.metadata.namespaceName

/-- The document that the instance writes to. -/
def target (i : Instance) : Target where
  name := i.spec.target.name
  namespaceName :=
    match i.spec.target.namespaceName? with
    | some n => if n = "" then i.metadata.namespaceName else n
    | none => i.metadata.namespaceName
  key := if i.spec.target.key = "" then Target.defaultKey else i.spec.target.key

/-- Whether the deletion of the instance was asked for. -/
def isDeleting (i : Instance) : Bool := i.metadata.deletionTimestamp.isSome

/-- Whether the instance carries the finalizer. -/
def hasFinalizer (i : Instance) : Bool := i.metadata.finalizerList.contains finalizer

/-- The instance with the finalizer, put behind the others if it is not among them. -/
def addFinalizer (i : Instance) : Instance :=
  if i.hasFinalizer then i
  else { i with metadata.finalizers := some (i.metadata.finalizerList ++ [finalizer]) }

/-- The instance without the finalizer. The list of finalizers is set then, if only to the empty
list. -/
def removeFinalizer (i : Instance) : Instance :=
  { i with metadata.finalizers := some (i.metadata.finalizerList.filter (· ≠ finalizer)) }

/-- The condition about readiness, the first if there are several. -/
def ready? (i : Instance) : Option Condition :=
  i.status.bind fun s => s.conditions.find? (·.kind = .ready)

/-- Puts a condition in place of the first of its kind, or behind all others. -/
def putCondition (condition : Condition) : List Condition → List Condition
  | [] => [condition]
  | c :: rest => if c.kind = condition.kind then condition :: rest
                 else c :: putCondition condition rest

/-- The condition about readiness to be set at a moment. -/
def readyCondition (i : Instance) (moment : Moment) (status : Bool) (reason : Reason)
    (message : String) : Condition where
  lastTransition := some moment
  message := message
  kind := .ready
  status := status
  reason := reason
  observedGeneration := i.metadata.generation

/-- Sets the condition about readiness, if it says anything new; whether it did. The time of the
last transition is kept unless the status flips. -/
def setReady (i : Instance) (moment : Moment) (status : Bool) (reason : Reason) (message : String) :
    Instance × Bool :=
  let conditions := (i.status.getD {}).conditions
  let new := i.readyCondition moment status reason message
  match conditions.find? (·.kind = .ready) with
  | some current =>
    if current.sameState new then (i, false)
    else
      let kept := if current.status = new.status
        then { new with lastTransition := current.lastTransition } else new
      ({ i with status := some ⟨putCondition kept conditions⟩ }, true)
  | none => ({ i with status := some ⟨putCondition new conditions⟩ }, true)

end Instance

/-- What a reconciliation has to do with an instance, by its state. -/
inductive Phase where
  | deleting
  | creating
  | updating
  deriving DecidableEq, Repr, Inhabited

/-- An instance that is to be deleted is; one of the first generation without finalizer is new; any
other is updated. -/
def Instance.phase (i : Instance) : Phase :=
  if i.isDeleting then .deleting
  else if i.metadata.generation = some 1 && !i.hasFinalizer then .creating
  else .updating

end StateMetrics
