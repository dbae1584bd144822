import StateMetrics.Controller.State
import StateMetrics.Store.Write

/-!
# A test bench

Stores with faults to come, counted by kind, and counts of what was written. Instances and config
maps have version numbers of their own. The bench knows one document and instances that write to it.
-/

namespace StateMetrics

/-- The faults to come. -/
structure Faults where
  /-- Writes of config maps that are refused as conflicting. -/
  conflicts : Nat := 0
  /-- Reads of config maps that fail. -/
  reads : Nat := 0
  /-- Updates of config maps that fail. -/
  updates : Nat := 0
  /-- Updates of instances that fail. -/
  instanceUpdates : Nat := 0
  deriving DecidableEq, Repr, Inhabited

/-- The stores of a test. -/
structure Bench where
  instances : NameMap Instance := []
  documents : NameMap ConfigMap := []
  /-- The number of the last version of an instance. -/
  instanceVersion : Nat := 0
  /-- The number of the last version of a config map. -/
  documentVersion : Nat := 0
  faults : Faults := {}
  /-- How many updates of instances were made. -/
  updates : Nat := 0
  /-- How many updates of the status of instances were made. -/
  statusUpdates : Nat := 0
  /-- How many writes of config maps the controller made. -/
  writes : Nat := 0
  /-- The events told, in order. -/
  events : List Event := []
  deriving Inhabited

namespace Bench

/-- The document of the bench. -/
def target : Target := ⟨"ksm", "monitoring", Target.defaultKey⟩

/-- A new instance that writes to the document of the bench. -/
def newInstance (name namespaceName : String) (resources : List Json) : Instance where
  metadata := { name := some name, namespaceName? := some namespaceName, generation := some 1 }
  spec := { target := { name := target.name, namespaceName? := some target.namespaceName,
                        key := target.key },
            resources }
  status := none

/-! ## Requests -/

/-- Stores a changed instance under a new version, unless it goes; what is stored then. -/
def saveInstance (b : Bench) (i : Instance) : Instance × Bench :=
  let saved := i.numbered (b.instanceVersion + 1)
  (saved, { b with instances := Store.keep saved b.instances,
                   instanceVersion := b.instanceVersion + 1 })

/-- Stores a config map under a new version; what is stored then. -/
def saveDocument (b : Bench) (document : ConfigMap) : ConfigMap × Bench :=
  let saved := document.numbered (b.documentVersion + 1)
  (saved, { b with documents := NameMap.insert saved.mapKey saved b.documents,
                   documentVersion := b.documentVersion + 1 })

/-- Gives the stored instance the finalizers and labels of the given one, unless a fault is due. -/
def updateInstance (b : Bench) (given : Instance) : Result Instance × Bench :=
  match b.faults.instanceUpdates with
  | left + 1 =>
    (.error (.other "injected update failure"), { b with faults.instanceUpdates := left })
  | 0 => match Store.current b.instances given with
    | .error e => (.error e, b)
    | .ok found =>
      let (saved, b) := { b with updates := b.updates + 1 }.saveInstance
        { found with metadata.finalizers := given.metadata.finalizers
                     metadata.labels := given.metadata.labels }
      (.ok saved, b)

/-- Gives the stored instance the status of the given one. -/
def updateStatus (b : Bench) (given : Instance) : Result Instance × Bench :=
  match Store.current b.instances given with
  | .error e => (.error e, b)
  | .ok found =>
    let (saved, b) := { b with statusUpdates := b.statusUpdates + 1 }.saveInstance
      { found with status := given.status }
    (.ok saved, b)

/-- Reads a config map, unless a fault is due. -/
def getDocument (b : Bench) (target : Target) : Result (Option ConfigMap) × Bench :=
  match b.faults.reads with
  | left + 1 => (.error (.other "injected read failure"), { b with faults.reads := left })
  | 0 => (.ok (b.documents.lookup target.mapKey), b)

/-- Counts a write of a config map and makes it. -/
def writeDocument (b : Bench) (given : ConfigMap) : Result ConfigMap × Bench :=
  let (saved, b) := { b with writes := b.writes + 1 }.saveDocument given
  (.ok saved, b)

/-- Stores a config map that does not exist yet, unless a conflict is due. -/
def createDocument (b : Bench) (given : ConfigMap) : Result ConfigMap × Bench :=
  match b.faults.conflicts with
  | left + 1 => (.error (.alreadyExists given.mapKey), { b with faults.conflicts := left })
  | 0 =>
    if (b.documents.lookup given.mapKey).isSome then (.error (.alreadyExists given.mapKey), b)
    else b.writeDocument given

/-- Stores a config map in place of the version that it carries, unless a fault or a conflict is
due. -/
def updateDocument (b : Bench) (given : ConfigMap) : Result ConfigMap × Bench :=
  match b.faults.updates with
  | left + 1 => (.error (.other "injected update failure"), { b with faults.updates := left })
  | 0 => match b.faults.conflicts with
    | left + 1 => (.error (.conflict given.mapKey), { b with faults.conflicts := left })
    | 0 =>
      if Store.isStale b.documents given then (.error (.conflict given.mapKey), b)
      else b.writeDocument given

/-- The labels of a namespace: every one exists and has none. -/
def namespaceLabels (_name : String) : Result (Option TextMap) := .ok (some [])

/-- Answers the requests of the controller. -/
def handle : Handler Bench
  | .getInstance namespaceName name, b =>
    (.ok (b.instances.lookup (Instance.keyOf name namespaceName)), b)
  | .updateInstance given, b => b.updateInstance given
  | .updateStatus given, b => b.updateStatus given
  | .getDocument target, b => b.getDocument target
  | .createDocument given, b => b.createDocument given
  | .updateDocument given, b => b.updateDocument given
  | .namespaceLabels name, b => (namespaceLabels name, b)
  | .record _ event, b => ((), { b with events := b.events ++ [event] })

/-! ## Preparing a test -/

/-- Stores an instance; what is stored then. -/
def insert (b : Bench) (given : Instance) : Instance × Bench :=
  let saved := given.numbered (b.instanceVersion + 1)
  (saved, { b with instances := NameMap.insert saved.key saved b.instances,
                   instanceVersion := b.instanceVersion + 1 })

/-- Changes the stored instance of a key, if there is one. -/
def modify (b : Bench) (key : String) (change : Instance → Instance) : Bench :=
  match b.instances.lookup key with
  | none => b
  | some found =>
    let changed := (change found).numbered (b.instanceVersion + 1)
    { b with instances := NameMap.insert key changed b.instances,
             instanceVersion := b.instanceVersion + 1 }

/-- Gives an instance other resources. -/
def edit (b : Bench) (key : String) (resources : List Json) : Bench :=
  b.modify key fun i =>
    { i with spec.resources := resources, metadata.generation := i.metadata.generation.map (· + 1) }

/-- Asks for the deletion of an instance. -/
def markDeleted (b : Bench) (key : String) (moment : Moment) : Bench :=
  b.modify key fun i => { i with metadata.deletionTimestamp := some moment }

/-- Stores the document of the bench with some content. -/
def insertDocument (b : Bench) (content : String) : Bench :=
  (b.saveDocument (ConfigMap.ofContent target content)).2

/-- Writes the document of the bench as it is, if there is one. -/
def touch (b : Bench) : Bench :=
  match b.documents.lookup target.mapKey with
  | none => b
  | some document => (b.saveDocument document).2

/-- The content of the document of the bench. -/
def content? (b : Bench) : Option String :=
  (b.documents.lookup target.mapKey).map (·.content target.key)

/-- How many warnings were told. -/
def warnings (b : Bench) : Nat := b.events.countP (·.kind = .warning)

end Bench

end StateMetrics
