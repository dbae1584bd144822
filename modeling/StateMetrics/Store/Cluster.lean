import StateMetrics.Controller.State
import StateMetrics.Store.Namespaces
import StateMetrics.Store.Write

/-!
# A cluster in memory

The stored instances and config maps with one count of writes for both, which gives the versions.
`Cluster.handle` answers the requests of the controller as the API server does, `Cluster.intervene`
is what anyone else does to the stored objects.
-/

namespace StateMetrics

/-- The objects of a cluster. -/
structure Cluster where
  instances : NameMap Instance := []
  documents : NameMap ConfigMap := []
  namespaces : Namespaces := {}
  /-- How many writes were made. -/
  writes : Nat := 0
  deriving Inhabited

namespace Cluster

/-! ## Requests -/

/-- Stores an instance by a write of its own; what is stored then. -/
def saveInstance (c : Cluster) (i : Instance) : Instance × Cluster :=
  let saved := i.numbered (c.writes + 1)
  (saved, { c with instances := Store.keep saved c.instances, writes := c.writes + 1 })

/-- Stores a config map by a write of its own; what is stored then. -/
def saveDocument (c : Cluster) (document : ConfigMap) : ConfigMap × Cluster :=
  let saved := document.numbered (c.writes + 1)
  (saved, { c with documents := NameMap.insert saved.mapKey saved c.documents,
                   writes := c.writes + 1 })

/-- Gives the stored instance the finalizers of the given one. -/
def updateInstance (c : Cluster) (given : Instance) : Result Instance × Cluster :=
  match Store.current c.instances given with
  | .error e => (.error e, c)
  | .ok found =>
    let (saved, c) := c.saveInstance { found with metadata.finalizers := given.metadata.finalizers }
    (.ok saved, c)

/-- Gives the stored instance the status of the given one. -/
def updateStatus (c : Cluster) (given : Instance) : Result Instance × Cluster :=
  match Store.current c.instances given with
  | .error e => (.error e, c)
  | .ok found =>
    let (saved, c) := c.saveInstance { found with status := given.status }
    (.ok saved, c)

/-- Stores a config map that does not exist yet. -/
def createDocument (c : Cluster) (given : ConfigMap) : Result ConfigMap × Cluster :=
  match c.documents.lookup given.mapKey with
  | some _ => (.error (.alreadyExists given.mapKey), c)
  | none =>
    let (saved, c) := c.saveDocument given
    (.ok saved, c)

/-- Stores a config map in place of the version that it carries. -/
def updateDocument (c : Cluster) (given : ConfigMap) : Result ConfigMap × Cluster :=
  if Store.isStale c.documents given then (.error (.conflict given.mapKey), c)
  else
    let (saved, c) := c.saveDocument given
    (.ok saved, c)

/-- Answers the requests of the controller. -/
def handle : Handler Cluster
  | .getInstance namespaceName name, c =>
    (.ok (c.instances.lookup (Instance.keyOf name namespaceName)), c)
  | .updateInstance given, c => c.updateInstance given
  | .updateStatus given, c => c.updateStatus given
  | .getDocument target, c => (.ok (c.documents.lookup target.mapKey), c)
  | .createDocument given, c => c.createDocument given
  | .updateDocument given, c => c.updateDocument given
  | .namespaceLabels name, c => (c.namespaces.labels name, c)
  | .record .., c => ((), c)

end Cluster

/-! ## Other writers -/

/-- What is to change in an instance. -/
structure Patch where
  labels : Option (Option TextMap) := none
  finalizers : Option (Option (List String)) := none
  generation : Option (Option Int) := none
  target : Option TargetSpec := none

/-- The instance with all that a patch names. -/
def Patch.apply (p : Patch) (i : Instance) : Instance where
  metadata := { i.metadata with
    labels := p.labels.getD i.metadata.labels
    finalizers := p.finalizers.getD i.metadata.finalizers
    generation := p.generation.getD i.metadata.generation }
  spec := { i.spec with target := p.target.getD i.spec.target }
  status := i.status

/-- What someone else than the controller does to the stored objects. -/
inductive Intervention where
  /-- Stores an instance, new or not. -/
  | putInstance (given : Instance)
  /-- Stores a config map of this name and namespace with nothing but data. -/
  | putDocument (name namespaceName : String) (data : Option TextMap)
  /-- Writes the instance and the config map of a key as they are. -/
  | touch (key : String)
  /-- Takes the instance and the config map of a key out of the store. -/
  | remove (key : String)
  /-- Gives an instance other resources. -/
  | edit (key : String) (resources : List Json)
  | patch (key : String) (patch : Patch)
  /-- Asks for the deletion of an instance. -/
  | delete (key : String) (moment : Moment)
  /-- Changes a namespace, or lets its lookups fail. -/
  | setNamespace (name : String) (state : NamespaceState)

namespace Cluster

/-- Changes the stored instance of a key by a write, if there is one. -/
def modify (c : Cluster) (key : String) (change : Instance → Instance) : Cluster :=
  match c.instances.lookup key with
  | none => c
  | some found =>
    { c with instances := NameMap.insert key ((change found).numbered (c.writes + 1)) c.instances,
             writes := c.writes + 1 }

/-- Writes the instance and the config map of a key as they are. The write counts even if neither is
stored. -/
def touch (c : Cluster) (key : String) : Cluster :=
  let number := c.writes + 1
  let instances := match c.instances.lookup key with
    | some i => NameMap.insert key (i.numbered number) c.instances
    | none => c.instances
  let documents := match c.documents.lookup key with
    | some d => NameMap.insert key (d.numbered number) c.documents
    | none => c.documents
  { c with instances, documents, writes := number }

/-- The cluster after what someone else does. An instance that is not stored stays so, unless it is
put there. -/
def intervene (c : Cluster) : Intervention → Cluster
  | .putInstance given =>
    { c with instances := NameMap.insert given.key (given.numbered (c.writes + 1)) c.instances,
             writes := c.writes + 1 }
  | .putDocument name namespaceName data =>
    (c.saveDocument
      { metadata := { name := some name, namespaceName? := some namespaceName }, data }).2
  | .touch key => c.touch key
  | .remove key =>
    { c with
      instances := NameMap.erase key c.instances
      documents := NameMap.erase key c.documents }
  | .edit key resources => c.modify key fun i =>
    { i with spec.resources := resources, metadata.generation := i.metadata.generation.map (· + 1) }
  | .patch key patch => c.modify key patch.apply
  | .delete key moment => c.modify key fun i => { i with metadata.deletionTimestamp := some moment }
  | .setNamespace name state => { c with namespaces := c.namespaces.set name state }

end Cluster

end StateMetrics
