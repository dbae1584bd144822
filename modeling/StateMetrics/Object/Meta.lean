import StateMetrics.Json.Decode

/-!
# Metadata of stored objects

What every object in the cluster carries beside its content: its name and namespace, labels,
finalizers, the generation of its content and the version of its stored form. Everything is
optional; unset members are not written.
-/

namespace StateMetrics

/-- An object that owns another. -/
structure OwnerReference where
  apiVersion : String
  blockOwnerDeletion : Option Bool
  controller : Option Bool
  kind : String
  name : String
  uid : String
  deriving DecidableEq, Repr, Inhabited

/-- Who manages which fields of an object. -/
structure ManagedFields where
  apiVersion : Option String
  fieldsType : Option String
  fieldsV1 : Option Json
  manager : Option String
  operation : Option String
  subresource : Option String
  time : Option Timestamp
  deriving Repr, Inhabited

/-- The metadata of an object. -/
structure ObjectMeta where
  annotations : Option TextMap := none
  creationTimestamp : Option Timestamp := none
  deletionGracePeriodSeconds : Option Int := none
  /-- When deletion was asked for; the object goes once its finalizers are gone. -/
  deletionTimestamp : Option Moment := none
  /-- Names of those who have to clean up before the object may go. -/
  finalizers : Option (List String) := none
  generateName : Option String := none
  /-- Counts the changes of the object's content. -/
  generation : Option Int := none
  labels : Option TextMap := none
  managedFields : Option (List ManagedFields) := none
  name : Option String := none
  namespaceName? : Option String := none
  ownerReferences : Option (List OwnerReference) := none
  /-- Names the stored form of the object; every write makes a new one. -/
  resourceVersion : Option String := none
  selfLink : Option String := none
  uid : Option String := none
  deriving Repr, Inhabited

namespace ObjectMeta

/-- The name of the object, or what its name is generated from. -/
def anyName (m : ObjectMeta) : String := (m.name.or m.generateName).getD ""

/-- The namespace of the object; empty when it has none. -/
def namespaceName (m : ObjectMeta) : String := m.namespaceName?.getD ""

/-- The labels; none when they are unset. -/
def labelMap (m : ObjectMeta) : TextMap := m.labels.getD []

/-- The finalizers; none when they are unset. -/
def finalizerList (m : ObjectMeta) : List String := m.finalizers.getD []

/-- The name under which the object is known beyond its namespace. -/
def key (m : ObjectMeta) : String := m.anyName ++ "@" ++ m.namespaceName

end ObjectMeta

/-! ## Stored form -/

namespace OwnerReference

open Json Decode

/-- Reads an owner reference. Absent texts are empty. -/
def decode : Decoder OwnerReference := object "OwnerReference" fun members => do
  let apiVersion ← optional members "apiVersion" text
  let blockOwnerDeletion ← optional members "blockOwnerDeletion" boolean
  let controller ← optional members "controller" boolean
  let kind ← optional members "kind" text
  let name ← optional members "name" text
  let uid ← optional members "uid" text
  pure { apiVersion := apiVersion.getD "", blockOwnerDeletion, controller, kind := kind.getD "",
         name := name.getD "", uid := uid.getD "" }

/-- The stored form of an owner reference. -/
def toJson (o : OwnerReference) : Json :=
  ofSome [("apiVersion", some (.str o.apiVersion)),
    ("blockOwnerDeletion", o.blockOwnerDeletion.map .bool), ("controller", o.controller.map .bool),
    ("kind", some (.str o.kind)), ("name", some (.str o.name)), ("uid", some (.str o.uid))]

end OwnerReference

namespace ManagedFields

open Json Decode

/-- Reads an entry of managed fields. -/
def decode : Decoder ManagedFields := object "ManagedFieldsEntry" fun members => do
  let apiVersion ← optional members "apiVersion" text
  let fieldsType ← optional members "fieldsType" text
  let fieldsV1 ← optional members "fieldsV1" (anything 4)
  let manager ← optional members "manager" text
  let operation ← optional members "operation" text
  let subresource ← optional members "subresource" text
  let time ← optional members "time" timestamp
  pure { apiVersion, fieldsType, fieldsV1, manager, operation, subresource, time }

/-- The stored form of an entry of managed fields. -/
def toJson (m : ManagedFields) : Json :=
  ofSome [("apiVersion", m.apiVersion.map .str), ("fieldsType", m.fieldsType.map .str),
    ("fieldsV1", m.fieldsV1), ("manager", m.manager.map .str),
    ("operation", m.operation.map .str), ("subresource", m.subresource.map .str),
    ("time", m.time.map fun t => .str t.textInSeconds)]

end ManagedFields

namespace ObjectMeta

open Json Decode

/-- Reads metadata; unknown members are passed over and null means unset. -/
def decode : Decoder ObjectMeta := object "ObjectMeta" fun members => do
  let annotations ← optional members "annotations" textMap
  let creationTimestamp ← optional members "creationTimestamp" timestamp
  let deletionGracePeriodSeconds ← optional members "deletionGracePeriodSeconds" int64
  let deletionTimestamp ← optional members "deletionTimestamp" timestamp
  let finalizers ← optional members "finalizers" (list text)
  let generateName ← optional members "generateName" text
  let generation ← optional members "generation" int64
  let labels ← optional members "labels" textMap
  let managedFields ← optional members "managedFields" (list ManagedFields.decode)
  let name ← optional members "name" text
  let namespaceName? ← optional members "namespace" text
  let ownerReferences ← optional members "ownerReferences" (list OwnerReference.decode)
  let resourceVersion ← optional members "resourceVersion" text
  let selfLink ← optional members "selfLink" text
  let uid ← optional members "uid" text
  pure { annotations, creationTimestamp, deletionGracePeriodSeconds,
         deletionTimestamp := deletionTimestamp.map .time, finalizers, generateName, generation,
         labels, managedFields, name, namespaceName?, ownerReferences, resourceVersion, selfLink, uid }

/-- The stored form of metadata. -/
def toJson (m : ObjectMeta) : Json :=
  ofSome [("annotations", m.annotations.map ofTextMap),
    ("creationTimestamp", m.creationTimestamp.map fun t => .str t.textInSeconds),
    ("deletionGracePeriodSeconds", m.deletionGracePeriodSeconds.map int),
    ("deletionTimestamp", m.deletionTimestamp.map fun t => .str t.textInSeconds),
    ("finalizers", m.finalizers.map ofTexts), ("generateName", m.generateName.map .str),
    ("generation", m.generation.map int), ("labels", m.labels.map ofTextMap),
    ("managedFields", m.managedFields.map fun l => .arr (l.map ManagedFields.toJson)),
    ("name", m.name.map .str), ("namespace", m.namespaceName?.map .str),
    ("ownerReferences", m.ownerReferences.map fun l => .arr (l.map OwnerReference.toJson)),
    ("resourceVersion", m.resourceVersion.map .str), ("selfLink", m.selfLink.map .str),
    ("uid", m.uid.map .str)]

end ObjectMeta

end StateMetrics
