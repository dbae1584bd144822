import StateMetrics.Instance.Basic

/-!
# The stored form of instances

Instances are read from and written to JSON. Each record is an object or the list of its members in
their order; the version and kind of the whole are always written and never checked.
-/

namespace StateMetrics

open Json Decode

namespace TargetSpec

/-- The name of the record. -/
def recordName : String := "ConfigMapTarget"

/-- Reads a target. -/
def decode : Decoder TargetSpec := record recordName
  (fun members => do
    let key ← member? members "key" text
    let name ← member? members "name" text
    let namespaceName? ← nullable? members "namespace" text
    let name ← required "name" name
    pure { name, namespaceName?, key := key.getD Target.defaultKey })
  (fun items => do
    let name ← item recordName 3 items 0 text
    let namespaceName? ← item recordName 3 items 1 (nullable text)
    let key ← item? items 2 text
    noFurtherItems 3 items
    pure { name, namespaceName?, key := key.getD Target.defaultKey })

/-- The stored form of a target; an unset namespace is null. -/
def toJson (t : TargetSpec) : Json :=
  ofMembers [("name", .str t.name), ("namespace", ofText? t.namespaceName?), ("key", .str t.key)]

end TargetSpec

namespace InstanceSpec

/-- The name of the record. -/
def recordName : String := "CustomResourceStateMetricsSpec"

/-- Reads a specification. -/
def decode : Decoder InstanceSpec := record recordName
  (fun members => do
    let target ← member? members "configMap" TargetSpec.decode
    let resources ← member? members "resources" (list (anything 3))
    let target ← required "configMap" target
    pure { target, resources := resources.getD [] })
  (fun items => do
    let target ← item recordName 2 items 0 TargetSpec.decode
    let resources ← item? items 1 (list (anything 3))
    noFurtherItems 2 items
    pure { target, resources := resources.getD [] })

/-- The stored form of a specification; an empty list of resources is left out. -/
def toJson (s : InstanceSpec) : Json :=
  ofSome [("configMap", some s.target.toJson),
    ("resources", if s.resources.isEmpty then none else some (.arr s.resources))]

end InstanceSpec

namespace InstanceStatus

/-- The name of the record. -/
def recordName : String := "CustomResourceStateMetricsStatus"

/-- Reads a status. -/
def decode : Decoder InstanceStatus := record recordName
  (fun members => do
    let conditions ← member? members "conditions" (list Condition.decode)
    pure { conditions := conditions.getD [] })
  (fun items => do
    let conditions ← item? items 0 (list Condition.decode)
    noFurtherItems 1 items
    pure { conditions := conditions.getD [] })

/-- The stored form of a status. -/
def toJson (s : InstanceStatus) : Json :=
  ofMembers [("conditions", .arr (s.conditions.map Condition.toJson))]

end InstanceStatus

namespace Instance

/-- The group of the resource. -/
def group : String := "ksm.jtyr.io"

/-- The version of the resource. -/
def version : String := "v1"

/-- The group and version of the resource. -/
def apiVersion : String := group ++ "/" ++ version

/-- The kind of the resource. -/
def kind : String := "CustomResourceStateMetrics"

/-- The plural of the resource, under which the API server keeps it. -/
def plural : String := "customresourcestatemetricses"

/-- Reads an instance. -/
def decode : Decoder Instance := record kind
  (fun members => do
    let metadata ← member? members "metadata" ObjectMeta.decode
    let spec ← member? members "spec" InstanceSpec.decode
    let status ← nullable? members "status" InstanceStatus.decode
    let metadata ← required "metadata" metadata
    let spec ← required "spec" spec
    pure { metadata, spec, status })
  (fun items => do
    let metadata ← item kind 3 items 0 ObjectMeta.decode
    let spec ← item kind 3 items 1 InstanceSpec.decode
    let status ← item kind 3 items 2 (nullable InstanceStatus.decode)
    noFurtherItems 3 items
    pure { metadata, spec, status })

/-- The stored form of an instance; an unset status is left out. -/
def toJson (i : Instance) : Json :=
  ofSome [("apiVersion", some (.str apiVersion)), ("kind", some (.str kind)),
    ("metadata", some i.metadata.toJson), ("spec", some i.spec.toJson),
    ("status", i.status.map InstanceStatus.toJson)]

end Instance

end StateMetrics
