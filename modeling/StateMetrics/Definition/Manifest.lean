import StateMetrics.Definition.Schema
import StateMetrics.Instance.Stored
import StateMetrics.Yaml.Printer

/-!
# The definition of the resource

What an API server has to be told to store instances: the names of the resource, the columns in
which they are listed, and the schema of an instance. `Definition.manifest` is the YAML text of it.
-/

namespace StateMetrics.Definition

/-- The schema of the condition of an instance. -/
def condition : Schema := .described
  "ApplicationCondition contains details about the state of the instance" <| .record [
    ("lastTransitionTime", false,
      .described "LastTransitionTime is the last time the status flipped" (.nullable .moment)),
    ("message", true, .described
      "Message contains human-readable message indicating details about condition" .text),
    ("type", true, .described "Type is an application condition type" (.word ["Ready"])),
    ("status", true, .described
      "Status (\"True\" or \"False\") describe if the condition is enabled" (.word ["True", "False"])),
    ("reason", true, .described "Reason of the last transition"
      (.word [Reason.adding.text, Reason.removing.text])),
    ("observedGeneration", false, .described "Generation observed when the condition was set"
      (.nullable .int64))]

/-- The schema of the target of an instance. -/
def target : Schema := .described
  "Details of the ConfigMap where the resources will be written into" <| .record [
    ("name", true, .described "Name of the ConfigMap" .text),
    ("namespace", false, .described
      "Namespace of the ConfigMap, the instance namespace when unset" (.nullable .text)),
    ("key", false, .described "ConfigMap key under which the resources are stored"
      (.withDefault (.str Target.defaultKey) .text))]

/-- The schema of the specification of an instance. -/
def spec : Schema := .described
  "Describe a set of kube-state-metrics custom resource state definitions" <| .record [
    ("configMap", true, target),
    ("resources", false, .described
      "kube-state-metrics resources, written into the ConfigMap as is" (.list .anything))]

/-- The schema of the status of an instance. -/
def status : Schema := .described
  "The status object of `CustomResourceStateMetrics`" <| .nullable <| .record [
    ("conditions", false, .described
      "State conditions telling whether the resources are in the destination ConfigMap"
      (.withDefault (.arr []) (.list condition)))]

/-- The schema of an instance. -/
def schema : Schema := .titled Instance.kind <| .described
  "Custom resource holding kube-state-metrics custom resource state definitions" <|
  .record [("spec", true, spec), ("status", false, status)]

/-- A column of a listing: what it shows of an instance, and how. -/
structure Column where
  name : String
  kind : String
  format : Option String := none
  description : String
  path : String

/-- The columns of a listing. -/
def columns : List Column :=
  [{ name := "Ready", kind := "string", description := "Ready condition"
     path := ".status.conditions[?(@.type == 'Ready')].status" },
   { name := "ConfigMap", kind := "string", description := "Destination ConfigMap"
     path := ".spec.configMap.name" },
   { name := "last_updated", kind := "date", format := some "date-time"
     description := "Last update date"
     path := ".status.conditions[?(@.type == 'Ready')].lastTransitionTime" }]

/-- The stored form of a column. -/
def Column.toJson (c : Column) : Json :=
  Json.ofSome [("name", some (.str c.name)), ("type", some (.str c.kind)),
    ("format", c.format.map .str), ("description", some (.str c.description)),
    ("jsonPath", some (.str c.path))]

/-- The singular of the resource. -/
def singular : String := "customresourcestatemetrics"

/-- The version of the resource with its columns and its schema. -/
def version : Json :=
  Json.ofMembers [("name", .str Instance.version),
    ("additionalPrinterColumns", .arr (columns.map Column.toJson)),
    ("schema", Json.ofMembers [("openAPIV3Schema", schema.toJson)]), ("served", .bool true),
    ("storage", .bool true), ("subresources", Json.ofMembers [("status", Json.ofMembers [])])]

/-- The members of the stored form of the definition. -/
def members : NameMap Json :=
  NameMap.ofPairs [("apiVersion", .str "apiextensions.k8s.io/v1"),
    ("kind", .str "CustomResourceDefinition"),
    ("metadata", Json.ofMembers [("name", .str (Instance.plural ++ "." ++ Instance.group))]),
    ("spec", Json.ofMembers [("group", .str Instance.group),
      ("names", Json.ofMembers [("categories", Json.ofTexts ["ksm"]), ("kind", .str Instance.kind),
        ("plural", .str Instance.plural), ("shortNames", Json.ofTexts ["crsm"]),
        ("singular", .str singular)]),
      ("scope", .str "Namespaced"), ("versions", .arr [version])])]

/-- The definition as YAML. -/
def manifest : String := String.ofList (Yaml.document members)

end StateMetrics.Definition
