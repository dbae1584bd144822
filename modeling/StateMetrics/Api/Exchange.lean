import StateMetrics.Api.Path
import StateMetrics.Api.Reply
import StateMetrics.Controller.Identity
import StateMetrics.Controller.State

/-!
# Exchanges with the API server

Each request of the controller is one message to the API server, and its reply is the answer. Reads
name the object; writes carry it, or, for the status alone, the change of it together with the
version that was read. `Api.handle` answers the requests of a program over any transport.
-/

namespace StateMetrics.Api

/-- What a message asks to do. -/
inductive Method where
  | get
  | post
  | put
  | patch
  deriving DecidableEq, Repr, Inhabited

/-- The word for a method. -/
def Method.text : Method → String
  | get => "GET"
  | post => "POST"
  | put => "PUT"
  | patch => "PATCH"

/-- A message to the API server. -/
structure Message where
  method : Method
  path : String
  /-- The media type of what is sent, and what it is. -/
  content : Option (String × Json) := none
  deriving Repr, Inhabited

/-- Who sends messages, and when. -/
structure Sender where
  reporter : Reporter
  /-- The time that events are given. -/
  time : String
  deriving DecidableEq, Repr, Inhabited

/-! ## Paths -/

/-- The path of the instances of a namespace. -/
def instancesPath (namespaceName : String) : String :=
  "/apis/" ++ Instance.apiVersion ++ "/namespaces/" ++ namespaceName ++ "/" ++ Instance.plural

/-- The path of the config maps of a namespace. -/
def documentsPath (namespaceName : String) : String :=
  "/api/v1/namespaces/" ++ namespaceName ++ "/configmaps"

/-- The path of the namespaces. -/
def namespacesPath : String := "/api/v1/namespaces"

/-- The group and version of events. -/
def eventVersion : String := "events.k8s.io/v1"

/-- The path of the events of a namespace. -/
def eventsPath (namespaceName : String) : String :=
  "/apis/" ++ eventVersion ++ "/namespaces/" ++ namespaceName ++ "/events"

/-- The path of an object; one without a name has none. -/
def objectPath? (collection name : String) : Option String :=
  if name = "" then none else some (collection ++ "/" ++ name)

/-! ## Contents -/

/-- The media type of an object. -/
def objectType : String := "application/json"

/-- The media type of a change that is merged into an object. -/
def mergeType : String := "application/merge-patch+json"

/-- The change of an instance to its status, under the version that was read. -/
def statusChange (i : Instance) : Json :=
  Json.ofMembers [
    ("metadata", Json.ofMembers [("resourceVersion", Json.ofText? i.metadata.resourceVersion)]),
    ("status", (i.status.map InstanceStatus.toJson).getD .null)]

/-- The namespace of the events of an object without namespace. -/
def defaultEventNamespace : String := "kube-system"

/-- What an event is about. -/
def reference (i : Instance) : Json :=
  Json.ofSome [("apiVersion", some (.str Instance.apiVersion)), ("kind", some (.str Instance.kind)),
    ("name", i.metadata.name.map .str), ("namespace", i.metadata.namespaceName?.map .str),
    ("uid", i.metadata.uid.map .str)]

/-- The stored form of an event. -/
def eventContent (sender : Sender) (about : Instance) (event : Event) : Json :=
  Json.ofMembers [("action", .str event.reason), ("apiVersion", .str eventVersion),
    ("eventTime", .str sender.time), ("kind", .str "Event"),
    ("metadata", Json.ofSome [
      ("generateName", some (.str (sender.reporter.controller ++ "-"))),
      ("namespace", about.metadata.namespaceName?.map .str)]),
    ("note", .str event.message), ("reason", .str event.reason), ("regarding", reference about),
    ("reportingController", .str sender.reporter.controller),
    ("reportingInstance", .str sender.reporter.pod), ("type", .str event.kind.text)]

/-! ## Messages -/

/-- A message that reads an object. -/
def reading? (collection name : String) : Option Message := do
  let path ← objectPath? collection name
  pure { method := .get, path }

/-- A message that puts an object in place of another. -/
def replacing? (collection name : String) (content : Json) : Option Message := do
  let path ← objectPath? collection name
  pure { method := .put, path := path ++ "?", content := some (objectType, content) }

/-- A message that creates an object. -/
def creating (collection : String) (content : Json) : Message :=
  { method := .post, path := collection ++ "?", content := some (objectType, content) }

/-- The message of a request, with the path as it is written. -/
def written? (sender : Sender) : Request → Option Message
  | .getInstance namespaceName name => reading? (instancesPath namespaceName) name
  | .updateInstance given =>
    replacing? (instancesPath given.metadata.namespaceName) given.metadata.anyName given.toJson
  | .updateStatus given => do
    let path ← objectPath? (instancesPath given.metadata.namespaceName) given.metadata.anyName
    pure { method := .patch, path := path ++ "/status?"
           content := some (mergeType, statusChange given) }
  | .getDocument target => reading? (documentsPath target.namespaceName) target.name
  | .createDocument given =>
    some (creating (documentsPath given.metadata.namespaceName) given.toJson)
  | .updateDocument given =>
    replacing? (documentsPath given.metadata.namespaceName) given.metadata.anyName given.toJson
  | .namespaceLabels name => reading? namespacesPath name
  | .record about event =>
    some (creating (eventsPath (about.metadata.namespaceName?.getD defaultEventNamespace))
      (eventContent sender about event))

/-- The message of a request, if it can be sent. -/
def message? (sender : Sender) (r : Request) : Option Message := do
  let written ← written? sender r
  let path ← path? written.path.toList
  pure { written with path := String.ofList path }

/-! ## Answers -/

/-- The answer to a request by what came of it. -/
def answer : (r : Request) → Except ClusterFault Reply → r.Answer
  | .getInstance .., outcome =>
    (existing? (outcome >>= (·.content Instance.decode))).mapError Error.ofFault
  | .updateInstance _, outcome => (outcome >>= (·.content Instance.decode)).mapError Error.ofFault
  | .updateStatus _, outcome => (outcome >>= (·.content Instance.decode)).mapError Error.ofFault
  | .getDocument _, outcome =>
    (existing? (outcome >>= (·.content ConfigMap.decode))).mapError Error.ofFault
  | .createDocument _, outcome => (outcome >>= (·.content ConfigMap.decode)).mapError Error.ofFault
  | .updateDocument _, outcome => (outcome >>= (·.content ConfigMap.decode)).mapError Error.ofFault
  | .namespaceLabels _, outcome =>
    (existing? (outcome >>= (·.content decodeNamespaceLabels))).mapError Error.ofFault
  | .record .., _ => ()

/-- How a transport takes a message: the reply, if there is one, and the transport after it. -/
abbrev Transport (σ : Type) := Message → σ → Option Reply × σ

/-- Answers the requests of the controller over a transport. -/
def handle {σ : Type} (sender : Sender) (send : Transport σ) : Handler σ := fun r transport =>
  match message? sender r with
  | none => (answer r (.error notSent), transport)
  | some message =>
    match send message transport with
    | (some reply, transport) => (answer r (.ok reply), transport)
    | (none, transport) => (answer r (.error noReply), transport)

end StateMetrics.Api
