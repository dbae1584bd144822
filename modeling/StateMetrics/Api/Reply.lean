import StateMetrics.Api.Status
import StateMetrics.Error
import StateMetrics.Instance.Stored
import StateMetrics.Json.Reader

/-!
# Replies

What a reply of the API server says: the object that was asked for, or why it is refused. A refusal
that does not explain itself is explained by its code and its text.
-/

namespace StateMetrics.Api

open Json Decode

/-- A reply as it comes over the wire. -/
structure Reply where
  code : Nat
  text : String
  deriving DecidableEq, Repr, Inhabited

/-- The name of the record. -/
def refusalName : String := "ErrorResponse"

/-- Reads a refusal. -/
def decodeRefusal : Decoder Refusal := record refusalName
  (fun members => do
    let code ← member? members "code" nat16
    let message ← member? members "message" text
    let reason ← member? members "reason" text
    let status ← member? members "status" text
    let status ← required "status" status
    let code ← required "code" code
    pure { status, message := message.getD "", reason := reason.getD "", code })
  (fun items => do
    let status ← item refusalName 4 items 0 text
    let message ← item? items 1 text
    let reason ← item? items 2 text
    let code ← item refusalName 4 items 3 nat16
    noFurtherItems 4 items
    pure { status, message := message.getD "", reason := reason.getD "", code })

/-- The refusal that a reply with an error code tells of. -/
def Reply.refusal (reply : Reply) : Refusal :=
  match (Json.Written.read? reply.text).map decodeRefusal with
  | some (.ok refusal) => refusal
  | _ => { status := statusText reply.code, message := Text.quoted reply.text
           reason := "Failed to parse error data", code := reply.code }

/-- The fault of a reply that cannot be read. -/
def unreadable : ClusterFault := .unreachable "the reply could not be read"

/-- The fault of a request that has no reply. -/
def noReply : ClusterFault := .unreachable "there was no reply"

/-- The fault of a request that could not be made. -/
def notSent : ClusterFault := .unreachable "the request could not be made"

/-- What a reply holds. -/
def Reply.content {α : Type} (reply : Reply) (decode : Decoder α) : Except ClusterFault α :=
  if isErrorCode reply.code then .error (.refused reply.refusal)
  else match (Json.Written.read? reply.text).map decode with
    | some (.ok value) => .ok value
    | _ => .error unreadable

/-- What a reply holds if the object exists. -/
def existing? {α : Type} : Except ClusterFault α → Except ClusterFault (Option α)
  | .ok value => .ok (some value)
  | .error (.refused refusal) =>
    if refusal.reason = "NotFound" then .ok none else .error (.refused refusal)
  | .error fault => .error fault

/-! ## Namespaces -/

/-- Reads a condition of a namespace; nothing of it is kept. -/
def decodeNamespaceCondition : Decoder Unit := object "NamespaceCondition" fun members => do
  let _ ← optional members "lastTransitionTime" timestamp
  let _ ← optional members "message" text
  let _ ← optional members "reason" text
  let _ ← optional members "status" text
  let _ ← optional members "type" text

/-- Reads the labels of a namespace. -/
def decodeNamespaceLabels : Decoder TextMap := object "Namespace" fun members => do
  ConfigMap.word members "apiVersion" "v1"
  ConfigMap.word members "kind" "Namespace"
  let metadata ← optional members "metadata" ObjectMeta.decode
  let _ ← optional members "spec" (object "NamespaceSpec" fun spec =>
    optional spec "finalizers" (list text))
  let _ ← optional members "status" (object "NamespaceStatus" fun status => do
    let _ ← optional status "conditions" (list decodeNamespaceCondition)
    optional status "phase" text)
  pure (metadata.getD {}).labelMap

end StateMetrics.Api
