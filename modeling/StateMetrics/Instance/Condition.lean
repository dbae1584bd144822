import StateMetrics.Json.Decode

/-!
# Conditions

The status of an instance says, under the condition `Ready`, whether its resources stand in their
document. A condition keeps the time of its last transition until its status flips.
-/

namespace StateMetrics

/-- What a condition is about. -/
inductive ConditionKind where
  /-- The resources stand in their document. -/
  | ready
  deriving DecidableEq, Repr, Inhabited

/-- What was being done when a condition was set. -/
inductive Reason where
  | adding
  | removing
  deriving DecidableEq, Repr, Inhabited

/-- The word for a reason. -/
def Reason.text : Reason → String
  | adding => "Adding"
  | removing => "Removing"

/-- A condition of an instance. -/
structure Condition where
  /-- When the status last flipped. -/
  lastTransition : Option Moment
  message : String
  kind : ConditionKind
  /-- Whether the condition holds. -/
  status : Bool
  reason : Reason
  /-- The generation of the instance when the condition was set. -/
  observedGeneration : Option Int
  deriving DecidableEq, Repr, Inhabited

namespace Condition

/-- Whether two conditions say the same, whenever they began to. -/
def sameState (a b : Condition) : Bool :=
  a.kind = b.kind && a.status = b.status && a.reason = b.reason && a.message = b.message
    && a.observedGeneration = b.observedGeneration

/-! ## Stored form -/

open Json Decode

/-- Reads the kind of a condition. -/
def decodeKind : Decoder ConditionKind := variant [("Ready", .ready)]

/-- Reads the status of a condition. -/
def decodeStatus : Decoder Bool := variant [("True", true), ("False", false)]

/-- Reads the reason of a condition. -/
def decodeReason : Decoder Reason := variant [("Adding", .adding), ("Removing", .removing)]

/-- The name of the record. -/
def recordName : String := "ApplicationCondition"

/-- Reads a condition from its members. -/
def decodeMembers (members : Members) : Except DecodeError Condition := do
  let time ← nullable? members "lastTransitionTime" timestamp
  let message ← member? members "message" text
  let generation ← nullable? members "observedGeneration" int64
  let reason ← member? members "reason" decodeReason
  let status ← member? members "status" decodeStatus
  let kind ← member? members "type" decodeKind
  let message ← required "message" message
  let kind ← required "type" kind
  let status ← required "status" status
  let reason ← required "reason" reason
  pure { lastTransition := time.map .time, message, kind, status, reason,
         observedGeneration := generation }

/-- Reads a condition from the list of its members. -/
def decodeItems (items : List Written) : Except DecodeError Condition := do
  let time ← item recordName 6 items 0 (nullable timestamp)
  let message ← item recordName 6 items 1 text
  let kind ← item recordName 6 items 2 decodeKind
  let status ← item recordName 6 items 3 decodeStatus
  let reason ← item recordName 6 items 4 decodeReason
  let observedGeneration ← item recordName 6 items 5 (nullable int64)
  noFurtherItems 6 items
  pure { lastTransition := time.map .time, message, kind, status, reason, observedGeneration }

/-- Reads a condition. -/
def decode : Decoder Condition := record recordName decodeMembers decodeItems

/-- The stored form of a condition. -/
def toJson (c : Condition) : Json :=
  ofMembers [
    ("lastTransitionTime", ofText? (c.lastTransition.map Moment.text)),
    ("message", .str c.message),
    ("type", match c.kind with
      | .ready => .str "Ready"),
    ("status", .str (if c.status then "True" else "False")),
    ("reason", .str c.reason.text),
    ("observedGeneration", (c.observedGeneration.map int).getD .null)]

end Condition

end StateMetrics
