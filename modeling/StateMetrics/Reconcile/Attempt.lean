import StateMetrics.Reconcile.Document

/-!
# One attempt at an instance

An attempt brings the document, the status and the finalizer of an instance in line with what the
instance asks for. A new instance gets its finalizer last, after its block; an instance that is to
go loses its finalizer last, after its block. Every step is told by events, and every failure is
reported on the instance before it is handed back.
-/

namespace StateMetrics

/-- What the controller is to do about an instance next. -/
inductive Action where
  /-- Wait until the instance changes. -/
  | awaitChange
  /-- Look at the instance again after some time. -/
  | requeue (seconds : Nat)
  deriving DecidableEq, Repr, Inhabited

namespace Instance

/-- Tells that something went as it should. -/
def tell (i : Instance) (reason : Reason) (message : String) : Program Unit :=
  Program.send (.record i ⟨.normal, reason.text, message⟩)

/-- Tells that something went wrong. -/
def warn (i : Instance) (reason : Reason) (message : String) : Program Unit :=
  Program.send (.record i ⟨.warning, reason.text, message⟩)

/-- Writes the condition about readiness, if it says anything new; the instance as it is stored
then. -/
def writeReady (i : Instance) (status : Bool) (reason : Reason) (message : String) :
    Program (Result Instance) := do
  let moment ← Program.inquire .now
  let (given, changed) := i.setReady moment status reason message
  if changed then Program.send (.updateStatus given) else pure (.ok i)

/-- Reports an error on the instance. The error to hand back is the one reported, unless reporting
fails. -/
def fail (i : Instance) (reason : Reason) (what : String) (error : Error) : Program Error := do
  let message := what ++ ": " ++ error.message
  i.warn reason message
  match ← i.writeReady false reason message with
  | .ok _ => pure error
  | .error e =>
    i.warn reason ("Failed to update status: " ++ e.message)
    pure e

/-- Hands an error back after reporting it. -/
def failWith {α : Type} (i : Instance) (reason : Reason) (what : String) (error : Error) :
    Program (Result α) := do
  let error ← i.fail reason what error
  pure (.error error)

/-- What is said when a new instance is begun with. -/
def addingMessage : String := "Adding resources into the ConfigMap."

/-- Writes the block of a new instance and then puts its finalizer on. -/
def create (i : Instance) : Program (Result Unit) := do
  i.tell .adding addingMessage
  match ← i.writeReady false .adding addingMessage with
  | .error e => pure (.error e)
  | .ok i =>
    match ← i.addToDocument with
    | .error e => i.failWith .adding "Failed to add resources into the ConfigMap" e
    | .ok outcome => do
      i.tell .adding outcome.message
      match ← i.writeReady true .adding outcome.message with
      | .error e => pure (.error e)
      | .ok i =>
        match ← Program.send (.updateInstance i.addFinalizer) with
        | .error e => i.addFinalizer.failWith .adding "Failed to add finalizer" e
        | .ok _ => do
          Program.inquire (.count .instanceGained)
          pure (.ok ())

/-- Writes the block of an instance that is known already. -/
def update (i : Instance) : Program (Result Unit) := do
  i.tell .adding "Updating resources in the ConfigMap."
  match ← i.addToDocument with
  | .error e => i.failWith .adding "Failed to update the ConfigMap" e
  | .ok outcome => do
    i.tell .adding outcome.message
    match ← i.writeReady true .adding outcome.message with
    | .error e => pure (.error e)
    | .ok _ => pure (.ok ())

/-- Brings an instance that is to stay in line. -/
def apply (i : Instance) : Program (Result Action) := do
  Program.inquire .noteActivity
  let result ← if i.phase = .creating then i.create else i.update
  pure (result.map fun _ => .awaitChange)

/-- Takes the block of an instance that is to go out of its document and then its finalizer off. -/
def cleanup (i : Instance) : Program (Result Action) := do
  Program.inquire .noteActivity
  i.tell .removing "Deleting resource."
  match ← i.removeFromDocument with
  | .error e => i.failWith .removing "Failed to delete resources from the ConfigMap" e
  | .ok outcome => do
    i.tell .removing outcome.message
    match ← i.writeReady false .removing outcome.message with
    | .error e => pure (.error e)
    | .ok i =>
      if i.hasFinalizer then
        match ← Program.send (.updateInstance i.removeFinalizer) with
        | .error e => i.removeFinalizer.failWith .removing "Failed to delete finalizer" e
        | .ok _ => do
          Program.inquire (.count .instanceLost)
          pure (.ok .awaitChange)
      else pure (.ok .awaitChange)

end Instance

end StateMetrics
