import StateMetrics.Block.Merge
import StateMetrics.Controller.Program
import StateMetrics.Fragment

/-!
# The block of an instance in its document

Both programs read the document, compute what it is to become and write it back under the version
that they read; a document that is as it should be is not written.
-/

namespace StateMetrics

/-- What adding a block to its document came to. -/
inductive AddOutcome where
  /-- The document did not exist; it was created with the block. -/
  | created
  /-- The very block was there already. -/
  | unchanged
  /-- The block was put into the document. -/
  | written
  deriving DecidableEq, Repr, Inhabited

/-- What is said about adding a block. -/
def AddOutcome.message : AddOutcome → String
  | created => "Finished the addition of resources into a newly created ConfigMap."
  | unchanged => "The same resources already exist in the ConfigMap."
  | written => "Finished the addition of resources into an existing ConfigMap."

/-- What removing a block from its document came to. -/
inductive RemoveOutcome where
  | noDocument
  | noBlock
  | removed
  deriving DecidableEq, Repr, Inhabited

/-- What is said about removing a block. -/
def RemoveOutcome.message : RemoveOutcome → String
  | noDocument => "The ConfigMap with the resources doesn't exist."
  | noBlock => "Resources don't exist in the ConfigMap."
  | removed => "Finished the removal of resources from the ConfigMap."

namespace Instance

/-- The text of the resources in the block of the instance. -/
def fragment (i : Instance) : String := Fragment.encode i.spec.resources

/-- The document that holds the block of the instance and nothing else. -/
def freshDocument (i : Instance) : ConfigMap :=
  ConfigMap.ofContent i.target (Document.header ++ Document.renderBlock i.key i.fragment)

/-- Puts the block of the instance into its document. -/
def addToDocument (i : Instance) : Program (Result AddOutcome) := do
  match ← Program.send (.getDocument i.target) with
  | .error e => pure (.error e)
  | .ok none =>
    match ← Program.send (.createDocument i.freshDocument) with
    | .error e => pure (.error e)
    | .ok _ => pure (.ok .created)
  | .ok (some document) =>
    match (Document.upsert (document.content i.target.key) i.key i.fragment).document? with
    | none => pure (.ok .unchanged)
    | some content =>
      match ← Program.send (.updateDocument (document.setContent i.target.key content)) with
      | .error e => pure (.error e)
      | .ok _ => pure (.ok .written)

/-- Takes the block of the instance out of its document. -/
def removeFromDocument (i : Instance) : Program (Result RemoveOutcome) := do
  match ← Program.send (.getDocument i.target) with
  | .error e => pure (.error e)
  | .ok none => pure (.ok .noDocument)
  | .ok (some document) =>
    match Document.remove (document.content i.target.key) i.key with
    | none => pure (.ok .noBlock)
    | some content =>
      match ← Program.send (.updateDocument (document.setContent i.target.key content)) with
      | .error e => pure (.error e)
      | .ok _ => pure (.ok .removed)

end Instance

end StateMetrics
