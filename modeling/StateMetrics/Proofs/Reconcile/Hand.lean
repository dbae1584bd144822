import StateMetrics.Proofs.Reconcile.Errand
import StateMetrics.Reconcile.Entry

/-!
# What an attempt holds in its hand

The note of an attempt at an instance: nothing at first, then the version of the instance that it
holds, what it is to do about the document and how far that has come. The discipline says that the
finalizer is written only once the document is as it should be, and every write of the instance
carries the version in hand.
-/

namespace StateMetrics

/-- The name that an instance is stored and called for under, with its namespace. -/
structure InstanceName where
  namespaceName : String
  name : String

/-- The identity of the instance of the name in the markers of its block. -/
def InstanceName.key (n : InstanceName) : String := Instance.keyOf n.name n.namespaceName

/-- What an attempt holds. -/
inductive Hand where
  /-- The instance was not read yet. -/
  | empty
  /-- The version of the instance last read or written, whether its block is to be put into the
  document, and how far that has come. -/
  | holding (puts : Bool) (i : Instance) (stage : Errand.Stage)

namespace Instance

/-- The instance with its finalizer as it is to be once the document is as it should be. -/
def finalized (puts : Bool) (i : Instance) : Instance :=
  if puts then i.addFinalizer else i.removeFinalizer

/-- The given instance is to be written in place of the one read. -/
def SameVersion (given i : Instance) : Prop :=
  given.key = i.key ∧ given.metadata.resourceVersion = i.metadata.resourceVersion

/-- The finalizer is put under the name and the version that the instance was read with. -/
theorem addFinalizer_sameVersion (i : Instance) : i.addFinalizer.SameVersion i := by
  rw [addFinalizer]
  split <;> exact ⟨rfl, rfl⟩

theorem removeFinalizer_sameVersion (i : Instance) : i.removeFinalizer.SameVersion i := ⟨rfl, rfl⟩

end Instance

/-- What an attempt at the instance of a name does: it reads the instance, goes about its document,
and writes its status and, with the document as it should be, its finalizer. -/
def handDiscipline (namespaceName name : String) : Discipline Hand where
  permits
    | .empty, r => r = .getInstance namespaceName name
    | .holding _ i _, .updateStatus given => given.SameVersion i
    | .holding puts i stage, .updateInstance given =>
      stage = .settled ∧ given = i.finalized puts
    | .holding .., .record .. => True
    | .holding puts i stage, r => (i.errand puts).discipline.permits stage r
  after
    | .empty, .getInstance .., .ok (some i) => .holding (i.phase ≠ .deleting) i .unread
    | .empty, _, _ => .empty
    | .holding puts _ stage, .updateStatus _, .ok saved => .holding puts saved stage
    | .holding puts i stage, .updateStatus _, .error _ => .holding puts i stage
    | .holding puts _ stage, .updateInstance _, .ok saved => .holding puts saved stage
    | .holding puts i stage, .updateInstance _, .error _ => .holding puts i stage
    | .holding puts i stage, .record .., _ => .holding puts i stage
    | .holding puts i stage, r, answer =>
      .holding puts i ((i.errand puts).discipline.after stage r answer)

end StateMetrics
