import StateMetrics.Object.Meta

/-!
# Notifications of change

A notification tells that an object was created, updated or deleted, or just that it is there. The
predicates say whether it is about anything that a reconciliation looks at: a change of the status
alone touches neither the generation nor the labels nor the finalizers.
-/

namespace StateMetrics

/-- A notification about an object, by its metadata. -/
inductive Notification where
  | created (object : ObjectMeta)
  | updated (old new : ObjectMeta)
  | deleted (object : ObjectMeta)
  | generic (object : ObjectMeta)

namespace Notification

/-- The latest version of the object. -/
def object : Notification → ObjectMeta
  | created o => o
  | updated _ new => new
  | deleted o => o
  | generic o => o

/-- Whether the generation may have changed. -/
def generationChanged : Notification → Bool
  | updated old new => old.generation ≠ new.generation
  | _ => true

/-- Whether the labels may have changed; unset ones are no labels. -/
def labelsChanged : Notification → Bool
  | created _ => true
  | updated old new => old.labelMap ≠ new.labelMap
  | deleted _ => false
  | generic _ => false

/-- Whether the finalizers may have changed; unset ones are no finalizers. -/
def finalizersChanged : Notification → Bool
  | created _ => true
  | updated old new => old.finalizerList ≠ new.finalizerList
  | deleted _ => false
  | generic _ => false

/-- Whether anything that a reconciliation looks at may have changed. -/
def changed (n : Notification) : Bool :=
  n.generationChanged || n.labelsChanged || n.finalizersChanged

end Notification

end StateMetrics
