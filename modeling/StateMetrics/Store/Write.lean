import StateMetrics.Error
import StateMetrics.Instance.Basic

/-!
# Checked writes

A store keeps one version of each object and gives every write a new version number. A write carries
the version that its writer read; when another one is stored by now the write is refused, so nobody
overwrites what he has not seen.
-/

namespace StateMetrics

/-- The instance as it is stored by the write of a number. -/
def Instance.numbered (i : Instance) (number : Nat) : Instance :=
  { i with metadata.resourceVersion := some (Decimal.natText number) }

/-- The config map as it is stored by the write of a number. -/
def ConfigMap.numbered (c : ConfigMap) (number : Nat) : ConfigMap :=
  { c with metadata.resourceVersion := some (Decimal.natText number) }

namespace Store

/-- The stored instance that a write changes, if the write carries its version. -/
def current (stored : NameMap Instance) (given : Instance) : Result Instance :=
  match stored.lookup given.key with
  | none => .error (.other (given.key ++ " not found"))
  | some found =>
    if found.metadata.resourceVersion = given.metadata.resourceVersion then .ok found
    else .error (.conflict (given.key ++ " was modified"))

/-- Stores an instance. One that is to go and has no finalizers left leaves the store instead. -/
def keep (i : Instance) (stored : NameMap Instance) : NameMap Instance :=
  if i.isDeleting && i.metadata.finalizerList.isEmpty then NameMap.erase i.key stored
  else NameMap.insert i.key i stored

/-- Whether a config map is not stored under the version that a write carries. -/
def isStale (stored : NameMap ConfigMap) (given : ConfigMap) : Bool :=
  match stored.lookup given.mapKey with
  | none => true
  | some found => found.metadata.resourceVersion ≠ given.metadata.resourceVersion

end Store

end StateMetrics
