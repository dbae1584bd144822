import StateMetrics.Proofs.Store.Contract

/-!
# How far a store may go in an update

`Stores.Serves` names the members of an instance that each update writes. A store may as well put the
given instance in place of the stored one, whole or in part. `Stores.Admits` leaves this open: an update
is checked against the stored version, and what is given as it was found stays as it was found
(`Instance.Blends`). Whoever else writes may write anything (`Stores.Drifts`).
-/

namespace StateMetrics

namespace Instance

/-- The finalizers of others, in their order. -/
def otherFinalizers (i : Instance) : List String := i.metadata.finalizerList.filter (· ≠ finalizer)

/-- The instance without its status, its finalizers and its version. -/
def body (i : Instance) : Instance :=
  { i with
    status := none
    metadata.finalizers := none
    metadata.resourceVersion := none }

section Body

variable {i j : Instance}

theorem key_of_body (same : j.body = i.body) : j.key = i.key := by
  have keys : j.body.key = i.body.key := congrArg key same
  exact keys

theorem target_of_body (same : j.body = i.body) : j.target = i.target := by
  have targets : j.body.target = i.body.target := congrArg target same
  exact targets

/-- Two instances with one body differ in the rest at most. -/
theorem eq_of_body (same : j.body = i.body) : j =
    { i with
      status := j.status
      metadata.finalizers := j.metadata.finalizers
      metadata.resourceVersion := j.metadata.resourceVersion } := by
  have shape : ∀ k : Instance, k =
      { k.body with
        status := k.status
        metadata.finalizers := k.metadata.finalizers
        metadata.resourceVersion := k.metadata.resourceVersion } := fun _ => rfl
  rw [shape j, same]
  rfl

theorem otherFinalizers_congr (same : j.metadata.finalizers = i.metadata.finalizers) :
    j.otherFinalizers = i.otherFinalizers := by
  rw [otherFinalizers, otherFinalizers, ObjectMeta.finalizerList, ObjectMeta.finalizerList, same]

end Body

/-- What a store may make of the instance it found and the one it was given: a body that was not to
change is not changed, and the finalizers are those of either. -/
structure Blends (found given kept : Instance) : Prop where
  body : given.body = found.body → kept.body = found.body
  finalizers : kept.metadata.finalizers = found.metadata.finalizers ∨
    kept.metadata.finalizers = given.metadata.finalizers

end Instance

namespace Stores

/-- An update of an instance is refused, or it goes through under the stored version. -/
def Updates (s : Stores) (given : Instance) (answer : Result Instance) (s' : Stores) : Prop :=
  s.Refuses answer s' ∨ ∃ found kept,
    s.instances.Current given found ∧ found.Blends given kept ∧
    s.instances.Saves kept kept.stays answer s'.instances ∧ s'.documents = s.documents

/-- The answers to a request, and the stores after each, whatever an update does with the instance
that it is given. -/
def Admits (s : Stores) : (r : Request) → r.Answer → Stores → Prop
  | .updateInstance given, answer, s' => s.Updates given answer s'
  | .updateStatus given, answer, s' => s.Updates given answer s'
  | r, answer, s' => s.Serves r answer s'

variable {s s' : Stores}

/-- A store that writes the named members only is one of those that may do more. -/
theorem Serves.admits {r : Request} {answer : r.Answer} (serves : s.Serves r answer s') :
    s.Admits r answer s' := by
  cases r with
  | updateInstance given =>
    rcases serves with refused | ⟨found, labels, current, which, saves, documents⟩
    · exact .inl refused
    · have blends : found.Blends given { found with
          metadata.finalizers := given.metadata.finalizers
          metadata.labels := labels } := by
        refine ⟨fun same => ?_, .inr rfl⟩
        have kept : labels = found.metadata.labels := by
          rcases which with found | given
          · exact found
          · rw [given]
            exact congrArg (·.metadata.labels) same
        rw [kept]
        rfl
      exact .inr ⟨found, _, current, blends, saves, documents⟩
  | updateStatus given =>
    rcases serves with refused | ⟨found, current, saves, documents⟩
    · exact .inl refused
    · have blends : found.Blends given { found with status := given.status } :=
        ⟨fun _ => rfl, .inl rfl⟩
      exact .inr ⟨found, _, current, blends, saves, documents⟩
  | _ => exact serves

/-- Every object is stored under its own name, in a version that a write was given. -/
structure Sound (s : Stores) : Prop where
  instances : s.instances.Sound
  documents : s.documents.Sound

/-- What anybody may do to the stores: objects are written, any under a fresh version, and taken out. -/
structure Drifts (s s' : Stores) : Prop where
  instances : s.instances.Evolves (fun _ => True) s'.instances
  documents : s.documents.Evolves (fun _ => True) s'.documents

/-- A request does nothing that others might not do as well. -/
theorem Admits.drifts {r : Request} {answer : r.Answer} (admits : s.Admits r answer s') :
    s.Drifts s' := by
  have idle : s.Drifts s := ⟨.same, .same⟩
  have updated {given : Instance} {answer : Result Instance} (updates : s.Updates given answer s') :
      s.Drifts s' := by
    rcases updates with ⟨-, rfl⟩ | ⟨found, kept, -, -, ⟨v, fresh, -, written⟩, documents⟩
    · exact idle
    · exact ⟨written ▸ .written fresh trivial, documents ▸ .same⟩
  have put {d : ConfigMap} {answer : Result ConfigMap}
      (saves : s.documents.Saves d true answer s'.documents)
      (instances : s'.instances = s.instances) : s.Drifts s' := by
    obtain ⟨v, fresh, -, written⟩ := saves
    exact ⟨instances ▸ .same, written ▸ .written fresh trivial⟩
  cases r with
  | updateInstance given | updateStatus given => exact updated admits
  | createDocument given | updateDocument given =>
    rcases admits with ⟨-, rfl⟩ | ⟨-, saves, instances⟩
    · exact idle
    · exact put saves instances
  | getInstance | getDocument => rcases admits with ⟨-, rfl⟩ | ⟨-, rfl⟩ <;> exact idle
  | namespaceLabels | record =>
    obtain rfl : s' = s := admits
    exact idle

/-- Nobody can spoil that objects are stored under their names and in versions that were given. -/
theorem Sound.drifted (sound : s.Sound) (drifts : s.Drifts s') : s'.Sound where
  instances := drifts.instances.sound sound.instances
  documents := drifts.documents.sound sound.documents

end Stores

end StateMetrics
