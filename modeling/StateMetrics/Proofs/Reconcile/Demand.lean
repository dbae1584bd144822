import StateMetrics.Proofs.Block.Placement
import StateMetrics.Proofs.Reconcile.Advance

/-!
# What instances ask for

An instance that is edited counts the edit: its generation tells what it asks for. This is all that is
supposed of the others who write instances, and the writes of attempts keep to it
(`Stores.interferes_of_serves`). The block that an instance asks for is in its document whenever an
errand has just been done there, whatever the document holds otherwise; it can be found there unless
the text of its resources runs into the end marker (`Instance.IsPutIn`).
-/

namespace StateMetrics

/-! ## Generations -/

/-- What instances ask for, by their keys and generations: the namespace that they are read in, and
their specification. -/
abbrev Demands := String → Option Int → String × InstanceSpec

namespace Instance

/-- The instance asks for what its key and generation tell. -/
def Meets (demands : Demands) (i : Instance) : Prop :=
  (i.metadata.namespaceName, i.spec) = demands i.key i.metadata.generation

variable {demands : Demands} {i j : Instance}

/-- Two versions of one generation ask for the same. -/
theorem Meets.putting_eq (meets : i.Meets demands) (meets' : j.Meets demands) (key : i.key = j.key)
    (generation : i.metadata.generation = j.metadata.generation) : i.putting = j.putting := by
  have same : (i.metadata.namespaceName, i.spec) = (j.metadata.namespaceName, j.spec) := by
    rw [meets, meets', key, generation]
  obtain ⟨namespaceName, spec⟩ := Prod.mk.inj same
  exact putting_congr spec key namespaceName

end Instance

namespace Stores

/-- What anybody may do to the stores: documents are written and taken out, and so are instances, with
a generation that tells what they ask for. -/
structure Interferes (demands : Demands) (s s' : Stores) : Prop where
  instances : s.instances.Evolves (·.Meets demands) s'.instances
  documents : s.documents.Evolves (fun _ => True) s'.documents

/-- The stored instances ask for what their generations tell. -/
structure Orderly (demands : Demands) (s : Stores) : Prop where
  instances : s.instances.Sound
  documents : s.documents.Sound
  meets (key : String) (i : Instance) : s.instances.stored key = some i → i.Meets demands

variable {demands : Demands} {s s' : Stores}

/-- Whatever anybody does, an instance asks for what its generation tells. -/
theorem Orderly.interfered (orderly : s.Orderly demands) (interferes : s.Interferes demands s') :
    s'.Orderly demands where
  instances := interferes.instances.sound orderly.instances
  documents := interferes.documents.sound orderly.documents
  meets := interferes.instances.forall_stored (fun _ _ meets => meets) orderly.meets

/-- A request does nothing that others might not do as well. -/
theorem interferes_of_serves (orderly : s.Orderly demands) {r : Request} {answer : r.Answer}
    (serves : s.Serves r answer s') : s.Interferes demands s' := by
  have idle : s.Interferes demands s := ⟨.same, .same⟩
  have refused {α : Type} {answer : Result α} (refuses : s.Refuses answer s') :
      s.Interferes demands s' := refuses.2 ▸ idle
  have saved {i : Instance} {stays : Bool} {answer : Result Instance}
      (saves : s.instances.Saves i stays answer s'.instances) (meets : i.Meets demands)
      (documents : s'.documents = s.documents) : s.Interferes demands s' := by
    obtain ⟨v, fresh, -, written⟩ := saves
    exact ⟨written ▸ .written fresh meets, documents ▸ .same⟩
  have put {d : ConfigMap} {answer : Result ConfigMap}
      (saves : s.documents.Saves d true answer s'.documents)
      (instances : s'.instances = s.instances) : s.Interferes demands s' := by
    obtain ⟨v, fresh, -, written⟩ := saves
    exact ⟨instances ▸ .same, written ▸ .written fresh trivial⟩
  cases r with
  | getInstance =>
    rcases serves with refuses | ⟨-, rfl⟩
    · exact refused refuses
    · exact idle
  | getDocument =>
    rcases serves with refuses | ⟨-, rfl⟩
    · exact refused refuses
    · exact idle
  | updateInstance given =>
    rcases serves with refuses | ⟨found, labels, current, -, saves, documents⟩
    · exact refused refuses
    · exact saved saves (orderly.meets _ found current.1) documents
  | updateStatus given =>
    rcases serves with refuses | ⟨found, current, saves, documents⟩
    · exact refused refuses
    · exact saved saves (orderly.meets _ found current.1) documents
  | createDocument given =>
    rcases serves with refuses | ⟨-, saves, instances⟩
    · exact refused refuses
    · exact put saves instances
  | updateDocument given =>
    rcases serves with refuses | ⟨-, saves, instances⟩
    · exact refused refuses
    · exact put saves instances
  | namespaceLabels | record =>
    obtain rfl := serves
    exact idle

end Stores

/-! ## Blocks -/

namespace Instance

variable {i j : Instance} {s s' : Stores}

/-- The document of the instance has the block of its resources. -/
def StandsIn (i : Instance) (s : Stores) : Prop :=
  Block.located (s.content i.target).toList i.key.toList =
    some (Block.render i.key.toList i.fragment.toList)

/-- The block of the instance was written to its document, and it can be found there unless the text of
its resources runs into the end marker. -/
structure IsPutIn (i : Instance) (s : Stores) : Prop where
  written : Block.HasLines (s.content i.target).toList i.key.toList i.fragment.toList
  stands : i.StandsIn s ↔ Block.closes i.fragment.toList = true

theorem IsPutIn.congr (isPut : i.IsPutIn s) (same : i.putting = j.putting) : j.IsPutIn s := by
  injection same with target key fragment
  obtain ⟨written, stands⟩ := isPut
  rw [StandsIn] at stands
  rw [target, key, Option.some.inj fragment] at written stands
  exact ⟨written, stands⟩

/-- The errand finds nothing to write only where the block stands. -/
theorem isPutIn_of_read (free : '\n' ∉ i.key.toList)
    (settled : i.putting.read (s.documents.stored i.target.mapKey) = .settled) : i.IsPutIn s := by
  have idle := Errand.write?_eq_none_of_read settled
  cases stored : s.documents.stored i.target.mapKey with
  | none =>
    rw [stored] at idle
    cases idle
  | some d =>
    rw [stored] at idle
    have kept : (Document.upsert (d.content i.target.key) i.key i.fragment).document? = none :=
      Option.map_eq_none_iff.1 idle
    have stands : i.StandsIn s := by
      rw [StandsIn, Stores.content, stored]
      refine Block.located_of_unchanged ?_
      rw [Document.upsert] at kept
      cases outcome : Block.upsert (d.content i.target.key).toList i.key.toList i.fragment.toList with
      | unchanged => rfl
      | appended | replaced =>
        rw [outcome] at kept
        cases kept
    exact ⟨Block.hasLines_of_located free stands, Block.closes_of_located free, fun _ => stands⟩

/-- Once the errand's write went through the block is put. -/
theorem isPutIn_of_writes (free : '\n' ∉ i.key.toList) (sound : s.documents.Sound) {v : String}
    (writes : i.putting.Writes s v s') : i.IsPutIn s' := by
  have content : (s'.content i.target).toList =
      (i.putting.change.edit (s.content i.target).toList).2 := by
    rw [writes.content sound i.target, if_pos ⟨rfl, rfl⟩, Errand.toList_merge]
  constructor
  · rw [content]
    exact Block.hasLines_edit_upsert free _ _
  · rw [StandsIn, content]
    refine ⟨Block.closes_of_located free, fun closed => ?_⟩
    have tame : Block.Tame _ := (Errand.sound_errand free true).2
    exact Block.located_edit_upsert free closed (tame.beginMarker_notMem closed _) _

end Instance

end StateMetrics
