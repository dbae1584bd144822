import StateMetrics.Proofs.Store.Shelf
import StateMetrics.Store.Cluster

/-!
# What the controller may expect of its stores

`Stores.Serves` says which answers to a request are possible, and what the stores hold then. Any
request may fail, and then nothing changes. A write that does not fail gets a fresh version; an
update goes through only under the stored version, and nothing is created twice. The cluster in
memory keeps to this (`Cluster.Shows.serves`).
-/

namespace StateMetrics

/-- The stored instances and config maps. -/
structure Stores where
  instances : Shelf Instance
  documents : Shelf ConfigMap

/-- The instance stays in the store: it is not to go, or somebody has still to clean up. -/
def Instance.stays (i : Instance) : Bool := !(i.isDeleting && i.metadata.finalizerList.isEmpty)

/-- The two targets name the same document. -/
def Target.SamePlace (a b : Target) : Prop := a.mapKey = b.mapKey ∧ a.key = b.key

instance (a b : Target) : Decidable (a.SamePlace b) :=
  inferInstanceAs (Decidable (_ ∧ _))

namespace Stores

/-- The document of a target; empty when there is none. -/
def content (s : Stores) (target : Target) : String :=
  match s.documents.stored target.mapKey with
  | some d => d.content target.key
  | none => ""

theorem content_of_documents {s s' : Stores} (same : s'.documents = s.documents)
    (target : Target) : s'.content target = s.content target := by
  rw [content, content, same]

theorem content_of_samePlace {s : Stores} {a b : Target} (same : a.SamePlace b) :
    s.content a = s.content b := by
  rw [content, content, same.1, same.2]

/-- An instance is written under a fresh version, and nothing else changes. -/
structure WritesInstance (s : Stores) (v : String) (i : Instance) (s' : Stores) : Prop where
  fresh : v ∉ s.instances.spent
  instances : s'.instances = s.instances.write v i i.stays
  documents : s'.documents = s.documents

/-- A request failed, and nothing changed. -/
def Refuses {α : Type} (s : Stores) (answer : Result α) (s' : Stores) : Prop :=
  (∃ e, answer = .error e) ∧ s' = s

/-- The answers to a request, and the stores after each. An update of an instance writes its
finalizers, and its labels in some stores. -/
def Serves (s : Stores) : (r : Request) → r.Answer → Stores → Prop
  | .getInstance namespaceName name, answer, s' =>
    s.Refuses answer s' ∨
      answer = .ok (s.instances.stored (Instance.keyOf name namespaceName)) ∧ s' = s
  | .updateInstance given, answer, s' =>
    s.Refuses answer s' ∨ ∃ found labels,
      s.instances.Current given found ∧
      (labels = found.metadata.labels ∨ labels = given.metadata.labels) ∧
      let kept := { found with
        metadata.finalizers := given.metadata.finalizers
        metadata.labels := labels }
      s.instances.Saves kept kept.stays answer s'.instances ∧ s'.documents = s.documents
  | .updateStatus given, answer, s' =>
    s.Refuses answer s' ∨ ∃ found,
      s.instances.Current given found ∧
      let kept := { found with status := given.status }
      s.instances.Saves kept kept.stays answer s'.instances ∧ s'.documents = s.documents
  | .getDocument target, answer, s' =>
    s.Refuses answer s' ∨ answer = .ok (s.documents.stored target.mapKey) ∧ s' = s
  | .createDocument given, answer, s' =>
    s.Refuses answer s' ∨
      s.documents.stored given.mapKey = none ∧
      s.documents.Saves given true answer s'.documents ∧ s'.instances = s.instances
  | .updateDocument given, answer, s' =>
    s.Refuses answer s' ∨
      (∃ found, s.documents.Current given found) ∧
      s.documents.Saves given true answer s'.documents ∧ s'.instances = s.instances
  | .namespaceLabels _, _, s' => s' = s
  | .record .., _, s' => s' = s

/-- A write of the document of a target changes that document only, if the config map was read
before. -/
theorem content_write {s s' : Stores} {v text : String} {d : ConfigMap} {target : Target}
    (sameName : d.mapKey = target.mapKey)
    (read : ∀ other : Target, other.mapKey = target.mapKey → s.content other = d.content other.key)
    (written : s'.documents = s.documents.write v (d.setContent target.key text) true)
    (other : Target) :
    s'.content other = if other.SamePlace target then text else s.content other := by
  have name : Stored.name (d.setContent target.key text) = target.mapKey := sameName
  by_cases same : other.mapKey = target.mapKey
  · have stored : s'.documents.stored other.mapKey =
        some (Stored.stamp v (d.setContent target.key text)) := by
      rw [written, same, ← name]
      exact Shelf.stored_write_self
    have now : s'.content other =
        ((NameMap.insert target.key text (d.data.getD [])).lookup other.key).getD "" := by
      rw [content, stored]
      rfl
    by_cases sameKey : other.key = target.key
    · rw [now, if_pos ⟨same, sameKey⟩, sameKey, NameMap.lookup_insert_self]
      rfl
    · rw [now, if_neg fun h => sameKey h.2, NameMap.lookup_insert_of_ne sameKey, read other same]
      rfl
  · have stored : s'.documents.stored other.mapKey = s.documents.stored other.mapKey := by
      rw [written]
      exact Shelf.stored_write_of_ne (name ▸ same)
    rw [if_neg fun h => same h.1, content, content, stored]

end Stores

/-! ## The cluster in memory -/

/-- A number is told by its digits, so the cluster gives no version twice. -/
theorem Decimal.natText_injective : Function.Injective Decimal.natText := by
  intro m n same
  have digits : Nat.toDigits 10 m = Nat.toDigits 10 n := String.ofList_injective same
  rw [← Nat.ofDigitChars_toDigits (b := 10) (n := m) (by decide) (by decide), digits,
    Nat.ofDigitChars_toDigits (by decide) (by decide)]

theorem NameMap.lookup_insert_eq_update {α : Type} (name : String) (value : α) (map : NameMap α) :
    (fun key => (insert name value map).lookup key) =
      Function.update (fun key => map.lookup key) name (some value) := by
  funext key
  by_cases same : key = name
  · rw [same, lookup_insert_self, Function.update_self]
  · rw [lookup_insert_of_ne same, Function.update_of_ne same]

theorem NameMap.lookup_erase_eq_update {α : Type} (name : String) (map : NameMap α) :
    (fun key => (erase name map).lookup key) =
      Function.update (fun key => map.lookup key) name none := by
  funext key
  by_cases same : key = name
  · rw [same, lookup_erase_self, Function.update_self]
  · rw [lookup_erase_of_ne same, Function.update_of_ne same]

namespace Cluster

/-- The shelf holds these objects, and its versions were given by the first so many writes. -/
structure ShowsShelf {α : Type} (map : NameMap α) (writes : Nat) (s : Shelf α) : Prop where
  stored : s.stored = fun key => map.lookup key
  spent : ∀ v ∈ s.spent, ∃ n ≤ writes, v = Decimal.natText n

/-- The stores are what the controller sees of the cluster. -/
structure Shows (c : Cluster) (s : Stores) : Prop where
  instances : ShowsShelf c.instances c.writes s.instances
  documents : ShowsShelf c.documents c.writes s.documents

section Shelf

variable {α : Type} {map : NameMap α} {writes : Nat} {s : Shelf α}

/-- The next version of the cluster is a fresh one. -/
theorem ShowsShelf.fresh (shows : ShowsShelf map writes s) :
    Decimal.natText (writes + 1) ∉ s.spent := fun mem => by
  obtain ⟨n, le, same⟩ := shows.spent _ mem
  have := Decimal.natText_injective same
  omega

/-- A write of the other sort of objects leaves the shelf as it is. -/
theorem ShowsShelf.rest (shows : ShowsShelf map writes s) : ShowsShelf map (writes + 1) s where
  stored := shows.stored
  spent v mem :=
    have ⟨n, le, same⟩ := shows.spent v mem
    ⟨n, by omega, same⟩

theorem ShowsShelf.spent_write (shows : ShowsShelf map writes s) {v : String}
    (mem : v ∈ insert (Decimal.natText (writes + 1)) s.spent) :
    ∃ n ≤ writes + 1, v = Decimal.natText n := by
  rcases mem with rfl | mem
  · exact ⟨writes + 1, le_refl _, rfl⟩
  · exact shows.rest.spent v mem

end Shelf

section Save

variable {c : Cluster} {s : Stores}

/-- A saved instance is written under the next version. -/
theorem Shows.saveInstance (shows : c.Shows s) (i : Instance) :
    (c.saveInstance i).2.Shows
      { s with instances := s.instances.write (Decimal.natText (c.writes + 1)) i i.stays } where
  instances := by
    refine ⟨?_, fun v mem => shows.instances.spent_write mem⟩
    rw [Shelf.write, shows.instances.stored]
    cases goes : i.isDeleting && i.metadata.finalizerList.isEmpty with
    | true =>
      have kept : (c.saveInstance i).2.instances = NameMap.erase i.key c.instances := if_pos goes
      have leaves : i.stays = false := by rw [Instance.stays, goes, Bool.not_true]
      rw [kept, leaves, NameMap.lookup_erase_eq_update]
      rfl
    | false =>
      have kept : (c.saveInstance i).2.instances =
          NameMap.insert i.key (i.numbered (c.writes + 1)) c.instances :=
        if_neg (Bool.eq_false_iff.1 goes)
      have stays : i.stays = true := by rw [Instance.stays, goes, Bool.not_false]
      rw [kept, stays, NameMap.lookup_insert_eq_update]
      rfl
  documents := shows.documents.rest

/-- Somebody else's write of an instance. -/
theorem Shows.exists_saved (shows : c.Shows s) (i : Instance) :
    ∃ s' v, s.WritesInstance v i s' ∧ (c.saveInstance i).2.Shows s' :=
  ⟨{ s with instances := s.instances.write (Decimal.natText (c.writes + 1)) i i.stays }, _,
    ⟨shows.instances.fresh, rfl, rfl⟩, shows.saveInstance i⟩

/-- A config map of the cluster has the content of its targets. -/
theorem Shows.content (shows : c.Shows s) {target : Target} {d : ConfigMap}
    (look : c.documents.lookup target.mapKey = some d) : s.content target = d.content target.key := by
  rw [Stores.content, shows.documents.stored]
  show (match c.documents.lookup target.mapKey with
    | some d => d.content target.key
    | none => "") = _
  rw [look]

/-- A saved config map is written under the next version. -/
theorem Shows.saveDocument (shows : c.Shows s) (d : ConfigMap) :
    (c.saveDocument d).2.Shows
      { s with documents := s.documents.write (Decimal.natText (c.writes + 1)) d true } where
  instances := shows.instances.rest
  documents := by
    refine ⟨?_, fun v mem => shows.documents.spent_write mem⟩
    have kept : (c.saveDocument d).2.documents =
        NameMap.insert d.mapKey (d.numbered (c.writes + 1)) c.documents := rfl
    rw [Shelf.write, shows.documents.stored, kept, NameMap.lookup_insert_eq_update]
    rfl

/-- The version check of an instance finds what is stored, or refuses. -/
theorem Shows.current (shows : c.Shows s) (given : Instance) :
    (∃ e, Store.current c.instances given = .error e) ∨
      ∃ found, Store.current c.instances given = .ok found ∧ s.instances.Current given found := by
  rw [Store.current]
  cases look : c.instances.lookup given.key with
  | none => exact .inl ⟨_, rfl⟩
  | some found =>
    by_cases same : found.metadata.resourceVersion = given.metadata.resourceVersion
    · refine .inr ⟨found, if_pos same, ?_, same⟩
      rw [shows.instances.stored]
      exact look
    · exact .inl ⟨_, if_neg same⟩

/-- The cluster in memory answers as the controller may expect. -/
theorem Shows.serves (shows : c.Shows s) (r : Request) :
    ∃ s', (handle r c).2.Shows s' ∧ s.Serves r (handle r c).1 s' := by
  cases r with
  | getInstance namespaceName name =>
    refine ⟨s, shows, .inr ⟨?_, rfl⟩⟩
    rw [shows.instances.stored]
    rfl
  | getDocument target =>
    refine ⟨s, shows, .inr ⟨?_, rfl⟩⟩
    rw [shows.documents.stored]
    rfl
  | namespaceLabels name => exact ⟨s, shows, rfl⟩
  | record about event => exact ⟨s, shows, rfl⟩
  | updateInstance given =>
    have answered : handle (.updateInstance given) c = c.updateInstance given := rfl
    rw [answered, updateInstance]
    rcases shows.current given with ⟨e, refused⟩ | ⟨found, accepted, current⟩
    · rw [refused]
      exact ⟨s, shows, .inl ⟨⟨e, rfl⟩, rfl⟩⟩
    · rw [accepted]
      exact ⟨_, shows.saveInstance _, .inr ⟨found, found.metadata.labels, current, .inl rfl,
        ⟨_, shows.instances.fresh, rfl, rfl⟩, rfl⟩⟩
  | updateStatus given =>
    have answered : handle (.updateStatus given) c = c.updateStatus given := rfl
    rw [answered, updateStatus]
    rcases shows.current given with ⟨e, refused⟩ | ⟨found, accepted, current⟩
    · rw [refused]
      exact ⟨s, shows, .inl ⟨⟨e, rfl⟩, rfl⟩⟩
    · rw [accepted]
      exact ⟨_, shows.saveInstance _, .inr ⟨found, current,
        ⟨_, shows.instances.fresh, rfl, rfl⟩, rfl⟩⟩
  | createDocument given =>
    have answered : handle (.createDocument given) c = c.createDocument given := rfl
    rw [answered, createDocument]
    cases look : c.documents.lookup given.mapKey with
    | some found => exact ⟨s, shows, .inl ⟨⟨_, rfl⟩, rfl⟩⟩
    | none =>
      refine ⟨_, shows.saveDocument given, .inr ⟨?_, ⟨_, shows.documents.fresh, rfl, rfl⟩, rfl⟩⟩
      rw [shows.documents.stored]
      exact look
  | updateDocument given =>
    have answered : handle (.updateDocument given) c = c.updateDocument given := rfl
    rw [answered, updateDocument, Store.isStale]
    cases look : c.documents.lookup given.mapKey with
    | none => exact ⟨s, shows, .inl ⟨⟨_, rfl⟩, rfl⟩⟩
    | some found =>
      by_cases same : found.metadata.resourceVersion = given.metadata.resourceVersion
      · rw [if_neg (by simp [same])]
        refine ⟨_, shows.saveDocument given, .inr ⟨⟨found, ?_, same⟩,
          ⟨_, shows.documents.fresh, rfl, rfl⟩, rfl⟩⟩
        rw [shows.documents.stored]
        exact look
      · rw [if_pos (by simp [same])]
        exact ⟨s, shows, .inl ⟨⟨_, rfl⟩, rfl⟩⟩

end Save

end Cluster

end StateMetrics
