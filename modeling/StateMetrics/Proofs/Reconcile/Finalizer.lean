import StateMetrics.Proofs.Reconcile.Course
import StateMetrics.Proofs.Run.Execution

/-!
# The finalizer and the block

Attempts at many instances run side by side, requests fail, and others edit the instances meanwhile.
The finalizer of an instance still comes after its block and goes after it. Document and instance are
written apart; what links them is the version of the instance that the attempt has in its hand: if
that version is still stored when the finalizer is written, the instance asks for what the attempt
has done at the document, and nobody else writes the block of its key.
-/

namespace StateMetrics

/-- What somebody else than the controller may do: store an instance under a fresh version, or take
one out. -/
def Stores.EditsInstances (s s' : Stores) : Prop :=
  s'.documents = s.documents ∧
    ((∃ v i stays, v ∉ s.instances.spent ∧ s'.instances = s.instances.write v i stays) ∨
      ∃ key, s'.instances = s.instances.drop key)

/-- A version that is known stays known when others store instances. -/
theorem Stores.EditsInstances.knows {s s' : Stores} (edits : s.EditsInstances s') (i : Instance)
    (knows : s.instances.Knows i) : s'.instances.Knows i := by
  rcases edits.2 with ⟨v, j, stays, fresh, written⟩ | ⟨dropped, written⟩
  · exact written ▸ knows.write fresh
  · exact written ▸ knows.drop dropped

theorem Stores.EditsInstances.sound {s s' : Stores} (edits : s.EditsInstances s')
    (sound : s.instances.Sound) : s'.instances.Sound := by
  rcases edits.2 with ⟨v, j, stays, -, written⟩ | ⟨dropped, written⟩
  · exact written ▸ sound.write
  · exact written ▸ sound.drop dropped

/-! ## Ties -/

/-- What the stage of an errand says about the stores: what was read is known, and a document that
is as it should be has the block that the errand leaves. -/
def Errand.StageTie (document : Target) (e : Errand) (s : Stores) : Errand.Stage → Prop
  | .unread => True
  | .writing found => e.Knows s found
  | .settled => e.target = document →
    Block.located (s.content document).toList e.key.toList = e.outcome
  | .failed => True

/-- What is in the hand of an attempt at the instance of a key: a version of it that is known, and an
errand for it. -/
def Hand.Tie (document : Target) (key : String) (s : Stores) : Hand → Prop
  | .empty => True
  | .holding puts i stage =>
    s.instances.Knows i ∧ i.key = key ∧ (i.errand puts).StageTie document s stage

/-- The stores are sound, and the document is made of blocks. -/
structure Stores.Blocky (document : Target) (s : Stores) : Prop where
  instances : s.instances.Sound
  documents : s.documents.Sound
  blocks : ∃ entries, Block.Holds entries (s.content document).toList

namespace Errand

variable {document : Target} {e : Errand} {s s' : Stores} {stage : Stage}

/-- The block of the errand is as it leaves it, if the document is the errand's. -/
def Done (document : Target) (e : Errand) (s : Stores) : Prop :=
  e.target = document → Block.located (s.content document).toList e.key.toList = e.outcome

/-- The tie is that of an errand which leaves its block behind. -/
theorem stageTie_iff : e.StageTie document s stage ↔ e.Tied (e.Done document) s stage := by
  cases stage <;> rfl

theorem StageTie.of_documents (tie : e.StageTie document s stage)
    (same : s'.documents = s.documents) : e.StageTie document s' stage := by
  rw [stageTie_iff] at tie ⊢
  refine tie.of_documents same fun done here => ?_
  rw [Stores.content_of_documents same]
  exact done here

/-- A document that is as it should be when it is read has the block that the errand leaves. -/
theorem located_of_read (sound : e.Sound) (blocky : s.Blocky e.target)
    (settled : e.read (s.documents.stored e.target.mapKey) = .settled) :
    Block.located (s.content e.target).toList e.key.toList = e.outcome := by
  obtain ⟨entries, holds⟩ := blocky.blocks
  have idle : e.write? (s.documents.stored e.target.mapKey) = none :=
    write?_eq_none_of_read settled
  have kept : e.merge (s.content e.target) = s.content e.target := by
    cases stored : s.documents.stored e.target.mapKey with
    | none =>
      have empty : s.content e.target = "" := by rw [Stores.content, stored]
      rw [stored] at idle
      rw [empty, merge_empty_of_removes (Option.map_eq_none_iff.1 idle)]
    | some d =>
      have text : s.content e.target = d.content e.target.key := by rw [Stores.content, stored]
      rw [stored] at idle
      rw [text, merge, Option.map_eq_none_iff.1 idle]
      rfl
  rw [← located_merge sound holds, kept]

theorem StageTie.knows (tie : e.StageTie document s stage) (found : Option ConfigMap)
    (writing : stage = .writing found) : e.Knows s found :=
  (stageTie_iff.1 tie).knows found writing

/-- The write of an errand leaves its block as the errand wants it. -/
theorem done_of_writes (sound : e.Sound) (blocky : s.Blocky document) {v : String}
    (writes : e.Writes s v s') : e.Done document s' := by
  rintro rfl
  obtain ⟨entries, holds⟩ := blocky.blocks
  rw [writes.content blocky.documents, if_pos ⟨rfl, rfl⟩]
  exact located_merge sound holds

/-- An errand that is settled has its block in place, whether it had to write it or found it
there. -/
theorem StageTie.served (sound : e.Sound) (blocky : s.Blocky document)
    (tie : e.StageTie document s stage) {r : Request} {answer : r.Answer}
    (permitted : e.discipline.permits stage r) (serves : s.Serves r answer s') :
    e.StageTie document s' (e.discipline.after stage r answer) := by
  rw [stageTie_iff] at tie ⊢
  refine tie.served blocky.documents permitted serves (fun settled => ?_) fun v writes => ?_
  · rintro rfl
    exact located_of_read sound blocky settled
  · exact done_of_writes sound blocky writes

/-- An errand's step keeps the document made of blocks. -/
theorem blocky_of_served (sound : e.Sound) (blocky : s.Blocky document)
    (tie : e.StageTie document s stage) {r : Request} {answer : r.Answer}
    (permitted : e.discipline.permits stage r) (serves : s.Serves r answer s') :
    s'.Blocky document := by
  rcases served permitted tie.knows serves with ⟨-, rfl⟩ | ⟨-, -, v, fresh, writes⟩
  · exact blocky
  · obtain ⟨entries, holds⟩ := blocky.blocks
    refine ⟨writes.1 ▸ blocky.instances, writes.2 ▸ blocky.documents.write, ?_⟩
    rw [writes.content blocky.documents]
    split
    · exact ⟨_, holds_merge sound holds⟩
    · exact ⟨entries, holds⟩

/-- The step of an errand for another key does not loosen the tie. -/
theorem StageTie.other (sound : e.Sound) (blocky : s.Blocky document)
    (tie : e.StageTie document s stage) {r : Request} {answer : r.Answer}
    (permitted : e.discipline.permits stage r) (serves : s.Serves r answer s')
    {e' : Errand} {stage' : Stage} (differ : e.key ≠ e'.key)
    (tie' : e'.StageTie document s stage') : e'.StageTie document s' stage' := by
  rw [stageTie_iff] at tie tie' ⊢
  refine tie.other permitted serves (fun v writes done here => ?_) tie'
  obtain ⟨entries, holds⟩ := blocky.blocks
  have others : e.key.toList ≠ e'.key.toList := fun same => differ (String.toList_injective same)
  rw [writes.content blocky.documents]
  split
  · rw [located_merge_of_ne sound holds others]
    exact done here
  · exact done here

end Errand

namespace Hand

variable {document : Target} {key : String} {s s' : Stores} {hand : Hand} {puts : Bool}
  {i : Instance} {stage : Errand.Stage} {r : Request} {answer : r.Answer}

/-- No write of an instance loosens a tie. -/
theorem Tie.edited (tie : hand.Tie document key s) (edits : s.EditsInstances s') :
    hand.Tie document key s' := by
  cases hand with
  | empty => trivial
  | holding puts i stage =>
    obtain ⟨knows, sameKey, stageTie⟩ := tie
    exact ⟨Stores.EditsInstances.knows edits i knows, sameKey, stageTie.of_documents edits.1⟩

/-- Who stores instances only leaves the document as it is. -/
theorem blocky_of_edits (blocky : s.Blocky document) (edits : s.EditsInstances s') :
    s'.Blocky document := by
  have same : s'.documents = s.documents := edits.1
  refine ⟨Stores.EditsInstances.sound edits blocky.instances, same ▸ blocky.documents, ?_⟩
  rw [Stores.content_of_documents same]
  exact blocky.blocks

/-- A write that carries the version in hand finds the instance in hand. -/
theorem eq_of_current {given found : Instance} (knows : s.instances.Knows i)
    (same : given.SameVersion i) (current : s.instances.Current given found) : found = i :=
  knows.eq_of_current current same.1 same.2

/-- A version with its finalizer put or removed is to replace that version. -/
theorem finalized_sameVersion (puts : Bool) (i : Instance) : (i.finalized puts).SameVersion i := by
  cases puts with
  | true => exact i.addFinalizer_sameVersion
  | false => exact i.removeFinalizer_sameVersion

/-- What a step of an attempt is: a request that changes no more than the hand, a write of the
instance in hand, or a step of its errand. -/
theorem served_cases {n : InstanceName} (blocky : s.Blocky document)
    (tie : hand.Tie document n.key s)
    (permitted : (handDiscipline n.namespaceName n.name).permits hand r)
    (serves : s.Serves r answer s') :
    ((s' = s ∨ s.EditsInstances s') ∧
        ((handDiscipline n.namespaceName n.name).after hand r answer).Tie document n.key s') ∨
      ∃ puts i stage, hand = .holding puts i stage ∧
        (i.errand puts).discipline.permits stage r ∧
        (handDiscipline n.namespaceName n.name).after hand r answer =
          .holding puts i ((i.errand puts).discipline.after stage r answer) := by
  cases hand with
  | empty =>
    obtain rfl := permitted
    rcases serves with ⟨⟨error, rfl⟩, rfl⟩ | ⟨rfl, rfl⟩
    · exact .inl ⟨.inl rfl, trivial⟩
    · cases stored : s'.instances.stored (Instance.keyOf n.name n.namespaceName) with
      | none => exact .inl ⟨.inl rfl, trivial⟩
      | some i =>
        exact .inl ⟨.inl rfl, Shelf.knows_of_stored blocky.instances stored,
          blocky.instances.name_eq stored, trivial⟩
  | holding puts i stage =>
    obtain ⟨knows, sameKey, stageTie⟩ := tie
    cases r with
    | record about event =>
      obtain rfl := serves
      exact .inl ⟨.inl rfl, knows, sameKey, stageTie⟩
    | updateStatus given =>
      rcases serves with ⟨⟨error, rfl⟩, rfl⟩ | ⟨found, current, ⟨v, fresh, rfl, written⟩, same⟩
      · exact .inl ⟨.inl rfl, knows, sameKey, stageTie⟩
      · obtain rfl := eq_of_current knows permitted current
        refine .inl ⟨.inr ⟨same, .inl ⟨v, _, _, fresh, written⟩⟩, ?_, sameKey, ?_⟩
        · exact written ▸ Shelf.knows_of_write
        · cases puts <;> exact stageTie.of_documents same
    | updateInstance given =>
      rcases serves with ⟨⟨error, rfl⟩, rfl⟩ |
        ⟨found, labels, current, -, ⟨v, fresh, rfl, written⟩, same⟩
      · exact .inl ⟨.inl rfl, knows, sameKey, stageTie⟩
      · obtain ⟨-, rfl⟩ := permitted
        obtain rfl := eq_of_current knows (finalized_sameVersion puts i) current
        refine .inl ⟨.inr ⟨same, .inl ⟨v, _, _, fresh, written⟩⟩, ?_, sameKey, ?_⟩
        · exact written ▸ Shelf.knows_of_write
        · cases puts <;> exact stageTie.of_documents same
    | getInstance namespaceName name => exact .inr ⟨puts, i, stage, rfl, permitted, rfl⟩
    | getDocument target => exact .inr ⟨puts, i, stage, rfl, permitted, rfl⟩
    | createDocument given => exact .inr ⟨puts, i, stage, rfl, permitted, rfl⟩
    | updateDocument given => exact .inr ⟨puts, i, stage, rfl, permitted, rfl⟩
    | namespaceLabels name => exact .inr ⟨puts, i, stage, rfl, permitted, rfl⟩

end Hand

/-! ## The protocol -/

section Protocol

variable {κ : Type} [DecidableEq κ]

/-- The protocol of attempts at instances with keys of their own, at one document. -/
def bracketProtocol (subject : κ → InstanceName) (document : Target)
    (distinct : ∀ j k, (subject j).key = (subject k).key → j = k)
    (free : ∀ k, '\n' ∉ (subject k).key.toList) :
    Protocol κ Hand Stores.EditsInstances where
  start _ := .empty
  discipline k := handDiscipline (subject k).namespaceName (subject k).name
  Safe s _ := s.Blocky document
  Tie k hand s _ := hand.Tie document (subject k).key s
  tie_start _ := trivial
  interfered blocky edits :=
    ⟨Hand.blocky_of_edits blocky edits, fun _ _ tie => tie.edited edits⟩
  answered {k hand s s' _ r answer} blocky tie permitted serves := by
    rcases Hand.served_cases blocky tie permitted serves with
      ⟨rfl | edits, next⟩ | ⟨puts, i, stage, rfl, step, next⟩
    · exact ⟨blocky, next, fun _ _ _ tie' => tie'⟩
    · exact ⟨Hand.blocky_of_edits blocky edits, next, fun _ _ _ tie' => tie'.edited edits⟩
    · obtain ⟨knows, sameKey, stageTie⟩ := tie
      have sound : (i.errand puts).Sound := Errand.sound_errand (sameKey ▸ free k) puts
      have instances : s'.instances = s.instances :=
        Errand.instances_of_served step serves
      refine ⟨Errand.blocky_of_served sound blocky stageTie step serves, ?_, ?_⟩
      · rw [next]
        exact ⟨instances ▸ knows, sameKey, stageTie.served sound blocky step serves⟩
      · intro j hand other tie'
        cases hand with
        | empty => trivial
        | holding puts' i' stage' =>
          obtain ⟨knows', sameKey', stageTie'⟩ := tie'
          -- Attempts at other instances have other keys, and a merge leaves their blocks alone.
          have differ : (i.errand puts).key ≠ (i'.errand puts').key := by
            rw [Errand.key_errand, Errand.key_errand, sameKey, sameKey']
            exact fun same => other (distinct j k same.symm)
          exact ⟨instances ▸ knows', sameKey',
            stageTie.other sound blocky step serves differ stageTie'⟩

end Protocol

/-! ## Writes of the finalizer -/

namespace Instance

theorem hasFinalizer_addFinalizer (i : Instance) : i.addFinalizer.hasFinalizer = true := by
  rw [addFinalizer]
  split
  · assumption
  · simp [hasFinalizer, ObjectMeta.finalizerList]

theorem hasFinalizer_removeFinalizer (i : Instance) : i.removeFinalizer.hasFinalizer = false := by
  simp [removeFinalizer, hasFinalizer, ObjectMeta.finalizerList]

end Instance

/-- When a write of an instance goes through, the attempt behind it has settled its errand at the
document, and the instance is stored as the attempt had it in hand. -/
theorem settled_at_finalizer {κ : Type} [DecidableEq κ] {subject : κ → InstanceName}
    {distinct : ∀ j k, (subject j).key = (subject k).key → j = k}
    {free : ∀ k, '\n' ∉ (subject k).key.toList} {document : Target}
    {w w' : World κ (Result Action)}
    (holds : (bracketProtocol subject document distinct free).Holds w) {k : κ}
    {given saved : Instance} (write : w.Answers k (.updateInstance given) (.ok saved) w')
    (here : saved.target = document) :
    ∃ puts stored, w.stores.instances.stored saved.key = some stored ∧ saved.spec = stored.spec ∧
      saved.hasFinalizer = puts ∧
      Block.located (w.stores.content document).toList saved.key.toList =
        (saved.errand puts).outcome := by
  obtain ⟨next, stores, atRequest, serves⟩ := write
  obtain ⟨hand, tie, permitted, -⟩ := holds.note atRequest
  rcases hand with _ | ⟨puts, i, stage⟩
  · cases permitted
  obtain ⟨knows, sameKey, stageTie⟩ := tie
  obtain ⟨rfl, rfl⟩ := permitted
  rcases serves with ⟨⟨error, failed⟩, -⟩ | ⟨found, labels, current, -, ⟨v, -, done, -⟩, -⟩
  · cases failed
  -- The write went through, so what is stored is still the version in hand, with its target.
  obtain rfl := Hand.eq_of_current knows (Hand.finalized_sameVersion puts i) current
  cases done
  have name : Stored.name (found.finalized puts) = found.key :=
    (Hand.finalized_sameVersion puts found).1
  refine ⟨puts, found, name ▸ current.1, rfl, ?_, ?_⟩
  · cases puts with
    | true => exact found.hasFinalizer_addFinalizer
    | false => exact found.hasFinalizer_removeFinalizer
  · cases puts <;> exact stageTie here

section Runs

variable {κ : Type} [DecidableEq κ] {w₀ w w' : World κ (Result Action)} {document : Target}

/-- The protocol holds in every world that is reached from one whose document is made of blocks. -/
theorem bracketProtocol_holds (subject : κ → InstanceName)
    (distinct : ∀ j k, (subject j).key = (subject k).key → j = k)
    (free : ∀ k, '\n' ∉ (subject k).key.toList) (idle : w₀.Idle)
    (blocky : w₀.stores.Blocky document)
    (run : World.Reaches
      (fun k p => p = reconcileKey (subject k).namespaceName (subject k).name)
      Stores.EditsInstances w₀ w) :
    (bracketProtocol subject document distinct free).Holds w := by
  refine Protocol.holds idle blocky ?_ run
  rintro k p rfl
  exact Hand.reconcileKey_obeys

end Runs

/-! ## The first attempt at an instance -/

/-- A cluster in which nothing but a new instance of the text is stored. -/
def Cluster.nursery (text : String) : Cluster :=
  { instances := [("foo@bar", .newborn "foo" text)], writes := 1 }

/-- The document that new instances ask for. -/
def nurseryTarget : Target := ⟨"ksm", "bar", "config.yaml"⟩

/-- The request is to write the finalizers of an instance. -/
def Request.writesFinalizer : Request → Bool
  | .updateInstance _ => true
  | _ => false

theorem nursery_free (_ : Unit) : '\n' ∉ (InstanceName.key ⟨"bar", "foo"⟩).toList := by
  decide +kernel

namespace Cluster

/-- Whether the request that the program is at puts the finalizer on the stored instance of a
text. -/
def putsFinalizer (text : String) (c : Cluster) : Program (Result Action) → Bool
  | .request (.updateInstance given) _ =>
    match (c.updateInstance given).1 with
    | .ok saved =>
      saved.hasFinalizer && decide (saved.target = nurseryTarget) &&
        decide (saved.key = "foo@bar") &&
        (match saved.spec.resources with
          | [.str found] => decide (found = text)
          | _ => false) &&
        (c.instances.lookup saved.key).any fun stored => !stored.hasFinalizer
    | .error _ => false
  | _ => false

/-- A cluster without documents is made of blocks. -/
theorem blocky_nursery (text : String) : (nursery text).stores.Blocky nurseryTarget where
  instances := by
    have only : ∀ {key i}, (nursery text).stores.instances.stored key = some i →
        key = "foo@bar" ∧ i = .newborn "foo" text := by
      intro key i found
      have look : List.lookup key [("foo@bar", Instance.newborn "foo" text)] = some i := found
      rw [List.lookup_cons] at look
      split at look
      · next same => exact ⟨eq_of_beq same, (Option.some.inj look).symm⟩
      · cases look
    constructor
    · intro key i found
      obtain ⟨rfl, rfl⟩ := only found
      rfl
    · intro key i found
      obtain ⟨rfl, rfl⟩ := only found
      exact ⟨"1", ⟨1, le_refl 1, by decide⟩, rfl⟩
  documents := sound_documents rfl
  blocks := ⟨[], Block.holds_nil⟩

/-- A request that passes the check puts the finalizer on the stored instance, which had none. -/
theorem exists_of_putsFinalizer {text : String} {c : Cluster} {p : Program (Result Action)}
    (puts : c.putsFinalizer text p = true) :
    ∃ given next saved stored, p = .request (.updateInstance given) next ∧
      (c.updateInstance given).1 = .ok saved ∧ saved.target = nurseryTarget ∧
      saved.key = "foo@bar" ∧ saved.spec.resources = [.str text] ∧
      c.instances.lookup saved.key = some stored ∧ stored.hasFinalizer = false ∧
      saved.hasFinalizer = true := by
  unfold putsFinalizer at puts
  split at puts
  · next given next =>
    split at puts
    · next saved written =>
      simp only [Bool.and_eq_true, decide_eq_true_eq, Option.any_eq_true,
        Bool.not_eq_true'] at puts
      obtain ⟨⟨⟨⟨on, target⟩, key⟩, resources⟩, stored, look, off⟩ := puts
      refine ⟨given, next, saved, stored, rfl, written, target, key, ?_, look, off, on⟩
      split at resources
      · next found shape => rw [shape, of_decide_eq_true resources]
      · cases resources
    · cases puts
  · cases puts

/-- If the attempt at a new instance comes to put the finalizer on, there is a world in which it
does. -/
theorem exists_finalizer_put (text : String)
    (puts :
      let stop :=
        (reconcileKey "bar" "foo").runUntil Request.writesFinalizer handle (nursery text) {}
      stop.2.1.putsFinalizer text stop.1 = true) :
    ∃ (w w' : World Unit (Result Action)) (given saved stored : Instance),
      World.Reaches (fun _ p => p = reconcileKey "bar" "foo") Stores.EditsInstances
        (World.onCluster Unit (Result Action) (nursery text)) w ∧
      w.Answers () (.updateInstance given) (.ok saved) w' ∧ saved.target = nurseryTarget ∧
      saved.key = "foo@bar" ∧ saved.spec.resources = [.str text] ∧
      w.stores.instances.stored saved.key = some stored ∧ stored.hasFinalizer = false ∧
      saved.hasFinalizer = true := by
  let begun := (World.onCluster Unit (Result Action) (nursery text)).proceed ()
    (some (reconcileKey "bar" "foo"))
  obtain ⟨w, run, atRequest, shows, -, -⟩ :=
    World.reaches_runUntil (fun _ p => p = reconcileKey "bar" "foo") Stores.EditsInstances
      Request.writesFinalizer (w := begun) (World.proceed_running_self _ _ _)
      (nursery text).shows_stores
  have own : begun.own = {} := rfl
  rw [own] at atRequest shows
  generalize (reconcileKey "bar" "foo").runUntil Request.writesFinalizer handle (nursery text) {} =
    stop at puts atRequest shows
  obtain ⟨p, c, own⟩ := stop
  obtain ⟨given, next, saved, stored, rfl, written, target, key, resources, look, off, on⟩ :=
    exists_of_putsFinalizer puts
  obtain ⟨stores, -, answers⟩ := World.answers_handle atRequest shows
  have answer : (handle (.updateInstance given) c).1 = .ok saved := written
  rw [answer] at answers
  refine ⟨w, _, given, saved, stored, .head (.begun () _ rfl rfl) run, answers, target, key,
    resources, ?_, off, on⟩
  rw [shows.instances.stored]
  exact look

end Cluster

/-- The finalizer brackets the block, in every run of attempts at instances with keys of their own,
with any requests failing and others editing the instances: when a write puts the finalizer on, the
document that the stored instance asks for has the block of its resources, unless the text of these
lacks a final newline, and then no block of its key; and when a write takes the finalizer off, that
document has no block of its key. -/
theorem finalizer_brackets_block {κ : Type} [DecidableEq κ] (subject : κ → InstanceName)
    (distinct : ∀ j k, (subject j).key = (subject k).key → j = k)
    (free : ∀ k, '\n' ∉ (subject k).key.toList) {document : Target}
    {w₀ w w' : World κ (Result Action)} (idle : w₀.Idle) (blocky : w₀.stores.Blocky document)
    (run : World.Reaches
      (fun k p => p = reconcileKey (subject k).namespaceName (subject k).name)
      Stores.EditsInstances w₀ w)
    {k : κ} {given saved : Instance} (write : w.Answers k (.updateInstance given) (.ok saved) w')
    (here : saved.target = document) :
    ∃ stored, w.stores.instances.stored saved.key = some stored ∧ saved.spec = stored.spec ∧
      (stored.hasFinalizer = false → saved.hasFinalizer = true →
        Block.located (w.stores.content document).toList saved.key.toList =
          if Block.closes saved.fragment.toList
          then some (Block.render saved.key.toList saved.fragment.toList) else none) ∧
      (stored.hasFinalizer = true → saved.hasFinalizer = false →
        Block.located (w.stores.content document).toList saved.key.toList = none) := by
  have holds := bracketProtocol_holds subject distinct free idle blocky run
  obtain ⟨puts, stored, isStored, spec, gained, done⟩ := settled_at_finalizer holds write here
  refine ⟨stored, isStored, spec, fun _ putOn => ?_, fun _ takenOff => ?_⟩
  · obtain rfl : true = puts := putOn.symm.trans gained
    exact done.trans (Errand.outcome_putting saved)
  · obtain rfl : false = puts := takenOff.symm.trans gained
    exact done.trans (Errand.outcome_removing saved)

/-- The first attempt at an instance of a plain text puts the finalizer on, and its block stands in
the document. -/
theorem finalizer_brackets_block_of_a :
    ∃ (w₀ w w' : World Unit (Result Action)) (given saved stored : Instance),
      w₀.Idle ∧ w₀.stores.Blocky nurseryTarget ∧
      World.Reaches (fun _ p => p = reconcileKey "bar" "foo") Stores.EditsInstances w₀ w ∧
      w.Answers () (.updateInstance given) (.ok saved) w' ∧ saved.target = nurseryTarget ∧
      w.stores.instances.stored saved.key = some stored ∧ stored.hasFinalizer = false ∧
      saved.hasFinalizer = true ∧
      Block.located (w.stores.content nurseryTarget).toList saved.key.toList =
        some (Block.render saved.key.toList saved.fragment.toList) := by
  obtain ⟨w, w', given, saved, stored, run, write, here, key, resources, isStored, off, on⟩ :=
    Cluster.exists_finalizer_put "a" (by decide +kernel)
  have idle := World.idle_onCluster (κ := Unit) (α := Result Action) (Cluster.nursery "a")
  have blocky := Cluster.blocky_nursery "a"
  obtain ⟨found, isFound, -, putOn, -⟩ := finalizer_brackets_block
    (fun _ => ⟨"bar", "foo"⟩) (fun _ _ _ => rfl) nursery_free idle blocky run write here
  obtain rfl : stored = found := Option.some.inj (isStored.symm.trans isFound)
  have closed : Block.closes saved.fragment.toList = true := by
    rw [Instance.fragment, resources, Fragment.closes_str]
    decide +kernel
  refine ⟨_, w, w', given, saved, stored, idle, blocky, run, write, here, isStored, off, on, ?_⟩
  rw [putOn off on, if_pos closed]

/-- A text with line breaks that ends in a line separator is written without a final newline, and
the finalizer is put on while no block of the key is in the document. -/
theorem finalizer_without_block :
    ∃ (w₀ w w' : World Unit (Result Action)) (given saved stored : Instance),
      w₀.Idle ∧ w₀.stores.Blocky nurseryTarget ∧
      World.Reaches (fun _ p => p = reconcileKey "bar" "foo") Stores.EditsInstances w₀ w ∧
      w.Answers () (.updateInstance given) (.ok saved) w' ∧ saved.target = nurseryTarget ∧
      saved.spec.resources = [.str "a\nb\u2028"] ∧
      w.stores.instances.stored saved.key = some stored ∧ stored.hasFinalizer = false ∧
      saved.hasFinalizer = true ∧
      Block.located (w.stores.content nurseryTarget).toList saved.key.toList = none := by
  obtain ⟨w, w', given, saved, stored, run, write, here, key, resources, isStored, off, on⟩ :=
    Cluster.exists_finalizer_put "a\nb\u2028" (by decide +kernel)
  have idle := World.idle_onCluster (κ := Unit) (α := Result Action) (Cluster.nursery "a\nb\u2028")
  have blocky := Cluster.blocky_nursery "a\nb\u2028"
  have holds := bracketProtocol_holds (fun _ => ⟨"bar", "foo"⟩) (fun _ _ _ => rfl)
    nursery_free idle blocky run
  obtain ⟨puts, found, -, -, gained, done⟩ := settled_at_finalizer holds write here
  obtain rfl : true = puts := on.symm.trans gained
  have notClosed : Block.closes saved.fragment.toList = false := by
    rw [Instance.fragment, resources, Fragment.closes_str]
    decide +kernel
  refine ⟨_, w, w', given, saved, stored, idle, blocky, run, write, here, resources, isStored, off,
    on, ?_⟩
  rw [done]
  refine (Errand.outcome_putting saved).trans ?_
  rw [notClosed]
  rfl

end StateMetrics
