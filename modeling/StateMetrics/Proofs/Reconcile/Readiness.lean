import StateMetrics.Proofs.Reconcile.Holders

/-!
# Readiness

The condition `Ready` is written only behind an errand that is done, and on the version of the
instance that the errand was done for. From then on others may edit what the instance asks for, but
then its generation is another than the one observed; and nobody but attempts at the instance itself
changes the block of its key. So whenever a stored instance says that it is ready, its block is as
its errand leaves it (`located_of_saysReady`).
-/

namespace StateMetrics

namespace Instance

/-- A condition observes the present generation and says that the resources stand in the document;
the instance is to stay. -/
def SaysReady (i : Instance) : Prop :=
  i.isDeleting = false ∧
    ∃ c ∈ i.conditions, c.status = true ∧ c.observedGeneration = i.metadata.generation

instance (i : Instance) : Decidable i.SaysReady :=
  inferInstanceAs (Decidable (_ ∧ _))

/-- The instance has a generation, and no more than one condition, which observes none that is
still to come. -/
structure Dated (i : Instance) : Prop where
  generation : ∃ g, i.metadata.generation = some g ∧
    ∀ c ∈ i.conditions, ∀ o, c.observedGeneration = some o → o ≤ g
  single : i.conditions.length ≤ 1

/-- A version of the same instance by somebody else: a generation of its own, or the same
specification. -/
structure Edits (i j : Instance) : Prop where
  status : i.status = j.status
  key : i.key = j.key
  namespaceName : i.metadata.namespaceName = j.metadata.namespaceName
  deletion : j.isDeleting = true → i.isDeleting = true
  generation : i.spec = j.spec ∧ i.metadata.generation = j.metadata.generation ∨
    ∃ before after, j.metadata.generation = some before ∧ i.metadata.generation = some after ∧
      before < after

/-- The instance was not reconciled yet. -/
def IsNew (i : Instance) : Prop := i.status = none ∧ ∃ g, i.metadata.generation = some g

theorem conditions_congr {i j : Instance} (same : i.status = j.status) :
    i.conditions = j.conditions := by
  rw [conditions, conditions, same]

theorem IsNew.conditions {i : Instance} (new : i.IsNew) : i.conditions = [] := by
  rw [Instance.conditions, new.1]
  rfl

/-- A new instance has no condition that could observe a generation to come. -/
theorem IsNew.dated {i : Instance} (new : i.IsNew) : i.Dated := by
  obtain ⟨g, generation⟩ := new.2
  constructor
  · refine ⟨g, generation, ?_⟩
    simp [new.conditions]
  · simp [new.conditions]

theorem IsNew.not_saysReady {i : Instance} (new : i.IsNew) : ¬ i.SaysReady := by
  rintro ⟨-, c, mem, -⟩
  simp [new.conditions] at mem

/-- An edit makes no generation smaller, so what a condition observes stays in the past. -/
theorem Edits.dated {i j : Instance} (edits : i.Edits j) (dated : j.Dated) : i.Dated := by
  obtain ⟨g, generation, past⟩ := dated.generation
  have conditions := conditions_congr edits.status
  refine ⟨?_, conditions ▸ dated.single⟩
  rcases edits.generation with ⟨-, same⟩ | ⟨before, after, old, new, lt⟩
  · exact ⟨g, same.trans generation, conditions ▸ past⟩
  · obtain rfl : g = before := Option.some.inj (generation.symm.trans old)
    refine ⟨after, new, fun c mem o observed => ?_⟩
    exact (past c (conditions ▸ mem) o observed).trans lt.le

/-- An edit of what an instance asks for leaves it behind the generation that it observed. -/
theorem Edits.saysReady {i j : Instance} (edits : i.Edits j) (dated : j.Dated)
    (ready : i.SaysReady) : j.SaysReady ∧ i.putting = j.putting := by
  obtain ⟨stays, c, mem, status, observed⟩ := ready
  obtain ⟨g, generation, past⟩ := dated.generation
  rw [conditions_congr edits.status] at mem
  rcases edits.generation with ⟨spec, same⟩ | ⟨before, after, old, new, lt⟩
  · refine ⟨⟨?_, c, mem, status, observed.trans same⟩,
      putting_congr spec edits.key edits.namespaceName⟩
    rw [Bool.eq_false_iff]
    intro goes
    rw [edits.deletion goes] at stays
    cases stays
  · -- The condition would observe a generation that was still to come.
    have le : after ≤ g := past c mem after (observed.trans new)
    obtain rfl : g = before := Option.some.inj (generation.symm.trans old)
    omega

/-- There is only one kind of condition, so the one that is put is the only one. -/
theorem putCondition_eq {conditions : List Condition} (single : conditions.length ≤ 1)
    (condition : Condition) : putCondition condition conditions = [condition] := by
  have sort : ∀ kind : ConditionKind, kind = .ready := fun kind => by cases kind; rfl
  match conditions with
  | [] => rfl
  | [c] => rw [putCondition, if_pos ((sort _).trans (sort _).symm)]
  | _ :: _ :: _ => simp at single

/-- A report leaves one condition, which observes the generation of the version it is about. -/
theorem Reports.conditions {given i : Instance} {status : Bool} (reports : given.Reports i status)
    (dated : i.Dated) : ∃ condition, given.conditions = [condition] ∧ condition.status = status ∧
      condition.observedGeneration = i.metadata.generation := by
  obtain ⟨-, condition, isGiven, sameStatus, observes⟩ := reports
  refine ⟨condition, ?_, sameStatus, observes⟩
  rw [Instance.conditions, isGiven]
  exact putCondition_eq dated.single condition

/-- The instance as it is stored when its status is written. -/
theorem Reports.dated {given i : Instance} {status : Bool} (reports : given.Reports i status)
    (dated : i.Dated) : Dated { i with status := given.status } := by
  obtain ⟨condition, only, -, observes⟩ := reports.conditions dated
  obtain ⟨g, generation, -⟩ := dated.generation
  have conditions : Instance.conditions { i with status := given.status } = [condition] := only
  refine ⟨⟨g, generation, fun c mem o observed => ?_⟩, by simp [conditions]⟩
  rw [conditions, List.mem_singleton] at mem
  subst mem
  rw [observes, generation] at observed
  exact (Option.some.inj observed).ge

/-- Only a report of readiness makes an instance ready. -/
theorem Reports.status_of_saysReady {given i : Instance} {status : Bool}
    (reports : given.Reports i status) (dated : i.Dated)
    (ready : SaysReady { i with status := given.status }) : status = true := by
  obtain ⟨condition, only, sameStatus, -⟩ := reports.conditions dated
  obtain ⟨-, c, mem, on, -⟩ := ready
  have conditions : Instance.conditions { i with status := given.status } = [condition] := only
  rw [conditions, List.mem_singleton] at mem
  rw [← sameStatus, ← mem, on]

end Instance

namespace Stores

/-- What somebody else than the controller may do when statuses and documents are the controller's
alone: store a new instance, edit one that is stored, or take one out. -/
def EditsSpecs (s s' : Stores) : Prop :=
  s'.documents = s.documents ∧
    ((∃ v i stays, v ∉ s.instances.spent ∧ s'.instances = s.instances.write v i stays ∧
        (i.IsNew ∨ ∃ j, s.instances.stored i.key = some j ∧ i.Edits j)) ∨
      ∃ key, s'.instances = s.instances.drop key)

/-- Every stored instance is dated. -/
def AllDated (s : Stores) : Prop := ∀ key i, s.instances.stored key = some i → i.Dated

variable {s s' : Stores}

/-- Who may edit specifications only does nothing else than one who may edit instances. -/
theorem EditsSpecs.editsInstances (edits : s.EditsSpecs s') : s.EditsInstances s' := by
  obtain ⟨documents, ⟨v, i, stays, fresh, written, -⟩ | dropped⟩ := edits
  · exact ⟨documents, .inl ⟨v, i, stays, fresh, written⟩⟩
  · exact ⟨documents, .inr dropped⟩

/-- What is stored after somebody else's step was stored before, is new, or is edited. -/
theorem EditsSpecs.stored_cases (edits : s.EditsSpecs s') {key : String} {i : Instance}
    (stored : s'.instances.stored key = some i) :
    s.instances.stored key = some i ∨ i.IsNew ∨
      ∃ j, s.instances.stored key = some j ∧ i.Edits j := by
  obtain ⟨-, ⟨v, given, stays, -, written, how⟩ | ⟨dropped, written⟩⟩ := edits
  · rw [written] at stored
    rcases Shelf.stored_write_cases stored with before | ⟨rfl, rfl⟩
    · exact .inl before
    · rcases how with new | ⟨j, isStored, edits⟩
      · exact .inr (.inl new)
      · exact .inr (.inr ⟨j, isStored, { edits with }⟩)
  · rw [written] at stored
    exact .inl (Shelf.stored_drop_cases stored)

theorem EditsSpecs.allDated (edits : s.EditsSpecs s') (dated : s.AllDated) : s'.AllDated := by
  intro key i stored
  rcases edits.stored_cases stored with before | new | ⟨j, before, edited⟩
  · exact dated key i before
  · exact new.dated
  · exact edited.dated (dated key j before)

/-- Nobody else makes an instance ready. -/
theorem EditsSpecs.saysReady (edits : s.EditsSpecs s') (dated : s.AllDated) {key : String}
    {i : Instance} (stored : s'.instances.stored key = some i) (ready : i.SaysReady) :
    ∃ j, s.instances.stored key = some j ∧ j.SaysReady ∧ i.putting = j.putting := by
  rcases edits.stored_cases stored with before | new | ⟨j, before, edited⟩
  · exact ⟨i, before, ready, rfl⟩
  · exact absurd ready new.not_saysReady
  · exact ⟨j, before, edited.saysReady (dated key j before) ready⟩

end Stores

namespace Errand

/-- An errand that finds its work done and is done over leaves it done. -/
theorem StageTie.again {document : Target} {e : Errand} {s s' : Stores} {stage : Stage}
    (sound : e.Sound) (blocky : s.Blocky document) (tie : e.StageTie document s stage)
    (done : e.StageTie document s .settled) {r : Request} {answer : r.Answer}
    (permitted : e.discipline.permits stage r) (serves : s.Serves r answer s') :
    e.StageTie document s' .settled := by
  rcases Errand.served permitted tie.knows serves with ⟨-, rfl⟩ | ⟨-, -, v, fresh, writes⟩
  · exact done
  · exact done_of_writes sound blocky writes

end Errand

namespace Standing

variable {document : Target} {n : InstanceName} {s s' : Stores} {g g' : Standing} {r : Request}
  {answer : r.Answer}

namespace Advances

/-- What is stored under the key of the attempt was stored before, or the attempt has written its
status or its finalizer. -/
theorem stored_cases (advances : g.Advances n s r answer s' g') (fits : g.Fits n s) {i : Instance}
    (stored : s'.instances.stored n.key = some i) :
    s.instances.stored n.key = some i ∨
      ∃ c, g = .under c ∧ s.instances.stored n.key = some c.hand ∧ s'.documents = s.documents ∧
        ((∃ (given : Instance) (status : Bool), given.Reports c.hand status ∧
            (status = true → c.puts = true ∧ c.stage = .settled) ∧
            ∃ v, i = Stored.stamp v { c.hand with status := given.status }) ∨
          ∃ v labels, i = Stored.stamp v (c.hand.refinalized c.puts labels)) := by
  cases advances with
  | idle | read => exact .inl stored
  | @reported c given status v s' untouched before reports may writes =>
    rw [writes.instances] at stored
    rcases Shelf.stored_write_cases stored with same | ⟨-, rfl⟩
    · exact .inl same
    · exact .inr ⟨c, rfl, before, writes.documents, .inl ⟨given, status, reports, may, v, rfl⟩⟩
  | @marked c given labels v s' untouched before settled marks writes =>
    rw [writes.instances] at stored
    rcases Shelf.stored_write_cases stored with same | ⟨-, rfl⟩
    · exact .inl same
    · exact .inr ⟨c, rfl, before, writes.documents, .inr ⟨v, labels, rfl⟩⟩
  | errand permitted serves instances unread =>
    rw [instances] at stored
    exact .inl stored

/-- The step of an attempt writes conditions of the present generation only. -/
theorem allDated (advances : g.Advances n s r answer s' g') (fits : g.Fits n s)
    (dated : s.AllDated) : s'.AllDated := by
  intro key i stored
  by_cases own : key = n.key
  · subst own
    rcases advances.stored_cases fits stored with before |
      ⟨c, rfl, before, -, ⟨given, status, reports, -, v, rfl⟩ | ⟨v, labels, rfl⟩⟩
    · exact dated _ i before
    · exact { reports.dated (dated _ _ before) with }
    · exact { dated _ _ before with }
  · rw [advances.stored_of_ne fits own] at stored
    exact dated key i stored

/-- An instance becomes ready only by an attempt that has settled its errand. -/
theorem saysReady (advances : g.Advances n s r answer s' g') (fits : g.Fits n s)
    (dated : s.AllDated) {i : Instance} (stored : s'.instances.stored n.key = some i)
    (ready : i.SaysReady) :
    (∃ j, s.instances.stored n.key = some j ∧ j.SaysReady ∧ i.putting = j.putting) ∨
      ∃ c, g = .under c ∧ c.puts = true ∧ c.stage = .settled ∧ i.putting = c.hand.putting ∧
        s'.documents = s.documents := by
  rcases advances.stored_cases fits stored with before |
    ⟨c, rfl, before, documents, ⟨given, status, reports, may, v, rfl⟩ | ⟨v, labels, rfl⟩⟩
  · exact .inl ⟨i, before, ready, rfl⟩
  · obtain ⟨puts, settled⟩ := may (reports.status_of_saysReady (dated _ _ before) ready)
    exact .inr ⟨c, rfl, puts, settled, rfl, documents⟩
  · exact .inl ⟨c.hand, before, ready, rfl⟩

end Advances

end Standing

/-! ## What is kept -/

/-- Every stored instance that says it is ready has its block in the document, if this is the one
that it asks for. -/
structure Stores.Honest (document : Target) (s : Stores) : Prop extends s.Blocky document where
  dated : s.AllDated
  stands : ∀ {key i}, s.instances.stored key = some i → i.SaysReady →
    i.putting.StageTie document s .settled

/-- What an attempt has done at the document; and if the instance says that it is ready, what it
does there was done before. -/
structure Course.Works (c : Course) (document : Target) (n : InstanceName) (s : Stores) :
    Prop where
  stage : c.errand.StageTie document s c.stage
  repeats : ∀ {i}, s.instances.stored n.key = some i → i.SaysReady →
    c.puts = true ∧ i.putting = c.hand.putting

/-- What an attempt has done at the document, once it is under way. -/
def Standing.Works (document : Target) (n : InstanceName) (s : Stores) : Standing → Prop
  | under c => c.Works document n s
  | _ => True

namespace Course

variable {document : Target} {n : InstanceName} {s s' : Stores} {c : Course}

/-- The errand of a version that is to stay puts the block of the version in hand. -/
theorem errand_eq_putting (puts : c.puts = true) : c.errand = c.hand.putting := by
  rw [errand, puts]
  rfl

/-- The same course with another version in hand, written meanwhile. -/
theorem Works.rewritten {i : Instance} {finalizer : FinalizerStage} {r : Request}
    {answer : r.Answer} (works : c.Works document n s) (fits : c.Fits n s) (dated : s.AllDated)
    (continues : i.Continues c.hand)
    (advances : (Standing.under c).Advances n s r answer s'
      (.under { c with hand := i, finalizer := finalizer }))
    (documents : s'.documents = s.documents) :
    Works { c with hand := i, finalizer := finalizer } document n s' := by
  have putting : i.putting = c.hand.putting := continues.errand true
  constructor
  · rw [errand_rewritten continues]
    exact works.stage.of_documents documents
  · intro j stored ready
    rcases advances.saysReady fits dated stored ready with
      ⟨k, before, wasReady, same⟩ | ⟨c', now, puts, -, same, -⟩
    · obtain ⟨puts, again⟩ := works.repeats before wasReady
      exact ⟨puts, same.trans (again.trans putting.symm)⟩
    · cases now
      exact ⟨puts, same.trans putting.symm⟩

/-- Nobody else makes an instance ready, so an edit leaves the attempt as good as it was. -/
theorem Works.edited (works : c.Works document n s) (dated : s.AllDated)
    (edits : s.EditsSpecs s') : c.Works document n s' := by
  refine ⟨works.stage.of_documents edits.1, fun {i} stored ready => ?_⟩
  obtain ⟨j, before, wasReady, same⟩ := edits.saysReady dated stored ready
  obtain ⟨puts, again⟩ := works.repeats before wasReady
  exact ⟨puts, same.trans again⟩

end Course

namespace Standing

variable {document : Target} {n : InstanceName} {s s' : Stores} {g g' : Standing} {r : Request}
  {answer : r.Answer}

theorem Works.edited (works : g.Works document n s) (dated : s.AllDated)
    (edits : s.EditsSpecs s') : g.Works document n s' := by
  cases g with
  | outset | missing => trivial
  | under c => exact Course.Works.edited works dated edits

theorem Works.asked {extent : Extent} (works : g.Works document n s) (q : Question)
    (answer : q.Answer) : ((courseConduct extent n).told g q answer).Works document n s := by
  rcases told_cases extent n g q answer with same | ⟨c, rfl, written, counted⟩
  · rw [same]
    exact works
  · rw [counted]
    exact ⟨works.stage, works.repeats⟩

namespace Advances

/-- The step of an attempt leaves at the document what its next point says was done there. -/
theorem works (advances : g.Advances n s r answer s' g') (fits : g.Fits n s)
    (free : '\n' ∉ n.key.toList) (honest : s.Honest document) (works : g.Works document n s) :
    g'.Works document n s' := by
  have step := advances
  cases advances with
  | idle unread unwritten stands =>
    rcases stands with rfl | rfl
    · exact works
    · trivial
  | read isRead unwritten =>
    cases stored : s.instances.stored n.key with
    | none => trivial
    | some i =>
      refine ⟨trivial, fun {j} again ready => ?_⟩
      obtain rfl : i = j := Option.some.inj (stored.symm.trans again)
      refine ⟨decide_eq_true fun deleting => ?_, rfl⟩
      rw [Instance.phase_eq_deleting_iff, ready.1] at deleting
      cases deleting
  | reported untouched stored reports may writes =>
    exact Course.Works.rewritten works fits honest.dated ⟨rfl, rfl, rfl, rfl, rfl⟩ step
      writes.documents
  | marked untouched stored settled marks writes =>
    exact Course.Works.rewritten works fits honest.dated ⟨rfl, rfl, rfl, rfl, rfl⟩ step
      writes.documents
  | errand permitted serves instances unread =>
    refine ⟨works.stage.served (fits.sound_errand free) honest.toBlocky permitted serves, ?_⟩
    rw [instances]
    exact works.repeats

/-- The step of an attempt leaves a document that is made of blocks. -/
theorem blocky (advances : g.Advances n s r answer s' g') (fits : g.Fits n s)
    (free : '\n' ∉ n.key.toList) (blocky : s.Blocky document) (works : g.Works document n s) :
    s'.Blocky document := by
  rcases advances.documents_cases with ⟨same, -⟩ | ⟨c, rfl, permitted, serves, -⟩
  · refine ⟨advances.sound fits blocky.instances, same ▸ blocky.documents, ?_⟩
    rw [Stores.content_of_documents same]
    exact blocky.blocks
  · exact Errand.blocky_of_served (fits.sound_errand free) blocky works.stage permitted serves

/-- A step of an attempt leaves the blocks of others as they are, and a block of its own too if it
is the one that its errand leaves. -/
theorem keeps (advances : g.Advances n s r answer s' g') (fits : g.Fits n s)
    (free : '\n' ∉ n.key.toList) (blocky : s.Blocky document) (works : g.Works document n s)
    {e : Errand} (own : e.key = n.key → ∀ c, g = .under c → e = c.errand) {stage : Errand.Stage}
    (settles : e.key = n.key → stage = .settled) (tie : e.StageTie document s stage) :
    e.StageTie document s' stage := by
  rcases advances.documents_cases with ⟨same, -⟩ | ⟨c, rfl, permitted, serves, -⟩
  · exact tie.of_documents same
  · have sound := fits.sound_errand free
    by_cases mine : e.key = n.key
    · obtain rfl := own mine c rfl
      obtain rfl := settles mine
      exact works.stage.again sound blocky tie permitted serves
    · have differ : c.errand.key ≠ e.key := fun same => mine (same.symm.trans fits.key_errand)
      exact works.stage.other sound blocky permitted serves differ tie

/-- The step of an attempt keeps `Ready` honest: it says so for its own instance once its errand is
settled, and it leaves the blocks of the others alone. -/
theorem honest (advances : g.Advances n s r answer s' g') (fits : g.Fits n s)
    (free : '\n' ∉ n.key.toList) (honest : s.Honest document) (works : g.Works document n s) :
    s'.Honest document := by
  refine ⟨advances.blocky fits free honest.toBlocky works, advances.allDated fits honest.dated, ?_⟩
  intro key i stored ready
  by_cases own : key = n.key
  · subst own
    rcases advances.saysReady fits honest.dated stored ready with
      ⟨j, before, wasReady, same⟩ | ⟨c, rfl, puts, settled, same, documents⟩
    · -- It was ready before, so the errand under way puts the block that stands already.
      rw [same]
      refine advances.keeps fits free honest.toBlocky works (fun _ c under => ?_) (fun _ => rfl)
        (honest.stands before wasReady)
      subst under
      obtain ⟨puts, again⟩ := works.repeats before wasReady
      rw [again, Course.errand_eq_putting puts]
    · have done : c.errand.StageTie document s .settled := settled ▸ works.stage
      rw [same, ← Course.errand_eq_putting puts]
      exact done.of_documents documents
  · rw [advances.stored_of_ne fits own] at stored
    have name : i.key = key := honest.instances.name_eq stored
    have apart : i.putting.key ≠ n.key := fun same => own (name.symm.trans same)
    exact advances.keeps fits free honest.toBlocky works (fun same => absurd same apart)
      (fun _ => rfl) (honest.stands stored ready)

/-- The attempt at another instance is where it was. -/
theorem works_other {m : InstanceName} {g₂ : Standing} (advances : g.Advances n s r answer s' g')
    (fits : g.Fits n s) (free : '\n' ∉ n.key.toList) (blocky : s.Blocky document)
    (works : g.Works document n s) (apart : m.key ≠ n.key) (fits₂ : g₂.Fits m s)
    (works₂ : g₂.Works document m s) : g₂.Works document m s' := by
  cases g₂ with
  | outset | missing => trivial
  | under c =>
    have differ : c.errand.key ≠ n.key := fun same => apart (fits₂.key_errand.symm.trans same)
    constructor
    · exact advances.keeps fits free blocky works (fun same => absurd same differ)
        (fun same => absurd same differ) works₂.stage
    · rw [advances.stored_of_ne fits apart]
      exact works₂.repeats

end Advances

end Standing

/-- Somebody else's step keeps `Ready` honest: it touches no document, and an instance that is
ready after it was so before, with the same block to put. -/
theorem Stores.EditsSpecs.honest {document : Target} {s s' : Stores} (edits : s.EditsSpecs s')
    (honest : s.Honest document) : s'.Honest document := by
  refine ⟨Hand.blocky_of_edits honest.toBlocky edits.editsInstances, edits.allDated honest.dated, ?_⟩
  intro key i stored ready
  obtain ⟨j, before, wasReady, same⟩ := edits.saysReady honest.dated stored ready
  rw [same]
  exact (honest.stands before wasReady).of_documents edits.1

/-! ## Runs -/

section Protocol

variable {κ : Type} [DecidableEq κ]

/-- The protocol of attempts whose statuses and documents nobody else writes, at one document. -/
def readinessProtocol (subject : κ → InstanceName) (document : Target)
    (distinct : ∀ j k, (subject j).key = (subject k).key → j = k)
    (free : ∀ k, '\n' ∉ (subject k).key.toList) :
    Protocol κ Standing Stores.EditsSpecs where
  start _ := .outset
  discipline k := (courseConduct .attempt (subject k)).toDiscipline
  Safe s _ := s.Honest document
  Tie k g s _ := g.Fits (subject k) s ∧ g.Works document (subject k) s
  tie_start _ := ⟨trivial, trivial⟩
  interfered := by
    intro s s' log honest edits
    refine ⟨edits.honest honest, ?_⟩
    rintro k g ⟨fits, works⟩
    exact ⟨fits.mono (Stores.EditsInstances.knows edits.editsInstances),
      works.edited honest.dated edits⟩
  answered := by
    rintro k g s s' log r answer honest ⟨fits, works⟩ permitted serves
    have advances := Standing.advances fits permitted serves
    refine ⟨advances.honest fits (free k) honest works,
      ⟨advances.fits fits honest.instances, advances.works fits (free k) honest works⟩, ?_⟩
    rintro j h other ⟨fits', works'⟩
    have apart : (subject j).key ≠ (subject k).key := fun same => other (distinct j k same)
    exact ⟨fits'.mono fun _ knows => advances.knows fits knows,
      advances.works_other fits (free k) honest.toBlocky works apart fits' works'⟩

variable {w₀ w : World κ (Result Action)}

/-- The block of an instance that says it is ready is as its errand leaves it. -/
theorem located_of_saysReady (subject : κ → InstanceName)
    (distinct : ∀ j k, (subject j).key = (subject k).key → j = k)
    (free : ∀ k, '\n' ∉ (subject k).key.toList) (idle : w₀.Idle)
    (blocky : ∀ document, w₀.stores.Blocky document)
    (new : ∀ key i, w₀.stores.instances.stored key = some i → i.IsNew)
    (run : World.Reaches
      (fun k p => p = reconcileKey (subject k).namespaceName (subject k).name)
      Stores.EditsSpecs w₀ w)
    {key : String} {i : Instance} (stored : w.stores.instances.stored key = some i)
    (ready : i.SaysReady) :
    Block.located (w.stores.content i.target).toList i.key.toList = i.putting.outcome := by
  have start : w₀.stores.Honest i.target :=
    { blocky i.target with
      dated := fun key j isStored => (new key j isStored).dated
      stands := fun isStored wasReady => absurd wasReady (new _ _ isStored).not_saysReady }
  obtain ⟨honest, -⟩ := exists_standing (P := readinessProtocol subject i.target distinct free)
    (fun _ => rfl) (fun _ => rfl)
    (fun q answer tie => ⟨tie.1.asked q answer, tie.2.asked q answer⟩) idle start run
  exact honest.stands stored ready rfl

end Protocol

/-- In every run in which only the controller writes documents and statuses, and in which every edit
of what an instance asks for gives it a greater generation, `Ready` says the truth: whenever a stored
instance that is to stay says it of its present generation, the document that it asks for has the
block of its resources, unless the text of these lacks a final newline, and then no block of its
key. -/
theorem ready_says_block_stands {κ : Type} [DecidableEq κ] (subject : κ → InstanceName)
    (distinct : ∀ j k, (subject j).key = (subject k).key → j = k)
    (free : ∀ k, '\n' ∉ (subject k).key.toList) {w₀ w : World κ (Result Action)} (idle : w₀.Idle)
    (blocky : ∀ document, w₀.stores.Blocky document)
    (new : ∀ key i, w₀.stores.instances.stored key = some i → i.IsNew)
    (run : World.Reaches
      (fun k p => p = reconcileKey (subject k).namespaceName (subject k).name)
      Stores.EditsSpecs w₀ w)
    {key : String} {i : Instance} (stored : w.stores.instances.stored key = some i)
    (ready : i.SaysReady) :
    Block.located (w.stores.content i.target).toList i.key.toList =
      if Block.closes i.fragment.toList
      then some (Block.render i.key.toList i.fragment.toList) else none :=
  (located_of_saysReady subject distinct free idle blocky new run stored ready).trans
    (Errand.outcome_putting i)

/-! ## The first attempt at an instance -/

/-- If the attempt at a new instance of a text makes it ready, there is a world in which it is. -/
theorem Cluster.exists_saysReady (text : String)
    (succeeds : (created text).succeeds {} = true)
    (ready : (((created text).attempted {}).1.instances.lookup "foo@bar").any
      (fun i => decide i.SaysReady && i.asksFor text) = true) :
    ∃ (w₀ w : World Unit (Result Action)) (i : Instance), w₀.Idle ∧
      (∀ document, w₀.stores.Blocky document) ∧
      (∀ key j, w₀.stores.instances.stored key = some j → j.IsNew) ∧
      World.Reaches (fun _ p => p = reconcileKey "bar" "foo") Stores.EditsSpecs w₀ w ∧
      w.stores.instances.stored "foo@bar" = some i ∧ i.SaysReady ∧
      i.spec.resources = [.str text] := by
  let w₀ := World.onCluster Unit (Result Action) {}
  have blocky (document : Target) : w₀.stores.Blocky document :=
    ⟨sound_instances rfl, sound_documents rfl, [], Block.holds_nil⟩
  have new (key : String) (j : Instance) (stored : w₀.stores.instances.stored key = some j) :
      j.IsNew :=
    nomatch (show none = some j from stored)
  have creates (v : String) (s : Stores)
      (writes : w₀.stores.WritesInstance v (.newborn "foo" text) s) : w₀.stores.EditsSpecs s :=
    ⟨writes.documents, .inl ⟨v, _, _, writes.fresh, writes.instances, .inl ⟨rfl, 1, rfl⟩⟩⟩
  obtain ⟨w, action, run, -, -, shows, -⟩ :=
    exists_created (fun _ p => p = reconcileKey "bar" "foo") _ succeeds rfl creates
  obtain ⟨i, look, asked⟩ := (Option.any_eq_true _ _).1 ready
  simp only [Bool.and_eq_true, decide_eq_true_eq] at asked
  refine ⟨w₀, w, i, World.idle_onCluster {}, blocky, new, run, ?_, asked.1,
    Instance.resources_of_asksFor asked.2⟩
  rw [shows.instances.stored]
  exact look

/-- After the first attempt at an instance of a plain text it says that it is ready, and its block
stands. -/
theorem ready_says_block_stands_of_a :
    ∃ (w₀ w : World Unit (Result Action)) (i : Instance), w₀.Idle ∧
      (∀ document, w₀.stores.Blocky document) ∧
      (∀ key j, w₀.stores.instances.stored key = some j → j.IsNew) ∧
      World.Reaches (fun _ p => p = reconcileKey "bar" "foo") Stores.EditsSpecs w₀ w ∧
      w.stores.instances.stored "foo@bar" = some i ∧ i.SaysReady ∧
      Block.located (w.stores.content i.target).toList i.key.toList =
        some (Block.render i.key.toList i.fragment.toList) := by
  obtain ⟨w₀, w, i, idle, blocky, new, run, stored, ready, resources⟩ :=
    Cluster.exists_saysReady "a" (by decide +kernel) (by decide +kernel)
  have closed : Block.closes i.fragment.toList = true := by
    rw [Instance.fragment, resources, Fragment.closes_str]
    decide +kernel
  have stands := ready_says_block_stands (fun _ => ⟨"bar", "foo"⟩) (fun _ _ _ => rfl) nursery_free
    idle blocky new run stored ready
  rw [if_pos closed] at stands
  exact ⟨w₀, w, i, idle, blocky, new, run, stored, ready, stands⟩

/-- A text with line breaks that ends in a line separator makes its instance ready without a block
that could be found. -/
theorem ready_without_block :
    ∃ (w₀ w : World Unit (Result Action)) (i : Instance), w₀.Idle ∧
      (∀ document, w₀.stores.Blocky document) ∧
      (∀ key j, w₀.stores.instances.stored key = some j → j.IsNew) ∧
      World.Reaches (fun _ p => p = reconcileKey "bar" "foo") Stores.EditsSpecs w₀ w ∧
      w.stores.instances.stored "foo@bar" = some i ∧ i.SaysReady ∧
      i.spec.resources = [.str "a\nb\u2028"] ∧
      Block.located (w.stores.content i.target).toList i.key.toList = none := by
  obtain ⟨w₀, w, i, idle, blocky, new, run, stored, ready, resources⟩ :=
    Cluster.exists_saysReady "a\nb\u2028" (by decide +kernel) (by decide +kernel)
  have notClosed : Block.closes i.fragment.toList = false := by
    rw [Instance.fragment, resources, Fragment.closes_str]
    decide +kernel
  have stands := located_of_saysReady (fun _ => ⟨"bar", "foo"⟩) (fun _ _ _ => rfl) nursery_free
    idle blocky new run stored ready
  rw [Errand.outcome_putting, notClosed] at stands
  exact ⟨w₀, w, i, idle, blocky, new, run, stored, ready, resources, stands⟩

end StateMetrics
