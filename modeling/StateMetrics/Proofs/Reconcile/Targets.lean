import StateMetrics.Proofs.Block.Marks
import StateMetrics.Proofs.Reconcile.Holders

/-!
# Where blocks stand

An attempt looks at the one document that the version it read asks for, and nothing records which
documents former versions asked for. So a block may stay behind at a former target. What holds in
every run that starts without blocks: a block of an instance stands only where the last write of its
attempts put it (`block_stands_where_last_put`). The documents may hold any text besides.
-/

namespace StateMetrics

namespace Errand

variable {document : Target} {e e' : Errand} {s s' : Stores} {stage stage' : Stage} {r : Request}
  {answer : r.Answer}

/-- An errand changes the document only by putting or removing the block of its key. -/
theorem edits_merge (sound : e.Sound) (content : String) :
    e.change.Edits content.toList (e.merge content).toList := by
  rw [toList_merge]
  exact Block.Change.edits sound content.toList

theorem removes_change (removes : e.fragment? = none) : e.change.isUpsert = false := by
  rw [change, removes]
  rfl

/-- A document with one block of a key at most has no second one after the change of an errand. -/
theorem sole_merge (sound : e.Sound) {content key : String}
    (sole : Block.Sole key.toList content.toList) : Block.Sole key.toList (e.merge content).toList :=
  (edits_merge sound content).sole sound sole

/-- The only block of its key is gone after an errand that takes it out. -/
theorem located_merge_of_removes (sound : e.Sound) (removes : e.fragment? = none) {content : String}
    (sole : Block.Sole e.key.toList content.toList) :
    Block.located (e.merge content).toList e.key.toList = none := by
  rw [← key_change] at sole
  rw [Block.located_eq_none_iff, ← key_change]
  exact (edits_merge sound content).find_self_of_removes (removes_change removes) sole

/-- An errand puts no block of another key where there is none. -/
theorem located_merge_of_absent (sound : e.Sound) {content key : String} (differ : e.key ≠ key)
    (absent : Block.located content.toList key.toList = none) :
    Block.located (e.merge content).toList key.toList = none := by
  have apart : e.change.key ≠ key.toList := fun same =>
    differ (String.toList_injective ((key_change e).symm.trans same))
  rw [Block.located_eq_none_iff] at absent ⊢
  exact (edits_merge sound content).find_of_ne sound apart absent

/-- The document has no block of the key of an errand that takes it out there. -/
def Cleared (document : Target) (e : Errand) (s : Stores) : Prop :=
  e.fragment? = none → document.SamePlace e.target →
    Block.located (s.content document).toList e.key.toList = none

/-- The stage of an errand after which the document is cleared. -/
def Clears (document : Target) (e : Errand) (s : Stores) : Stage → Prop :=
  e.Tied (e.Cleared document) s

/-- Where nothing is to be taken out when the document is read, it has no block. -/
theorem located_eq_none_of_read (removes : e.fragment? = none)
    (settled : e.read (s.documents.stored e.target.mapKey) = .settled) :
    Block.located (s.content e.target).toList e.key.toList = none := by
  have idle : e.write? (s.documents.stored e.target.mapKey) = none :=
    write?_eq_none_of_read settled
  rw [Stores.content]
  cases stored : s.documents.stored e.target.mapKey with
  | none => exact Block.holds_nil.located _
  | some d =>
    rw [stored] at idle
    have kept : Document.remove (d.content e.target.key) e.key = none := by
      have rewritten := Option.map_eq_none_iff.1 idle
      rwa [rewrite?, removes] at rewritten
    have absent := Option.map_eq_none_iff.1 (Option.map_eq_none_iff.1 kept)
    exact Block.located_eq_none_iff.2 absent

theorem Clears.of_documents (clears : e.Clears document s stage)
    (same : s'.documents = s.documents) : e.Clears document s' stage := by
  refine Tied.of_documents clears same fun cleared removes here => ?_
  rw [Stores.content_of_documents same]
  exact cleared removes here

/-- The step of an errand that removes its block leaves none once the errand is settled. -/
theorem Clears.served (sound : e.Sound) (documents : s.documents.Sound)
    (sole : Block.Sole e.key.toList (s.content document).toList)
    (clears : e.Clears document s stage) (permitted : e.discipline.permits stage r)
    (serves : s.Serves r answer s') :
    e.Clears document s' (e.discipline.after stage r answer) := by
  refine Tied.served documents clears permitted serves (fun settled removes here => ?_)
    fun v writes removes here => ?_
  · rw [Stores.content_of_samePlace here]
    exact located_eq_none_of_read removes settled
  · rw [writes.content documents, if_pos here]
    exact located_merge_of_removes sound removes sole

/-- The step of an errand for another key puts nothing where there is nothing. -/
theorem Clears.other (sound : e.Sound) (documents : s.documents.Sound)
    (clears : e.Clears document s stage) (permitted : e.discipline.permits stage r)
    (serves : s.Serves r answer s') (differ : e.key ≠ e'.key)
    (clears' : e'.Clears document s stage') : e'.Clears document s' stage' := by
  refine Tied.other clears permitted serves (fun v writes cleared removes here => ?_) clears'
  have absent := cleared removes here
  rw [writes.content documents]
  split
  · exact located_merge_of_absent sound differ absent
  · exact absent

end Errand

/-! ## Traces of the writes -/

/-- The version at which an attempt has written the document last. -/
def Chronicle.lastAt (h : Chronicle) (document : Target) : Option Instance :=
  (h.written.filter fun i => document.SamePlace i.target).getLast?

/-- The document has at most one block of the instance of the name, and that only if it was put there
last. -/
structure Stores.Traces (document : Target) (n : InstanceName) (s : Stores) (h : Chronicle) :
    Prop where
  sole : Block.Sole n.key.toList (s.content document).toList
  last : Block.located (s.content document).toList n.key.toList ≠ none →
    ∃ i, h.lastAt document = some i ∧ i.isDeleting = false

namespace Chronicle

variable {document : Target} {h : Chronicle} {r : Request} {answer : r.Answer}

theorem lastAt_note_of_not_wrote (idle : r.wroteDocument answer = false) :
    (h.note r answer).lastAt document = h.lastAt document := by
  rw [lastAt, note, idle]
  rfl

/-- A write of a document counts for the target of the version that was read, and for no other. -/
theorem lastAt_note_of_wrote {i : Instance} (wrote : r.wroteDocument answer = true)
    (isRead : h.read = some i) :
    (h.note r answer).lastAt document =
      if document.SamePlace i.target then some i else h.lastAt document := by
  have written : (h.note r answer).written = h.written ++ [i] := by
    rw [note, wrote, isRead]
    rfl
  rw [lastAt, lastAt, written, List.filter_append]
  split
  · next here => simp [here]
  · next elsewhere => simp [elsewhere]

end Chronicle

namespace Stores.Traces

variable {document : Target} {n : InstanceName} {s s' : Stores} {h : Chronicle} {e : Errand}
  {stage : Errand.Stage} {r : Request} {answer : r.Answer}

/-- A document without a block of the instance fits whatever its attempts have written. -/
theorem of_located_eq_none (bare : Block.located (s.content document).toList n.key.toList = none) :
    s.Traces document n h where
  sole := Block.sole_of_find_eq_none (Block.located_eq_none_iff.1 bare)
  last found := absurd bare found

theorem of_documents (traces : s.Traces document n h) (same : s'.documents = s.documents) :
    s'.Traces document n h := by
  constructor
  · rw [Stores.content_of_documents same]
    exact traces.sole
  · rw [Stores.content_of_documents same]
    exact traces.last

theorem note (traces : s.Traces document n h) (idle : r.wroteDocument answer = false) :
    s.Traces document n (h.note r answer) where
  sole := traces.sole
  last found := by
    rw [Chronicle.lastAt_note_of_not_wrote idle]
    exact traces.last found

/-- A step of the errand of an attempt that has read its instance. -/
theorem served {found : Instance} (traces : s.Traces document n h) (sound : e.Sound)
    (documents : s.documents.Sound) (key : e.key = n.key) (target : e.target = found.target)
    (puts : e.fragment? ≠ none → found.isDeleting = false) (isRead : h.read = some found)
    (clears : e.Clears document s stage) (permitted : e.discipline.permits stage r)
    (serves : s.Serves r answer s') : s'.Traces document n (h.note r answer) := by
  rcases Errand.served permitted (Errand.Tied.knows clears) serves with
    ⟨idle, rfl⟩ | ⟨wrote, -, v, -, writes⟩
  · exact traces.note idle
  · have content := writes.content documents document
    have last : (h.note r answer).lastAt document =
        if document.SamePlace found.target then some found else h.lastAt document :=
      Chronicle.lastAt_note_of_wrote wrote isRead
    rw [← target] at last
    by_cases here : document.SamePlace e.target
    · rw [if_pos here] at content last
      constructor
      · rw [content]
        exact Errand.sole_merge sound traces.sole
      · intro stands
        refine ⟨found, last, puts fun removes => stands ?_⟩
        rw [content, ← key]
        exact Errand.located_merge_of_removes sound removes (key ▸ traces.sole)
    · rw [if_neg here] at content last
      constructor
      · rw [content]
        exact traces.sole
      · rw [content, last]
        exact traces.last

/-- A step of an errand for the instance of another name. -/
theorem other (traces : s.Traces document n h) (sound : e.Sound) (documents : s.documents.Sound)
    (differ : e.key ≠ n.key) (clears : e.Clears document s stage)
    (permitted : e.discipline.permits stage r) (serves : s.Serves r answer s') :
    s'.Traces document n h := by
  rcases Errand.served permitted (Errand.Tied.knows clears) serves with
    ⟨-, rfl⟩ | ⟨-, -, v, -, writes⟩
  · exact traces
  · have content := writes.content documents document
    split at content
    · constructor
      · rw [content]
        exact Errand.sole_merge sound traces.sole
      · refine fun stands => traces.last fun absent => stands ?_
        rw [content]
        exact Errand.located_merge_of_absent sound differ absent
    · constructor
      · rw [content]
        exact traces.sole
      · rw [content]
        exact traces.last

end Stores.Traces

/-! ## Runs -/

/-- The document has no block of an instance whose attempt has cleaned up. -/
def Standing.Clears (document : Target) (s : Stores) : Standing → Prop
  | under c => c.errand.Clears document s c.stage
  | _ => True

namespace Course

variable {n : InstanceName} {s : Stores} {c : Course}

/-- A block is put for a version that is to stay. -/
theorem not_isDeleting_of_puts (puts : c.errand.fragment? ≠ none) : c.found.isDeleting = false := by
  rw [Bool.eq_false_iff]
  intro goes
  have removes : c.puts = false := by
    rw [Course.puts, c.found.phase_eq_deleting_iff.2 goes]
    rfl
  rw [errand, removes] at puts
  exact puts rfl

theorem removes_of_isDeleting (goes : c.found.isDeleting = true) : c.errand.fragment? = none := by
  by_contra puts
  rw [not_isDeleting_of_puts puts] at goes
  cases goes

end Course

namespace Standing

variable {document : Target} {n : InstanceName} {s s' : Stores} {g g' : Standing} {r : Request}
  {answer : r.Answer}

theorem Clears.of_documents (clears : g.Clears document s) (same : s'.documents = s.documents) :
    g.Clears document s' := by
  cases g with
  | outset | missing => trivial
  | under c => exact Errand.Clears.of_documents clears same

theorem Clears.asked {extent : Extent} (clears : g.Clears document s) (q : Question)
    (answer : q.Answer) : ((courseConduct extent n).told g q answer).Clears document s := by
  rcases told_cases extent n g q answer with same | ⟨c, rfl, written, counted⟩
  · rw [same]
    exact clears
  · rw [counted]
    exact clears

namespace Advances

/-- The step of an attempt keeps what its own cleaning up has reached, for a document with one block
of the instance at most. -/
theorem clears (advances : g.Advances n s r answer s' g') (fits : g.Fits n s)
    (free : '\n' ∉ n.key.toList) (documents : s.documents.Sound) {h : Chronicle}
    (traces : s.Traces document n h) (clears : g.Clears document s) : g'.Clears document s' := by
  cases advances with
  | idle unread unwritten stands =>
    rcases stands with rfl | rfl
    · exact clears
    · trivial
  | read isRead unwritten =>
    cases s.instances.stored n.key with
    | none => trivial
    | some i => trivial
  | @reported c given status v s' untouched stored reports may writes =>
    have clears := Errand.Clears.of_documents clears writes.documents
    rwa [← Course.errand_rewritten ⟨rfl, rfl, rfl, rfl, rfl⟩] at clears
  | @marked c given labels v s' untouched stored settled marks writes =>
    have clears := Errand.Clears.of_documents clears writes.documents
    rwa [← Course.errand_rewritten ⟨rfl, rfl, rfl, rfl, rfl⟩] at clears
  | @errand c r answer s' permitted serves instances unread =>
    have sole := traces.sole
    rw [← fits.key_errand] at sole
    exact Errand.Clears.served (fits.sound_errand free) documents sole clears permitted serves

/-- What an attempt has cleaned up stays so while the attempt for another instance takes a step: its
errand has another key, so it puts no block of this one back. -/
theorem clears_other {m : InstanceName} {g₂ : Standing} (advances : g.Advances n s r answer s' g')
    (fits : g.Fits n s) (free : '\n' ∉ n.key.toList) (documents : s.documents.Sound)
    (clears : g.Clears document s) (apart : m.key ≠ n.key) (fits₂ : g₂.Fits m s)
    (clears₂ : g₂.Clears document s) : g₂.Clears document s' := by
  rcases advances.documents_cases with ⟨same, -⟩ | ⟨c, rfl, permitted, serves, -⟩
  · exact clears₂.of_documents same
  · cases g₂ with
    | outset | missing => trivial
    | under c₂ =>
      have differ : c.errand.key ≠ c₂.errand.key := fun same =>
        apart (fits₂.key_errand.symm.trans (same.symm.trans fits.key_errand))
      exact Errand.Clears.other (fits.sound_errand free) documents clears permitted serves differ
        clears₂

/-- The step of an attempt leaves its trace. -/
theorem traces {h : Chronicle} (advances : g.Advances n s r answer s' g') (fits : g.Fits n s)
    (free : '\n' ∉ n.key.toList) (documents : s.documents.Sound) (told : g.Told h)
    (traces : s.Traces document n h) (clears : g.Clears document s) :
    s'.Traces document n (h.note r answer) := by
  rcases advances.documents_cases with ⟨same, idle⟩ | ⟨c, rfl, permitted, serves, -⟩
  · exact (traces.note idle).of_documents same
  · exact traces.served (fits.sound_errand free) documents fits.key_errand fits.target_errand
      Course.not_isDeleting_of_puts told clears permitted serves

/-- A step of the attempt for another instance keeps the traces of this one: it puts no block of
this one where there is none, and what the attempt for this one wrote last is as before. -/
theorem traces_other {m : InstanceName} {h : Chronicle} (advances : g.Advances n s r answer s' g')
    (fits : g.Fits n s) (free : '\n' ∉ n.key.toList) (documents : s.documents.Sound)
    (clears : g.Clears document s) (apart : m.key ≠ n.key) (traces : s.Traces document m h) :
    s'.Traces document m h := by
  rcases advances.documents_cases with ⟨same, -⟩ | ⟨c, rfl, permitted, serves, -⟩
  · exact traces.of_documents same
  · have differ : c.errand.key ≠ m.key := fun same =>
      apart (same.symm.trans fits.key_errand)
    exact traces.other (fits.sound_errand free) documents differ clears permitted serves

/-- The step of an attempt writes under the place it has read, so the documents stay sound. -/
theorem sound_documents (advances : g.Advances n s r answer s' g')
    (documents : s.documents.Sound) (clears : g.Clears document s) : s'.documents.Sound := by
  rcases advances.documents_cases with ⟨same, -⟩ | ⟨c, rfl, permitted, serves, -⟩
  · exact same ▸ documents
  · rcases Errand.served permitted (Errand.Tied.knows clears) serves with
      ⟨-, rfl⟩ | ⟨-, -, v, -, writes⟩
    · exact documents
    · exact writes.2 ▸ documents.write

end Advances

end Standing

/-- The stores keep their versions, and every block at the document was put there last. -/
structure Stores.Traced {κ : Type} [DecidableEq κ] (subject : κ → InstanceName)
    (document : Target) (s : Stores) (log : List (Occurrence κ)) : Prop where
  instances : s.instances.Sound
  documents : s.documents.Sound
  traces (k : κ) : s.Traces document (subject k) (chronicle k log)

section Protocol

variable {κ : Type} [DecidableEq κ]

/-- The protocol of attempts at documents that nobody else writes, at one of them. -/
def targetsProtocol (subject : κ → InstanceName) (document : Target)
    (distinct : ∀ j k, (subject j).key = (subject k).key → j = k)
    (free : ∀ k, '\n' ∉ (subject k).key.toList) :
    Protocol κ Standing Stores.EditsInstances where
  start _ := .outset
  discipline k := (courseConduct .attempt (subject k)).toDiscipline
  Safe s log := s.Traced subject document log
  Tie k g s log := g.Known (subject k) s (chronicle k log) ∧ g.Clears document s
  tie_start _ := ⟨.outset, trivial⟩
  interfered := by
    intro s s' log traced edits
    have documents : s'.documents = s.documents := edits.1
    refine ⟨⟨Stores.EditsInstances.sound edits traced.instances, documents ▸ traced.documents,
      fun k => (traced.traces k).of_documents documents⟩, ?_⟩
    rintro k g ⟨known, clears⟩
    exact ⟨⟨known.fits.mono (Stores.EditsInstances.knows edits), known.told⟩,
      clears.of_documents documents⟩
  answered := by
    rintro k g s s' log r answer traced ⟨known, clears⟩ permitted serves
    have advances := Standing.advances known.fits permitted serves
    have fits := known.fits
    refine ⟨⟨advances.sound fits traced.instances,
      advances.sound_documents traced.documents clears, fun j => ?_⟩,
      ⟨known.advances traced.instances advances,
        advances.clears fits (free k) traced.documents (traced.traces k) clears⟩, ?_⟩
    · by_cases own : j = k
      · subst own
        rw [chronicle_concat_self]
        exact advances.traces fits (free j) traced.documents known.told (traced.traces j) clears
      · rw [chronicle_concat_of_ne own]
        exact advances.traces_other fits (free k) traced.documents clears
          (fun same => own (distinct j k same)) (traced.traces j)
    · rintro j h other ⟨known', clears'⟩
      have apart : (subject j).key ≠ (subject k).key := fun same => other (distinct j k same)
      exact ⟨known'.other other fits advances,
        advances.clears_other fits (free k) traced.documents clears apart known'.fits clears'⟩

end Protocol

/-- A block of an instance stands only where the last write of its attempts put it, for a version
that was to stay; and when an attempt has cleaned up, the document of the version that it read has
none. So once an attempt has succeeded there is no block but at the target of the version that it
read and, for such a version, at former targets; and no block anywhere else, or no block at all for a
version that was to go, if all documents written are the one of that version. -/
theorem block_stands_where_last_put {κ : Type} [DecidableEq κ] (subject : κ → InstanceName)
    (distinct : ∀ j k, (subject j).key = (subject k).key → j = k)
    (free : ∀ k, '\n' ∉ (subject k).key.toList) {w₀ w : World κ (Result Action)} (idle : w₀.Idle)
    (instances : w₀.stores.instances.Sound) (documents : w₀.stores.documents.Sound)
    (bare : ∀ k document,
      Block.located (w₀.stores.content document).toList (subject k).key.toList = none)
    (run : World.Reaches
      (fun k p => p = reconcileKey (subject k).namespaceName (subject k).name)
      Stores.EditsInstances w₀ w) (k : κ) :
    (∀ document, Block.located (w.stores.content document).toList (subject k).key.toList ≠ none →
      ∃ i, (chronicle k w.log).lastAt document = some i ∧ i.isDeleting = false) ∧
    ∀ action found, w.running k = some (.done (.ok action)) →
      (chronicle k w.log).read = some found →
      (found.isDeleting = true →
        Block.located (w.stores.content found.target).toList (subject k).key.toList = none) ∧
      ((∀ i ∈ (chronicle k w.log).written, i.target.SamePlace found.target) →
        ∀ document, ¬ document.SamePlace found.target ∨ found.isDeleting = true →
          Block.located (w.stores.content document).toList (subject k).key.toList = none) := by
  have start (document : Target) : w₀.stores.Traced subject document [] :=
    ⟨instances, documents, fun j => .of_located_eq_none (bare j document)⟩
  have standing (document : Target) :=
    exists_standing (P := targetsProtocol subject document distinct free)
      (fun _ => rfl) (fun _ => rfl)
      (fun q answer tie => ⟨tie.1.asked q answer, tie.2.asked q answer⟩) idle (start document) run
  have last (document : Target) := ((standing document).1.traces k).last
  refine ⟨last, fun action found succeeded isRead => ?_⟩
  have cleaned (goes : found.isDeleting = true) :
      Block.located (w.stores.content found.target).toList (subject k).key.toList = none := by
    obtain ⟨g, ⟨known, clears⟩, -, done⟩ := (standing found.target).2 succeeded
    cases g with
    | outset => exact (done action rfl).elim
    | missing => cases isRead.symm.trans known.told
    | under c =>
      obtain rfl : found = c.found := Option.some.inj (isRead.symm.trans known.told)
      have settled : c.stage = .settled := (done action rfl).stage
      have clears : c.errand.Clears c.found.target w.stores c.stage := clears
      rw [settled] at clears
      have here : c.found.target.SamePlace c.errand.target := by
        rw [known.fits.target_errand]
        exact ⟨rfl, rfl⟩
      rw [← known.fits.key_errand]
      exact clears (Course.removes_of_isDeleting goes) here
  refine ⟨cleaned, fun single document elsewhere => ?_⟩
  -- A block would stand where it was put last, and all writes were made at the one target.
  by_contra stands
  obtain ⟨i, isLast, -⟩ := last document stands
  obtain ⟨written, here⟩ := List.mem_filter.1 (List.mem_of_getLast? isLast)
  have there := single i written
  have same : document.SamePlace found.target :=
    ⟨(of_decide_eq_true here).1.trans there.1, (of_decide_eq_true here).2.trans there.2⟩
  rcases elsewhere with apart | goes
  · exact apart same
  · rw [Stores.content_of_samePlace same] at stands
    exact stands (cleaned goes)

/-! ## An instance whose target moves -/

theorem Stores.CreatesOrEdits.editsInstances {s s' : Stores} (edits : s.CreatesOrEdits s') :
    s.EditsInstances s' := by
  obtain ⟨same, v, i, fresh, written, -⟩ := edits
  exact ⟨same, .inl ⟨v, i, _, fresh, written⟩⟩

/-- The instance with another config map to write to. -/
def Instance.retargeted (i : Instance) : Instance :=
  { i with
    spec := { i.spec with target.name := "other" }
    metadata.generation := some 2 }

namespace Cluster

/-- A new instance was reconciled once. -/
def reconciled : Cluster × ControllerState := (created "a").attempted {}

/-- Then somebody gave it another target. -/
def retargeted : Cluster :=
  (reconciled.1.saveInstance ((reconciled.1.instances.lookup "foo@bar").getD default).retargeted).2

theorem name_newborn : (Instance.newborn "foo" "a").key = "foo@bar" := by decide +kernel

theorem closes_newborn : Block.closes (Instance.newborn "foo" "a").fragment.toList = true := by
  refine (Fragment.closes_str "a").trans ?_
  decide +kernel

section Runs

variable {others : Stores → Stores → Prop}

/-- There is a run in which an instance is created and reconciled, whatever others may do besides,
as long as they may create and edit instances. -/
theorem exists_reconciled (may : ∀ s s' : Stores, s.CreatesOrEdits s' → others s s') :
    ∃ (w : World Unit (Result Action)) (action : Action),
      World.Reaches (fun _ p => p = reconcileKey "bar" "foo") others
        (World.onCluster Unit (Result Action) {}) w ∧
      w.running () = some (.done (.ok action)) ∧
      chronicle () w.log = (created "a").recounts {} {} ∧
      reconciled.1.Shows w.stores ∧ w.own = reconciled.2 := by
  have succeeds : (created "a").succeeds {} = true := by decide +kernel
  exact exists_created _ others succeeds rfl
    fun _ _ writes => may _ _ (writes.createsOrEdits (.inl ⟨rfl, rfl, rfl⟩))

/-- There is a run in which the same instance is edited to name another document and is reconciled
again. -/
theorem exists_retargeted (may : ∀ s s' : Stores, s.CreatesOrEdits s' → others s s') :
    ∃ (w : World Unit (Result Action)) (action : Action),
      World.Reaches (fun _ p => p = reconcileKey "bar" "foo") others
        (World.onCluster Unit (Result Action) {}) w ∧
      w.running () = some (.done (.ok action)) ∧
      chronicle () w.log = retargeted.recounts reconciled.2 ((created "a").recounts {} {}) ∧
      (retargeted.attempted reconciled.2).1.Shows w.stores := by
  have succeeds : retargeted.succeeds reconciled.2 = true := by decide +kernel
  have known : (reconciled.1.instances.lookup "foo@bar").any
      (fun i => decide (i.key = "foo@bar") && decide (i.metadata.generation = some 1)) = true := by
    decide +kernel
  obtain ⟨i, look, asked⟩ := (Option.any_eq_true _ _).1 known
  simp only [Bool.and_eq_true, decide_eq_true_eq] at asked
  obtain ⟨name, generation⟩ := asked
  obtain ⟨w₁, action, run, ended, log, shows, own⟩ := exists_reconciled may
  have run := run.tail (.ended () _ ended)
  have atRest : (w₁.proceed () none).running () = none := World.proceed_running_self ..
  -- The instance was reconciled; now its target is edited.
  obtain ⟨s, v, writes, shows'⟩ := Shows.exists_saved shows i.retargeted
  have stored : w₁.stores.instances.stored i.retargeted.key = some i := by
    have sameKey : i.retargeted.key = "foo@bar" := name
    rw [sameKey, shows.instances.stored]
    exact look
  have edits : w₁.stores.CreatesOrEdits s :=
    writes.createsOrEdits (.inr ⟨i, _, 1, stored, generation, rfl⟩)
  have run := run.tail (.interfered s (may _ _ edits))
  have moved : retargeted.Shows s := by
    rw [retargeted, look]
    exact shows'
  obtain ⟨w, action, run, ended, log', shows, -⟩ :=
    exists_success succeeds rfl run atRest moved own
  refine ⟨w, action, run, ended, log'.trans ?_, shows⟩
  rw [← log]
  rfl

end Runs

end Cluster

/-- After the first attempt at an instance its block stands at its target, where it was put last, and
nowhere else. -/
theorem block_stands_where_last_put_of_a :
    ∃ (w₀ w : World Unit (Result Action)) (action : Action) (found i : Instance), w₀.Idle ∧
      w₀.stores.instances.Sound ∧ w₀.stores.documents.Sound ∧
      (∀ document key, Block.located (w₀.stores.content document).toList key = none) ∧
      World.Reaches (fun _ p => p = reconcileKey "bar" "foo") Stores.EditsInstances w₀ w ∧
      w.running () = some (.done (.ok action)) ∧ (chronicle () w.log).read = some found ∧
      (∀ j ∈ (chronicle () w.log).written, j.target.SamePlace found.target) ∧
      Block.located (w.stores.content nurseryTarget).toList "foo@bar".toList ≠ none ∧
      (chronicle () w.log).lastAt nurseryTarget = some i ∧ i.isDeleting = false ∧
      ∀ document, ¬ document.SamePlace found.target →
        Block.located (w.stores.content document).toList "foo@bar".toList = none := by
  have told : ((Cluster.created "a").recounts {} {}).read.any (fun i =>
      ((Cluster.created "a").recounts {} {}).written.all
        fun j => decide (j.target.SamePlace i.target)) = true := by decide +kernel
  have document : (Cluster.reconciled.1.documents.lookup nurseryTarget.mapKey).map
      (·.content nurseryTarget.key) = some (Document.header ++
        Document.renderBlock "foo@bar" (Instance.newborn "foo" "a").fragment) := rfl
  have may (s s' : Stores) (edits : s.CreatesOrEdits s') : s.EditsInstances s' :=
    edits.editsInstances
  obtain ⟨w, action, run, succeeded, log, shows, -⟩ := Cluster.exists_reconciled may
  obtain ⟨found, isRead, single⟩ := (Option.any_eq_true _ _).1 told
  rw [← log] at isRead single
  have single : ∀ j ∈ (chronicle () w.log).written, j.target.SamePlace found.target := by
    simpa using single
  have idle := World.idle_onCluster (κ := Unit) (α := Result Action) {}
  have instances := Cluster.sound_instances (c := {}) rfl
  have documents := Cluster.sound_documents (c := {}) rfl
  have bare (document : Target) (key : List Char) : Block.located
      ((World.onCluster Unit (Result Action) {}).stores.content document).toList key = none :=
    Block.holds_nil.located key
  have stands : Block.located (w.stores.content nurseryTarget).toList "foo@bar".toList ≠ none := by
    rw [shows.located_fresh Cluster.name_newborn (nursery_free ()) Cluster.closes_newborn document]
    exact Option.some_ne_none _
  obtain ⟨last, ends⟩ := block_stands_where_last_put (fun _ : Unit => ⟨"bar", "foo"⟩)
    (fun _ _ _ => rfl) nursery_free idle instances documents (fun _ document => bare document _) run
    ()
  obtain ⟨i, isLast, stays⟩ := last nurseryTarget stands
  obtain ⟨-, nowhere⟩ := ends action found succeeded isRead
  exact ⟨_, w, action, found, i, idle, instances, documents, bare, run, succeeded, isRead, single,
    stands, isLast, stays, fun document apart => nowhere single document (.inl apart)⟩

/-- After an edit of its target the instance is reconciled again, and its block still stands at the
former one. -/
theorem block_at_former_target :
    ∃ (w₀ w : World Unit (Result Action)) (action : Action) (found : Instance), w₀.Idle ∧
      w₀.stores.instances.Sound ∧ w₀.stores.documents.Sound ∧
      (∀ document key, Block.located (w₀.stores.content document).toList key = none) ∧
      World.Reaches (fun _ p => p = reconcileKey "bar" "foo") Stores.CreatesOrEdits w₀ w ∧
      w.running () = some (.done (.ok action)) ∧ (chronicle () w.log).read = some found ∧
      ¬ nurseryTarget.SamePlace found.target ∧
      Block.located (w.stores.content nurseryTarget).toList "foo@bar".toList =
        some (Block.render "foo@bar".toList (Instance.newborn "foo" "a").fragment.toList) := by
  have told : (Cluster.retargeted.recounts Cluster.reconciled.2
      ((Cluster.created "a").recounts {} {})).read.any
        (fun i => !decide (nurseryTarget.SamePlace i.target)) = true := by decide +kernel
  have document : ((Cluster.retargeted.attempted Cluster.reconciled.2).1.documents.lookup
      nurseryTarget.mapKey).map (·.content nurseryTarget.key) = some (Document.header ++
        Document.renderBlock "foo@bar" (Instance.newborn "foo" "a").fragment) := rfl
  obtain ⟨w, action, run, succeeded, log, shows⟩ :=
    Cluster.exists_retargeted fun _ _ edits => edits
  obtain ⟨found, isRead, elsewhere⟩ := (Option.any_eq_true _ _).1 told
  rw [← log] at isRead
  exact ⟨_, w, action, found, World.idle_onCluster {}, Cluster.sound_instances rfl,
    Cluster.sound_documents rfl, fun _ key => Block.holds_nil.located key, run, succeeded, isRead,
    by simpa using elsewhere,
    shows.located_fresh Cluster.name_newborn (nursery_free ()) Cluster.closes_newborn document⟩

end StateMetrics
