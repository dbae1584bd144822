import StateMetrics.Proofs.Block.OrderedMap
import StateMetrics.Proofs.Fragment
import StateMetrics.Proofs.Run.Conduct
import StateMetrics.Proofs.Run.World
import StateMetrics.Reconcile.Document

/-!
# Errands to a document

What an attempt has to do at its document: put a block there or take it out. An errand reads the
document, and what it read decides what it writes, if anything. `Errand.write_served` is the one
fact about the writes: one that goes through stores what the errand makes of the document as it is
stored at that moment, and changes nothing else.
-/

namespace StateMetrics

/-- The request was to write a document, and it went through. -/
def Request.wroteDocument : (r : Request) → r.Answer → Bool
  | .createDocument _, .ok _ => true
  | .updateDocument _, .ok _ => true
  | _, _ => false

/-- What is to be done at a document. -/
structure Errand where
  target : Target
  key : String
  /-- The text of the resources, or nothing if the block is to go. -/
  fragment? : Option String

namespace Instance

/-- The block of the instance is to stand in its document. -/
def putting (i : Instance) : Errand := ⟨i.target, i.key, some i.fragment⟩

/-- The block of the instance is to go from its document. -/
def removing (i : Instance) : Errand := ⟨i.target, i.key, none⟩

/-- What is to be done about the block of the instance. -/
def errand (puts : Bool) (i : Instance) : Errand := if puts then i.putting else i.removing

end Instance

/-- The config map of a target before anything is in it. -/
def ConfigMap.blank (target : Target) : ConfigMap :=
  { metadata := { name := some target.name, namespaceName? := some target.namespaceName } }

namespace Errand

/-- What a document is to become, unless it is as it should be. -/
def rewrite? (e : Errand) (content : String) : Option String :=
  match e.fragment? with
  | some fragment => (Document.upsert content e.key fragment).document?
  | none => Document.remove content e.key

/-- What the errand makes of a document. -/
def merge (e : Errand) (content : String) : String := (e.rewrite? content).getD content

/-- The errand as a change of the document's text. -/
def change (e : Errand) : Block.Change :=
  match e.fragment? with
  | some fragment => .upsert e.key.toList fragment.toList
  | none => .remove e.key.toList

/-- The document that an errand makes is the edited text. -/
theorem toList_merge (e : Errand) (content : String) :
    (e.merge content).toList = (e.change.edit content.toList).2 := by
  rw [merge, rewrite?, change]
  cases e.fragment? with
  | some fragment =>
    simp only [Document.upsert, Block.Change.edit]
    cases Block.upsert content.toList e.key.toList fragment.toList <;>
      simp [Upsert.map, Upsert.document?]
  | none =>
    simp only [Document.remove, Block.Change.edit]
    cases Block.remove content.toList e.key.toList <;> simp

/-- The errand has a key without newlines and a fragment that is tame. -/
def Sound (e : Errand) : Prop := e.change.Sound

theorem key_errand (puts : Bool) (i : Instance) : (i.errand puts).key = i.key := by
  cases puts <;> rfl

/-- No resources can be mistaken for markers. -/
theorem sound_errand {i : Instance} (free : '\n' ∉ i.key.toList) (puts : Bool) :
    (i.errand puts).Sound := by
  cases puts with
  | true =>
    refine ⟨free, ?_⟩
    rw [Instance.fragment, Fragment.encode, String.toList_ofList]
    exact Fragment.tame_encodeChars _
  | false => exact free

/-- What an errand does to the entries of a document. -/
def act (e : Errand) (entries : List Block.Entry) : List Block.Entry :=
  (e.change.act Block.Entry.isFoundBy entries).2

/-- An errand does to the document what it does to its entries. -/
theorem holds_merge {e : Errand} {entries : List Block.Entry} {content : String} (sound : e.Sound)
    (holds : Block.Holds entries content.toList) :
    Block.Holds (e.act entries) (e.merge content).toList := by
  rw [toList_merge]
  exact (holds.step sound).2.1

/-- The block that is found in the document once the errand is done: none for a fragment that runs
into its end marker. -/
def outcome (e : Errand) : Option (List Char) := e.change.outcome.map Block.Entry.text

/-- A block that is put is found afterwards exactly if its fragment closes. -/
theorem outcome_putting (i : Instance) :
    i.putting.outcome = if Block.closes i.fragment.toList
      then some (Block.render i.key.toList i.fragment.toList) else none := by
  have entry : i.putting.outcome = (if Block.closes i.fragment.toList
      then some (⟨i.key.toList, i.fragment.toList⟩ : Block.Entry) else none).map
        Block.Entry.text := rfl
  rw [entry]
  split <;> rfl

theorem outcome_removing (i : Instance) : i.removing.outcome = none := rfl

theorem key_change (e : Errand) : e.change.key = e.key.toList := by
  rw [change]
  cases e.fragment? <;> rfl

/-- After an errand the block that is found for its key is its outcome. -/
theorem located_merge {e : Errand} {entries : List Block.Entry} {content : String} (sound : e.Sound)
    (holds : Block.Holds entries content.toList) :
    Block.located (e.merge content).toList e.key.toList = e.outcome := by
  rw [(holds_merge sound holds).located, ← key_change, act, holds.find?_act, outcome]

/-- An errand leaves the blocks of other keys as they are. -/
theorem located_merge_of_ne {e : Errand} {entries : List Block.Entry} {content : String}
    (sound : e.Sound) (holds : Block.Holds entries content.toList) {key : List Char}
    (other : e.key.toList ≠ key) :
    Block.located (e.merge content).toList key = Block.located content.toList key := by
  rw [(holds_merge sound holds).located, holds.located, act,
    holds.find?_act_of_ne (key_change e ▸ other)]

/-- An errand makes of a missing document what it makes of an empty one. -/
theorem rewrite?_empty {e : Errand} {fragment : String} (puts : e.fragment? = some fragment) :
    e.rewrite? "" = some (Document.header ++ Document.renderBlock e.key fragment) := by
  have appended : Block.upsert [] e.key.toList fragment.toList =
      .appended (Block.documentOf ([] ++ [⟨e.key.toList, fragment.toList⟩])) :=
    Block.holds_nil.upsert_of_absent (by simp)
  have text : String.ofList (Block.documentOf ([] ++ [⟨e.key.toList, fragment.toList⟩])) =
      Document.header ++ Document.renderBlock e.key fragment := by
    apply String.toList_injective
    rw [String.toList_ofList, String.toList_append]
    simp [Block.documentOf, Block.Entry.text, Document.header, Document.renderBlock]
  rw [rewrite?, puts, ← text]
  simp only [Document.upsert, String.toList_empty, appended]
  rfl

/-- The document that is created for a block is the header with the block. -/
theorem merge_empty {e : Errand} {fragment : String} (puts : e.fragment? = some fragment) :
    e.merge "" = Document.header ++ Document.renderBlock e.key fragment := by
  rw [merge, rewrite?_empty puts, Option.getD_some]

/-- The block stands in the document that is created for it. -/
theorem located_fresh {i : Instance} (free : '\n' ∉ i.key.toList) :
    Block.located (Document.header ++ Document.renderBlock i.key i.fragment).toList i.key.toList =
      i.putting.outcome := by
  have created : i.putting.merge "" = Document.header ++ Document.renderBlock i.key i.fragment :=
    merge_empty rfl
  rw [← created]
  exact located_merge (sound_errand free true) Block.holds_nil

theorem rewrite?_empty_of_removes {e : Errand} (removes : e.fragment? = none) :
    e.rewrite? "" = none := by
  have absent : Block.remove [] e.key.toList = none := Block.holds_nil.remove_of_absent (by simp)
  rw [rewrite?, removes, Document.remove, String.toList_empty, absent]
  rfl

theorem merge_empty_of_removes {e : Errand} (removes : e.fragment? = none) : e.merge "" = "" := by
  rw [merge, rewrite?_empty_of_removes removes, Option.getD_none]

/-! ## Steps of an errand -/

/-- How far an errand has come. -/
inductive Stage where
  /-- The document is to be read yet. -/
  | unread
  | writing (found : Option ConfigMap)
  | settled
  | failed

/-- What is to be written after something was read, if anything. -/
def write? (e : Errand) : Option ConfigMap → Option Request
  | none => e.fragment?.map fun fragment =>
    .createDocument
      (.ofContent e.target (Document.header ++ Document.renderBlock e.key fragment))
  | some d => (e.rewrite? (d.content e.target.key)).map fun content =>
    .updateDocument (d.setContent e.target.key content)

def read (e : Errand) (found : Option ConfigMap) : Stage :=
  if (e.write? found).isSome then .writing found else .settled

/-- An errand reads its document and then writes what follows from that. -/
def discipline (e : Errand) : Discipline Stage where
  permits
    | .unread, r => r = .getDocument e.target
    | .writing found, r => e.write? found = some r
    | _, _ => False
  after
    | .unread, .getDocument _, .ok found => e.read found
    | .writing _, r, answer => if r.wroteDocument answer then .settled else .failed
    | _, _, _ => .failed

/-- An errand makes requests about config maps only. -/
theorem permits_cases {e : Errand} {stage : Stage} {r : Request}
    (permitted : e.discipline.permits stage r) :
    (∃ target, r = .getDocument target) ∨ (∃ d, r = .createDocument d) ∨
      ∃ d, r = .updateDocument d := by
  cases stage with
  | unread => exact .inl ⟨_, permitted⟩
  | writing found =>
    have write : e.write? found = some r := permitted
    cases found with
    | none =>
      obtain ⟨fragment, -, rfl⟩ := Option.map_eq_some_iff.1 write
      exact .inr (.inl ⟨_, rfl⟩)
    | some d =>
      obtain ⟨content, -, rfl⟩ := Option.map_eq_some_iff.1 write
      exact .inr (.inr ⟨_, rfl⟩)
  | settled => exact permitted.elim
  | failed => exact permitted.elim

open Program

/-- Every result that is a success leaves the document as it should be. -/
def Settles {β : Type} (stage : Stage) (result : Result β) : Prop :=
  ∀ outcome, result = .ok outcome → stage = .settled

/-- A document that is as it should be is not written. -/
theorem read_eq_settled {e : Errand} {d : ConfigMap}
    (kept : e.rewrite? (d.content e.target.key) = none) : e.read (some d) = .settled := by
  have write : e.write? (some d) = none := congrArg (Option.map _) kept
  rw [Errand.read, write]
  rfl

/-- An errand that is settled by reading has nothing to write. -/
theorem write?_eq_none_of_read {e : Errand} {found : Option ConfigMap}
    (settled : e.read found = .settled) : e.write? found = none := by
  rw [Errand.read] at settled
  split at settled
  · cases settled
  · next nothing => exact Option.not_isSome_iff_eq_none.1 nothing

theorem eq_of_read {e : Errand} {found found' : Option ConfigMap}
    (writing : e.read found = .writing found') : found = found' := by
  rw [Errand.read] at writing
  split at writing
  · exact Stage.writing.inj writing
  · cases writing

/-- An errand is about to write only right after it has read its document. -/
theorem read_of_after {e : Errand} {stage : Stage} {r : Request} {answer : r.Answer}
    {found : Option ConfigMap} (permitted : e.discipline.permits stage r)
    (writing : e.discipline.after stage r answer = .writing found) :
    (⟨r, answer⟩ : Σ r : Request, r.Answer) = ⟨.getDocument e.target, .ok found⟩ := by
  cases stage with
  | unread =>
    obtain rfl := permitted
    rcases answer with error | found'
    · cases writing
    · rw [eq_of_read writing]
  | writing before =>
    have after : (if r.wroteDocument answer then Stage.settled else .failed) = .writing found :=
      writing
    split at after <;> cases after
  | settled => exact permitted.elim
  | failed => exact permitted.elim

/-- An errand asks the controller nothing. -/
def conduct (e : Errand) : Conduct Stage where
  toDiscipline := e.discipline
  allows _ _ := False
  told stage _ _ := stage

/-- The requests of an errand are all that it does. -/
theorem obeys_of_conforms {β : Type} {e : Errand} {p : Program β} {post : Stage → β → Prop}
    {stage : Stage} (conforms : p.Conforms e.conduct post stage) :
    p.Obeys e.discipline post stage :=
  conforms.obeys id (fun _ _ permitted => permitted) (fun _ _ _ _ => rfl) (fun _ _ _ _ => rfl)
    fun _ _ ends => ends

/-- Writing back what was read and rewritten is what an errand does after reading. -/
theorem writeBack_conforms {β : Type} {e : Errand} {d : ConfigMap} {content : String}
    (rewritten : e.rewrite? (d.content e.target.key) = some content)
    {next : Result ConfigMap → Program (Result β)} {written : β}
    (failed : ∀ error, next (.error error) = pure (.error error))
    (saved : ∀ d, next (.ok d) = pure (.ok written)) :
    (Program.send (.updateDocument (d.setContent e.target.key content)) >>= next).Conforms
      e.conduct Settles (e.read (some d)) := by
  have write : e.write? (some d) = some (.updateDocument (d.setContent e.target.key content)) :=
    congrArg (Option.map _) rewritten
  have writing : e.read (some d) = .writing (some d) := by rw [Errand.read, write]; rfl
  rw [writing]
  refine ⟨write, fun answer => ?_⟩
  rcases answer with error | d
  · show Conforms _ _ (next (.error error)) _
    rw [failed]
    exact fun outcome done => nomatch done
  · show Conforms _ _ (next (.ok d)) _
    rw [saved]
    exact fun _ _ => rfl

/-- Putting the block is the errand of the instance that is to stay. -/
theorem addToDocument_conforms (i : Instance) :
    i.addToDocument.Conforms i.putting.conduct Settles .unread := by
  have sent : (Program.send (.getDocument i.target)).Conforms i.putting.conduct
      (fun stage found =>
        stage = i.putting.discipline.after .unread (.getDocument i.target) found) .unread :=
    Conforms.send rfl fun _ => rfl
  refine sent.bind ?_
  rintro stage found rfl
  rcases found with e | _ | document
  · exact fun outcome done => nomatch done
  · refine ⟨rfl, fun answer => ?_⟩
    rcases answer with e | saved
    · exact fun outcome done => nomatch done
    · exact fun _ _ => rfl
  · cases changed : (Document.upsert (document.content i.target.key) i.key i.fragment).document? with
    | none =>
      simp only [changed]
      exact fun _ _ => read_eq_settled (e := i.putting) changed
    | some content =>
      simp only [changed]
      exact writeBack_conforms (e := i.putting) changed (fun _ => rfl) fun _ => rfl

/-- Taking the block out is the errand of the instance that is to go. -/
theorem removeFromDocument_conforms (i : Instance) :
    i.removeFromDocument.Conforms i.removing.conduct Settles .unread := by
  have sent : (Program.send (.getDocument i.target)).Conforms i.removing.conduct
      (fun stage found =>
        stage = i.removing.discipline.after .unread (.getDocument i.target) found) .unread :=
    Conforms.send rfl fun _ => rfl
  refine sent.bind ?_
  rintro stage found rfl
  rcases found with e | _ | document
  · exact fun outcome done => nomatch done
  · exact fun _ _ => rfl
  · cases changed : Document.remove (document.content i.target.key) i.key with
    | none =>
      simp only [changed]
      exact fun _ _ => read_eq_settled (e := i.removing) changed
    | some content =>
      simp only [changed]
      exact writeBack_conforms (e := i.removing) changed (fun _ => rfl) fun _ => rfl

theorem addToDocument_obeys (i : Instance) :
    i.addToDocument.Obeys i.putting.discipline Settles .unread :=
  obeys_of_conforms (addToDocument_conforms i)

theorem removeFromDocument_obeys (i : Instance) :
    i.removeFromDocument.Obeys i.removing.discipline Settles .unread :=
  obeys_of_conforms (removeFromDocument_conforms i)

/-! ## Writes -/

/-- The errand knows what it read. -/
def Knows (e : Errand) (s : Stores) (found : Option ConfigMap) : Prop :=
  ∀ d, found = some d → s.documents.Knows d ∧ d.mapKey = e.target.mapKey

/-- The stores after an errand's write under a version: its document is what it made of it. -/
def Writes (e : Errand) (s : Stores) (v : String) (s' : Stores) : Prop :=
  s'.instances = s.instances ∧
    s'.documents = s.documents.write v
      (((s.documents.stored e.target.mapKey).getD (.blank e.target)).setContent e.target.key
        (e.merge (s.content e.target))) true

/-- A write that goes through stores what the errand makes of the document as it is stored then;
the document is still as it was read. -/
theorem write_served {e : Errand} {s s' : Stores} {found : Option ConfigMap} {r : Request}
    {answer : r.Answer} (write : e.write? found = some r) (knows : e.Knows s found)
    (serves : s.Serves r answer s') :
    (r.wroteDocument answer = false ∧ s' = s) ∨
      (r.wroteDocument answer = true ∧ found = s.documents.stored e.target.mapKey ∧
        ∃ v, v ∉ s.documents.spent ∧ e.Writes s v s') := by
  rcases found with _ | d
  · obtain ⟨fragment, puts, rfl⟩ := Option.map_eq_some_iff.1 write
    rcases serves with ⟨⟨error, rfl⟩, rfl⟩ | ⟨absent, ⟨v, fresh, rfl, saved⟩, instances⟩
    · exact .inl ⟨rfl, rfl⟩
    · -- Nothing was stored, so the new config map is the blank one with its content set.
      have missing : s.documents.stored e.target.mapKey = none := absent
      have empty : s.content e.target = "" := by rw [Stores.content, missing]
      refine .inr ⟨rfl, missing.symm, v, fresh, instances, ?_⟩
      rw [saved, missing, empty, merge_empty puts]
      rfl
  · obtain ⟨content, rewritten, rfl⟩ := Option.map_eq_some_iff.1 write
    rcases serves with ⟨⟨error, rfl⟩, rfl⟩ | ⟨⟨found, current⟩, ⟨v, fresh, rfl, saved⟩, instances⟩
    · exact .inl ⟨rfl, rfl⟩
    · obtain ⟨known, sameName⟩ := knows d rfl
      obtain rfl : found = d := known.eq_of_current current rfl rfl
      have stored : s.documents.stored e.target.mapKey = some found := sameName ▸ current.1
      have text : s.content e.target = found.content e.target.key := by rw [Stores.content, stored]
      refine .inr ⟨rfl, stored.symm, v, fresh, instances, ?_⟩
      rw [saved, stored, text, merge, rewritten]
      rfl

/-- A step of an errand leaves the stores alone, or it is its write. -/
theorem served {e : Errand} {s s' : Stores} {stage : Stage} {r : Request} {answer : r.Answer}
    (permitted : e.discipline.permits stage r)
    (knows : ∀ found, stage = .writing found → e.Knows s found) (serves : s.Serves r answer s') :
    (r.wroteDocument answer = false ∧ s' = s) ∨
      (r.wroteDocument answer = true ∧ stage = .writing (s.documents.stored e.target.mapKey) ∧
        ∃ v, v ∉ s.documents.spent ∧ e.Writes s v s') := by
  cases stage with
  | unread =>
    obtain rfl := permitted
    rcases serves with ⟨⟨error, rfl⟩, rfl⟩ | ⟨rfl, rfl⟩
    · exact .inl ⟨rfl, rfl⟩
    · exact .inl ⟨rfl, rfl⟩
  | writing found =>
    rcases write_served permitted (knows found rfl) serves with refused | ⟨wrote, rfl, saved⟩
    · exact .inl refused
    · exact .inr ⟨wrote, rfl, saved⟩
  | settled => exact permitted.elim
  | failed => exact permitted.elim

/-- No errand touches the instances. -/
theorem instances_of_served {e : Errand} {s s' : Stores} {stage : Stage} {r : Request}
    {answer : r.Answer} (permitted : e.discipline.permits stage r) (serves : s.Serves r answer s') :
    s'.instances = s.instances := by
  rcases permits_cases permitted with ⟨target, rfl⟩ | ⟨d, rfl⟩ | ⟨d, rfl⟩
  · rcases serves with ⟨-, rfl⟩ | ⟨-, rfl⟩ <;> rfl
  · rcases serves with ⟨-, rfl⟩ | ⟨-, -, same⟩
    · rfl
    · exact same
  · rcases serves with ⟨-, rfl⟩ | ⟨-, -, same⟩
    · rfl
    · exact same

/-- An errand that is about to write knows what it read, and it read what is stored. -/
theorem knows_of_after {e : Errand} {s s' : Stores} {stage : Stage} {r : Request}
    {answer : r.Answer} (sound : s.documents.Sound) (permitted : e.discipline.permits stage r)
    (serves : s.Serves r answer s') {found : Option ConfigMap}
    (writing : e.discipline.after stage r answer = .writing found) :
    found = s'.documents.stored e.target.mapKey ∧ e.Knows s' found := by
  cases read_of_after permitted writing
  rcases serves with ⟨⟨error, never⟩, -⟩ | ⟨stored, rfl⟩
  · cases never
  · obtain rfl := Except.ok.inj stored
    exact ⟨rfl, fun d stored => ⟨Shelf.knows_of_stored sound stored, sound.name_eq stored⟩⟩

/-- What the stage of an errand says about the stores: what was read is known, and what is to hold
once the errand is done holds then. -/
def Tied (e : Errand) (done : Stores → Prop) (s : Stores) : Stage → Prop
  | .unread => True
  | .writing found => e.Knows s found
  | .settled => done s
  | .failed => True

/-- A write by anybody leaves an errand its knowledge. -/
theorem Knows.write {e : Errand} {s s' : Stores} {found : Option ConfigMap} (knows : e.Knows s found)
    {v : String} (fresh : v ∉ s.documents.spent) {d : ConfigMap} {stays : Bool}
    (written : s'.documents = s.documents.write v d stays) : e.Knows s' found := by
  intro d' isFound
  obtain ⟨known, name⟩ := knows d' isFound
  exact ⟨written ▸ known.write fresh, name⟩

namespace Tied

variable {e e' : Errand} {done done' : Stores → Prop} {s s' : Stores} {stage stage' : Stage}
  {r : Request} {answer : r.Answer}

/-- An errand that is about to write knows what it read. -/
theorem knows (tied : e.Tied done s stage) (found : Option ConfigMap)
    (writing : stage = .writing found) : e.Knows s found := by
  subst writing
  exact tied

theorem of_documents (tied : e.Tied done s stage) (same : s'.documents = s.documents)
    (stays : done s → done s') : e.Tied done s' stage := by
  cases stage with
  | unread | failed => trivial
  | writing found => exact fun d isFound => same ▸ tied d isFound
  | settled => exact stays tied

/-- What is to hold once the errand is done may be weakened. -/
theorem imp (tied : e.Tied done s stage) (weaker : stage = .settled → done s → done' s) :
    e.Tied done' s stage := by
  cases stage with
  | unread | failed => trivial
  | writing found => exact tied
  | settled => exact weaker rfl tied

/-- Whatever becomes of the documents, the errand still knows what it has read. -/
theorem evolves {may : ConfigMap → Prop} {recorded : Prop} (tied : e.Tied (fun _ => recorded) s stage)
    (evolves : s.documents.Evolves may s'.documents) : e.Tied (fun _ => recorded) s' stage := by
  cases stage with
  | unread | failed => trivial
  | writing found =>
    intro d isFound
    obtain ⟨known, name⟩ := tied d isFound
    exact ⟨evolves.knows known, name⟩
  | settled => exact tied

/-- An errand is done when it reads that there is nothing to write, and when its write goes
through. -/
theorem served (sound : s.documents.Sound) (tied : e.Tied done s stage)
    (permitted : e.discipline.permits stage r) (serves : s.Serves r answer s')
    (read : e.read (s.documents.stored e.target.mapKey) = .settled → done s)
    (wrote : ∀ v, e.Writes s v s' → done s') :
    e.Tied done s' (e.discipline.after stage r answer) := by
  cases stage with
  | unread =>
    obtain rfl := permitted
    rcases serves with ⟨⟨error, rfl⟩, rfl⟩ | ⟨rfl, rfl⟩
    · trivial
    · show e.Tied done s' (e.read (s'.documents.stored e.target.mapKey))
      cases next : e.read (s'.documents.stored e.target.mapKey) with
      | unread | failed => trivial
      | writing found =>
        have permitted : e.discipline.permits .unread (.getDocument e.target) := rfl
        exact (knows_of_after sound permitted (Or.inr ⟨rfl, rfl⟩) next).2
      | settled => exact read next
  | writing found =>
    have after : e.discipline.after (.writing found) r answer =
        if r.wroteDocument answer then .settled else .failed := rfl
    rw [after]
    rcases write_served permitted tied serves with ⟨idle, -⟩ | ⟨through, -, v, -, writes⟩
    · rw [idle]
      trivial
    · rw [through]
      exact wrote v writes
  | settled | failed => exact permitted.elim

/-- The step of another errand, which leaves done what is done. -/
theorem other (tied : e.Tied done s stage) (permitted : e.discipline.permits stage r)
    (serves : s.Serves r answer s') (stays : ∀ v, e.Writes s v s' → done' s → done' s')
    (tied' : e'.Tied done' s stage') : e'.Tied done' s' stage' := by
  rcases Errand.served permitted tied.knows serves with ⟨-, rfl⟩ | ⟨-, -, v, fresh, writes⟩
  · exact tied'
  · cases stage' with
    | unread | failed => trivial
    | writing found => exact Knows.write tied' fresh writes.2
    | settled => exact stays v writes tied'

end Tied

/-- The config map that an errand writes is its target's. -/
theorem mapKey_written (e : Errand) {s : Stores} (sound : s.documents.Sound) :
    ((s.documents.stored e.target.mapKey).getD (.blank e.target)).mapKey = e.target.mapKey := by
  cases stored : s.documents.stored e.target.mapKey with
  | none => rfl
  | some d => exact sound.name_eq stored

/-- An errand leaves its config map under the version of the write. -/
theorem Writes.stored {e : Errand} {s s' : Stores} {v : String} (writes : e.Writes s v s')
    (sound : s.documents.Sound) :
    ∃ d, s'.documents.stored e.target.mapKey = some d ∧ Stored.version d = some v := by
  have self : s'.documents.stored
      ((s.documents.stored e.target.mapKey).getD (.blank e.target)).mapKey = some (Stored.stamp v
        (((s.documents.stored e.target.mapKey).getD (.blank e.target)).setContent e.target.key
          (e.merge (s.content e.target)))) := by
    rw [writes.2]
    exact Shelf.stored_write_self
  rw [e.mapKey_written sound] at self
  exact ⟨_, self, Stored.version_stamp v _⟩

theorem Writes.stored_of_ne {e : Errand} {s s' : Stores} {v key : String}
    (writes : e.Writes s v s') (sound : s.documents.Sound) (other : key ≠ e.target.mapKey) :
    s'.documents.stored key = s.documents.stored key := by
  rw [writes.2]
  rw [← e.mapKey_written sound] at other
  exact Shelf.stored_write_of_ne (α := ConfigMap) other

/-- An errand's write changes its document and no other. -/
theorem Writes.content {e : Errand} {s s' : Stores} {v : String} (writes : e.Writes s v s')
    (sound : s.documents.Sound) (other : Target) :
    s'.content other =
      if other.SamePlace e.target then e.merge (s.content other) else s.content other := by
  have read : ∀ other : Target, other.mapKey = e.target.mapKey → s.content other =
      ((s.documents.stored e.target.mapKey).getD (.blank e.target)).content other.key := by
    intro other same
    rw [Stores.content, same]
    cases s.documents.stored e.target.mapKey with
    | none => rfl
    | some d => rfl
  rw [Stores.content_write (e.mapKey_written sound) read writes.2]
  by_cases same : other.SamePlace e.target
  · rw [if_pos same, if_pos same, Stores.content, Stores.content, same.1, same.2]
  · rw [if_neg same, if_neg same]

end Errand

end StateMetrics
