import Mathlib.Data.List.DropRight
import StateMetrics.Proofs.Reconcile.Errand
import StateMetrics.Proofs.Run.Execution

/-!
# Writes of many attempts to shared documents

Any number of attempts put blocks into documents and take them out, each by a read and a write with
steps of all others in between. Their writes still take effect one after another: each makes of the
document what its attempt would make of it if nobody else was there. The note of an attempt is the
stage of its errand; what ties it to the stores is that a document which is no longer what the
attempt read has another version, so that the write is refused.
-/

namespace StateMetrics

/-- What an attempt is to do about the document of an instance. -/
inductive DocumentTask where
  | add (i : Instance)
  | remove (i : Instance)

namespace DocumentTask

/-- The instance whose block it is. -/
def about : DocumentTask → Instance
  | add i => i
  | remove i => i

def errand : DocumentTask → Errand
  | add i => i.errand true
  | remove i => i.errand false

/-- What the attempt runs. -/
def program : DocumentTask → Program Unit
  | add i => do
    let _ ← i.addToDocument
    pure ()
  | remove i => do
    let _ ← i.removeFromDocument
    pure ()

/-- The program of a task keeps to the discipline of its errand. -/
theorem program_obeys (task : DocumentTask) :
    task.program.Obeys task.errand.discipline (fun _ _ => True) .unread := by
  cases task with
  | add i => exact (Errand.addToDocument_obeys i).bind fun _ _ _ => trivial
  | remove i => exact (Errand.removeFromDocument_obeys i).bind fun _ _ _ => trivial

theorem sound_errand {task : DocumentTask} (free : '\n' ∉ task.about.key.toList) :
    task.errand.Sound := by
  cases task with
  | add i => exact Errand.sound_errand free true
  | remove i => exact Errand.sound_errand free false

end DocumentTask

namespace Occurrence

variable {κ : Type}

/-- The request was a write of a document that went through. -/
def wroteDocument (o : Occurrence κ) : Bool := o.request.wroteDocument o.answer

end Occurrence

section Writes

variable {κ : Type} [DecidableEq κ] (tasks : κ → DocumentTask)

/-- The errands whose writes of the document of a target went through, in order. -/
def errandsDone (log : List (Occurrence κ)) (target : Target) : List Errand :=
  ((log.filter Occurrence.wroteDocument).map fun o => (tasks o.attempt).errand).filter fun e =>
    target.SamePlace e.target

/-- Since the last request of an attempt was answered, somebody else's write of its config map went
through. -/
def OverwrittenSince (a : κ) (log : List (Occurrence κ)) : Prop :=
  ∃ o ∈ log.rtakeWhile (fun o => decide (o.attempt ≠ a)), o.wroteDocument = true ∧
    (tasks o.attempt).errand.target.mapKey = (tasks a).errand.target.mapKey

variable {tasks} {a b : κ} {log : List (Occurrence κ)} {r : Request} {answer : r.Answer}

omit [DecidableEq κ] in
theorem errandsDone_of_not_wrote (idle : r.wroteDocument answer = false) (target : Target) :
    errandsDone tasks (log ++ [⟨a, r, answer⟩]) target = errandsDone tasks log target := by
  have idle' : (⟨a, r, answer⟩ : Occurrence κ).wroteDocument = false := idle
  simp [errandsDone, List.filter_append, idle']

omit [DecidableEq κ] in
/-- A write of a document adds the errand of its task to those done there. -/
theorem errandsDone_of_wrote (wrote : r.wroteDocument answer = true) (target : Target) :
    errandsDone tasks (log ++ [⟨a, r, answer⟩]) target =
      errandsDone tasks log target ++
        if target.SamePlace (tasks a).errand.target then [(tasks a).errand] else [] := by
  have wrote' : (⟨a, r, answer⟩ : Occurrence κ).wroteDocument = true := wrote
  by_cases same : target.SamePlace (tasks a).errand.target
  · simp [errandsDone, List.filter_append, wrote', same]
  · simp [errandsDone, List.filter_append, wrote', same]

/-- Who has just had an answer has not been overwritten since. -/
theorem not_overwrittenSince_self : ¬ OverwrittenSince tasks a (log ++ [⟨a, r, answer⟩]) := by
  rintro ⟨o, mem, -⟩
  rw [List.rtakeWhile_concat_neg _ _ _ (by simp)] at mem
  cases mem

/-- Who is overwritten after the answer to another task was so before, or that answer was a write of
the same config map. -/
theorem overwrittenSince_concat (other : a ≠ b)
    (since : OverwrittenSince tasks b (log ++ [⟨a, r, answer⟩])) :
    OverwrittenSince tasks b log ∨ r.wroteDocument answer = true ∧
      (tasks a).errand.target.mapKey = (tasks b).errand.target.mapKey := by
  obtain ⟨o, mem, wrote, same⟩ := since
  rw [List.rtakeWhile_concat_pos _ _ _ (by simpa using other), List.mem_append,
    List.mem_singleton] at mem
  rcases mem with before | rfl
  · exact .inl ⟨o, before, wrote, same⟩
  · exact .inr ⟨wrote, same⟩

end Writes

/-! ## The protocol -/

section Protocol

variable {κ : Type} [DecidableEq κ] (tasks : κ → DocumentTask)

/-- What an attempt that is about to write can tell: it knows what it read, and if its config map was
written since, what it read is no longer stored. -/
def ReadTie (a : κ) (stage : Errand.Stage) (s : Stores) (log : List (Occurrence κ)) : Prop :=
  ∀ found, stage = .writing found → (tasks a).errand.Knows s found ∧
    (OverwrittenSince tasks a log → found ≠ s.documents.stored (tasks a).errand.target.mapKey)

/-- Every document is what the errands done so far made of it, one after another. -/
structure InTurn (initial : Target → String) (s : Stores) (log : List (Occurrence κ)) : Prop where
  sound : s.documents.Sound
  content target : s.content target =
    (errandsDone tasks log target).foldl (fun content e => e.merge content) (initial target)

variable {tasks} {a b : κ} {s s' : Stores} {log : List (Occurrence κ)} {stage : Errand.Stage}
  {r : Request} {answer : r.Answer} {initial : Target → String}

/-- A step of an attempt at its errand: nothing is stored, or its write goes through, and then
nobody's came before it since it read. -/
theorem ReadTie.served (tie : ReadTie tasks a stage s log)
    (permitted : (tasks a).errand.discipline.permits stage r) (serves : s.Serves r answer s') :
    (r.wroteDocument answer = false ∧ s' = s) ∨
      (r.wroteDocument answer = true ∧ ¬ OverwrittenSince tasks a log ∧
        ∃ v, v ∉ s.documents.spent ∧ (tasks a).errand.Writes s v s') := by
  rcases Errand.served permitted (fun found writing => (tie found writing).1) serves with
    idle | ⟨wrote, writing, saved⟩
  · exact .inl idle
  · exact .inr ⟨wrote, fun since => (tie _ writing).2 since rfl, saved⟩

/-- One more answer keeps the writes in turn: a write is accepted only if nobody wrote the document
since the task read it, so it merges into what is stored. -/
theorem InTurn.answered (turn : InTurn tasks initial s log) (tie : ReadTie tasks a stage s log)
    (permitted : (tasks a).errand.discipline.permits stage r) (serves : s.Serves r answer s') :
    InTurn tasks initial s' (log ++ [⟨a, r, answer⟩]) := by
  rcases tie.served permitted serves with ⟨idle, rfl⟩ | ⟨wrote, -, v, fresh, writes⟩
  · refine ⟨turn.sound, fun target => ?_⟩
    rw [errandsDone_of_not_wrote idle]
    exact turn.content target
  · refine ⟨writes.2 ▸ turn.sound.write, fun target => ?_⟩
    rw [errandsDone_of_wrote wrote, List.foldl_append, ← turn.content target,
      writes.content turn.sound]
    split <;> rfl

/-- The tie of another attempt outlasts a step. -/
theorem ReadTie.other (sound : s.documents.Sound) (other : b ≠ a) {stage' : Errand.Stage}
    (tie' : ReadTie tasks b stage' s log) (tie : ReadTie tasks a stage s log)
    (permitted : (tasks a).errand.discipline.permits stage r) (serves : s.Serves r answer s') :
    ReadTie tasks b stage' s' (log ++ [⟨a, r, answer⟩]) := by
  intro found writing
  obtain ⟨knows, stale⟩ := tie' found writing
  rcases tie.served permitted serves with ⟨idle, rfl⟩ | ⟨wrote, -, v, fresh, writes⟩
  · refine ⟨knows, fun since => ?_⟩
    rcases overwrittenSince_concat other.symm since with before | ⟨wrote, -⟩
    · exact stale before
    · rw [idle] at wrote
      cases wrote
  · refine ⟨knows.write fresh writes.2, fun since isFound => ?_⟩
    by_cases same : (tasks a).errand.target.mapKey = (tasks b).errand.target.mapKey
    · -- The config map now carries a version that was not given yet when the attempt read it.
      obtain ⟨d, stored, version⟩ := writes.stored sound
      obtain ⟨⟨u, spent, sameVersion⟩, -⟩ := (knows d (by rw [isFound, ← same, stored])).1
      rw [version] at sameVersion
      cases sameVersion
      exact fresh spent
    · rcases overwrittenSince_concat other.symm since with before | ⟨-, same'⟩
      · rw [writes.stored_of_ne sound fun h => same h.symm] at isFound
        exact stale before isFound
      · exact same same'

/-- An attempt that has just read its document knows it, and nobody has overwritten it since. -/
theorem ReadTie.after (sound : s.documents.Sound)
    (permitted : (tasks a).errand.discipline.permits stage r) (serves : s.Serves r answer s') :
    ReadTie tasks a ((tasks a).errand.discipline.after stage r answer) s'
      (log ++ [⟨a, r, answer⟩]) := by
  intro found writing
  exact ⟨(Errand.knows_of_after sound permitted serves writing).2,
    fun since => absurd since not_overwrittenSince_self⟩

/-- The protocol of attempts at documents that nobody else edits. -/
def mergeProtocol (tasks : κ → DocumentTask) (initial : Target → String) :
    Protocol κ Errand.Stage fun s s' => s'.documents = s.documents where
  start _ := .unread
  discipline a := (tasks a).errand.discipline
  Safe := InTurn tasks initial
  Tie := ReadTie tasks
  tie_start _ := fun _ writing => nomatch writing
  interfered turn same := by
    refine ⟨⟨same ▸ turn.sound, fun target => ?_⟩, fun a stage tie found writing => ?_⟩
    · rw [← turn.content target, Stores.content, Stores.content, same]
    · obtain ⟨knows, stale⟩ := tie found writing
      exact ⟨fun d isFound => same ▸ knows d isFound, same ▸ stale⟩
  answered turn tie permitted serves :=
    ⟨turn.answered tie permitted serves, .after turn.sound permitted serves,
      fun b stage' other tie' => tie'.other turn.sound other tie permitted serves⟩

end Protocol

/-! ## Runs -/

section Runs

variable {errands : List Errand} {entries : List Block.Entry} {content : String}

/-- The writes of errands, one upon another, are the changes of an ordered map: the document holds
what the map does. -/
theorem holds_foldl_merge (sound : ∀ e ∈ errands, e.Sound)
    (holds : Block.Holds entries content.toList) :
    Block.Holds (errands.foldl (fun entries e => e.act entries) entries)
      (errands.foldl (fun content e => e.merge content) content).toList := by
  induction errands generalizing entries content with
  | nil => exact holds
  | cons e errands ih =>
    exact ih (fun x mem => sound x (List.mem_cons_of_mem e mem))
      (Errand.holds_merge (sound e List.mem_cons_self) holds)

/-- What is found for a key is what the last errand for that key left. -/
theorem located_foldl_merge {before after : List Errand} {e : Errand}
    (sound : ∀ x ∈ before ++ e :: after, x.Sound) (last : ∀ x ∈ after, x.key ≠ e.key)
    (holds : Block.Holds entries content.toList) :
    Block.located
      ((before ++ e :: after).foldl (fun content e => e.merge content) content).toList
      e.key.toList = e.outcome := by
  have others : ∀ {after : List Errand} {entries : List Block.Entry} {content : String},
      (∀ x ∈ after, x.Sound) → (∀ x ∈ after, x.key ≠ e.key) →
      Block.Holds entries content.toList →
      Block.located (after.foldl (fun content e => e.merge content) content).toList e.key.toList =
        Block.located content.toList e.key.toList := by
    intro after
    induction after with
    | nil => exact fun _ _ _ => rfl
    | cons x after ih =>
      intro entries content sound differ holds
      have other : x.key.toList ≠ e.key.toList := fun same =>
        differ x List.mem_cons_self (String.toList_injective same)
      have soundX := sound x List.mem_cons_self
      rw [List.foldl_cons, ih (fun y mem => sound y (List.mem_cons_of_mem x mem))
        (fun y mem => differ y (List.mem_cons_of_mem x mem)) (Errand.holds_merge soundX holds),
        Errand.located_merge_of_ne soundX holds other]
  have holdsBefore := holds_foldl_merge (fun x mem => sound x (List.mem_append_left _ mem)) holds
  have soundE : e.Sound := sound e (by simp)
  rw [List.foldl_append, List.foldl_cons,
    others (fun x mem => sound x (by simp [mem])) last (Errand.holds_merge soundE holdsBefore),
    Errand.located_merge soundE holdsBefore]

end Runs

/-! ## Two first writes -/

def Request.createsDocument : Request → Bool
  | .createDocument _ => true
  | _ => false

/-- On an empty cluster an attempt at putting a block comes to its first create. -/
theorem DocumentTask.runUntil_add (i : Instance) (own : ControllerState) :
    ∃ next, (DocumentTask.add i).program.runUntil Request.createsDocument Cluster.handle {} own =
      (.request (.createDocument i.freshDocument) next, {}, own) :=
  ⟨_, rfl⟩

/-- An attempt to add a block comes as far as the creation of the missing document. -/
theorem exists_creating {κ : Type} [DecidableEq κ] (tasks : κ → DocumentTask)
    (others : Stores → Stores → Prop) {w : World κ Unit} {a : κ} {i : Instance}
    (adds : tasks a = .add i) (free : w.running a = none) (shows : Cluster.Shows {} w.stores) :
    ∃ next w', World.Reaches (fun a p => p = (tasks a).program) others w w' ∧
      w'.running a = some (.request (.createDocument i.freshDocument) next) ∧
      Cluster.Shows {} w'.stores ∧ ∀ b, b ≠ a → w'.running b = w.running b := by
  obtain ⟨next, stop⟩ := DocumentTask.runUntil_add i w.own
  have begun : (w.proceed a (some (DocumentTask.add i).program)).own = w.own := rfl
  obtain ⟨w', run, atRequest, shows', -, rest⟩ :=
    World.reaches_runUntil (fun a p => p = (tasks a).program) others Request.createsDocument
      (World.proceed_running_self w a (some (DocumentTask.add i).program)) shows
  rw [begun, stop] at atRequest shows'
  exact ⟨next, w', .head (.begun a _ free (by rw [adds])) run, atRequest, shows', fun b other =>
    (rest b other).trans (World.proceed_running_of_ne other w _)⟩

theorem exists_created {κ : Type} [DecidableEq κ] {w : World κ Unit} {a : κ} {d : ConfigMap}
    {next : Result ConfigMap → Program Unit}
    (atRequest : w.running a = some (.request (.createDocument d) next))
    (shows : Cluster.Shows {} w.stores) :
    ∃ (answer : Result ConfigMap) (w' : World κ Unit), w.Answers a (.createDocument d) answer w' ∧
      Request.wroteDocument (.createDocument d) answer = true ∧
      w'.log = w.log ++ [⟨a, .createDocument d, answer⟩] ∧
      ∀ b, b ≠ a → w'.running b = w.running b := by
  obtain ⟨stores, -, answers⟩ := World.answers_handle atRequest shows
  exact ⟨_, _, answers, rfl, rfl, fun b other => World.proceed_running_of_ne other w _⟩

/-- Two new instances for one document. -/
def twoAdditions (first : Bool) : DocumentTask :=
  .add (.newborn (if first then "foo" else "baz") "a")

/-- However the attempts of many instances at shared documents interleave, and whatever requests
fail: a write that goes through makes of its document, as it is stored at that moment, what its
errand makes of it, and leaves every other data key alone, and the attempt that makes it is the first
to write its config map since it read it. So every document is the fold of the errands done, a
document made of blocks stays one, and in it the block of an instance is what its own last write left
there. -/
theorem document_writes_take_turns {κ : Type} [DecidableEq κ] {tasks : κ → DocumentTask}
    {w₀ w : World κ Unit} (idle : w₀.Idle) (sound : w₀.stores.documents.Sound)
    (run : World.Reaches (fun a p => p = (tasks a).program)
      (fun s s' => s'.documents = s.documents) w₀ w) :
    (∀ a r answer w', w.Answers a r answer w' →
      (r.wroteDocument answer = false → w'.stores.documents = w.stores.documents) ∧
      (r.wroteDocument answer = true →
        ¬ OverwrittenSince tasks a w.log ∧
        (∃ v, v ∉ w.stores.documents.spent ∧ (tasks a).errand.Writes w.stores v w'.stores) ∧
        ∀ target, w'.stores.content target =
          if target.SamePlace (tasks a).errand.target
          then (tasks a).errand.merge (w.stores.content target) else w.stores.content target)) ∧
    (∀ target, w.stores.content target = (errandsDone tasks w.log target).foldl
      (fun content e => e.merge content) (w₀.stores.content target)) ∧
    ((∀ a, '\n' ∉ (tasks a).about.key.toList) → ∀ target entries,
      Block.Holds entries (w₀.stores.content target).toList →
      Block.Holds ((errandsDone tasks w.log target).foldl (fun entries e => e.act entries) entries)
        (w.stores.content target).toList ∧
      ∀ before e after, errandsDone tasks w.log target = before ++ e :: after →
        (∀ x ∈ after, x.key ≠ e.key) →
        Block.located (w.stores.content target).toList e.key.toList = e.outcome) := by
  have start : InTurn tasks w₀.stores.content w₀.stores [] := ⟨sound, fun _ => rfl⟩
  have begins : ∀ a p, p = (tasks a).program →
      p.Obeys (tasks a).errand.discipline (fun _ _ => True) .unread := by
    rintro a p rfl
    exact (tasks a).program_obeys
  have holds : (mergeProtocol tasks w₀.stores.content).Holds w :=
    Protocol.holds idle start begins run
  refine ⟨fun a r answer w' answers => ?_, holds.safe.content, fun free target entries initial => ?_⟩
  · obtain ⟨next, stores, atRequest, serves⟩ := answers
    obtain ⟨stage, tie, permitted, -⟩ := holds.note atRequest
    rcases ReadTie.served tie permitted serves with ⟨kept, same⟩ | ⟨wrote, first, v, fresh, writes⟩
    · refine ⟨fun _ => congrArg Stores.documents same, fun wrote => ?_⟩
      rw [kept] at wrote
      cases wrote
    · refine ⟨fun kept => ?_, fun _ => ⟨first, ⟨v, fresh, writes⟩, writes.content holds.safe.sound⟩⟩
      rw [wrote] at kept
      cases kept
  · have errandsSound : ∀ e ∈ errandsDone tasks w.log target, e.Sound := by
      intro e mem
      obtain ⟨o, -, rfl⟩ := List.mem_map.1 (List.mem_filter.1 mem).1
      exact DocumentTask.sound_errand (free o.attempt)
    rw [holds.safe.content target]
    refine ⟨holds_foldl_merge errandsSound initial, fun before e after shape last => ?_⟩
    rw [shape] at errandsSound ⊢
    exact located_foldl_merge errandsSound last initial

/-- Both attempts found no document; the one that creates it has its block there, and the other
writes nothing any more. -/
theorem document_writes_take_turns_of_two :
    ∃ w₀ w : World Bool Unit, w₀.Idle ∧ w₀.stores.documents.Sound ∧
      World.Reaches (fun a p => p = (twoAdditions a).program)
        (fun s s' => s'.documents = s.documents) w₀ w ∧
      (∃ next, w.running true =
        some (.request (.createDocument (twoAdditions true).about.freshDocument) next)) ∧
      (∀ r answer w', w.Answers true r answer w' → r.wroteDocument answer = false) ∧
      Block.located (w.stores.content (twoAdditions false).errand.target).toList
        (twoAdditions false).errand.key.toList =
          some (Block.render (twoAdditions false).about.key.toList
            (twoAdditions false).about.fragment.toList) := by
  let others (s s' : Stores) : Prop := s'.documents = s.documents
  obtain ⟨next₁, w₁, run₁, at₁, shows₁, rest₁⟩ :=
    exists_creating twoAdditions others (w := World.onCluster Bool Unit {}) (a := true)
      (i := (twoAdditions true).about) rfl rfl (Cluster.shows_stores {})
  obtain ⟨next₂, w₂, run₂, at₂, shows₂, rest₂⟩ :=
    exists_creating twoAdditions others (i := (twoAdditions false).about) (a := false) rfl
      (rest₁ false (by decide)) shows₁
  obtain ⟨saved, w₃, created, wrote, log, rest₃⟩ := exists_created at₂ shows₂
  have run := (run₁.trans run₂).tail (.answered _ _ _ created)
  have idle : (World.onCluster Bool Unit {}).Idle := World.idle_onCluster {}
  have sound : (World.onCluster Bool Unit {}).stores.documents.Sound := Cluster.sound_documents rfl
  obtain ⟨writes, -, blocks⟩ := document_writes_take_turns idle sound run
  refine ⟨_, w₃, idle, sound, run, ⟨next₁, ?_⟩, fun r answer w' answers => ?_, ?_⟩
  · rw [rest₃ true (by decide), rest₂ true (by decide), at₁]
  · have since : OverwrittenSince twoAdditions true w₃.log := by
      refine ⟨⟨false, .createDocument (twoAdditions false).about.freshDocument, saved⟩, ?_, wrote,
        rfl⟩
      rw [log, List.rtakeWhile_concat_pos _ _ _ rfl]
      exact List.mem_append_right _ List.mem_cons_self
    by_contra writing
    exact ((writes true r answer w' answers).2 (Bool.of_not_eq_false writing)).1 since
  · have free : ∀ a, '\n' ∉ (twoAdditions a).about.key.toList := by decide +kernel
    have initial : Block.Holds []
        ((World.onCluster Bool Unit {}).stores.content (twoAdditions false).errand.target).toList :=
      Block.holds_nil
    have done := (blocks free _ _ initial).2 _ (twoAdditions false).errand []
      (log ▸ errandsDone_of_wrote wrote _) (fun _ mem => nomatch mem)
    have closed : Block.closes (twoAdditions false).about.fragment.toList = true := by
      rw [Instance.fragment]
      refine (Fragment.closes_str "a").trans ?_
      decide +kernel
    rw [done]
    refine (Errand.outcome_putting (twoAdditions false).about).trans ?_
    rw [if_pos closed]

end StateMetrics
