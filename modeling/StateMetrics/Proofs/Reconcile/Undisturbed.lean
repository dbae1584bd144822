import StateMetrics.Proofs.Reconcile.Convergence

/-!
# Attempts with nobody else about

Each function of an attempt, run on a cluster where no request fails. What it comes to is said of the
whole cluster: which version of the instance is stored (`Cluster.Resaves`), what became of the document
(`Errand.Carries`) and that nothing else moved. A function that finds everything as it should be writes
nothing (`Program.Passes`). The two meet in `Instance.InLine`: an attempt leaves the instance in line
if its block can be found again, and one at an instance in line changes at most what is stated about it.
-/

namespace StateMetrics

/-- The request is one to store something. -/
def Request.writes : Request → Bool
  | updateInstance _ => true
  | updateStatus _ => true
  | createDocument _ => true
  | updateDocument _ => true
  | _ => false

namespace Program

variable {α β : Type} {c : Cluster} {own own' own'' : ControllerState} {p : Program α} {value : α}

/-- The program writes nothing on its way to its value. -/
structure Passes (p : Program α) (c : Cluster) (own : ControllerState) (value : α)
    (own' : ControllerState) : Prop where
  run : p.run Cluster.handle c own = (value, c, own')
  quiet : ∀ o ∈ p.answers Cluster.handle c own, o.1.writes = false

theorem Passes.done (value : α) (c : Cluster) (own : ControllerState) :
    (Program.done value).Passes c own value own := ⟨rfl, fun _ mem => nomatch mem⟩

/-- A program that changes nothing, followed by another that changes nothing. -/
theorem Passes.bind {next : α → Program β} {value' : β} (first : p.Passes c own value own')
    (second : (next value).Passes c own' value' own'') :
    (p >>= next).Passes c own value' own'' where
  run := by rw [run_bind, first.run, second.run]
  quiet o mem := by
    rw [answers_bind, first.run] at mem
    rcases List.mem_append.1 mem with mem | mem
    · exact first.quiet o mem
    · exact second.quiet o mem

/-- A request that is none to store anything leaves the cluster as it is. -/
theorem passes_send {r : Request} (reads : r.writes = false) (c : Cluster)
    (own : ControllerState) : (send r).Passes c own (Cluster.handle r c).1 own where
  run := by cases r <;> first | rfl | cases reads
  quiet o mem := by
    obtain rfl := List.mem_singleton.1 mem
    exact reads

theorem passes_tell (i : Instance) (reason : Reason) (message : String) (c : Cluster)
    (own : ControllerState) : (i.tell reason message).Passes c own () own :=
  passes_send (r := .record i ⟨.normal, reason.text, message⟩) rfl c own

theorem passes_inquire (q : Question) (c : Cluster) (own : ControllerState) :
    (inquire q).Passes c own (own.answer q).1 (own.answer q).2 :=
  ⟨rfl, fun _ mem => nomatch mem⟩

theorem run_noteActivity (next : Program α) (c : Cluster) (own : ControllerState) :
    (do
      inquire .noteActivity
      next).run Cluster.handle c own =
    next.run Cluster.handle c (own.answer .noteActivity).2 := rfl

end Program

open Program

/-! ## The instance -/

/-- The instance `i` of the first cluster is stored as `j` in the second one, unless it was to go and
went; nothing else changed. -/
structure Cluster.Resaves (c : Cluster) (i j : Instance) (c' : Cluster) : Prop where
  continues : j.Continues i
  labels : j.metadata.labels = i.metadata.labels
  stored : j.stays = true → c'.instances.lookup i.key = some j
  only : ∀ j', c'.instances.lookup i.key = some j' → j' = j
  documents : c'.documents = c.documents
  namespaces : c'.namespaces = c.namespaces

namespace Cluster

variable {c c' : Cluster} {i j given : Instance} {own : ControllerState}

theorem Resaves.refl (stored : c.instances.lookup i.key = some i) : c.Resaves i i c where
  continues := .refl i
  labels := rfl
  stored _ := stored
  only _ found := Option.some.inj (found.symm.trans stored)
  documents := rfl
  namespaces := rfl

/-- Saving the instance twice is saving it. -/
theorem Resaves.trans {c'' : Cluster} {k : Instance} (first : c.Resaves i j c')
    (second : c'.Resaves j k c'') : c.Resaves i k c'' where
  continues := second.continues.trans first.continues
  labels := second.labels.trans first.labels
  stored stays := first.continues.key ▸ second.stored stays
  only := first.continues.key ▸ second.only
  documents := second.documents.trans first.documents
  namespaces := second.namespaces.trans first.namespaces

/-- Saving a version that differs in status or finalizers only. -/
theorem resaves_saveInstance (c : Cluster) (j : Instance) (continues : j.Continues i)
    (labels : j.metadata.labels = i.metadata.labels) :
    c.Resaves i (j.numbered (c.writes + 1)) (c.saveInstance j).2 where
  continues := { continues with }
  labels := labels
  stored stays := by
    rw [← continues.key, lookup_saveInstance_self]
    exact if_pos stays
  only j' found := by
    rw [← continues.key, lookup_saveInstance_self] at found
    split at found
    · exact (Option.some.inj found).symm
    · cases found
  documents := rfl
  namespaces := rfl

/-- Writing a condition leaves the stored instance saying so, with its finalizers as they were. -/
theorem exists_run_writeReady (stored : c.instances.lookup i.key = some i) (status : Bool)
    (reason : Reason) (message : String) (own : ControllerState) :
    ∃ j c', (i.writeReady status reason message).run handle c own = (.ok j, c', own) ∧
      c.Resaves i j c' ∧ j.metadata.finalizers = i.metadata.finalizers ∧
      j.States status reason message := by
  have states := i.states_setReady own.clock status reason message
  have metadata := i.setReady_metadata own.clock status reason message
  rw [Instance.writeReady, run_bind]
  have asked : (inquire .now).run handle c own = (own.clock, c, own) := rfl
  rw [asked]
  dsimp only
  generalize set : i.setReady own.clock status reason message = new at states metadata ⊢
  rcases new with ⟨given, _ | _⟩
  · obtain rfl := Instance.eq_of_setReady set
    exact ⟨given, c, rfl, .refl stored, rfl, states⟩
  · obtain ⟨same, -⟩ := Instance.setReady_reports set
    have answered : handle (.updateStatus given) c = _ := updateStatus_of_stored stored same
    have generation : i.metadata.generation = given.metadata.generation := by rw [metadata]
    exact ⟨_, _, congrArg (fun a => (a.1, a.2, own)) answered,
      c.resaves_saveInstance { i with status := given.status } ⟨rfl, rfl, rfl, rfl, rfl⟩ rfl, rfl,
      states.congr rfl generation⟩

/-- A condition that the instance states already is not written again. -/
theorem passes_writeReady {status : Bool} {reason : Reason} {message : String}
    (states : i.States status reason message) (c : Cluster) (own : ControllerState) :
    (i.writeReady status reason message).Passes c own (.ok i) own := by
  refine (passes_inquire .now c own).bind ?_
  have set := states.setReady_eq own.clock
  show Program.Passes (if (i.setReady own.clock status reason message).2 then
      send (.updateStatus (i.setReady own.clock status reason message).1)
    else pure (.ok i)) c own _ own
  rw [set]
  exact .done _ c own

/-- Writing the finalizer leaves the stored instance with it, and with its status as it was. -/
theorem exists_run_updateFinalizer (stored : c.instances.lookup i.key = some i) (puts : Bool)
    (own : ControllerState) :
    ∃ j c', (send (.updateInstance (i.finalized puts))).run handle c own = (.ok j, c', own) ∧
      c.Resaves i j c' ∧ j.metadata.finalizers = (i.finalized puts).metadata.finalizers ∧
      j.status = i.status := by
  have answered : handle (.updateInstance (i.finalized puts)) c = _ :=
    updateInstance_of_stored stored (Hand.finalized_sameVersion puts i)
  exact ⟨_, _, congrArg (fun a => (a.1, a.2, own)) answered,
    c.resaves_saveInstance { i with metadata.finalizers := (i.finalized puts).metadata.finalizers }
      ⟨rfl, rfl, rfl, rfl, rfl⟩ rfl, rfl, rfl⟩

end Cluster

/-! ## The document -/

/-- The errand was done between the two clusters; the documents are as they were if there was nothing
to write. -/
structure Errand.Carries (e : Errand) (c c' : Cluster) : Prop where
  data : c'.data = e.revise c.data
  named : ∀ d, c'.documents.lookup e.target.mapKey = some d → d.mapKey = e.target.mapKey
  kept : e.write? (c.documents.lookup e.target.mapKey) = none → c'.documents = c.documents

/-- The errand was done and nothing else. -/
structure Errand.CarriesOnly (e : Errand) (c c' : Cluster) : Prop extends e.Carries c c' where
  instances : c'.instances = c.instances
  namespaces : c'.namespaces = c.namespaces

/-- The cluster takes a document from the request and is another one then. -/
def Request.StoresDocument (c c' : Cluster) : Request → Prop
  | createDocument d => ∃ saved, c.createDocument d = (.ok saved, c')
  | updateDocument d => ∃ saved, c.updateDocument d = (.ok saved, c')
  | _ => False

namespace Errand

variable {e : Errand} {c c' : Cluster} {i : Instance} {own : ControllerState}

theorem carries_of_idle
    (named : ∀ d, c.documents.lookup e.target.mapKey = some d → d.mapKey = e.target.mapKey)
    (idle : e.write? (c.documents.lookup e.target.mapKey) = none) : e.CarriesOnly c c where
  instances := rfl
  namespaces := rfl
  data := by
    rw [revise, Cluster.data, revised_of_write?_eq_none idle]
    exact (Function.update_eq_self _ _).symm
  named := named
  kept _ := rfl

/-- A write of the errand goes through, and it does the errand. -/
theorem carries_of_write {r : Request}
    (named : ∀ d, c.documents.lookup e.target.mapKey = some d → d.mapKey = e.target.mapKey)
    (write : e.write? (c.documents.lookup e.target.mapKey) = some r) :
    ∃ c', e.CarriesOnly c c' ∧ Request.StoresDocument c c' r := by
  obtain ⟨d, revised, written⟩ := exists_written write
  have carries (name : d.mapKey = e.target.mapKey) : e.CarriesOnly c (c.saveDocument d).2 := {
    instances := rfl
    namespaces := rfl
    data := by
      rw [Cluster.data_saveDocument, name, ← revised]
      rfl
    named := fun d' found => by
      rw [← name, Cluster.lookup_saveDocument_self] at found
      exact (Option.some.inj found) ▸ name
    kept := fun idle => by rw [idle] at write; cases write }
  rcases written with ⟨missing, rfl, name⟩ | ⟨d', stored, rfl, same⟩
  · exact ⟨_, carries name, _, Cluster.createDocument_of_missing (name ▸ missing)⟩
  · have name : d.mapKey = e.target.mapKey := by
      rw [← named d' stored, ConfigMap.mapKey, same]
      rfl
    exact ⟨_, carries name, _, Cluster.updateDocument_of_stored (name ▸ stored) same⟩

theorem write?_eq_none_iff {found : Option ConfigMap} :
    e.write? found = none ↔ e.rewrite? (e.textIn (found.map (·.data))) = none := by
  cases found with
  | none =>
    constructor
    · intro idle
      exact rewrite?_empty_of_removes (Option.map_eq_none_iff.1 idle)
    · intro kept
      cases puts : e.fragment? with
      | some fragment => exact absurd kept (by simp [textIn, rewrite?_empty puts])
      | none => simp [write?, puts]
  | some d => exact Option.map_eq_none_iff

/-- Once the errand is done there is nothing left to write, if the block can be found again. -/
theorem Carries.idle (carries : e.Carries c c') (sound : e.Sound) (closed : e.closed = true)
    (sole : Block.Sole e.key.toList (e.textIn (c.data e.target.mapKey)).toList) :
    e.write? (c'.documents.lookup e.target.mapKey) = none := by
  have data : (c'.documents.lookup e.target.mapKey).map (·.data) =
      e.revised (c.data e.target.mapKey) := by
    have here := congrFun carries.data e.target.mapKey
    rwa [revise, Function.update_self] at here
  rw [write?_eq_none_iff, data, textIn_revised]
  exact rewrite?_merge sound closed sole

end Errand

namespace Cluster

variable {c c' : Cluster} {i j : Instance} {own : ControllerState}

/-- What an attempt says that finds nothing to do at its document. -/
def idleMessage (c : Cluster) (i : Instance) : String :=
  if i.phase = .deleting then
    if (c.documents.lookup i.target.mapKey).isSome then RemoveOutcome.noBlock.message
    else RemoveOutcome.noDocument.message
  else AddOutcome.unchanged.message

/-- Putting the block succeeds, and carries out the errand and nothing else. With nothing to write
it sends no write either, and says that there was none. -/
theorem exists_run_addToDocument (stays : i.phase ≠ .deleting)
    (named : ∀ d, c.documents.lookup i.target.mapKey = some d → d.mapKey = i.target.mapKey)
    (own : ControllerState) :
    ∃ outcome c', i.addToDocument.run handle c own = (.ok outcome, c', own) ∧
      i.putting.CarriesOnly c c' ∧
      (i.putting.write? (c.documents.lookup i.target.mapKey) = none →
        i.addToDocument.Passes c own (.ok outcome) own ∧ outcome.message = c.idleMessage i) := by
  have read := passes_send (r := .getDocument i.target) rfl c own
  have answer : (handle (.getDocument i.target) c).1 = .ok (c.documents.lookup i.target.mapKey) := rfl
  rw [answer] at read
  cases write : i.putting.write? (c.documents.lookup i.target.mapKey) with
  | none =>
    have passes : i.addToDocument.Passes c own (.ok .unchanged) own := by
      refine read.bind ?_
      cases found : c.documents.lookup i.target.mapKey with
      | none =>
        rw [found] at write
        cases write
      | some d =>
        rw [found] at write
        have kept : (Document.upsert (d.content i.target.key) i.key i.fragment).document? = none :=
          Option.map_eq_none_iff.1 write
        dsimp only
        rw [kept]
        exact .done _ c own
    exact ⟨.unchanged, c, passes.run, Errand.carries_of_idle named write,
      fun _ => ⟨passes, (if_neg stays).symm⟩⟩
  | some r =>
    obtain ⟨c', carries, answered⟩ := Errand.carries_of_write (e := i.putting) named write
    rw [Instance.addToDocument, run_bind, read.run]
    cases found : c.documents.lookup i.target.mapKey with
    | none =>
      rw [found] at write
      obtain rfl : Request.createDocument i.freshDocument = r := Option.some.inj write
      obtain ⟨saved, sent⟩ := answered
      have sent : (send (.createDocument i.freshDocument)).run handle c own = (.ok saved, c', own) :=
        congrArg (fun a => (a.1, a.2, own)) sent
      refine ⟨.created, c', ?_, carries, fun idle => nomatch idle⟩
      dsimp only
      rw [run_bind, sent]
      rfl
    | some d =>
      rw [found] at write
      obtain ⟨content, rewritten, rfl⟩ := Option.map_eq_some_iff.1 write
      have upserted : (Document.upsert (d.content i.target.key) i.key i.fragment).document? =
          some content := rewritten
      obtain ⟨saved, sent⟩ := answered
      have sent : (send (.updateDocument (d.setContent i.target.key content))).run handle c own =
          (.ok saved, c', own) := congrArg (fun a => (a.1, a.2, own)) sent
      refine ⟨.written, c', ?_, carries, fun idle => nomatch idle⟩
      dsimp only
      rw [upserted]
      dsimp only
      rw [run_bind, sent]
      rfl

/-- Removing the block succeeds, and carries out the errand and nothing else. With nothing to write
it sends no write either, and says that there was none. -/
theorem exists_run_removeFromDocument (goes : i.phase = .deleting)
    (named : ∀ d, c.documents.lookup i.target.mapKey = some d → d.mapKey = i.target.mapKey)
    (own : ControllerState) :
    ∃ outcome c', i.removeFromDocument.run handle c own = (.ok outcome, c', own) ∧
      i.removing.CarriesOnly c c' ∧
      (i.removing.write? (c.documents.lookup i.target.mapKey) = none →
        i.removeFromDocument.Passes c own (.ok outcome) own ∧
          outcome.message = c.idleMessage i) := by
  have read := passes_send (r := .getDocument i.target) rfl c own
  have answer : (handle (.getDocument i.target) c).1 = .ok (c.documents.lookup i.target.mapKey) := rfl
  rw [answer] at read
  rw [idleMessage, if_pos goes]
  cases write : i.removing.write? (c.documents.lookup i.target.mapKey) with
  | none =>
    have carries := Errand.carries_of_idle (e := i.removing) named write
    cases found : c.documents.lookup i.target.mapKey with
    | none =>
      rw [found] at read
      have passes : i.removeFromDocument.Passes c own (.ok .noDocument) own :=
        read.bind (.done _ c own)
      exact ⟨.noDocument, c, passes.run, carries, fun _ => ⟨passes, rfl⟩⟩
    | some d =>
      rw [found] at read write
      have kept : Document.remove (d.content i.target.key) i.key = none :=
        Option.map_eq_none_iff.1 write
      have passes : i.removeFromDocument.Passes c own (.ok .noBlock) own := by
        refine read.bind ?_
        dsimp only
        rw [kept]
        exact .done _ c own
      exact ⟨.noBlock, c, passes.run, carries, fun _ => ⟨passes, rfl⟩⟩
  | some r =>
    obtain ⟨c', carries, answered⟩ := Errand.carries_of_write (e := i.removing) named write
    cases found : c.documents.lookup i.target.mapKey with
    | none =>
      rw [found] at write
      cases write
    | some d =>
      rw [found] at read write
      obtain ⟨content, rewritten, rfl⟩ := Option.map_eq_some_iff.1 write
      have removed : Document.remove (d.content i.target.key) i.key = some content := rewritten
      obtain ⟨saved, sent⟩ := answered
      have sent : (send (.updateDocument (d.setContent i.target.key content))).run handle c own =
          (.ok saved, c', own) := congrArg (fun a => (a.1, a.2, own)) sent
      refine ⟨.removed, c', ?_, carries, fun idle => nomatch idle⟩
      rw [Instance.removeFromDocument, run_bind, read.run]
      dsimp only
      rw [removed]
      dsimp only
      rw [run_bind, sent]
      rfl

/-! ## The whole attempt -/

/-- What an attempt comes to that found the instance `i`: it is stored as `j` then, unless it was to go
and went. -/
structure Attempted (c : Cluster) (i j : Instance) (c' : Cluster) : Prop where
  continues : j.Continues i
  labels : j.metadata.labels = i.metadata.labels
  finalizers : j.metadata.finalizers = i.finalizersAfter i.finalStage
  stored : j.stays = true → c'.instances.lookup i.key = some j
  only : ∀ j', c'.instances.lookup i.key = some j' → j' = j
  carries : i.outset.errand.Carries c c'
  namespaces : c'.namespaces = c.namespaces
  states : i.outset.errand.write? (c.documents.lookup i.target.mapKey) = none →
    i.outset.marks = false →
    j.States i.settledReadiness.1 i.settledReadiness.2 (c.idleMessage i)

/-- The errand of an attempt is done between writes of its instance. -/
theorem attempted_of_resaves {c₁ c₂ c₃ : Cluster} {h : Instance} (before : c.Resaves i h c₁)
    (carries : i.outset.errand.CarriesOnly c₁ c₂) (after : c₂.Resaves h j c₃)
    (finalizers : j.metadata.finalizers = i.finalizersAfter i.finalStage)
    (states : i.outset.errand.write? (c.documents.lookup i.target.mapKey) = none →
      i.outset.marks = false →
      j.States i.settledReadiness.1 i.settledReadiness.2 (c.idleMessage i)) :
    c.Attempted i j c₃ where
  continues := after.continues.trans before.continues
  labels := after.labels.trans before.labels
  finalizers := finalizers
  stored := before.continues.key ▸ after.stored
  only := before.continues.key ▸ after.only
  carries := {
    data := by
      have first : c₁.data = c.data := funext fun _ => by rw [data, data, before.documents]
      have last : c₃.data = c₂.data := funext fun _ => by rw [data, data, after.documents]
      rw [last, carries.data, first]
    named := after.documents ▸ carries.named
    kept := before.documents ▸ after.documents ▸ carries.kept }
  namespaces := after.namespaces.trans (carries.namespaces.trans before.namespaces)
  states := states

/-- An attempt at an edited instance succeeds and leaves what an attempt is to leave. -/
theorem exists_run_update (known : i.phase = .updating)
    (stored : c.instances.lookup i.key = some i)
    (named : ∀ d, c.documents.lookup i.target.mapKey = some d → d.mapKey = i.target.mapKey)
    (own : ControllerState) :
    ∃ j c' own', i.update.run handle c own = (.ok (), c', own') ∧ c.Attempted i j c' := by
  have stays : i.phase ≠ .deleting := by simp [known]
  have errand := Instance.errand_outset_of_stays stays
  obtain ⟨outcome, c₁, added, carries, idle⟩ := exists_run_addToDocument stays named own
  obtain ⟨j, c₂, wrote, after, finalizers, states⟩ :=
    exists_run_writeReady (carries.instances ▸ stored) true .adding outcome.message own
  refine ⟨j, c₂, own, ?_, ?_⟩
  · rw [Instance.update, run_bind, (passes_tell ..).run]
    rw [run_bind, added]
    dsimp only
    rw [run_bind, (passes_tell ..).run, run_bind, wrote]
    rfl
  · refine attempted_of_resaves (.refl stored) (errand ▸ carries) after ?_ ?_
    · have unmarked : i.outset.marks = false := by simp [Course.marks, Instance.outset, known]
      rw [finalizers, Instance.finalStage, unmarked]
      rfl
    · intro write _
      rw [errand] at write
      rw [Instance.settledReadiness, if_neg stays, ← (idle write).2]
      exact states

/-- A first attempt succeeds and leaves what an attempt is to leave. -/
theorem exists_run_create (new : i.phase = .creating)
    (stored : c.instances.lookup i.key = some i)
    (named : ∀ d, c.documents.lookup i.target.mapKey = some d → d.mapKey = i.target.mapKey)
    (own : ControllerState) :
    ∃ j c' own', i.create.run handle c own = (.ok (), c', own') ∧ c.Attempted i j c' := by
  have stays : i.phase ≠ .deleting := by simp [new]
  have marks : i.outset.marks = true := by simp [Course.marks, Instance.outset, new]
  obtain ⟨h, c₁, begun, before, same, -⟩ :=
    exists_run_writeReady stored false .adding Instance.addingMessage own
  have errand : h.putting = i.putting := before.continues.errand true
  have target := before.continues.target
  have phase : h.phase ≠ .deleting := by
    rwa [ne_eq, Instance.phase_eq_deleting_iff, before.continues.isDeleting,
      ← Instance.phase_eq_deleting_iff]
  have staysStored {j : Instance} (continues : j.Continues i) : j.stays = true := by
    rw [ne_eq, Instance.phase_eq_deleting_iff, Bool.not_eq_true] at stays
    rw [Instance.stays, continues.isDeleting, stays]
    rfl
  obtain ⟨outcome, c₂, added, carries, -⟩ := exists_run_addToDocument phase
    (by rw [before.documents, target]; exact named) own
  have storedAgain : c₂.instances.lookup h.key = some h := by
    rw [carries.instances, before.continues.key]
    exact before.stored (staysStored before.continues)
  obtain ⟨k, c₃, wrote, after, sameAgain, -⟩ :=
    exists_run_writeReady storedAgain true .adding outcome.message own
  have continues := after.continues.trans before.continues
  have storedLast : c₃.instances.lookup k.key = some k := by
    rw [after.continues.key]
    exact after.stored (staysStored continues)
  obtain ⟨j, c₄, marked, last, finalizers, -⟩ := exists_run_updateFinalizer storedLast true own
  refine ⟨j, c₄, (own.answer (.count .instanceGained)).2, ?_, ?_⟩
  · rw [Instance.create, run_bind, (passes_tell ..).run, run_bind, begun]
    dsimp only
    rw [run_bind, added]
    dsimp only
    rw [run_bind, (passes_tell ..).run, run_bind, wrote]
    dsimp only
    rw [run_bind, show k.addFinalizer = k.finalized true from rfl, marked]
    rfl
  · refine attempted_of_resaves before ?_ (after.trans last) ?_ ?_
    · rw [Instance.errand_outset_of_stays stays, ← errand]
      exact carries
    · rw [finalizers, Instance.finalStage, marks, Instance.finalizers_finalized
        (sameAgain.trans same)]
      show _ = (i.finalized i.outset.puts).metadata.finalizers
      rw [show i.outset.puts = true from decide_eq_true stays]
    · intro _ unmarked
      rw [marks] at unmarked
      cases unmarked

/-- An attempt at an instance that is to go succeeds and leaves what an attempt is to leave. -/
theorem exists_run_cleanup (goes : i.phase = .deleting)
    (stored : c.instances.lookup i.key = some i)
    (named : ∀ d, c.documents.lookup i.target.mapKey = some d → d.mapKey = i.target.mapKey)
    (own : ControllerState) :
    ∃ j c' own', i.cleanup.run handle c own = (.ok .awaitChange, c', own') ∧
      c.Attempted i j c' := by
  have errand := Instance.errand_outset_of_goes goes
  have ready : i.settledReadiness = (false, .removing) := if_pos goes
  have marks : i.outset.marks = i.hasFinalizer := by simp [Course.marks, Instance.outset, goes]
  let own₁ := (own.answer .noteActivity).2
  obtain ⟨outcome, c₁, removed, carries, idle⟩ := exists_run_removeFromDocument goes named own₁
  obtain ⟨h, c₂, wrote, after, same, states⟩ :=
    exists_run_writeReady (carries.instances ▸ stored) false .removing outcome.message own₁
  have has : h.hasFinalizer = i.hasFinalizer := by
    rw [Instance.hasFinalizer, Instance.hasFinalizer, ObjectMeta.finalizerList,
      ObjectMeta.finalizerList, same]
  have hands : h.stays = true → c₂.instances.lookup h.key = some h := by
    rw [after.continues.key]
    exact after.stored
  rw [Instance.cleanup, run_noteActivity, run_bind, (passes_tell ..).run, run_bind, removed]
  dsimp only
  rw [run_bind, (passes_tell ..).run, run_bind, wrote]
  dsimp only
  cases carried : i.hasFinalizer with
  | false =>
    rw [carried] at has marks
    rw [has]
    refine ⟨h, c₂, own₁, rfl, attempted_of_resaves (.refl stored) (errand ▸ carries) after ?_ ?_⟩
    · rw [same, Instance.finalStage, marks]
      rfl
    · intro write _
      rw [errand] at write
      rw [ready, ← (idle write).2]
      exact states
  | true =>
    rw [carried] at has marks
    rw [has]
    have holds : h.stays = true := by
      have listed : Instance.finalizer ∈ h.metadata.finalizerList := List.contains_iff_mem.1 has
      rw [Instance.stays, Bool.not_eq_true', Bool.and_eq_false_iff]
      exact .inr (List.isEmpty_eq_false_iff.2 (List.ne_nil_of_mem listed))
    obtain ⟨j, c₃, marked, last, finalizers, -⟩ := exists_run_updateFinalizer (hands holds) false own₁
    refine ⟨j, c₃, (own₁.answer (.count .instanceLost)).2, ?_,
      attempted_of_resaves (.refl stored) (errand ▸ carries) (after.trans last) ?_ ?_⟩
    · simp only [if_true]
      rw [run_bind, show h.removeFinalizer = h.finalized false from rfl, marked]
      rfl
    · rw [finalizers, Instance.finalStage, marks, Instance.finalizers_finalized same]
      show _ = (i.finalized i.outset.puts).metadata.finalizers
      rw [show i.outset.puts = false from decide_eq_false (not_not.2 goes)]
    · intro _ unmarked
      rw [marks] at unmarked
      cases unmarked

/-- An attempt at an instance that stays is one of the two attempts above. -/
theorem exists_run_apply (stays : i.phase ≠ .deleting)
    (stored : c.instances.lookup i.key = some i)
    (named : ∀ d, c.documents.lookup i.target.mapKey = some d → d.mapKey = i.target.mapKey)
    (own : ControllerState) :
    ∃ j c' own', i.apply.run handle c own = (.ok .awaitChange, c', own') ∧ c.Attempted i j c' := by
  rw [Instance.apply, run_noteActivity]
  cases phase : i.phase with
  | deleting => exact absurd phase stays
  | creating =>
    obtain ⟨j, c', own', ran, came⟩ := exists_run_create phase stored named _
    refine ⟨j, c', own', ?_, came⟩
    rw [if_pos rfl, run_bind, ran]
    rfl
  | updating =>
    obtain ⟨j, c', own', ran, came⟩ := exists_run_update phase stored named _
    refine ⟨j, c', own', ?_, came⟩
    rw [if_neg (by simp), run_bind, ran]
    rfl

end Cluster

/-- An attempt at a stored instance succeeds, and it remembers the version that it read, if that is to
stay. -/
theorem InstanceName.exists_run_reconcileKey {n : InstanceName} {c : Cluster} {i : Instance}
    (stored : c.instances.lookup n.key = some i) (name : i.key = n.key)
    (named : ∀ d, c.documents.lookup i.target.mapKey = some d → d.mapKey = i.target.mapKey)
    (own : ControllerState) :
    ∃ j c' own', (reconcileKey n.namespaceName n.name).run Cluster.handle c own =
        (.ok .awaitChange, c', own') ∧ c.Attempted i j c' ∧
      (i.isDeleting = false → own'.seen.lookup n.key = some i) := by
  have attempt : ∃ j c' own',
      (if i.phase = .deleting then i.cleanup else i.apply).run Cluster.handle c own =
        (.ok .awaitChange, c', own') ∧ c.Attempted i j c' := by
    split
    · next goes => exact Cluster.exists_run_cleanup goes (name ▸ stored) named own
    · next stays => exact Cluster.exists_run_apply stays (name ▸ stored) named own
  obtain ⟨j, c', own', ran, came⟩ := attempt
  have found : Cluster.handle (.getInstance n.namespaceName n.name) c = (.ok (some i), c) :=
    congrArg (fun found => (Except.ok found, c)) stored
  rw [reconcileKey_eq, run_request, found]
  dsimp only
  rw [run_bind, ran, Instance.conclude]
  cases deleting : i.isDeleting with
  | true =>
    exact ⟨j, c', (own'.answer (.forget n.key)).2, rfl, came, fun never => by cases never⟩
  | false =>
    refine ⟨j, c', (own'.answer (.remember i)).2, rfl, came, fun _ => ?_⟩
    rw [← name]
    exact NameMap.lookup_insert_self ..

end StateMetrics
