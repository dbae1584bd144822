import StateMetrics.Proofs.Reconcile.Failure
import StateMetrics.Proofs.Reconcile.Gauge
import StateMetrics.Proofs.Reconcile.Revision

/-!
# An attempt alone

An attempt in a cluster that nobody else writes to, with requests that may fail. What the cluster
holds then follows from the course of the attempt (`Course.Alone`): the document is revised once the
errand is settled, the instance is stored as it is in hand, and the gauge has moved once the finalizer
is counted. If no request fails the attempt comes to its end, and the instance says so.
-/

namespace StateMetrics

namespace Cluster

variable {c : Cluster} {i given : Instance}

/-- The stored instance takes the status of one that carries its version. -/
theorem updateStatus_of_stored (stored : c.instances.lookup i.key = some i)
    (same : given.SameVersion i) :
    c.updateStatus given = (.ok ({ i with status := given.status }.numbered (c.writes + 1)),
      (c.saveInstance { i with status := given.status }).2) := by
  rw [updateStatus, Store.current, same.1, stored]
  simp only [same.2, if_true]
  rfl

/-- The stored instance takes the finalizers of one that carries its version. -/
theorem updateInstance_of_stored (stored : c.instances.lookup i.key = some i)
    (same : given.SameVersion i) :
    c.updateInstance given =
      (.ok ({ i with metadata.finalizers := given.metadata.finalizers }.numbered (c.writes + 1)),
        (c.saveInstance { i with metadata.finalizers := given.metadata.finalizers }).2) := by
  rw [updateInstance, Store.current, same.1, stored]
  simp only [same.2, if_true]
  rfl

/-- A config map that is missing is created as it is given. -/
theorem createDocument_of_missing {d : ConfigMap} (missing : c.documents.lookup d.mapKey = none) :
    c.createDocument d = (.ok (d.numbered (c.writes + 1)), (c.saveDocument d).2) := by
  rw [createDocument, missing]
  rfl

/-- The stored config map gives way to one that carries its version. -/
theorem updateDocument_of_stored {d found : ConfigMap}
    (stored : c.documents.lookup d.mapKey = some found) (same : d.metadata = found.metadata) :
    c.updateDocument d = (.ok (d.numbered (c.writes + 1)), (c.saveDocument d).2) := by
  rw [updateDocument, Store.isStale, stored]
  simp only [same, ne_eq, not_true, decide_false, Bool.false_eq_true, if_false]
  rfl

/-- A saved instance is stored in its new version, unless it goes with its last finalizer. -/
theorem lookup_saveInstance_self (c : Cluster) (i : Instance) :
    (c.saveInstance i).2.instances.lookup i.key =
      if i.stays then some (i.numbered (c.writes + 1)) else none := by
  have kept : (c.saveInstance i).2.instances =
      if i.isDeleting && i.metadata.finalizerList.isEmpty then NameMap.erase i.key c.instances
      else NameMap.insert i.key (i.numbered (c.writes + 1)) c.instances := rfl
  rw [kept, Instance.stays]
  cases i.isDeleting && i.metadata.finalizerList.isEmpty with
  | true => exact NameMap.lookup_erase_self ..
  | false => exact NameMap.lookup_insert_self ..

/-- A saved config map changes the data of its own name and of no other. -/
theorem data_saveDocument (c : Cluster) (d : ConfigMap) :
    (c.saveDocument d).2.data = Function.update c.data d.mapKey (some d.data) := by
  funext key
  have kept : (c.saveDocument d).2.documents =
      NameMap.insert d.mapKey (d.numbered (c.writes + 1)) c.documents := rfl
  rw [data, kept]
  by_cases same : key = d.mapKey
  · rw [same, NameMap.lookup_insert_self, Function.update_self]
    rfl
  · rw [NameMap.lookup_insert_of_ne same, Function.update_of_ne same]
    rfl

theorem lookup_saveDocument_self (c : Cluster) (d : ConfigMap) :
    (c.saveDocument d).2.documents.lookup d.mapKey = some (d.numbered (c.writes + 1)) :=
  NameMap.lookup_insert_self ..

end Cluster

/-- A request of an errand that fails is the last one. -/
theorem Errand.after_of_failed {errand : Errand} {stage : Errand.Stage} {r : Request}
    {answer : r.Answer} {e : Error} (permitted : errand.discipline.permits stage r)
    (failed : r.failure? answer = some e) :
    stage ≠ .settled ∧ errand.discipline.after stage r answer = .failed := by
  cases stage with
  | unread =>
    obtain rfl := permitted
    rcases answer with e | found
    · exact ⟨fun settled => Stage.noConfusion settled, rfl⟩
    · cases failed
  | writing found =>
    refine ⟨fun settled => Stage.noConfusion settled, ?_⟩
    rcases permits_cases permitted with ⟨target, rfl⟩ | ⟨d, rfl⟩ | ⟨d, rfl⟩ <;>
      rcases answer with e | saved
    all_goals first | rfl | cases failed
  | settled | failed => exact permitted.elim

namespace Instance

/-- What becomes of the finalizers depends on the finalizers alone. -/
theorem finalizers_finalized {i j : Instance}
    (same : i.metadata.finalizers = j.metadata.finalizers) (puts : Bool) :
    (i.finalized puts).metadata.finalizers = (j.finalized puts).metadata.finalizers := by
  have list : i.metadata.finalizerList = j.metadata.finalizerList := by
    rw [ObjectMeta.finalizerList, ObjectMeta.finalizerList, same]
  cases puts with
  | true =>
    show i.addFinalizer.metadata.finalizers = j.addFinalizer.metadata.finalizers
    rw [addFinalizer, addFinalizer, hasFinalizer, hasFinalizer, list]
    split
    · exact same
    · rfl
  | false =>
    show i.removeFinalizer.metadata.finalizers = j.removeFinalizer.metadata.finalizers
    rw [removeFinalizer, removeFinalizer, list]

/-- The course of an attempt that has just found the instance. -/
def outset (j : Instance) : Course := ⟨j, j, .unread, .untouched⟩

theorem errand_outset_of_stays {i : Instance} (stays : i.phase ≠ .deleting) :
    i.outset.errand = i.putting := by
  have puts : i.outset.puts = true := decide_eq_true stays
  rw [Course.errand, puts]
  rfl

theorem errand_outset_of_goes {i : Instance} (goes : i.phase = .deleting) :
    i.outset.errand = i.removing := by
  have puts : i.outset.puts = false := decide_eq_false (not_not.2 goes)
  rw [Course.errand, puts]
  rfl

/-- Either errand of an instance goes to the document that the instance names. -/
theorem target_errand_outset (i : Instance) : i.outset.errand.target = i.target := by
  rw [Course.errand, Instance.errand]
  split <;> rfl

/-- What the instance says once it is in line. -/
def settledReadiness (j : Instance) : Bool × Reason :=
  if j.phase = .deleting then (false, .removing) else (true, .adding)

/-- What the finalizers of the instance are to be once they were written. -/
def finalizersAfter (j : Instance) : FinalizerStage → Option (List String)
  | .untouched => j.metadata.finalizers
  | _ => (j.finalized j.outset.puts).metadata.finalizers

/-- By how much the gauge has moved. -/
def gaugeAfter (j : Instance) : FinalizerStage → Int64
  | .counted => Int64.ofInt (if j.outset.puts then 1 else -1)
  | _ => 0

end Instance

namespace Course

/-- What a cluster holds, and the gauge shows, in the course of an attempt that nobody disturbs. -/
structure Alone (before : Cluster) (gauge : Int64) (j : Instance) (c : Course) (now : Cluster)
    (own : ControllerState) : Prop where
  found : c.found = j
  continues : c.hand.Continues j
  finalizers : c.hand.metadata.finalizers = j.finalizersAfter c.finalizer
  stored : now.instances.lookup j.key = if c.hand.stays then some c.hand else none
  gauge : own.metrics.instances = gauge + j.gaugeAfter c.finalizer
  settled : c.stage = .settled → now.data = j.outset.errand.revise before.data
  unsettled : c.stage ≠ .settled → now.data = before.data
  touched : c.finalizer ≠ .untouched → c.stage = .settled ∧ j.outset.marks = true
  named : ∀ d, now.documents.lookup j.target.mapKey = some d → d.mapKey = j.target.mapKey
  writing : ∀ found, c.stage = .writing found → found = now.documents.lookup j.target.mapKey

namespace Alone

variable {before now : Cluster} {gauge : Int64} {j : Instance} {c : Course} {own : ControllerState}
  {r : Request}

/-- The errand is that of the version the attempt was begun with: the one in hand has the same
spec. -/
theorem errand (alone : Alone before gauge j c now own) : c.errand = j.outset.errand := by
  rw [Course.errand, puts, alone.found]
  exact alone.continues.errand _

theorem target (alone : Alone before gauge j c now own) : c.errand.target = j.target :=
  alone.errand ▸ j.target_errand_outset

/-- While the finalizer is untouched, the version in hand stays in the cluster if the first one
did. -/
theorem stays (alone : Alone before gauge j c now own) (untouched : c.finalizer = .untouched) :
    c.hand.stays = j.stays := by
  rw [Instance.stays, Instance.stays, Instance.isDeleting, Instance.isDeleting,
    alone.continues.deletion, ObjectMeta.finalizerList, alone.finalizers, untouched]
  rfl

/-- While the finalizer is untouched, whether it is to be written is as it was at the outset. -/
theorem marks (alone : Alone before gauge j c now own) (untouched : c.finalizer = .untouched) :
    c.marks = j.outset.marks := by
  rw [Course.marks, Course.marks, alone.found, Instance.hasFinalizer, ObjectMeta.finalizerList,
    alone.finalizers, untouched]
  rfl

/-- While the finalizer is as it was found, the instance is stored as it is in hand. -/
theorem stored_hand (alone : Alone before gauge j c now own) (stays : j.stays = true)
    (untouched : c.finalizer = .untouched) : now.instances.lookup c.hand.key = some c.hand := by
  rw [alone.continues.key, alone.stored, if_pos ((alone.stays untouched).trans stays)]

/-! ## One request -/

/-- A step of the errand, after which the document is as it was. -/
theorem of_failed (alone : Alone before gauge j c now own) (unsettled : c.stage ≠ .settled) :
    Alone before gauge j { c with stage := .failed } now own :=
  { alone with
    settled := fun settled => nomatch settled
    unsettled := fun _ => alone.unsettled unsettled
    touched := fun touched => absurd (alone.touched touched).1 unsettled
    writing := fun _ writing => nomatch writing }

/-- A request that fails changes nothing. -/
theorem refused (alone : Alone before gauge j c now own) (permitted : c.Permits r)
    {answer : r.Answer} {e : Error} (failed : r.failure? answer = some e) :
    Alone before gauge j (c.after r answer) now own ∧ (c.after r answer).hand = c.hand := by
  cases r with
  | record | namespaceLabels => cases failed
  | updateStatus | updateInstance =>
    rcases answer with e | saved
    · exact ⟨alone, rfl⟩
    · cases failed
  | getInstance | getDocument | createDocument | updateDocument =>
    obtain ⟨unsettled, fails⟩ := Errand.after_of_failed permitted failed
    show Alone before gauge j { c with stage := c.errand.discipline.after c.stage _ answer } now own ∧
      c.hand = c.hand
    rw [fails]
    exact ⟨alone.of_failed unsettled, rfl⟩

/-- The instance is stored with another status. -/
theorem reported (alone : Alone before gauge j c now own) (status : Option InstanceStatus) :
    Alone before gauge j
      { c with hand := ({ c.hand with status := status }).numbered (now.writes + 1) }
      (now.saveInstance { c.hand with status := status }).2 own :=
  { alone with
    continues := { alone.continues with }
    stored := by
      have saved := now.lookup_saveInstance_self { c.hand with status := status }
      rw [← alone.continues.key]
      exact saved }

/-- The instance is stored with its finalizer as it is to be. -/
theorem marked (alone : Alone before gauge j c now own) (untouched : c.finalizer = .untouched)
    (settled : c.stage = .settled) (marks : c.marks = true) :
    Alone before gauge j
      { c with
        hand := ({ c.hand with
          metadata.finalizers := (c.hand.finalized c.puts).metadata.finalizers }).numbered
            (now.writes + 1)
        finalizer := .written }
      (now.saveInstance { c.hand with
        metadata.finalizers := (c.hand.finalized c.puts).metadata.finalizers }).2 own :=
  { alone with
    continues := { alone.continues with }
    finalizers := by
      have puts : c.puts = j.outset.puts := by rw [Course.puts, alone.found]; rfl
      have same : c.hand.metadata.finalizers = j.metadata.finalizers := by
        rw [alone.finalizers, untouched]
        rfl
      rw [puts]
      exact Instance.finalizers_finalized same _
    stored := by
      have saved := now.lookup_saveInstance_self { c.hand with
        metadata.finalizers := (c.hand.finalized c.puts).metadata.finalizers }
      rw [← alone.continues.key]
      exact saved
    gauge := by
      rw [alone.gauge, untouched]
      rfl
    touched := fun _ => ⟨settled, (alone.marks untouched).symm.trans marks⟩ }

/-- The errand read its document. -/
theorem documentRead (alone : Alone before gauge j c now own) (unsettled : c.stage ≠ .settled) :
    Alone before gauge j
      { c with stage := c.errand.read (now.documents.lookup c.errand.target.mapKey) } now own :=
  { alone with
    settled := fun settled => by
      -- There is nothing to write, so the revised document is the one there is.
      have idle : c.errand.revised (now.data c.errand.target.mapKey) =
          now.data c.errand.target.mapKey :=
        Errand.revised_of_write?_eq_none (Errand.write?_eq_none_of_read settled)
      rw [← alone.unsettled unsettled, ← alone.errand, Errand.revise, idle,
        Function.update_eq_self]
    unsettled := fun _ => alone.unsettled unsettled
    touched := fun touched => absurd (alone.touched touched).1 unsettled
    writing := fun found writing => by
      have next : c.errand.read (now.documents.lookup c.errand.target.mapKey) = .writing found :=
        writing
      rw [alone.target] at next
      exact (Errand.eq_of_read next).symm }

/-- The errand wrote its document. -/
theorem documentWritten (alone : Alone before gauge j c now own) (unsettled : c.stage ≠ .settled)
    {d : ConfigMap} (name : d.mapKey = j.target.mapKey)
    (revised : c.errand.revised ((now.documents.lookup j.target.mapKey).map (·.data)) =
      some d.data) :
    Alone before gauge j { c with stage := .settled } (now.saveDocument d).2 own :=
  { alone with
    settled := fun _ => by
      rw [Cluster.data_saveDocument, Errand.revise, ← alone.errand, alone.target, name, ← revised,
        ← alone.unsettled unsettled]
      rfl
    unsettled := fun never => (never rfl).elim
    touched := fun touched => absurd (alone.touched touched).1 unsettled
    named := fun d' found => by
      rw [← name, Cluster.lookup_saveDocument_self] at found
      exact (Option.some.inj found) ▸ name
    writing := fun _ writing => nomatch writing }

/-- The cluster answers a request of the errand with a success. -/
theorem errandServed (alone : Alone before gauge j c now own)
    (permitted : c.errand.discipline.permits c.stage r) :
    Alone before gauge j
        { c with stage := c.errand.discipline.after c.stage r (Cluster.handle r now).1 }
        (Cluster.handle r now).2 own ∧
      r.failure? (Cluster.handle r now).1 = none := by
  cases stage : c.stage with
  | unread =>
    rw [stage] at permitted
    obtain rfl := permitted
    exact ⟨alone.documentRead (by simp [stage]), rfl⟩
  | writing found =>
    rw [stage] at permitted
    have unsettled : c.stage ≠ .settled := by simp [stage]
    have isFound := alone.writing found stage
    obtain ⟨d, revised, ⟨rfl, rfl, name⟩ | ⟨d', rfl, rfl, same⟩⟩ := Errand.exists_written permitted
    · rw [alone.target] at name
      have answered : Cluster.handle (.createDocument d) now = _ :=
        Cluster.createDocument_of_missing (name ▸ isFound.symm)
      rw [answered]
      rw [isFound] at revised
      exact ⟨alone.documentWritten unsettled name revised, rfl⟩
    · have name : d.mapKey = j.target.mapKey := by
        rw [← alone.named d' isFound.symm, ConfigMap.mapKey, same]
        rfl
      have answered : Cluster.handle (.updateDocument d) now = _ :=
        Cluster.updateDocument_of_stored (name ▸ isFound.symm) same
      rw [answered]
      rw [isFound] at revised
      exact ⟨alone.documentWritten unsettled name revised, rfl⟩
  | settled | failed =>
    rw [stage] at permitted
    exact permitted.elim

/-- The cluster answers a request of the attempt with a success. -/
theorem served (alone : Alone before gauge j c now own) (stays : j.stays = true)
    (untouched : c.finalizer = .untouched) (permitted : c.Permits r) :
    Alone before gauge j (c.after r (Cluster.handle r now).1) (Cluster.handle r now).2 own ∧
      r.failure? (Cluster.handle r now).1 = none ∧ r.keepsStatus (Cluster.handle r now).1 = true ∧
      (c.after r (Cluster.handle r now).1).hand = (r.saved? (Cluster.handle r now).1).getD c.hand := by
  have stored := alone.stored_hand stays untouched
  cases r with
  | record => exact ⟨alone, rfl, rfl, rfl⟩
  | updateStatus given =>
    obtain ⟨status, reports, -⟩ := permitted
    have answered : Cluster.handle (.updateStatus given) now = _ :=
      Cluster.updateStatus_of_stored stored reports.1
    rw [answered]
    exact ⟨alone.reported given.status, rfl, decide_eq_true rfl, rfl⟩
  | updateInstance given =>
    obtain ⟨settled, marks, rfl⟩ := permitted
    have answered : Cluster.handle (.updateInstance (c.hand.finalized c.puts)) now = _ :=
      Cluster.updateInstance_of_stored stored (Hand.finalized_sameVersion c.puts c.hand)
    rw [answered]
    refine ⟨alone.marked untouched settled marks, rfl, decide_eq_true ?_, rfl⟩
    obtain ⟨finalizers, alike⟩ := c.hand.finalized_butFinalizers c.puts
    rw [alike]
    rfl
  | getInstance | namespaceLabels =>
    rcases Errand.permits_cases permitted with ⟨_, never⟩ | ⟨_, never⟩ | ⟨_, never⟩ <;> cases never
  | getDocument | createDocument | updateDocument =>
    obtain ⟨alone, success⟩ := alone.errandServed permitted
    exact ⟨alone, success, rfl, rfl⟩

/-- A question changes nothing but the gauge, and that if the finalizer is to be counted. -/
theorem asked (alone : Alone before gauge j c now own) {q : Question} (allowed : q.gauge? = c.due?) :
    Alone before gauge j c.told now (own.answer q).2 := by
  by_cases written : c.finalizer = .written
  · have puts : c.puts = j.outset.puts := by rw [Course.puts, alone.found]; rfl
    have moved : (own.answer q).2.metrics.instances =
        own.metrics.instances + Int64.ofInt (if c.puts then 1 else -1) :=
      instances_answer_of_gauge (allowed.trans (if_pos written))
    rw [told, if_pos written]
    exact { alone with
      finalizers := by
        rw [alone.finalizers, written]
        rfl
      gauge := by
        rw [moved, alone.gauge, written, puts, Int64.add_assoc]
        exact congrArg (gauge + ·) (Int64.zero_add _)
      touched := fun _ => alone.touched (by simp [written]) }
  · rw [told, if_neg written]
    have same : (own.answer q).2.metrics.instances = own.metrics.instances :=
      instances_answer_of_other (allowed.trans (if_neg written))
    exact { alone with gauge := same.trans alone.gauge }

end Alone

end Course

/-! ## The whole attempt -/

namespace Request

variable {r : Request} {answer : r.Answer}

/-- A request that fails hands back no version, and no status that differs from the one sent. -/
theorem saved?_of_failure {e : Error} (failed : r.failure? answer = some e) :
    r.saved? answer = none ∧ r.keepsStatus answer = true := by
  cases r with
  | updateInstance | updateStatus =>
    rcases answer with e | saved
    · exact ⟨rfl, rfl⟩
    · cases failed
  | _ => exact ⟨rfl, rfl⟩

/-- A request that succeeds is no cause of a failure. -/
theorem cause?_of_success (success : r.failure? answer = none) :
    r.cause? answer = none ∧ r.unreported? answer = none := by
  cases r with
  | getInstance | namespaceLabels | record => exact ⟨rfl, rfl⟩
  | _ =>
    rcases answer with e | value
    · cases success
    · exact ⟨rfl, rfl⟩

end Request

/-- What an account shows of a course, and of what is still to come, in a trial that nobody
disturbs. -/
structure Account.Follows (calm : Prop) (c : Course) (a : Account) (t : Trial) : Prop where
  lone : t.Lone
  hand : a.hand = c.hand
  kept : a.kept = true
  calm : calm → t.Calm ∧ a.causes = [] ∧ a.unreported = []

namespace Course.Alone

variable {before : Cluster} {gauge : Int64} {j : Instance} {c : Course} {own : ControllerState}
  {n : InstanceName} {a : Account} {t : Trial} {r : Request} {calm : Prop}

/-- A request within the attempt. -/
theorem permits_of_both
    (permitted : ((courseConduct .attempt n).both accountConduct).permits (.under c, a) r) :
    c.finalizer = .untouched ∧ c.Permits r ∧
      ∀ answer, (courseConduct .attempt n).after (.under c) r answer = .under (c.after r answer) := by
  obtain ⟨⟨counted, may⟩, reads⟩ := permitted
  cases r with
  | getInstance => exact reads.elim
  | namespaceLabels => cases may
  | _ => exact ⟨may.1, may.2, fun _ => rfl⟩

/-- One request of an attempt that nobody disturbs, in a trial. Either the cluster answers it with a
success, and both the cluster and the account move on as the course says, or the trial lets it fail,
and then nothing has changed and the trial was not a calm one. -/
theorem answered (alone : Alone before gauge j c t.cluster own) (follows : a.Follows calm c t)
    (stays : j.stays = true) (untouched : c.finalizer = .untouched) (permitted : c.Permits r) :
    Alone before gauge j (c.after r (Trial.handle r t).1) (Trial.handle r t).2.cluster own ∧
      (a.after r (Trial.handle r t).1).Follows calm (c.after r (Trial.handle r t).1)
        (Trial.handle r t).2 := by
  have within := Trial.within_handle t r
  rcases Trial.handle_cases follows.lone r with same | ⟨stormy, ⟨e, failed⟩, same⟩
  · -- The cluster answers as if nothing could fail.
    obtain ⟨answer, cluster⟩ := Prod.ext_iff.1 same
    dsimp only at answer cluster
    rw [answer, cluster]
    obtain ⟨alone', success, status, hand⟩ := alone.served stays untouched permitted
    obtain ⟨noCause, noReport⟩ := Request.cause?_of_success success
    refine ⟨alone', follows.lone.within within, ?_, ?_, fun isCalm => ?_⟩
    · rw [hand, ← follows.hand]
      rfl
    · show (a.kept && r.keepsStatus _) = true
      rw [follows.kept, status]
      rfl
    · obtain ⟨quiet, causes, unreported⟩ := follows.calm isCalm
      refine ⟨quiet.within within, ?_, ?_⟩
      · show a.causes ++ (r.cause? _).toList = []
        rw [causes, noCause]
        rfl
      · show a.unreported ++ (r.unreported? _).toList = []
        rw [unreported, noReport]
        rfl
  · rw [same]
    obtain ⟨alone', hand⟩ := alone.refused permitted failed
    obtain ⟨noSave, status⟩ := Request.saved?_of_failure failed
    refine ⟨alone', follows.lone.within within, ?_, ?_, fun isCalm => ?_⟩
    · show (r.saved? _).getD a.hand = _
      rw [noSave, hand]
      exact follows.hand
    · show (a.kept && r.keepsStatus _) = true
      rw [follows.kept, status]
      rfl
    · exact absurd (follows.calm isCalm).1 stormy

/-- An attempt that has just found the stored instance. It has not touched the cluster, so all that
is asked for is that the instance is stored as it was found. -/
theorem outset (stays : j.stays = true) (stored : before.instances.lookup j.key = some j)
    (named : ∀ d, before.documents.lookup j.target.mapKey = some d → d.mapKey = j.target.mapKey)
    (own : ControllerState) :
    Alone before own.metrics.instances j j.outset before own where
  found := rfl
  continues := .refl j
  finalizers := rfl
  stored := stored.trans (if_pos stays).symm
  gauge := (Int64.add_zero _).symm
  settled settled := nomatch settled
  unsettled _ := rfl
  touched touched := absurd rfl touched
  named := named
  writing _ writing := nomatch writing

end Course.Alone

/-- The attempt is somewhere in its course, with nobody else about. -/
def Standing.Alone (before : Cluster) (gauge : Int64) (j : Instance) (calm : Prop)
    (g : Standing × Account) (t : Trial) (own : ControllerState) : Prop :=
  ∃ c, g.1 = .under c ∧ c.Alone before gauge j t.cluster own ∧ g.2.Follows calm c t

namespace Standing.Alone

variable {before : Cluster} {gauge : Int64} {j : Instance} {own : ControllerState}
  {n : InstanceName} {g : Standing × Account} {t : Trial} {calm : Prop}

/-- An attempt that may send the request is under way, with its finalizer untouched, so the answer
takes it to the next point of its course. -/
theorem answered (alone : Standing.Alone before gauge j calm g t own) (stays : j.stays = true)
    {r : Request} (permitted : ((courseConduct .attempt n).both accountConduct).permits g r) :
    Standing.Alone before gauge j calm
      (((courseConduct .attempt n).both accountConduct).after g r (Trial.handle r t).1)
      (Trial.handle r t).2 own := by
  obtain ⟨g, a⟩ := g
  obtain ⟨c, rfl, alone, follows⟩ := alone
  obtain ⟨untouched, may, after⟩ := Course.Alone.permits_of_both permitted
  obtain ⟨alone', follows'⟩ := alone.answered follows stays untouched may
  exact ⟨_, after _, alone', follows'⟩

/-- A question takes the attempt to the next point of its course, and its account stays the same. -/
theorem asked (alone : Standing.Alone before gauge j calm g t own) {q : Question}
    (allowed : ((courseConduct .attempt n).both accountConduct).allows g q) :
    Standing.Alone before gauge j calm
      (((courseConduct .attempt n).both accountConduct).told g q (own.answer q).1) t
      (own.answer q).2 := by
  obtain ⟨g, a⟩ := g
  obtain ⟨c, rfl, alone, follows⟩ := alone
  refine ⟨c.told, rfl, alone.asked allowed.1, follows.lone, ?_, follows.kept, follows.calm⟩
  have hand : a.hand = c.hand := follows.hand
  show a.hand = c.told.hand
  rw [hand, Course.told]
  split <;> rfl

end Standing.Alone

/-- An attempt that is begun with the stored instance comes to some point of its course, and to the
end if no request fails. -/
theorem Course.Alone.exists_course {before : Cluster} {gauge : Int64} {j : Instance}
    {own : ControllerState} {n : InstanceName} {t : Trial} {p : Program (Result Action)}
    {ready : Bool × Reason}
    (course : p.Conforms (courseConduct .attempt n) Standing.Ends (.under j.outset))
    (account : p.Conforms accountConduct (Account.Ends j ready) { hand := j }) (lone : t.Lone)
    (alone : Alone before gauge j j.outset t.cluster own) (stays : j.stays = true) :
    ∃ c, Alone before gauge j c (p.run Trial.handle t own).2.1.cluster
        (p.run Trial.handle t own).2.2 ∧
      c.finalizer ≠ .written ∧ (t.Calm → c.Done ∧ c.hand.readiness = some ready) := by
  have begun : Standing.Alone before gauge j t.Calm (.under j.outset, { hand := j }) t own :=
    ⟨j.outset, rfl, alone, lone, rfl, rfl, fun calm => ⟨calm, rfl, rfl⟩⟩
  obtain ⟨⟨g, a⟩, ⟨c, rfl, alone, follows⟩, ends, accounts⟩ :=
    Program.Conforms.run (fun _ => Standing.Alone before gauge j t.Calm)
      (fun alone permitted => alone.answered stays permitted)
      (fun alone allowed => alone.asked allowed) (course.both account) [] begun
  refine ⟨c, alone, fun written => ?_, fun calm => ?_⟩
  · have counted : c.due? = none := ends.1
    rw [due?, if_pos written] at counted
    cases counted
  · obtain ⟨-, causes, unreported⟩ := follows.calm calm
    cases result : (p.run Trial.handle t own).1 with
    | ok action =>
      rw [result] at ends accounts
      refine ⟨ends.2 action rfl, ?_⟩
      rw [← follows.hand]
      exact accounts.2.2 follows.kept
    | error handed =>
      rw [result] at accounts
      cases accounts with
      | status _ failed _ => cases unreported.symm.trans failed
      | cause cause failed _ _ => cases causes.symm.trans failed

/-! ## The attempt at the stored instance -/

section Stored

variable {n : InstanceName} {j : Instance} {t : Trial} {own : ControllerState}

/-- An attempt at a stored instance is in its course, and at the end of it if no request failed. -/
theorem exists_course_of_stored (lone : t.Lone)
    (stored : t.cluster.instances.lookup n.key = some j) (name : j.key = n.key)
    (stays : j.stays = true)
    (named : ∀ d, t.cluster.documents.lookup j.target.mapKey = some d →
      d.mapKey = j.target.mapKey) (own : ControllerState) :
    ∃ c, Course.Alone t.cluster own.metrics.instances j c
        ((reconcileKey n.namespaceName n.name).run Trial.handle t own).2.1.cluster
        ((reconcileKey n.namespaceName n.name).run Trial.handle t own).2.2 ∧
      c.finalizer ≠ .written ∧
      (t.Calm → c.Done ∧ c.hand.readiness = some j.settledReadiness) := by
  have alone := Course.Alone.outset stays (name ▸ stored) named own
  obtain ⟨answer, t', read, same, within, isAnswer⟩ :=
    Trial.exists_read lone n.namespaceName n.name
  rw [← same] at alone
  rw [reconcileKey_eq, Program.run_request, read]
  rcases isAnswer with rfl | ⟨stormy, e, rfl⟩
  · rw [show t.cluster.instances.lookup (Instance.keyOf n.name n.namespaceName) = some j from stored]
    have goes : ∀ {p : Program (Result Action)},
        p.Conforms (courseConduct .attempt n) Standing.Ends (.under j.outset) →
        p.Conforms accountConduct (Account.Ends j j.settledReadiness) { hand := j } →
        ∃ c, Course.Alone t.cluster own.metrics.instances j c
            ((p >>= j.conclude (Instance.keyOf n.name n.namespaceName)).run
              Trial.handle t' own).2.1.cluster
            ((p >>= j.conclude (Instance.keyOf n.name n.namespaceName)).run
              Trial.handle t' own).2.2 ∧
          c.finalizer ≠ .written ∧
          (t.Calm → c.Done ∧ c.hand.readiness = some j.settledReadiness) := by
      intro p course account
      obtain ⟨c, alone, counted, done⟩ :=
        Course.Alone.exists_course course account (lone.within within) alone stays
      refine ⟨c, ?_, counted, fun calm => done (calm.within within)⟩
      rw [conclude_run_stores, ← same]
      exact { alone with gauge := by rw [conclude_run_metrics]; exact alone.gauge }
    by_cases phase : j.phase = .deleting
    · have ready : j.settledReadiness = (false, .removing) := if_pos phase
      simp only [phase, if_true]
      exact goes (Course.cleanup_conforms phase).course (ready ▸ Account.cleanup_conforms j)
    · have ready : j.settledReadiness = (true, .adding) := if_neg phase
      simp only [phase, if_false]
      exact goes (Course.apply_conforms phase).course (ready ▸ Account.apply_conforms j)
  · exact ⟨j.outset, same ▸ alone, fun written => FinalizerStage.noConfusion written,
      fun calm => absurd calm stormy⟩

/-- An attempt at an instance that is not stored changes nothing. -/
theorem run_of_missing (lone : t.Lone) (missing : t.cluster.instances.lookup n.key = none)
    (own : ControllerState) :
    ((reconcileKey n.namespaceName n.name).run Trial.handle t own).2.1.cluster = t.cluster ∧
      ((reconcileKey n.namespaceName n.name).run Trial.handle t own).2.2.metrics = own.metrics := by
  obtain ⟨answer, t', read, same, -, isAnswer⟩ := Trial.exists_read lone n.namespaceName n.name
  rw [reconcileKey_eq, Program.run_request, read]
  rcases isAnswer with rfl | ⟨-, e, rfl⟩
  · rw [show t.cluster.instances.lookup (Instance.keyOf n.name n.namespaceName) = none from missing]
    exact ⟨same, rfl⟩
  · exact ⟨same, rfl⟩

end Stored

end StateMetrics
