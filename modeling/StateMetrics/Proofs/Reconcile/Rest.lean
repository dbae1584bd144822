import StateMetrics.Proofs.Reconcile.Undisturbed

/-!
# Where attempts come to rest

An attempt leaves its instance in line, if the block can be found again; the next one at most states
that there was nothing to do; all further ones write nothing (`InstanceName.rests_after_two_calls_iff`).
What the controller writes wakes it up again, so it is told of its own writes. That comes to an end
for any block: a version that it remembers is dropped unless more than the status has changed
(`Settings.stopsWithin_three`).
-/

namespace StateMetrics

open Program

/-! ## Nothing left to be done -/

/-- The instance is stored, and there is nothing to be written at its document or its finalizer. -/
structure Instance.InLine (i : Instance) (c : Cluster) : Prop where
  stored : c.instances.lookup i.key = some i
  named : ∀ d, c.documents.lookup i.target.mapKey = some d → d.mapKey = i.target.mapKey
  idle : i.outset.errand.write? (c.documents.lookup i.target.mapKey) = none
  unmarked : i.outset.marks = false

/-- The instance states that there was nothing to be done. -/
def Instance.StatesIdle (i : Instance) (c : Cluster) : Prop :=
  i.States i.settledReadiness.1 i.settledReadiness.2 (c.idleMessage i)

namespace Cluster.Attempted

variable {c c' : Cluster} {i j : Instance}

/-- An attempt leaves the finalizer as it is to be. -/
theorem unmarked (came : c.Attempted i j c') : j.outset.marks = false := by
  have finalizers := came.finalizers
  cases marks : i.outset.marks with
  | false =>
    rw [Instance.finalStage, marks] at finalizers
    rw [came.continues.marks finalizers, marks]
  | true =>
    rw [Instance.finalStage, marks] at finalizers
    have settled : j.metadata.finalizers = (i.finalized i.outset.puts).metadata.finalizers :=
      finalizers
    refine Instance.marks_of_hasFinalizer ?_
    rw [came.continues.puts, Instance.hasFinalizer, ObjectMeta.finalizerList, settled]
    exact i.hasFinalizer_refinalized i.outset.puts none

/-- An attempt leaves the config map of its target under its name. -/
theorem named (came : c.Attempted i j c') (d : ConfigMap)
    (found : c'.documents.lookup j.target.mapKey = some d) : d.mapKey = j.target.mapKey := by
  have named := came.carries.named
  rw [i.target_errand_outset, ← came.continues.target] at named
  exact named d found

/-- What an attempt leaves in the store is in line, if there is nothing to be written any more. -/
theorem inLine (came : c.Attempted i j c') {k : Instance}
    (stored : c'.instances.lookup i.key = some k)
    (idle : i.outset.errand.write? (c'.documents.lookup i.target.mapKey) = none) :
    k.Continues i ∧ k.InLine c' := by
  obtain rfl := came.only k stored
  exact ⟨came.continues, {
    stored := came.continues.key ▸ stored
    named := came.named
    idle := by
      rw [came.continues.errand_outset, came.continues.target]
      exact idle
    unmarked := came.unmarked }⟩

/-- So is what an attempt leaves whose block can be found again. -/
theorem inLine_of_closed (came : c.Attempted i j c') {k : Instance}
    (stored : c'.instances.lookup i.key = some k) (sound : i.outset.errand.Sound)
    (closed : i.outset.errand.closed = true)
    (sole : Block.Sole i.outset.errand.key.toList
      (i.outset.errand.textIn (c.data i.outset.errand.target.mapKey)).toList) :
    k.Continues i ∧ k.InLine c' := by
  refine came.inLine stored ?_
  have idle := came.carries.idle sound closed sole
  rwa [i.target_errand_outset] at idle

/-- An attempt at an instance that is in line leaves it so, and the instance states it then. -/
theorem inLine_of_inLine (came : c.Attempted i j c') (inLine : i.InLine c) {k : Instance}
    (stored : c'.instances.lookup i.key = some k) :
    k.Continues i ∧ k.InLine c' ∧ k.StatesIdle c' := by
  have documents : c'.documents = c.documents := by
    refine came.carries.kept ?_
    rw [i.target_errand_outset]
    exact inLine.idle
  obtain ⟨continues, inLine'⟩ := came.inLine stored (documents ▸ inLine.idle)
  refine ⟨continues, inLine', ?_⟩
  obtain rfl := came.only k stored
  have message : c'.idleMessage k = c.idleMessage i := by
    have goes : k.phase = .deleting ↔ i.phase = .deleting := by
      rw [Instance.phase_eq_deleting_iff, Instance.phase_eq_deleting_iff, continues.isDeleting]
    rw [Cluster.idleMessage, Cluster.idleMessage, documents, continues.target]
    simp only [goes]
  rw [Instance.StatesIdle, continues.settledReadiness, message]
  exact came.states inLine.idle inLine.unmarked

end Cluster.Attempted

namespace Instance.InLine

variable {n : InstanceName} {c : Cluster} {i : Instance}

/-- An attempt at an edited instance that is in line and says so writes nothing. -/
theorem passes_update (inLine : i.InLine c) (states : i.StatesIdle c)
    (stays : i.phase ≠ .deleting) (own : ControllerState) : i.update.Passes c own (.ok ()) own := by
  obtain ⟨outcome, -, -, -, idle⟩ := Cluster.exists_run_addToDocument stays inLine.named own
  have write := inLine.idle
  rw [Instance.errand_outset_of_stays stays] at write
  obtain ⟨passes, message⟩ := idle write
  rw [StatesIdle, settledReadiness, if_neg stays, ← message] at states
  refine (passes_tell ..).bind (passes.bind ?_)
  exact (passes_tell ..).bind ((Cluster.passes_writeReady states c own).bind (.done _ c own))

/-- An attempt at an instance that is to go, is in line and says so writes nothing. -/
theorem passes_cleanup (inLine : i.InLine c) (states : i.StatesIdle c)
    (goes : i.phase = .deleting) (own : ControllerState) :
    i.cleanup.Passes c own (.ok .awaitChange) (own.answer .noteActivity).2 := by
  obtain ⟨outcome, -, -, -, idle⟩ := Cluster.exists_run_removeFromDocument goes inLine.named
    (own.answer .noteActivity).2
  have write := inLine.idle
  rw [Instance.errand_outset_of_goes goes] at write
  obtain ⟨passes, message⟩ := idle write
  rw [StatesIdle, settledReadiness, if_pos goes, ← message] at states
  have lacks : i.hasFinalizer = false := by
    have unmarked := inLine.unmarked
    simpa [Course.marks, Instance.outset, goes] using unmarked
  refine (passes_inquire .noteActivity c own).bind ((passes_tell ..).bind (passes.bind ?_))
  refine (passes_tell ..).bind ((Cluster.passes_writeReady states c _).bind ?_)
  dsimp only
  rw [lacks]
  exact .done _ c _

/-- An attempt at an instance that is in line and states so writes nothing. -/
theorem passes (inLine : i.InLine c) (states : i.StatesIdle c) (name : i.key = n.key)
    (own : ControllerState) :
    ∃ own', (reconcileKey n.namespaceName n.name).Passes c own (.ok .awaitChange) own' ∧
      own'.metrics = own.metrics := by
  have attempt : (if i.phase = .deleting then i.cleanup else i.apply).Passes c own
      (.ok .awaitChange) (own.answer .noteActivity).2 := by
    split
    · next goes => exact inLine.passes_cleanup states goes own
    · next stays =>
      have known : i.phase ≠ .creating := by
        intro new
        have unmarked := inLine.unmarked
        simp [Course.marks, Instance.outset, new] at unmarked
      refine (passes_inquire .noteActivity c own).bind ?_
      rw [if_neg known]
      exact (inLine.passes_update states stays _).bind (.done _ c _)
  have read := passes_send (r := .getInstance n.namespaceName n.name) rfl c own
  have stored : c.instances.lookup n.key = some i := name ▸ inLine.stored
  have found : (Cluster.handle (.getInstance n.namespaceName n.name) c).1 = .ok (some i) :=
    congrArg Except.ok stored
  rw [found] at read
  have concludes : ∃ own', (i.conclude n.key (.ok .awaitChange)).Passes c
      (own.answer .noteActivity).2 (.ok .awaitChange) own' ∧ own'.metrics = own.metrics := by
    rw [Instance.conclude]
    split
    · exact ⟨_, (passes_inquire (.remember i) c _).bind (.done _ c _), rfl⟩
    · exact ⟨_, (passes_inquire (.forget n.key) c _).bind (.done _ c _), rfl⟩
  obtain ⟨own', concludes, metrics⟩ := concludes
  rw [reconcileKey_eq]
  exact ⟨own', read.bind (attempt.bind concludes), metrics⟩

end Instance.InLine

/-- An attempt at an instance that is not stored writes nothing. -/
theorem InstanceName.passes_of_missing {n : InstanceName} {c : Cluster}
    (missing : c.instances.lookup n.key = none) (own : ControllerState) :
    (reconcileKey n.namespaceName n.name).Passes c own (.ok .awaitChange)
      (own.answer (.forget n.key)).2 := by
  have read := passes_send (r := .getInstance n.namespaceName n.name) rfl c own
  have found : (Cluster.handle (.getInstance n.namespaceName n.name) c).1 = .ok none :=
    congrArg Except.ok missing
  rw [found] at read
  rw [reconcileKey_eq]
  exact read.bind ((passes_inquire (.forget n.key) c own).bind (.done _ c _))

/-! ## Calls one after another -/

namespace InstanceName

variable {n : InstanceName} {c : Cluster} {i : Instance} {w : Cluster × ControllerState}

/-- The cluster and the controller's own state after a call for the instance of a name, with nobody
else about. -/
def reconciled (n : InstanceName) (w : Cluster × ControllerState) : Cluster × ControllerState :=
  ((reconcileKey n.namespaceName n.name).run Cluster.handle w.1 w.2).2

/-- The next call writes nothing, and it leaves the cluster and the gauge as they are. -/
structure Rests (n : InstanceName) (w : Cluster × ControllerState) : Prop where
  quiet : ∀ o ∈ (reconcileKey n.namespaceName n.name).answers Cluster.handle w.1 w.2,
    o.1.writes = false
  succeeds : ((reconcileKey n.namespaceName n.name).run Cluster.handle w.1 w.2).1 =
    .ok .awaitChange
  cluster : (n.reconciled w).1 = w.1
  gauge : (n.reconciled w).2.metrics.instances = w.2.metrics.instances

/-- There is nothing left to be done about the instance of the name. -/
def Settled (n : InstanceName) (c : Cluster) : Prop :=
  c.instances.lookup n.key = none ∨
    ∃ i : Instance, i.key = n.key ∧ i.InLine c ∧ i.StatesIdle c

/-- With nothing left to be done about the instance, the next call writes nothing. -/
theorem Settled.rests (settled : n.Settled w.1) : n.Rests w := by
  have passes : ∃ own', (reconcileKey n.namespaceName n.name).Passes w.1 w.2 (.ok .awaitChange) own' ∧
      own'.metrics = w.2.metrics := by
    rcases settled with missing | ⟨i, name, inLine, states⟩
    · exact ⟨_, passes_of_missing missing w.2, rfl⟩
    · exact inLine.passes states name w.2
  obtain ⟨own', passes, metrics⟩ := passes
  have ran : n.reconciled w = (w.1, own') := congrArg Prod.snd passes.run
  exact {
    quiet := passes.quiet
    succeeds := congrArg Prod.fst passes.run
    cluster := by rw [ran]
    gauge := by rw [ran, metrics] }

/-- What is settled stays so from call to call. -/
theorem Settled.iterate (settled : n.Settled w.1) (k : Nat) : n.Settled (n.reconciled^[k] w).1 := by
  induction k with
  | zero => exact settled
  | succ k ih =>
    rw [Function.iterate_succ_apply', ih.rests.cluster]
    exact ih

/-- One call leaves nothing to be written at the document and the finalizer of the instance, if its
block can be found again. -/
theorem inLine_of_reconciled (own : ControllerState) (stored : c.instances.lookup n.key = some i)
    (name : i.key = n.key)
    (named : ∀ d, c.documents.lookup i.target.mapKey = some d → d.mapKey = i.target.mapKey)
    (sound : i.outset.errand.Sound) (closed : i.outset.errand.closed = true)
    (sole : Block.Sole i.outset.errand.key.toList
      (i.outset.errand.textIn (c.data i.outset.errand.target.mapKey)).toList) {j : Instance}
    (left : (n.reconciled (c, own)).1.instances.lookup n.key = some j) :
    j.key = n.key ∧ j.InLine (n.reconciled (c, own)).1 := by
  obtain ⟨k, c', own', ran, came, -⟩ := exists_run_reconcileKey stored name named own
  have after : n.reconciled (c, own) = (c', own') := congrArg Prod.snd ran
  rw [after] at left ⊢
  obtain ⟨continues, inLine⟩ := came.inLine_of_closed (name ▸ left) sound closed sole
  exact ⟨continues.key.trans name, inLine⟩

/-- One more call settles an instance that is in line. -/
theorem settled_of_inLine (name : i.key = n.key) (inLine : i.InLine w.1) :
    n.Settled (n.reconciled w).1 := by
  obtain ⟨j, c', own', ran, came, -⟩ :=
    exists_run_reconcileKey (name ▸ inLine.stored) name inLine.named w.2
  have after : n.reconciled w = (c', own') := congrArg Prod.snd ran
  rw [after]
  cases left : c'.instances.lookup n.key with
  | none => exact .inl left
  | some k =>
    obtain ⟨continues, inLine', states⟩ := came.inLine_of_inLine inLine (name ▸ left)
    exact .inr ⟨k, continues.key.trans name, inLine', states⟩

/-- While the instance is to stay, each call does its errand once more. -/
theorem exists_continues (own : ControllerState) (stored : c.instances.lookup n.key = some i)
    (name : i.key = n.key)
    (named : ∀ d, c.documents.lookup i.target.mapKey = some d → d.mapKey = i.target.mapKey)
    (stays : i.isDeleting = false) (k : Nat) :
    ∃ j : Instance, j.Continues i ∧
      (n.reconciled^[k] (c, own)).1.instances.lookup n.key = some j ∧
      (∀ d, (n.reconciled^[k] (c, own)).1.documents.lookup j.target.mapKey = some d →
        d.mapKey = j.target.mapKey) ∧
      (n.reconciled^[k] (c, own)).1.data = i.outset.errand.revise^[k] c.data := by
  induction k with
  | zero => exact ⟨i, .refl i, stored, named, rfl⟩
  | succ k ih =>
    rw [Function.iterate_succ_apply', Function.iterate_succ_apply']
    generalize n.reconciled^[k] (c, own) = w at ih ⊢
    obtain ⟨j, continues, found, rightly, data⟩ := ih
    have key : j.key = n.key := continues.key.trans name
    obtain ⟨j', c', own', ran, came, -⟩ := exists_run_reconcileKey found key rightly w.2
    have after : n.reconciled w = (c', own') := congrArg Prod.snd ran
    have remains : j'.stays = true := by
      rw [Instance.stays, came.continues.isDeleting, continues.isDeleting, stays]
      rfl
    rw [after]
    refine ⟨j', came.continues.trans continues, key ▸ came.stored remains, came.named, ?_⟩
    rw [came.carries.data, continues.errand_outset, data]

/-- A block that runs into its end marker is put once more by each call. -/
theorem not_rests_of_runsOn (own : ControllerState) (stored : c.instances.lookup n.key = some i)
    (name : i.key = n.key)
    (named : ∀ d, c.documents.lookup i.target.mapKey = some d → d.mapKey = i.target.mapKey)
    (sound : i.outset.errand.Sound) (runsOn : i.outset.errand.closed = false)
    (sole : Block.Sole i.outset.errand.key.toList
      (i.outset.errand.textIn (c.data i.outset.errand.target.mapKey)).toList) (k : Nat) :
    ¬ n.Rests (n.reconciled^[k + 1] (c, own)) := by
  intro rests
  have stays : i.isDeleting = false := by
    cases deleting : i.isDeleting with
    | false => rfl
    | true => simp [i.closed_outset_errand_iff.2 (.inr deleting)] at runsOn
  obtain ⟨-, -, -, -, before⟩ := exists_continues own stored name named stays (k + 1)
  obtain ⟨-, -, -, -, behind⟩ := exists_continues own stored name named stays (k + 2)
  rw [Function.iterate_succ_apply', rests.cluster, before] at behind
  have texts := congrArg
    (fun data => (i.outset.errand.textIn (data i.outset.errand.target.mapKey)).toList.length) behind
  simp only [Errand.textIn_iterate] at texts
  have same := (Errand.length_merge_strictMono sound runsOn sole).injective texts
  omega

/-- Two calls settle an instance whose block can be found again. -/
theorem settled_of_closed (own : ControllerState) (stored : c.instances.lookup n.key = some i)
    (name : i.key = n.key)
    (named : ∀ d, c.documents.lookup i.target.mapKey = some d → d.mapKey = i.target.mapKey)
    (sound : i.outset.errand.Sound) (closed : i.outset.errand.closed = true)
    (sole : Block.Sole i.outset.errand.key.toList
      (i.outset.errand.textIn (c.data i.outset.errand.target.mapKey)).toList) :
    n.Settled (n.reconciled^[2] (c, own)).1 := by
  show n.Settled (n.reconciled (n.reconciled (c, own))).1
  cases left : (n.reconciled (c, own)).1.instances.lookup n.key with
  | none =>
    have missing : n.Settled (n.reconciled (c, own)).1 := .inl left
    rw [missing.rests.cluster]
    exact missing
  | some j =>
    obtain ⟨name', inLine⟩ := inLine_of_reconciled own stored name named sound closed sole left
    exact settled_of_inLine name' inLine

/-- After two calls for an instance every further call finds nothing to do, exactly if no part of its
block runs into the end marker or the instance is to go. -/
theorem rests_after_two_calls_iff (own : ControllerState)
    (stored : c.instances.lookup n.key = some i) (name : i.key = n.key)
    (named : ∀ d, c.documents.lookup i.target.mapKey = some d → d.mapKey = i.target.mapKey)
    (free : '\n' ∉ i.key.toList)
    (once : ∀ line ∈ [Block.beginMarker i.key.toList, Block.endMarker i.key.toList],
      (Text.splitLines (c.stores.content i.target).toList).count line ≤ 1) (k : Nat) :
    n.Rests (n.reconciled^[k + 2] (c, own)) ↔
      Block.closes i.fragment.toList = true ∨ i.isDeleting = true := by
  have sound := Instance.sound_outset_errand free
  have sole := Instance.sole_outset_errand once
  rw [← i.closed_outset_errand_iff]
  constructor
  · intro rests
    by_contra runsOn
    rw [Bool.not_eq_true] at runsOn
    exact not_rests_of_runsOn own stored name named sound runsOn sole (k + 1) rests
  · intro closed
    have settled := settled_of_closed own stored name named sound closed sole
    rw [Function.iterate_add_apply]
    exact (settled.iterate k).rests

/-- Calls for a new instance that asks for a text of one line find nothing to do from the third on. -/
theorem rests_after_two_calls_iff_of_a :
    ∃ (n : InstanceName) (c : Cluster) (i : Instance), c.instances.lookup n.key = some i ∧
      i.spec.resources = [.str "a"] ∧ ∀ k, n.Rests (n.reconciled^[k + 2] (c, {})) := by
  let n : InstanceName := ⟨"bar", "foo"⟩
  let c : Cluster := .created "a"
  let i : Instance := (Instance.newborn "foo" "a").numbered 1
  have closed : Block.closes i.fragment.toList = true := by
    rw [Instance.fragment, show i.spec.resources = [.str "a"] from rfl, Fragment.closes_str]
    decide +kernel
  refine ⟨n, c, i, rfl, rfl, fun k => ?_⟩
  exact (rests_after_two_calls_iff (n := n) (c := c) (i := i) {} rfl rfl
    (fun _ found => by cases found) (by decide +kernel) (by decide +kernel) k).2 (.inl closed)

/-- Calls for an instance that asks for a text with line breaks that ends in a line separator put the
block again and again. -/
theorem block_put_by_every_call :
    ∃ (n : InstanceName) (c : Cluster) (i : Instance), c.instances.lookup n.key = some i ∧
      i.key = n.key ∧ c.documents = [] ∧ '\n' ∉ n.key.toList ∧ i.isDeleting = false ∧
      i.spec.resources = [.str "a\nb\u2028"] ∧
      ∀ k, ¬ n.Rests (n.reconciled^[k + 2] (c, {})) := by
  let n : InstanceName := ⟨"bar", "foo"⟩
  let c : Cluster := .created "a\nb\u2028"
  let i : Instance := (Instance.newborn "foo" "a\nb\u2028").numbered 1
  have runsOn : i.outset.errand.closed = false := by
    show Block.closes i.fragment.toList = false
    rw [Instance.fragment, show i.spec.resources = [.str "a\nb\u2028"] from rfl,
      Fragment.closes_str]
    decide +kernel
  refine ⟨n, c, i, rfl, rfl, rfl, by decide +kernel, rfl, rfl, fun k => ?_⟩
  exact not_rests_of_runsOn (n := n) (c := c) (i := i) {} rfl rfl (fun _ found => by cases found)
    (Instance.sound_outset_errand (by decide +kernel)) runsOn
    (Instance.sole_outset_errand (by decide +kernel)) (k + 1)

end InstanceName

/-! ## Deliveries -/

namespace Scope

variable {c : Cluster} {own : ControllerState}

/-- Asking whether an instance is in scope writes nothing. -/
theorem exists_passes_includes (scope : Scope) (object : ObjectMeta) (c : Cluster)
    (own : ControllerState) : ∃ included, (scope.includes object).Passes c own included own := by
  rw [includes]
  split
  · cases scope.namespaceSelector with
    | none => exact ⟨true, .done true c own⟩
    | some selector =>
      have looked := passes_send (r := .namespaceLabels object.namespaceName) rfl c own
      generalize (Cluster.handle (.namespaceLabels object.namespaceName) c).1 = answer at looked
      rcases answer with e | _ | labels
      · exact ⟨false, looked.bind (.done _ c own)⟩
      · exact ⟨false, looked.bind (.done _ c own)⟩
      · exact ⟨selector.selects labels, looked.bind (.done _ c own)⟩
  · exact ⟨false, .done false c own⟩

/-- Admission writes nothing, and it forgets nothing about what it admits. -/
theorem exists_passes_admitInstance (scope : Scope) (told : Instance) (c : Cluster)
    (own : ControllerState) :
    ∃ admitted own', (scope.admitInstance told).Passes c own admitted own' ∧
      (admitted = true → own' = own ∧
        (notification (own.seen.lookup told.key) told).changed = true) := by
  have recalled := passes_inquire (.lastSeen told.key) c own
  obtain ⟨included, passes⟩ := scope.exists_passes_includes told.metadata c own
  cases changed : (notification (own.seen.lookup told.key) told).changed with
  | false =>
    refine ⟨false, own, recalled.bind ?_, fun never => nomatch never⟩
    show Program.Passes (if (notification (own.seen.lookup told.key) told).changed then _ else _) c
      own _ _
    rw [changed]
    exact .done false c own
  | true =>
    have weighed : ∃ own', (do
        if !included then inquire (.forget told.key)
        pure included : Program Bool).Passes c own included own' ∧ (included = true → own' = own) := by
      cases included with
      | true => exact ⟨own, .done true c own, fun _ => rfl⟩
      | false =>
        exact ⟨_, (passes_inquire (.forget told.key) c own).bind (.done false c _),
          fun never => nomatch never⟩
    obtain ⟨own', weighed, same⟩ := weighed
    refine ⟨included, own', recalled.bind ?_, fun admitted => ⟨same admitted, rfl⟩⟩
    show Program.Passes (if (notification (own.seen.lookup told.key) told).changed then _ else _) c
      own _ _
    rw [changed]
    exact passes.bind weighed

end Scope

/-- The controller is told of the stored version of an instance, if there is one. -/
def Settings.delivered (settings : Settings) (key : String) (w : Cluster × ControllerState) :
    Cluster × ControllerState :=
  match w.1.instances.lookup key with
  | none => w
  | some told => ((reconcile settings told).run Cluster.handle w.1 w.2).2

/-- The instance is still stored, under another version. -/
def Cluster.Moves (key : String) (c c' : Cluster) : Prop :=
  ∃ i j, c.instances.lookup key = some i ∧ c'.instances.lookup key = some j ∧
    j.metadata.resourceVersion ≠ i.metadata.resourceVersion

/-- Telling the controller again for as long as the instance moves comes to an end after at most so many
times. -/
def Settings.StopsWithin (settings : Settings) (key : String) :
    Nat → Cluster × ControllerState → Prop
  | 0, _ => False
  | k + 1, w => w.1.Moves key (settings.delivered key w).1 →
    settings.StopsWithin key k (settings.delivered key w)

namespace Settings

variable {settings : Settings} {key : String} {c : Cluster} {own : ControllerState} {i j : Instance}
  {w : Cluster × ControllerState}

/-- An attempt that succeeds is the last one of its call. -/
theorem run_retryFrom_of_ok (maxAttempts attempt : UInt32) {namespaceName name : String}
    {action : Action} {c' : Cluster} {own' : ControllerState}
    (ran : (reconcileKey namespaceName name).run Cluster.handle c own = (.ok action, c', own')) :
    (retryFrom maxAttempts attempt namespaceName name).run Cluster.handle c own =
      (.ok action, c', own') := by
  rw [retryFrom, run_bind, ran]
  rfl

/-- An admitted call whose attempt succeeds leaves what the attempt has left. -/
theorem run_reconcile_of_ok {told : Instance} {action : Action} {c' : Cluster}
    {own' : ControllerState} (admitted : (settings.scope.admitInstance told).Passes c own true own)
    (ran : (reconcileKey told.metadata.namespaceName told.metadata.anyName).run Cluster.handle c
      (own.answer (.count .runStarted)).2 = (.ok action, c', own')) :
    (reconcile settings told).run Cluster.handle c own =
      (.ok action, c', (own'.answer (.count .runFinished)).2) := by
  have retried : (reconcileWithRetry settings told.metadata.namespaceName told.metadata.anyName).run
      Cluster.handle c (own.answer (.count .runStarted)).2 = (.ok action, c', own') :=
    run_retryFrom_of_ok settings.maxAttempts 1 ran
  rw [reconcile, run_bind, admitted.run]
  show (reconcileWithRetry settings _ _ >>= _).run Cluster.handle c
    (own.answer (.count .runStarted)).2 = _
  rw [run_bind, retried]
  rfl

/-- A delivery is one attempt at the version that it is about, or it is dropped. -/
theorem delivered_cases (settings : Settings) (stored : c.instances.lookup i.key = some i)
    (named : ∀ d, c.documents.lookup i.target.mapKey = some d → d.mapKey = i.target.mapKey)
    (own : ControllerState) :
    (settings.delivered i.key (c, own)).1 = c ∨
      (Scope.notification (own.seen.lookup i.key) i).changed = true ∧ ∃ j c' own' own'',
        (reconcileKey i.metadata.namespaceName i.metadata.anyName).run Cluster.handle c own' =
          (.ok .awaitChange, c', own'') ∧
        c.Attempted i j c' ∧ (settings.delivered i.key (c, own)).1 = c' ∧
        (i.isDeleting = false → (settings.delivered i.key (c, own)).2.seen.lookup i.key = some i) := by
  have told : settings.delivered i.key (c, own) =
      ((reconcile settings i).run Cluster.handle c own).2 := by rw [delivered, stored]
  obtain ⟨admitted, own', passes, vouched⟩ := settings.scope.exists_passes_admitInstance i c own
  cases admitted with
  | false =>
    rw [told, reconcile, run_bind, passes.run]
    exact .inl rfl
  | true =>
    obtain ⟨rfl, changed⟩ := vouched rfl
    obtain ⟨j, c', own'', ran, came, remembers⟩ :=
      InstanceName.exists_run_reconcileKey (n := ⟨i.metadata.namespaceName, i.metadata.anyName⟩)
        stored rfl named (own'.answer (.count .runStarted)).2
    have whole := congrArg Prod.snd (run_reconcile_of_ok passes ran)
    rw [told, whole]
    exact .inr ⟨changed, j, c', _, own'', ran, came, rfl, remembers⟩

theorem not_moves_self (key : String) (c : Cluster) : ¬ c.Moves key c := by
  rintro ⟨i, j, before, behind, differs⟩
  obtain rfl := Option.some.inj (before.symm.trans behind)
  exact differs rfl

theorem stopsWithin_of_same (same : (settings.delivered key w).1 = w.1) (k : Nat) :
    settings.StopsWithin key (k + 1) w := by
  intro moves
  rw [same] at moves
  exact absurd moves (not_moves_self key w.1)

/-- Who stops within a number of deliveries stops within one more. -/
theorem StopsWithin.succ {k : Nat} (stops : settings.StopsWithin key k w) :
    settings.StopsWithin key (k + 1) w := by
  induction k generalizing w with
  | zero => exact stops.elim
  | succ k ih =>
    intro moves
    exact ih (stops moves)

/-- A delivery that is not the last one is an attempt, and what it leaves is delivered next. -/
theorem stopsWithin_succ (stored : c.instances.lookup i.key = some i)
    (named : ∀ d, c.documents.lookup i.target.mapKey = some d → d.mapKey = i.target.mapKey)
    (own : ControllerState) {k : Nat}
    (next : ∀ j c' own', c.Attempted i j c' → c'.instances.lookup i.key = some j →
      (i.isDeleting = false → own'.seen.lookup i.key = some i) →
      settings.StopsWithin i.key k (c', own')) :
    settings.StopsWithin i.key (k + 1) (c, own) := by
  rcases delivered_cases settings stored named own with same | ⟨-, j, c', -, -, -, came, after, seen⟩
  · exact stopsWithin_of_same same k
  · intro moves
    obtain ⟨i', j', -, left, -⟩ := moves
    generalize settings.delivered i.key (c, own) = w at after seen left ⊢
    obtain ⟨c'', own'⟩ := w
    obtain rfl : c'' = c' := after
    obtain rfl := came.only j' left
    exact next j' c'' own' came left seen

/-- What was remembered is dropped when nothing but the status has changed since. -/
theorem notification_unchanged (continues : j.Continues i)
    (labels : j.metadata.labels = i.metadata.labels)
    (finalizers : j.metadata.finalizers = i.metadata.finalizers) (stays : i.isDeleting = false) :
    (Scope.notification (some i) j).changed = false := by
  have told : Scope.notification (some i) j = .updated i.metadata j.metadata := by
    rw [Scope.notification, continues.isDeleting, stays]
    rfl
  rw [told]
  simp [Notification.changed, Notification.generationChanged, Notification.labelsChanged,
    Notification.finalizersChanged, ObjectMeta.labelMap, ObjectMeta.finalizerList,
    continues.generation, labels, finalizers]

/-- An edited instance is delivered twice at most: what is stored after the first call differs from
it in nothing that would admit another. -/
theorem stopsWithin_of_updating (known : i.phase = .updating)
    (stored : c.instances.lookup i.key = some i)
    (named : ∀ d, c.documents.lookup i.target.mapKey = some d → d.mapKey = i.target.mapKey)
    (own : ControllerState) : settings.StopsWithin i.key 2 (c, own) := by
  have stays : i.isDeleting = false := by
    have notGone : i.phase ≠ .deleting := by simp [known]
    rwa [ne_eq, Instance.phase_eq_deleting_iff, Bool.not_eq_true] at notGone
  have unmarked : i.outset.marks = false := by simp [Course.marks, Instance.outset, known]
  refine stopsWithin_succ stored named own fun j c' own' came left seen => ?_
  have finalizers := came.finalizers
  rw [Instance.finalStage, unmarked] at finalizers
  have unchanged := notification_unchanged came.continues came.labels finalizers stays
  refine stopsWithin_of_same ?_ 0
  have key := came.continues.key
  rcases delivered_cases settings (key ▸ left) came.named own' with same | ⟨changed, -⟩
  · rwa [key] at same
  · rw [key, seen stays, unchanged] at changed
    cases changed

/-- A new instance is delivered three times at most: the first call gives it its finalizer, and from
then on it counts as edited. -/
theorem stopsWithin_of_creating (new : i.phase = .creating)
    (stored : c.instances.lookup i.key = some i)
    (named : ∀ d, c.documents.lookup i.target.mapKey = some d → d.mapKey = i.target.mapKey)
    (own : ControllerState) : settings.StopsWithin i.key 3 (c, own) := by
  refine stopsWithin_succ stored named own fun j c' own' came left _ => ?_
  have known : j.phase = .updating := by
    have unmarked := came.unmarked
    have notGone : j.phase ≠ .deleting := by
      rw [ne_eq, Instance.phase_eq_deleting_iff, came.continues.isDeleting,
        ← Instance.phase_eq_deleting_iff, new]
      simp
    cases phase : j.phase with
    | deleting => exact absurd phase notGone
    | creating => simp [Course.marks, Instance.outset, phase] at unmarked
    | updating => rfl
  have key := came.continues.key
  rw [← key] at left ⊢
  exact stopsWithin_of_updating known left came.named own'

/-- Behind an instance that is in line two deliveries are left: one that states it, and one that finds
nothing to state. -/
theorem stopsWithin_of_inLine (inLine : i.InLine c) (own : ControllerState) :
    settings.StopsWithin i.key 2 (c, own) := by
  refine stopsWithin_succ inLine.stored inLine.named own fun j c' own' came left _ => ?_
  obtain ⟨continues, inLine', states⟩ := came.inLine_of_inLine inLine left
  refine stopsWithin_of_same ?_ 0
  have key := continues.key
  rcases delivered_cases settings inLine'.stored inLine'.named own' with
    same | ⟨-, k, c'', own₁, own₂, ran, -, after, -⟩
  · rwa [key] at same
  · obtain ⟨own₃, passes, -⟩ := inLine'.passes states
      (n := ⟨j.metadata.namespaceName, j.metadata.anyName⟩) rfl own₁
    have unmoved : c'' = c' := congrArg (fun ended => ended.2.1) (ran.symm.trans passes.run)
    rw [← key, after, unmoved]

/-- The controller's own writes wake it up twice at most: telling it of the stored version of an
instance, again for as long as that moved, comes to an end after three times. -/
theorem stopsWithin_three (settings : Settings) (own : ControllerState)
    (stored : c.instances.lookup key = some i) (name : i.key = key)
    (named : ∀ d, c.documents.lookup i.target.mapKey = some d → d.mapKey = i.target.mapKey)
    (free : '\n' ∉ i.key.toList)
    (once : ∀ line ∈ [Block.beginMarker i.key.toList, Block.endMarker i.key.toList],
      (Text.splitLines (c.stores.content i.target).toList).count line ≤ 1) :
    settings.StopsWithin key 3 (c, own) := by
  subst name
  cases phase : i.phase with
  | creating => exact stopsWithin_of_creating phase stored named own
  | updating => exact (stopsWithin_of_updating phase stored named own).succ
  | deleting =>
    have closed := i.closed_outset_errand_iff.2 (.inr ((Instance.phase_eq_deleting_iff i).1 phase))
    refine stopsWithin_succ stored named own fun j c' own' came left _ => ?_
    obtain ⟨continues, inLine⟩ := came.inLine_of_closed left (Instance.sound_outset_errand free) closed
      (Instance.sole_outset_errand once)
    rw [← continues.key]
    exact stopsWithin_of_inLine inLine own'

/-- The writes of the first delivery of a new instance wake the controller up again. -/
theorem stopsWithin_three_of_newborn :
    ∃ (key : String) (c : Cluster) (i : Instance), c.instances.lookup key = some i ∧
      c.Moves key (({} : Settings).delivered key (c, {})).1 ∧
      ({} : Settings).StopsWithin key 3 (c, {}) := by
  let c : Cluster := .created "a"
  let i : Instance := (Instance.newborn "foo" "a").numbered 1
  refine ⟨"foo@bar", c, i, rfl, ?_, ?_⟩
  · have version : ((({} : Settings).delivered "foo@bar" (c, {})).1.instances.lookup "foo@bar").map
        (·.metadata.resourceVersion) = some (some "5") := by decide +kernel
    obtain ⟨j, stored, isFifth⟩ := Option.map_eq_some_iff.1 version
    refine ⟨i, j, rfl, stored, ?_⟩
    rw [isFifth]
    decide
  · exact stopsWithin_three (c := c) (i := i) {} {} rfl rfl (fun _ found => by cases found)
      (by decide +kernel) (by decide +kernel)

end Settings

end StateMetrics
