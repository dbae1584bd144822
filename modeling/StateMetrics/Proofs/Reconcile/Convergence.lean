import StateMetrics.Proofs.Reconcile.Alone

/-!
# Attempts made again

Attempts at one instance, one after another, with requests that fail and nobody else about. However
far each of them came, its finalizer is written and counted once, and the document is revised once
for each that came so far (`Progress`). An attempt without failures then brings all in line
(`Converged`): the instance and the gauge are as they would be without the failures before, and so
are the documents, unless the block runs into its end marker and was put before
(`failures_leave_nothing_iff`).
-/

namespace StateMetrics

/-- The finalizers and the readiness of the stored instance of a key. -/
def Cluster.outlook (c : Cluster) (key : String) :
    Option (Option (List String) × Option (Bool × Reason)) :=
  (c.instances.lookup key).map fun i => (i.metadata.finalizers, i.readiness)

/-- The cluster and the controller's own state after an attempt at the instance of a name, with
requests that fail. -/
def InstanceName.attempt (n : InstanceName) (faults : CallPoint → List (Option Error))
    (w : Cluster × ControllerState) : Cluster × ControllerState :=
  let after := (reconcileKey n.namespaceName n.name).run Trial.handle (.failing w.1 faults) w.2
  (after.2.1.cluster, after.2.2)

namespace Instance

variable {i j : Instance}

theorem Continues.isDeleting (continues : j.Continues i) : j.isDeleting = i.isDeleting := by
  rw [Instance.isDeleting, Instance.isDeleting, continues.deletion]

theorem Continues.puts (continues : j.Continues i) : j.outset.puts = i.outset.puts := by
  refine decide_eq_decide.2 (not_congr ?_)
  show j.phase = .deleting ↔ i.phase = .deleting
  rw [phase_eq_deleting_iff, phase_eq_deleting_iff, continues.isDeleting]

/-- The attempt at a later version of the instance has the same errand. -/
theorem Continues.errand_outset (continues : j.Continues i) :
    j.outset.errand = i.outset.errand := by
  rw [Course.errand, Course.errand, continues.puts]
  exact continues.errand _

/-- A later version of the instance is to say the same in the end. -/
theorem Continues.settledReadiness (continues : j.Continues i) :
    j.settledReadiness = i.settledReadiness := by
  have same : (j.phase = .deleting) = (i.phase = .deleting) := by
    rw [phase_eq_deleting_iff, phase_eq_deleting_iff, continues.isDeleting]
  simp only [Instance.settledReadiness, same]

theorem Continues.stays (continues : j.Continues i)
    (same : j.metadata.finalizers = i.metadata.finalizers) : j.stays = i.stays := by
  rw [Instance.stays, Instance.stays, continues.isDeleting, ObjectMeta.finalizerList,
    ObjectMeta.finalizerList, same]

/-- For a later version with the same finalizers it is the same whether the finalizer is to be
written. -/
theorem Continues.marks (continues : j.Continues i)
    (same : j.metadata.finalizers = i.metadata.finalizers) : j.outset.marks = i.outset.marks := by
  have has : j.hasFinalizer = i.hasFinalizer := by
    rw [hasFinalizer, hasFinalizer, ObjectMeta.finalizerList, ObjectMeta.finalizerList, same]
  have phase : j.phase = i.phase := by
    rw [Instance.phase, Instance.phase, continues.isDeleting, continues.generation, has]
  rw [Course.marks, Course.marks]
  show (j.phase = .creating || j.phase = .deleting && j.hasFinalizer : Bool) =
    (i.phase = .creating || i.phase = .deleting && i.hasFinalizer : Bool)
  rw [phase, has]

/-- An instance that has its finalizer as it is to be gets no other. -/
theorem marks_of_hasFinalizer (has : j.hasFinalizer = j.outset.puts) : j.outset.marks = false := by
  have puts : j.outset.puts = decide (j.phase ≠ .deleting) := rfl
  show (j.phase = .creating || j.phase = .deleting && j.hasFinalizer : Bool) = false
  rw [has, puts]
  cases phase : j.phase with
  | deleting => rfl
  | creating =>
    obtain ⟨-, -, lacks⟩ := j.phase_eq_creating_iff.1 phase
    rw [lacks, puts, phase] at has
    cases has
  | updating => rfl

/-- An instance that is to go has no block that could run into its end marker. -/
theorem closed_outset_errand_iff (i : Instance) :
    i.outset.errand.closed = true ↔ Block.closes i.fragment.toList = true ∨ i.isDeleting = true := by
  have puts : i.outset.puts = !i.isDeleting := by
    show decide (i.phase ≠ .deleting) = _
    cases deleting : i.isDeleting with
    | true => simp [(phase_eq_deleting_iff i).2 deleting]
    | false => simp [phase_eq_deleting_iff, deleting]
  rw [Course.errand, puts]
  cases i.isDeleting with
  | true => exact ⟨fun _ => .inr rfl, fun _ => rfl⟩
  | false => exact ⟨.inl, fun either => either.elim id fun never => by cases never⟩

/-- Where the finalizer comes to in the end. -/
def finalStage (i : Instance) : FinalizerStage := if i.outset.marks then .counted else .untouched

/-- What the cluster shows of the instance in the end. -/
def finalOutlook (i : Instance) : Option (Option (List String) × Option (Bool × Reason)) :=
  if { i with metadata.finalizers := i.finalizersAfter i.finalStage }.stays
  then some (i.finalizersAfter i.finalStage, some i.settledReadiness) else none

end Instance

/-! ## Attempts one after another -/

/-- How far attempts at an instance have come, one after another: the finalizer, how many of them have
revised the document, and the version of the instance last found or written. -/
structure Progress (n : InstanceName) (i : Instance) (before : Cluster) (gauge : Int64)
    (stage : FinalizerStage) (k : Nat) (j : Instance) (w : Cluster × ControllerState) : Prop where
  continues : j.Continues i
  finalizers : j.metadata.finalizers = i.finalizersAfter stage
  stored : w.1.instances.lookup n.key = if j.stays then some j else none
  data : w.1.data = i.outset.errand.revise^[k] before.data
  gauge : w.2.metrics.instances = gauge + i.gaugeAfter stage
  named : ∀ d, w.1.documents.lookup i.target.mapKey = some d → d.mapKey = i.target.mapKey
  counted : stage ≠ .untouched → stage = .counted ∧ i.outset.marks = true ∧ 0 < k

/-- All is in line, after so many revisions of the document. -/
structure Converged (n : InstanceName) (i : Instance) (before : Cluster) (gauge : Int64) (k : Nat)
    (w : Cluster × ControllerState) : Prop where
  data : w.1.data = i.outset.errand.revise^[k] before.data
  gauge : w.2.metrics.instances = gauge + i.gaugeAfter i.finalStage
  outlook : w.1.outlook n.key = i.finalOutlook

namespace Progress

variable {n : InstanceName} {i j : Instance} {before : Cluster} {gauge : Int64}
  {stage : FinalizerStage} {k : Nat} {w w' : Cluster × ControllerState} {c : Course}

/-- Before the first attempt the finalizer is untouched and the document not revised. -/
theorem initial {own : ControllerState} (stored : before.instances.lookup n.key = some i)
    (stays : i.stays = true)
    (named : ∀ d, before.documents.lookup i.target.mapKey = some d → d.mapKey = i.target.mapKey) :
    Progress n i before own.metrics.instances .untouched 0 i (before, own) where
  continues := .refl i
  finalizers := rfl
  stored := stored.trans (if_pos stays).symm
  data := rfl
  gauge := (Int64.add_zero _).symm
  named := named
  counted never := absurd rfl never

/-- Once the finalizer is counted there is none to be written. -/
theorem stage_eq_untouched (progress : Progress n i before gauge stage k j w)
    (marks : j.outset.marks = true) : stage = .untouched := by
  by_contra touched
  obtain ⟨rfl, -, -⟩ := progress.counted touched
  have finalizers : j.metadata.finalizers = (i.finalized i.outset.puts).metadata.finalizers :=
    progress.finalizers
  have has : j.hasFinalizer = i.outset.puts := by
    rw [Instance.hasFinalizer, ObjectMeta.finalizerList, finalizers]
    exact i.hasFinalizer_refinalized i.outset.puts none
  rw [Instance.marks_of_hasFinalizer (has.trans progress.continues.puts.symm)] at marks
  cases marks

/-- An attempt that settles its errand has revised the document once more. -/
theorem data_of_settled (progress : Progress n i before gauge stage k j w)
    (alone : c.Alone w.1 w.2.metrics.instances j w'.1 w'.2) (settled : c.stage = .settled) :
    w'.1.data = i.outset.errand.revise^[k + 1] before.data := by
  rw [alone.settled settled, progress.continues.errand_outset, progress.data,
    Function.iterate_succ_apply']

/-- An attempt that leaves the finalizer alone. -/
theorem ofUntouched (progress : Progress n i before gauge stage k j w) (name : i.key = n.key)
    (alone : c.Alone w.1 w.2.metrics.instances j w'.1 w'.2) (untouched : c.finalizer = .untouched) :
    ∃ k', Progress n i before gauge stage k' c.hand w' ∧ (c.stage = .settled → k' = k + 1) := by
  have data : ∃ k', w'.1.data = i.outset.errand.revise^[k'] before.data ∧ k ≤ k' ∧
      (c.stage = .settled → k' = k + 1) := by
    by_cases settled : c.stage = .settled
    · exact ⟨k + 1, progress.data_of_settled alone settled, Nat.le_succ k, fun _ => rfl⟩
    · exact ⟨k, (alone.unsettled settled).trans progress.data, le_refl k,
        fun done => absurd done settled⟩
  obtain ⟨k', data, more, once⟩ := data
  have finalizers : c.hand.metadata.finalizers = j.metadata.finalizers := by
    rw [alone.finalizers, untouched]
    rfl
  refine ⟨k', ?_, once⟩
  exact {
    continues := alone.continues.trans progress.continues
    finalizers := finalizers.trans progress.finalizers
    stored := by
      rw [← name, ← progress.continues.key]
      exact alone.stored
    data := data
    gauge := by
      rw [alone.gauge, untouched, progress.gauge]
      exact Int64.add_zero _
    named := progress.continues.target ▸ alone.named
    counted := fun touched =>
      have ⟨isCounted, marks, revised⟩ := progress.counted touched
      ⟨isCounted, marks, Nat.lt_of_lt_of_le revised more⟩ }

/-- An attempt that writes the finalizer and counts it. -/
theorem ofCounted (progress : Progress n i before gauge stage k j w) (name : i.key = n.key)
    (alone : c.Alone w.1 w.2.metrics.instances j w'.1 w'.2) (counted : c.finalizer = .counted) :
    Progress n i before gauge .counted (k + 1) c.hand w' := by
  obtain ⟨settled, marks⟩ := alone.touched (by simp [counted])
  obtain rfl := progress.stage_eq_untouched marks
  have same : j.metadata.finalizers = i.metadata.finalizers := progress.finalizers
  exact {
    continues := alone.continues.trans progress.continues
    finalizers := by
      rw [alone.finalizers, counted]
      show (j.finalized j.outset.puts).metadata.finalizers = _
      rw [progress.continues.puts]
      exact Instance.finalizers_finalized same _
    stored := by
      rw [← name, ← progress.continues.key]
      exact alone.stored
    data := progress.data_of_settled alone settled
    gauge := by
      have moved : j.gaugeAfter .counted = i.gaugeAfter .counted := by
        show Int64.ofInt (if j.outset.puts then 1 else -1) = _
        rw [progress.continues.puts]
        rfl
      rw [alone.gauge, counted, moved, progress.gauge]
      exact congrArg (· + i.gaugeAfter .counted) (Int64.add_zero gauge)
    named := progress.continues.target ▸ alone.named
    counted := fun _ => ⟨rfl, (progress.continues.marks same).symm.trans marks, Nat.succ_pos k⟩ }

/-- An attempt at an instance that was taken out of the store changes nothing. -/
theorem ofMissing (progress : Progress n i before gauge stage k j w) (same : w'.1 = w.1)
    (metrics : w'.2.metrics = w.2.metrics) : Progress n i before gauge stage k j w' := by
  refine { progress with stored := ?_, data := ?_, gauge := ?_, named := ?_ }
  · rw [same]
    exact progress.stored
  · rw [same]
    exact progress.data
  · rw [metrics]
    exact progress.gauge
  · rw [same]
    exact progress.named

/-- An attempt goes on from where the ones before came to, or the instance was taken out of the
store. -/
theorem attempt_cases (progress : Progress n i before gauge stage k j w) (name : i.key = n.key)
    (faults : CallPoint → List (Option Error)) :
    (j.stays = true ∧ ∃ c : Course, c.Alone w.1 w.2.metrics.instances j (n.attempt faults w).1
        (n.attempt faults w).2 ∧ c.finalizer ≠ .written ∧
        ((Trial.failing w.1 faults).Calm →
          c.Done ∧ c.hand.readiness = some j.settledReadiness)) ∨
      j.stays = false ∧ Progress n i before gauge stage k j (n.attempt faults w) := by
  have lone := Trial.lone_failing w.1 faults
  have stored := progress.stored
  cases present : j.stays with
  | true =>
    rw [present, if_pos rfl] at stored
    exact .inl ⟨rfl, exists_course_of_stored lone stored (progress.continues.key.trans name) present
      (progress.continues.target ▸ progress.named) w.2⟩
  | false =>
    rw [present] at stored
    obtain ⟨same, metrics⟩ := run_of_missing lone stored w.2
    exact .inr ⟨rfl, progress.ofMissing same metrics⟩

/-- An attempt takes the progress on, whatever fails in it. -/
theorem attempt (progress : Progress n i before gauge stage k j w) (name : i.key = n.key)
    (faults : CallPoint → List (Option Error)) :
    ∃ stage' k' j', Progress n i before gauge stage' k' j' (n.attempt faults w) := by
  rcases progress.attempt_cases name faults with ⟨-, c, alone, counted, -⟩ | ⟨-, same⟩
  · cases finalizer : c.finalizer with
    | untouched =>
      obtain ⟨k', progress', -⟩ := progress.ofUntouched name alone finalizer
      exact ⟨_, k', _, progress'⟩
    | written => exact absurd finalizer counted
    | counted => exact ⟨_, _, _, progress.ofCounted name alone finalizer⟩
  · exact ⟨_, _, _, same⟩

/-- Attempts with any failures, one after another. -/
theorem attempts (progress : Progress n i before gauge stage k j w) (name : i.key = n.key)
    (troubles : List (CallPoint → List (Option Error))) :
    ∃ stage' k' j', Progress n i before gauge stage' k' j'
      (troubles.foldl (fun w faults => n.attempt faults w) w) := by
  induction troubles generalizing stage k j w with
  | nil => exact ⟨_, _, _, progress⟩
  | cons faults rest ih =>
    obtain ⟨stage', k', j', progress'⟩ := progress.attempt name faults
    exact ih progress'

/-- Where nothing is left to be done all is in line. -/
theorem converged (progress : Progress n i before gauge i.finalStage k j w)
    (ready : j.stays = true → j.readiness = some i.settledReadiness) :
    Converged n i before gauge k w where
  data := progress.data
  gauge := progress.gauge
  outlook := by
    have stays : { i with metadata.finalizers := i.finalizersAfter i.finalStage }.stays = j.stays :=
      have alike : j.Continues { i with metadata.finalizers := i.finalizersAfter i.finalStage } :=
        { progress.continues with }
      (alike.stays progress.finalizers).symm
    rw [Cluster.outlook, progress.stored, Instance.finalOutlook, stays]
    cases present : j.stays with
    | true => simp [progress.finalizers, ready present]
    | false => rfl

/-- An attempt in which nothing fails brings all in line. -/
theorem converges (progress : Progress n i before gauge stage k j w) (name : i.key = n.key)
    (stays : i.stays = true) (sound : i.outset.errand.Sound)
    (sole : Block.Sole i.outset.errand.key.toList
      (i.outset.errand.textIn (before.data i.outset.errand.target.mapKey)).toList) :
    Converged n i before gauge (k + 1) (n.attempt (fun _ => []) w) := by
  have final : i.outset.marks = true → FinalizerStage.counted = i.finalStage :=
    fun marks => (if_pos marks).symm
  rcases progress.attempt_cases name fun _ => [] with
    ⟨-, c, alone, counted, calm⟩ | ⟨gone, same⟩
  · obtain ⟨done, ready⟩ := calm (Trial.calm_failing w.1)
    rw [progress.continues.settledReadiness] at ready
    rcases done.finalizer with counted | ⟨untouched, unmarked⟩
    · have progress' := progress.ofCounted name alone counted
      rw [final (progress'.counted (by simp)).2.1] at progress'
      exact progress'.converged fun _ => ready
    · obtain ⟨k', progress', once⟩ := progress.ofUntouched name alone untouched
      obtain rfl := once done.stage
      have isFinal : stage = i.finalStage := by
        by_cases touched : stage = .untouched
        · subst touched
          have marks : i.outset.marks = false := by
            rw [← progress.continues.marks progress.finalizers, ← alone.marks untouched, unmarked]
          rw [Instance.finalStage, marks]
          rfl
        · obtain ⟨rfl, marks, -⟩ := progress.counted touched
          exact final marks
      exact (isFinal ▸ progress').converged fun _ => ready
  · -- The instance left the store with its finalizer, so it was to go and its block is gone.
    have touched : stage ≠ .untouched := by
      rintro rfl
      rw [progress.continues.stays progress.finalizers, stays] at gone
      cases gone
    obtain ⟨rfl, marks, revised⟩ := progress.counted touched
    obtain ⟨k, rfl⟩ := Nat.exists_eq_succ_of_ne_zero revised.ne'
    have settled : Converged n i before gauge (k + 1) (n.attempt (fun _ => []) w) := by
      rw [final marks] at same
      exact same.converged fun present => by
        rw [gone] at present
        cases present
    have deleting : i.isDeleting = true := by
      rw [Instance.stays, Bool.not_eq_false', Bool.and_eq_true] at gone
      exact progress.continues.isDeleting ▸ gone.1
    have closed := i.closed_outset_errand_iff.2 (.inr deleting)
    refine { settled with data := ?_ }
    rw [settled.data, Errand.revise_iterate_of_closed sound closed sole,
      Errand.revise_iterate_of_closed sound closed sole]

/-- Failures before leave the documents as they would be, exactly if nothing runs into its end marker
or nothing was put. -/
theorem data_eq_iff (progress : Progress n i before gauge stage k j w) {own : ControllerState}
    (start : Progress n i before gauge .untouched 0 i (before, own)) (name : i.key = n.key)
    (stays : i.stays = true) (sound : i.outset.errand.Sound)
    (sole : Block.Sole i.outset.errand.key.toList
      (i.outset.errand.textIn (before.data i.outset.errand.target.mapKey)).toList) :
    (n.attempt (fun _ => []) w).1.data = (n.attempt (fun _ => []) (before, own)).1.data ↔
      Block.closes i.fragment.toList = true ∨ i.isDeleting = true ∨ w.1.data = before.data := by
  rw [(progress.converges name stays sound sole).data, (start.converges name stays sound sole).data,
    progress.data, ← or_assoc, ← i.closed_outset_errand_iff]
  exact Errand.revise_iterate_eq_iff sound sole k

end Progress

/-! ## Failures leave nothing behind -/

theorem Instance.sound_outset_errand {i : Instance} (free : '\n' ∉ i.key.toList) :
    i.outset.errand.Sound :=
  Errand.sound_errand free _

/-- The document of the instance has each marker of its key at most once. -/
theorem Instance.sole_outset_errand {i : Instance} {c : Cluster}
    (once : ∀ line ∈ [Block.beginMarker i.key.toList, Block.endMarker i.key.toList],
      (Text.splitLines (c.stores.content i.target).toList).count line ≤ 1) :
    Block.Sole i.outset.errand.key.toList
      (i.outset.errand.textIn (c.data i.outset.errand.target.mapKey)).toList := by
  have key : i.outset.errand.key = i.key := Errand.key_errand _ i
  have target := i.target_errand_outset
  have text : i.outset.errand.textIn (c.data i.target.mapKey) = c.stores.content i.target := by
    rw [Errand.textIn, target, Cluster.data]
    cases look : c.documents.lookup i.target.mapKey with
    | none =>
      simp only [Stores.content, Cluster.stores, look]
      rfl
    | some d =>
      rw [c.shows_stores.content look]
      rfl
  rw [key, target, text]
  exact Block.sole_of_count_le_one once

/-- Whatever fails in attempts at an instance, one attempt without failures then leaves the instance
and the gauge as it would have left them at first; and the documents, too, exactly if no part of the
block runs into its end marker, or the instance is to go, or no failed attempt had written it. -/
theorem failures_leave_nothing_iff {n : InstanceName} {c : Cluster} {i : Instance}
    (own : ControllerState) (stored : c.instances.lookup n.key = some i) (name : i.key = n.key)
    (named : ∀ d, c.documents.lookup i.target.mapKey = some d → d.mapKey = i.target.mapKey)
    (free : '\n' ∉ i.key.toList)
    (held : i.isDeleting = true → i.metadata.finalizerList ≠ [])
    (once : ∀ line ∈ [Block.beginMarker i.key.toList, Block.endMarker i.key.toList],
      (Text.splitLines (c.stores.content i.target).toList).count line ≤ 1)
    (troubles : List (CallPoint → List (Option Error))) :
    let failed := troubles.foldl (fun w faults => n.attempt faults w) (c, own)
    let settled := n.attempt (fun _ => []) failed
    let direct := n.attempt (fun _ => []) (c, own)
    settled.1.outlook n.key = direct.1.outlook n.key ∧
      settled.2.metrics.instances = direct.2.metrics.instances ∧
      (settled.1.data = direct.1.data ↔
        Block.closes i.fragment.toList = true ∨ i.isDeleting = true ∨ failed.1.data = c.data) := by
  have stays : i.stays = true := by
    cases deleting : i.isDeleting with
    | true => simp [Instance.stays, held deleting]
    | false => simp [Instance.stays, deleting]
  have start : Progress n i c own.metrics.instances .untouched 0 i (c, own) :=
    .initial stored stays named
  have sound := Instance.sound_outset_errand free
  have sole := Instance.sole_outset_errand once
  obtain ⟨stage, k, j, progress⟩ := start.attempts name troubles
  have settled := progress.converges name stays sound sole
  have direct := start.converges name stays sound sole
  exact ⟨settled.outlook.trans direct.outlook.symm, settled.gauge.trans direct.gauge.symm,
    progress.data_eq_iff start name stays sound sole⟩

/-- The requests of an attempt of which only the write of the finalizer fails. -/
def finalizerFault : CallPoint → List (Option Error)
  | .updateInstance => [some (.other "refused")]
  | _ => []

/-- The finalizer of a new instance cannot be written at first, so its block is put twice; it stands
there once. -/
theorem failures_leave_nothing_iff_of_finalizer :
    ∃ (n : InstanceName) (c : Cluster) (i : Instance),
      c.instances.lookup n.key = some i ∧ (n.attempt finalizerFault (c, {})).1.data ≠ c.data ∧
      (n.attempt (fun _ => []) (n.attempt finalizerFault (c, {}))).1.data =
        (n.attempt (fun _ => []) (c, {})).1.data := by
  let n : InstanceName := ⟨"bar", "foo"⟩
  let c : Cluster := .created "a"
  let i : Instance := (Instance.newborn "foo" "a").numbered 1
  have whole := failures_leave_nothing_iff (n := n) (c := c) (i := i) {} rfl rfl
    (fun _ found => nomatch found) (by decide +kernel) (fun never => nomatch never)
    (by decide +kernel) [finalizerFault]
  have closed : Block.closes i.fragment.toList = true := by
    rw [Instance.fragment, show i.spec.resources = [.str "a"] from rfl, Fragment.closes_str]
    decide +kernel
  refine ⟨n, c, i, rfl, fun same => ?_, whole.2.2.2 (.inl closed)⟩
  exact absurd (congrFun same "ksm@bar") (by decide +kernel)

/-- A text with line breaks that ends in a line separator stands in the document twice if the
finalizer cannot be written at first. -/
theorem block_left_twice :
    ∃ (n : InstanceName) (c : Cluster) (i : Instance),
      c.instances.lookup n.key = some i ∧ i.key = n.key ∧ c.documents = [] ∧
      '\n' ∉ n.key.toList ∧ i.isDeleting = false ∧ i.spec.resources = [.str "a\nb\u2028"] ∧
      (n.attempt (fun _ => []) (n.attempt finalizerFault (c, {}))).1.data ≠
        (n.attempt (fun _ => []) (c, {})).1.data := by
  let n : InstanceName := ⟨"bar", "foo"⟩
  let c : Cluster := .created "a\nb\u2028"
  let i : Instance := (Instance.newborn "foo" "a\nb\u2028").numbered 1
  have named : ∀ d, c.documents.lookup i.target.mapKey = some d → d.mapKey = i.target.mapKey :=
    fun _ found => nomatch found
  let own : ControllerState := {}
  have start : Progress n i c own.metrics.instances .untouched 0 i (c, own) :=
    .initial rfl rfl named
  obtain ⟨stage, k, j, progress⟩ := start.attempt rfl finalizerFault
  have twice := progress.data_eq_iff start rfl rfl (Instance.sound_outset_errand (by decide +kernel))
    (Instance.sole_outset_errand (by decide +kernel))
  have runsOn : Block.closes i.fragment.toList = false := by
    rw [Instance.fragment, show i.spec.resources = [.str "a\nb\u2028"] from rfl,
      Fragment.closes_str]
    decide +kernel
  refine ⟨n, c, i, rfl, rfl, rfl, by decide +kernel, rfl, rfl, fun same => ?_⟩
  rcases twice.1 same with closed | deleting | unwritten
  · rw [runsOn] at closed
    cases closed
  · cases deleting
  · exact absurd (congrFun unwritten "ksm@bar") (by decide +kernel)

end StateMetrics
