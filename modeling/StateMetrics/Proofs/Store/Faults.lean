import StateMetrics.Store.Trial

/-!
# Requests that fail

A cluster under trial that nobody else writes to: a request is answered as by the cluster itself, or
it fails and leaves the cluster as it is. With nothing planned no request fails.
-/

namespace StateMetrics

/-- Why a request failed, if it did. -/
def Request.failure? : (r : Request) → r.Answer → Option Error
  | .getInstance .., .error e => some e
  | .updateInstance _, .error e => some e
  | .updateStatus _, .error e => some e
  | .getDocument _, .error e => some e
  | .createDocument _, .error e => some e
  | .updateDocument _, .error e => some e
  | _, _ => none

namespace Trial

/-- A cluster with requests that fail, first to last for each kind of request. -/
def failing (c : Cluster) (faults : CallPoint → List (Option Error)) : Trial where
  cluster := c
  plan point := (faults point).map fun fault? => fault?.elim .calm .fault

/-- Nobody else comes in between. -/
def Lone (t : Trial) : Prop :=
  ∀ point, ∀ d ∈ t.plan point, d = .calm ∨ ∃ e, d = .fault e

/-- No request will fail. -/
def Calm (t : Trial) : Prop := ∀ point, ∀ d ∈ t.plan point, d = .calm

/-- Faults of requests are all that such a plan has. -/
theorem lone_failing (c : Cluster) (faults : CallPoint → List (Option Error)) :
    (failing c faults).Lone := by
  intro point d mem
  obtain ⟨fault?, -, rfl⟩ := List.mem_map.1 mem
  cases fault? with
  | none => exact .inl rfl
  | some e => exact .inr ⟨e, rfl⟩

theorem calm_failing (c : Cluster) : (failing c fun _ => []).Calm := fun _ _ mem => nomatch mem

section Plan

variable {t t' : Trial}

/-- The plan of a trial that goes on. -/
def Within (t' t : Trial) : Prop := ∀ point, t'.plan point ⊆ t.plan point

theorem Lone.within (lone : t.Lone) (within : t'.Within t) : t'.Lone :=
  fun point d mem => lone point d (within point mem)

theorem Calm.within (calm : t.Calm) (within : t'.Within t) : t'.Calm :=
  fun point d mem => calm point d (within point mem)

end Plan

section Disturb

variable {α : Type} (t : Trial) (point : CallPoint) (act : Cluster → Result α × Cluster)

/-- A disturbance is used up where it comes. -/
theorem within_disturb : (t.disturb point act).2.Within t := by
  intro p
  have kept : (t.disturb point act).2.plan p =
      if p = point then (t.plan p).tail else t.plan p := by
    rw [disturb]
    split <;> rfl
  rw [kept]
  split
  · exact fun _ => List.mem_of_mem_tail
  · exact List.Subset.refl _

variable {t}

/-- What is done while nobody else is about is done as it is, or fails and changes nothing; it fails
only if a fault was planned. -/
theorem disturb_cases (lone : t.Lone) :
    ((t.disturb point act).1, (t.disturb point act).2.cluster) = act t.cluster ∨
      ¬ t.Calm ∧ (∃ e, (t.disturb point act).1 = .error e) ∧
        (t.disturb point act).2.cluster = t.cluster := by
  cases next : (t.plan point).head? with
  | none =>
    left
    simp only [disturb, next, Option.getD_none]
  | some d =>
    have mem : d ∈ t.plan point := List.mem_of_head? next
    rcases lone point d mem with rfl | ⟨e, rfl⟩
    · left
      simp only [disturb, next, Option.getD_some]
    · right
      refine ⟨fun calm => ?_, ⟨e, ?_⟩, ?_⟩
      · cases calm point _ mem
      · simp only [disturb, next, Option.getD_some]
      · simp only [disturb, next, Option.getD_some]

end Disturb

/-- A request that the plan is about is disturbed, and nothing else happens. -/
theorem exists_disturb (t : Trial) (r : Request) :
    (handle r t).2.plan = t.plan ∧
        ((handle r t).1, (handle r t).2.cluster) = Cluster.handle r t.cluster ∨
      ∃ (α : Type) (point : CallPoint) (act : Cluster → Result α × Cluster)
        (answer : Result α → r.Answer),
        (handle r t).1 = answer (t.disturb point act).1 ∧
        (handle r t).2.plan = (t.disturb point act).2.plan ∧
        (handle r t).2.cluster = (t.disturb point act).2.cluster ∧
        Cluster.handle r t.cluster = (answer (act t.cluster).1, (act t.cluster).2) ∧
        ∀ e, r.failure? (answer (.error e)) = some e := by
  cases r with
  | namespaceLabels | record => exact .inl ⟨rfl, rfl⟩
  | getInstance namespaceName name =>
    exact .inr ⟨_, .getInstance, Cluster.handle (.getInstance namespaceName name), id,
      rfl, rfl, rfl, rfl, fun _ => rfl⟩
  | updateInstance given =>
    exact .inr ⟨_, .updateInstance, Cluster.handle (.updateInstance given), id,
      rfl, rfl, rfl, rfl, fun _ => rfl⟩
  | updateStatus given =>
    exact .inr ⟨_, .updateStatus, Cluster.handle (.updateStatus given), id,
      rfl, rfl, rfl, rfl, fun _ => rfl⟩
  | getDocument target =>
    exact .inr ⟨_, .getDocument, Cluster.handle (.getDocument target), id,
      rfl, rfl, rfl, rfl, fun _ => rfl⟩
  | createDocument given =>
    exact .inr ⟨_, .createDocument, Cluster.handle (.createDocument given), id,
      rfl, rfl, rfl, rfl, fun _ => rfl⟩
  | updateDocument given =>
    exact .inr ⟨_, .updateDocument, Cluster.handle (.updateDocument given), id,
      rfl, rfl, rfl, rfl, fun _ => rfl⟩

/-- A request uses up what was planned for it, if anything. -/
theorem within_handle (t : Trial) (r : Request) : (handle r t).2.Within t := by
  rcases exists_disturb t r with ⟨plan, -⟩ | ⟨α, point, act, answer, -, plan, -⟩
  · rw [Within, plan]
    exact fun _ => List.Subset.refl _
  · rw [Within, plan]
    exact within_disturb t point act

/-- A request is answered as by the cluster itself, or it fails and nothing changes. -/
theorem handle_cases {t : Trial} (lone : t.Lone) (r : Request) :
    ((handle r t).1, (handle r t).2.cluster) = Cluster.handle r t.cluster ∨
      ¬ t.Calm ∧ (∃ e, r.failure? (handle r t).1 = some e) ∧
        (handle r t).2.cluster = t.cluster := by
  rcases exists_disturb t r with ⟨-, same⟩ | ⟨α, point, act, answer, told, -, kept, own, fails⟩
  · exact .inl same
  rw [told, kept, own]
  rcases disturb_cases point act lone with same | ⟨stormy, ⟨e, refused⟩, same⟩
  · rw [← same]
    exact .inl rfl
  · exact .inr ⟨stormy, ⟨e, refused ▸ fails e⟩, same⟩

/-- Reading an instance changes nothing. -/
theorem exists_read {t : Trial} (lone : t.Lone) (namespaceName name : String) :
    ∃ answer t', handle (.getInstance namespaceName name) t = (answer, t') ∧
      t'.cluster = t.cluster ∧ t'.Within t ∧
      (answer = .ok (t.cluster.instances.lookup (Instance.keyOf name namespaceName)) ∨
        ¬ t.Calm ∧ ∃ e, answer = .error e) := by
  have within := within_handle t (.getInstance namespaceName name)
  have cases := handle_cases lone (.getInstance namespaceName name)
  generalize handle (.getInstance namespaceName name) t = answered at within cases ⊢
  obtain ⟨answer, t'⟩ := answered
  rcases cases with same | ⟨stormy, ⟨e, failed⟩, same⟩
  · obtain ⟨isAnswer, isCluster⟩ := Prod.ext_iff.1 same
    exact ⟨answer, t', rfl, isCluster, within, .inl isAnswer⟩
  · rcases answer with e | found
    · exact ⟨_, t', rfl, same, within, .inr ⟨stormy, e, rfl⟩⟩
    · cases failed

end Trial

end StateMetrics
