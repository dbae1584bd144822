import StateMetrics.Proofs.Reconcile.Failure
import StateMetrics.Proofs.Reconcile.Finalizer
import StateMetrics.Proofs.Run.Passage
import StateMetrics.Proofs.Store.Latitude

/-!
# What an attempt touches

An attempt sends whole objects that it read earlier: the config map, and for its finalizer the
instance. Yet each of its writes changes, of the stores as they are at that moment, only what is the
attempt's own (`attempt_touches_own`): of its instance the status and whether it carries the finalizer,
of the config map the document of its target. The conduct says that what is sent differs from the version
in hand in no more than that, and the check of the version says that the version in hand is the one that
is stored.
-/

namespace StateMetrics

/-! ## What may be changed -/

namespace Instance

/-- An errand depends on the body of its instance alone. -/
theorem errand_of_body {i j : Instance} (same : j.body = i.body) (puts : Bool) :
    j.errand puts = i.errand puts := by
  have errands : j.body.errand puts = i.body.errand puts := congrArg (errand puts) same
  cases puts <;> exact errands

end Instance

namespace Stores

/-- The stored instance of the name has another status, or gained or lost the finalizer, under a fresh
version; it is gone if it was to go and has no finalizers left. Everything else is as it was. -/
def TouchesInstance (n : InstanceName) (s s' : Stores) : Prop :=
  ∃ i status finalizers v, s.instances.stored n.key = some i ∧ v ∉ s.instances.spent ∧
    (finalizers.getD []).filter (· ≠ Instance.finalizer) = i.otherFinalizers ∧
    let i' : Instance :=
      { i with
        status
        metadata.finalizers := finalizers
        metadata.resourceVersion := some v }
    s'.instances.stored =
      Function.update s.instances.stored n.key (if i'.stays then some i' else none) ∧
    s'.documents = s.documents

/-- The config map of the target has other data under the target's data key, under a fresh version; it
has only that if it was not stored. Everything else is as it was. -/
def TouchesDocument (target : Target) (s s' : Stores) : Prop :=
  ∃ data v, v ∉ s.documents.spent ∧
    let d := (s.documents.stored target.mapKey).getD (.blank target)
    (∀ key, key ≠ target.key → data.lookup key = (d.data.getD []).lookup key) ∧
    s'.documents.stored = Function.update s.documents.stored target.mapKey
      (some { d with
        data := some data
        metadata.resourceVersion := some v }) ∧
    s'.instances = s.instances

end Stores

/-- The write of an errand changes one data key of one config map. -/
theorem Errand.Writes.touchesDocument {e : Errand} {s s' : Stores} {v : String}
    (writes : e.Writes s v s') (sound : s.documents.Sound) (fresh : v ∉ s.documents.spent) :
    s.TouchesDocument e.target s' := by
  have name := e.mapKey_written sound
  refine ⟨NameMap.insert e.target.key (e.merge (s.content e.target))
    (((s.documents.stored e.target.mapKey).getD (.blank e.target)).data.getD []), v, fresh,
    fun key other => NameMap.lookup_insert_of_ne other _ _, ?_, writes.1⟩
  rw [writes.2, Shelf.write]
  exact congrArg (Function.update _ · _) name

/-! ## The conduct of an attempt -/

/-- Where an attempt stands that reads first, and once. -/
inductive Footing where
  | outset
  | attempting (g : Standing)

/-- An attempt reads its instance first, and once. From then on it keeps to the conduct of attempts. -/
def footingConduct (n : InstanceName) : Conduct Footing where
  permits
    | .outset, r => r = .getInstance n.namespaceName n.name
    | .attempting g, r => (strictConduct .attempt n).permits g r
  after
    | .outset, .getInstance .., .ok found => .attempting (.ofFound found)
    | .outset, _, _ => .attempting .missing
    | .attempting g, r, answer => .attempting ((strictConduct .attempt n).after g r answer)
  allows _ _ := True
  told
    | .outset, _, _ => .outset
    | .attempting g, q, answer => .attempting ((strictConduct .attempt n).told g q answer)

namespace Footing

open Program

/-- An attempt at a key reads the instance first and never again. -/
theorem reconcileKey_conforms (n : InstanceName) :
    (reconcileKey n.namespaceName n.name).Conforms (footingConduct n) (fun _ _ => True)
      .outset := by
  rw [reconcileKey_eq]
  refine ⟨rfl, fun answer => ?_⟩
  rcases answer with error | _ | i
  · exact trivial
  · exact ⟨trivial, fun _ => trivial⟩
  · have strict : (if i.phase = .deleting then i.cleanup else i.apply).Conforms
        (strictConduct .attempt n) Standing.Ends (.under ⟨i, i, .unread, .untouched⟩) := by
      split
      · next goes => exact Course.cleanup_conforms goes
      · next stays => exact Course.apply_conforms stays
    have attempted : (if i.phase = .deleting then i.cleanup else i.apply).Conforms
        (footingConduct n) (fun _ _ => True)
        (.attempting (.under ⟨i, i, .unread, .untouched⟩)) :=
      Conforms.lift attempting (fun _ _ permitted => permitted) (fun _ _ _ _ => rfl)
        (fun _ _ _ => trivial) (fun _ _ _ _ => rfl) (fun _ _ _ => trivial) strict
    refine attempted.bind fun g result _ => ?_
    rw [Instance.conclude]
    split <;> exact ⟨trivial, fun _ => trivial⟩

/-! ## Where the stores stand -/

/-- The attempt has read its instance first of all. It knows the version in hand, which has the body of
the one that was read, and its errand knows what it read. -/
structure Stands (n : InstanceName) (c : Course) (s : Stores)
    (log : List (Σ r : Request, r.Answer)) : Prop where
  head : log.head? = some ⟨.getInstance n.namespaceName n.name, .ok (some c.found)⟩
  knows : s.instances.Knows c.hand
  key : c.hand.key = n.key
  body : c.hand.body = c.found.body
  tied : c.errand.Tied (fun _ => True) s c.stage

/-- What the note says of the stores and of the answers so far. -/
def Fits (n : InstanceName) (s : Stores) (log : List (Σ r : Request, r.Answer)) : Footing → Prop
  | outset => log = []
  | attempting .outset => False
  | attempting .missing => True
  | attempting (.under c) => Stands n c s log

section Steps

variable {n : InstanceName} {c : Course} {s s' : Stores} {log : List (Σ r : Request, r.Answer)}
  {g : Footing}

theorem Stands.answered (stands : Stands n c s log) (more : List (Σ r : Request, r.Answer)) :
    Stands n c s (log ++ more) where
  head := by rw [List.head?_append, stands.head]; rfl
  knows := stands.knows
  key := stands.key
  body := stands.body
  tied := stands.tied

/-- It makes no difference here how far the finalizer is. -/
theorem Stands.finalizer (stands : Stands n c s log) (stage : FinalizerStage) :
    Stands n { c with finalizer := stage } s log where
  head := stands.head
  knows := stands.knows
  key := stands.key
  body := stands.body
  tied := stands.tied

/-- What an attempt has read and knows outlasts what others do. -/
theorem Stands.drifted (stands : Stands n c s log) (drifts : s.Drifts s') :
    Stands n c s' log where
  head := stands.head
  knows := drifts.instances.knows stands.knows
  key := stands.key
  body := stands.body
  tied := stands.tied.evolves drifts.documents

theorem Fits.drifted (fits : Fits n s log g) (drifts : s.Drifts s') : Fits n s' log g := by
  rcases g with _ | _ | _ | c
  · exact fits
  · exact fits
  · exact fits
  · exact Stands.drifted fits drifts

theorem Fits.told (fits : Fits n s log g) (q : Question) (answer : q.Answer) :
    Fits n s log ((footingConduct n).told g q answer) := by
  rcases g with _ | _ | _ | c
  · exact fits
  · exact fits
  · exact fits
  · show Stands n c.told s log
    rw [Course.told]
    split
    · exact Stands.finalizer fits .counted
    · exact fits

/-- A write of the instance that goes through changes the stored version, and that is the one in
hand. -/
theorem Stands.updated (stands : Stands n c s log) {given : Instance}
    (retouches : given.Retouches c.hand) {answer : Result Instance}
    (updates : s.Updates given answer s') :
    Stands n { c with hand := answer.toOption.getD c.hand } s' log ∧
      (s' = s ∨ s.TouchesInstance n s') := by
  rcases updates with ⟨⟨error, rfl⟩, rfl⟩ |
    ⟨found, kept, current, blends, ⟨v, fresh, rfl, written⟩, documents⟩
  · exact ⟨stands, .inl rfl⟩
  obtain rfl : found = c.hand :=
    stands.knows.eq_of_current current (Instance.key_of_body retouches.body) retouches.version
  have body : kept.body = c.hand.body := blends.body retouches.body
  have others : kept.otherFinalizers = c.hand.otherFinalizers := by
    rcases blends.finalizers with same | same
    · exact Instance.otherFinalizers_congr same
    · exact (Instance.otherFinalizers_congr same).trans retouches.others
  have key : kept.key = n.key := (Instance.key_of_body body).trans stands.key
  have saved : (Stored.stamp v kept).body = c.hand.body := body
  refine ⟨?_, .inr ?_⟩
  · refine ⟨stands.head, written ▸ Shelf.knows_of_write, key, saved.trans stands.body, ?_⟩
    have errand : (Stored.stamp v kept).errand c.puts = c.errand :=
      Instance.errand_of_body saved _
    show ((Stored.stamp v kept).errand c.puts).Tied _ _ _
    rw [errand]
    exact stands.tied.of_documents documents id
  · have stored : s.instances.stored n.key = some c.hand := by
      rw [← stands.key, ← Instance.key_of_body retouches.body]
      exact current.1
    refine ⟨c.hand, kept.status, kept.metadata.finalizers, v, stored, fresh, others, ?_,
      documents⟩
    have shape : Stored.stamp v kept = { c.hand with
        status := kept.status
        metadata.finalizers := kept.metadata.finalizers
        metadata.resourceVersion := some v } := Instance.eq_of_body saved
    rw [← shape, written, ← key]
    rfl

/-- A write of the document that goes through changes the document that the version in hand asks for,
and no version of an instance. -/
theorem Stands.carried (stands : Stands n c s log) (sound : s.Sound) {r : Request}
    {answer : r.Answer} (permitted : c.errand.discipline.permits c.stage r)
    (serves : s.Serves r answer s') :
    Stands n { c with stage := c.errand.discipline.after c.stage r answer } s' log ∧
      (s' = s ∨ s.TouchesDocument c.found.target s') := by
  have target : c.errand.target = c.found.target := by
    rw [← Instance.target_of_body stands.body, Course.errand, Instance.errand]
    split <;> rfl
  have tied := stands.tied.served sound.documents permitted serves (fun _ => trivial)
    fun _ _ => trivial
  have instances := Errand.instances_of_served permitted serves
  have stands' : Stands n { c with stage := c.errand.discipline.after c.stage r answer } s' log :=
    ⟨stands.head, instances ▸ stands.knows, stands.key, stands.body, tied⟩
  rcases Errand.served permitted stands.tied.knows serves with ⟨-, rfl⟩ | ⟨-, -, v, fresh, writes⟩
  · exact ⟨stands', .inl rfl⟩
  · exact ⟨stands', .inr (target ▸ writes.touchesDocument sound.documents fresh)⟩

/-- Where there is no instance, nothing more is done. -/
theorem not_permits_missing {r : Request} :
    ¬ (strictConduct .attempt n).permits .missing r := by
  rintro ⟨⟨-, may⟩, -⟩
  cases r with
  | getInstance => rcases may with ⟨never | never, -⟩ <;> cases never
  | namespaceLabels => cases may
  | _ => exact may

/-- What an answer leaves of an attempt that has read: it stands as it should, and it touched only what
is its own. -/
theorem Stands.after (stands : Stands n c s log) (sound : s.Sound) {r : Request}
    {answer : r.Answer} (permitted : (strictConduct .attempt n).permits (.under c) r)
    (admits : s.Admits r answer s') :
    (strictConduct .attempt n).after (.under c) r answer = .under (c.after r answer) ∧
      Stands n (c.after r answer) s' log ∧
      (s' = s ∨ s.TouchesInstance n s' ∨ s.TouchesDocument c.found.target s') := by
  obtain ⟨⟨-, may⟩, strict⟩ := permitted
  cases r with
  | getInstance namespaceName name =>
    rcases may with ⟨never | never, -⟩ <;> cases never
  | namespaceLabels name => cases may
  | updateStatus given =>
    obtain ⟨stands', touched⟩ := stands.updated strict admits
    refine ⟨rfl, ?_, touched.imp_right .inl⟩
    rcases answer with error | saved <;> exact stands'
  | updateInstance given =>
    obtain ⟨-, -, -, rfl⟩ := may
    obtain ⟨stands', touched⟩ := stands.updated (c.hand.retouches_finalized c.puts) admits
    refine ⟨rfl, ?_, touched.imp_right .inl⟩
    rcases answer with error | saved
    · exact stands'
    · exact stands'.finalizer .written
  | record about event =>
    obtain rfl : s' = s := admits
    exact ⟨rfl, stands, .inl rfl⟩
  | _ =>
    obtain ⟨stands', touched⟩ := stands.carried sound may.2 admits
    exact ⟨rfl, stands', touched.imp_right .inr⟩

/-- What one answer leaves: the note fits, and the attempt touched only what is its own. -/
theorem Fits.answered (fits : Fits n s log g) (sound : s.Sound) {r : Request} {answer : r.Answer}
    (permitted : (footingConduct n).permits g r) (admits : s.Admits r answer s') :
    Fits n s' (log ++ [⟨r, answer⟩]) ((footingConduct n).after g r answer) ∧
      (s' = s ∨ ∃ read : Instance,
        log.head? = some ⟨.getInstance n.namespaceName n.name, .ok (some read)⟩ ∧
        (s.TouchesInstance n s' ∨ s.TouchesDocument read.target s')) := by
  rcases g with _ | _ | _ | c
  · obtain rfl := permitted
    obtain rfl : log = [] := fits
    rcases admits with ⟨⟨error, rfl⟩, rfl⟩ | ⟨rfl, rfl⟩
    · exact ⟨trivial, .inl rfl⟩
    · refine ⟨?_, .inl rfl⟩
      cases stored : s'.instances.stored (Instance.keyOf n.name n.namespaceName) with
      | none => exact trivial
      | some i =>
        exact ⟨rfl, Shelf.knows_of_stored sound.instances stored, sound.instances.name_eq stored,
          rfl, trivial⟩
  · exact fits.elim
  · exact (not_permits_missing permitted).elim
  · have stands : Stands n c s log := fits
    obtain ⟨goes, stands', touched⟩ := stands.after sound permitted admits
    refine ⟨?_, touched.imp_right fun own => ⟨c.found, stands.head, own⟩⟩
    show Fits n s' _ (.attempting ((strictConduct .attempt n).after (.under c) r answer))
    rw [goes]
    exact stands'.answered _

end Steps

/-- Wherever an attempt has come to, its note fits. -/
theorem exists_fits {n : InstanceName} {s₀ : Stores} (sound : s₀.Sound)
    {w : Passage (Result Action)}
    (reached : Passage.Reaches Stores.Admits Stores.Drifts
      ⟨reconcileKey n.namespaceName n.name, s₀, []⟩ w) :
    ∃ g, (w.stores.Sound ∧ Fits n w.stores w.log g) ∧
      w.rest.Conforms (footingConduct n) (fun _ _ => True) g := by
  refine Passage.holds (fun g s log => s.Sound ∧ Fits n s log g) ?_ ?_ ?_
    (show s₀.Sound ∧ Fits n s₀ [] .outset from ⟨sound, rfl⟩) (reconcileKey_conforms n) reached
  · rintro g s log r s' answer ⟨sound, fits⟩ permitted admits
    exact ⟨sound.drifted admits.drifts, (fits.answered sound permitted admits).1⟩
  · exact fun ⟨sound, fits⟩ _ => ⟨sound, fits.told ..⟩
  · exact fun ⟨sound, fits⟩ drifts => ⟨sound.drifted drifts, fits.drifted drifts⟩

end Footing

/-- Every write of an attempt touches only what is the attempt's own, of the stores as they are right
before it: of the instance of its name the status, the version and whether it carries the finalizer; of
the config map that its target names the document there. Any request may fail, others may write anything
between two requests, and a store may take a given instance whole or in part. -/
theorem attempt_touches_own (n : InstanceName) {s₀ s s' : Stores} (sound : s₀.Sound) {r : Request}
    {next : r.Answer → Program (Result Action)} {answer : r.Answer}
    {log : List (Σ r : Request, r.Answer)}
    (reached : Passage.Reaches Stores.Admits Stores.Drifts
      ⟨reconcileKey n.namespaceName n.name, s₀, []⟩ ⟨.request r next, s, log⟩)
    (admits : s.Admits r answer s') :
    s' = s ∨ ∃ read : Instance,
      log.head? = some ⟨.getInstance n.namespaceName n.name, .ok (some read)⟩ ∧
      (s.TouchesInstance n s' ∨ s.TouchesDocument read.target s') := by
  obtain ⟨g, ⟨sound, fits⟩, conforms⟩ := Footing.exists_fits sound reached
  exact (fits.answered sound conforms.1 admits).2

/-- The first attempt at an instance of a plain text puts the finalizer on. -/
theorem attempt_touches_own_at_finalizer :
    ∃ (s s' : Stores) (log : List (Σ r : Request, r.Answer)) (given saved : Instance)
      (next : Result Instance → Program (Result Action)),
      (Cluster.nursery "a").stores.Sound ∧
      Passage.Reaches Stores.Admits Stores.Drifts
        ⟨reconcileKey "bar" "foo", (Cluster.nursery "a").stores, []⟩
        ⟨.request (.updateInstance given) next, s, log⟩ ∧
      s.Admits (.updateInstance given) (.ok saved) s' ∧ s.TouchesInstance ⟨"bar", "foo"⟩ s' := by
  have blocky := Cluster.blocky_nursery "a"
  have sound : (Cluster.nursery "a").stores.Sound := ⟨blocky.instances, blocky.documents⟩
  have serves : ∀ {c : Cluster} {s : Stores}, c.Shows s → ∀ r : Request,
      ∃ s', (Cluster.handle r c).2.Shows s' ∧ s.Admits r (Cluster.handle r c).1 s' :=
    fun shows r => (shows.serves r).imp fun _ served => ⟨served.1, served.2.admits⟩
  obtain ⟨s, shows, reached⟩ := Passage.reaches_runUntil Stores.Drifts serves
    Request.writesFinalizer (reconcileKey "bar" "foo") (Cluster.nursery "a").shows_stores {} []
  have puts :
      let stop := (reconcileKey "bar" "foo").runUntil Request.writesFinalizer Cluster.handle
        (Cluster.nursery "a") {}
      stop.2.1.putsFinalizer "a" stop.1 = true := by decide +kernel
  generalize (reconcileKey "bar" "foo").runUntil Request.writesFinalizer Cluster.handle
    (Cluster.nursery "a") {} = stop at puts shows reached
  obtain ⟨p, c, own⟩ := stop
  obtain ⟨given, next, saved, -, rfl, written, -⟩ := Cluster.exists_of_putsFinalizer puts
  obtain ⟨s', -, admits⟩ := serves shows (.updateInstance given)
  have answer : (Cluster.handle (.updateInstance given) c).1 = .ok saved := written
  rw [answer] at admits
  refine ⟨s, s', _, given, saved, next, sound, reached, admits, ?_⟩
  -- A write that went through spent a version, so that the instances are not what they were.
  have changed : s'.instances ≠ s.instances := by
    rcases admits with ⟨⟨error, never⟩, -⟩ | ⟨found, kept, -, -, ⟨v, fresh, -, saved⟩, -⟩
    · cases never
    · intro same
      rw [← same, saved] at fresh
      exact fresh (Set.mem_insert v _)
  rcases attempt_touches_own ⟨"bar", "foo"⟩ sound reached admits with
    rfl | ⟨read, -, own | ⟨-, -, -, -, -, same⟩⟩
  · exact absurd rfl changed
  · exact own
  · exact absurd same changed

end StateMetrics
