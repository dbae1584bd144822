import StateMetrics.Proofs.Reconcile.Advance

/-!
# The instances that hold the finalizer

Others store instances and ask for their deletion but leave the finalizer alone, so only attempts put
it on or take it off. An attempt decides about it by the version that it read: the finalizer is put
on at the first generation, and an instance that was changed before its first attempt went through
never gets it, although its block is written.
-/

namespace StateMetrics

namespace Stores

/-- An instance with the finalizer is stored under the key. -/
def marked (s : Stores) (key : String) : Bool :=
  (s.instances.stored key).any Instance.hasFinalizer

/-- What others may do who leave the finalizer alone: an instance is stored with it if there was one
with it under its key, and without it if not; it leaves the store if it is to go and nobody has to
clean up. Documents may change in any way. -/
def KeepsFinalizers (s s' : Stores) : Prop :=
  s'.instances = s.instances ∨
    ∃ v i, v ∉ s.instances.spent ∧ s'.instances = s.instances.write v i i.stays ∧
      i.hasFinalizer = s.marked i.key

theorem marked_eq_of_stored_eq {s s' : Stores} {key : String}
    (same : s'.instances.stored key = s.instances.stored key) : s'.marked key = s.marked key := by
  rw [marked, marked, same]

theorem marked_of_stored {s : Stores} {key : String} {i : Instance}
    (stored : s.instances.stored key = some i) : s.marked key = i.hasFinalizer := by
  rw [marked, stored]
  rfl

/-- What leaves the store has no finalizer. -/
theorem marked_write {s s' : Stores} {v : String} {i : Instance}
    (written : s'.instances = s.instances.write v i i.stays) : s'.marked i.key = i.hasFinalizer := by
  have stored : s'.instances.stored i.key =
      if i.stays then some (Stored.stamp v i) else none := by
    rw [written]
    exact Shelf.stored_write_self
  cases stays : i.stays with
  | true =>
    rw [marked, stored, stays]
    rfl
  | false =>
    have empty : i.metadata.finalizerList = [] := by
      simp only [Instance.stays, Bool.not_eq_false', Bool.and_eq_true,
        List.isEmpty_iff] at stays
      exact stays.2
    rw [marked, stored, stays, Instance.hasFinalizer, empty]
    rfl

/-- Who leaves the finalizer alone neither puts it on nor takes it off. -/
theorem KeepsFinalizers.marked {s s' : Stores} (keeps : s.KeepsFinalizers s') (key : String) :
    s'.marked key = s.marked key := by
  rcases keeps with same | ⟨v, i, -, written, like⟩
  · exact marked_eq_of_stored_eq (by rw [same])
  · by_cases own : key = i.key
    · rw [own, marked_write written, like]
    · refine marked_eq_of_stored_eq ?_
      rw [written]
      exact Shelf.stored_write_of_ne own

theorem KeepsFinalizers.sound {s s' : Stores} (keeps : s.KeepsFinalizers s')
    (sound : s.instances.Sound) : s'.instances.Sound := by
  rcases keeps with same | ⟨v, i, -, written, -⟩
  · exact same ▸ sound
  · exact written ▸ sound.write

theorem KeepsFinalizers.knows {s s' : Stores} (keeps : s.KeepsFinalizers s') (i : Instance)
    (knows : s.instances.Knows i) : s'.instances.Knows i := by
  rcases keeps with same | ⟨v, j, fresh, written, -⟩
  · exact same ▸ knows
  · exact written ▸ knows.write fresh

end Stores

/-- The instance has the finalizer as far as the attempt is concerned. -/
def Course.holds (c : Course) : Bool :=
  if c.finalizer = .untouched then c.found.hasFinalizer else c.puts

namespace Instance

theorem phase_eq_deleting_iff (i : Instance) : i.phase = .deleting ↔ i.isDeleting = true := by
  rw [phase]
  split
  · simp [*]
  · split <;> simp [*]

/-- An instance is new if it is to stay, of the first generation and without the finalizer. -/
theorem phase_eq_creating_iff (i : Instance) :
    i.phase = .creating ↔
      i.isDeleting = false ∧ i.metadata.generation = some 1 ∧ i.hasFinalizer = false := by
  rw [phase]
  split
  · simp [*]
  · split <;> simp_all

end Instance

/-- At the end of an attempt that has succeeded the finalizer is there, if it was before or the
generation is the first. -/
theorem Course.holds_iff_of_done {c : Course} (stays : c.found.isDeleting = false)
    (touched : c.finalizer ≠ .untouched → c.found.phase ≠ .updating) (done : c.Done) :
    c.holds = true ↔ c.found.hasFinalizer = true ∨ c.found.metadata.generation = some 1 := by
  have notDeleting : c.found.phase ≠ .deleting := by
    rw [Ne, Instance.phase_eq_deleting_iff, stays]
    exact Bool.false_ne_true
  -- What was counted was put on, as the instance is to stay; else it was not to be put on.
  rcases done.finalizer with counted | ⟨untouched, unmarked⟩
  · have creating : c.found.phase = .creating := by
      cases phase : c.found.phase with
      | deleting => exact absurd phase notDeleting
      | creating => rfl
      | updating => exact absurd phase (touched (by simp [counted]))
    have holds : c.holds = true := by simp [Course.holds, counted, Course.puts, notDeleting]
    obtain ⟨-, first, -⟩ := c.found.phase_eq_creating_iff.1 creating
    simp [holds, first]
  · have notCreating : c.found.phase ≠ .creating := by
      intro creating
      simp [Course.marks, creating] at unmarked
    have holds : c.holds = c.found.hasFinalizer := if_pos untouched
    rw [holds]
    refine ⟨.inl, fun either => either.elim id fun first => ?_⟩
    by_contra lacks
    exact notCreating (c.found.phase_eq_creating_iff.2 ⟨stays, first, by simpa using lacks⟩)

/-- Whether the instance has its finalizer is what the attempt thinks. -/
def Standing.Agrees (marked : Bool) : Standing → Prop
  | under c => marked = c.holds
  | _ => True

namespace Standing

variable {n : InstanceName} {s s' : Stores} {g g' : Standing} {r : Request} {answer : r.Answer}

/-- After a step the attempt is right about the finalizer. -/
theorem Agrees.advances (agrees : g.Agrees (s.marked n.key)) (fits : g.Fits n s)
    (advances : g.Advances n s r answer s' g') : g'.Agrees (s'.marked n.key) := by
  cases advances with
  | idle unread unwritten stands =>
    rcases stands with rfl | rfl
    · exact agrees
    · trivial
  | read isRead unwritten =>
    cases stored : s.instances.stored n.key with
    | none => trivial
    | some i => exact Stores.marked_of_stored stored
  | @reported c given status v s' untouched stored reports may writes =>
    have kept : s'.marked c.hand.key = c.hand.hasFinalizer :=
      Stores.marked_write (i := { c.hand with status := given.status }) writes.instances
    show s'.marked n.key = if c.finalizer = .untouched then c.found.hasFinalizer else c.puts
    rw [← fits.key, kept, if_pos untouched, fits.untouched untouched]
  | @marked c given labels v s' untouched stored settled marks writes =>
    have set : s'.marked c.hand.key = (c.hand.refinalized c.puts labels).hasFinalizer :=
      Stores.marked_write writes.instances
    show s'.marked n.key = c.puts
    rw [← fits.key, set, c.hand.hasFinalizer_refinalized]
  | errand permitted serves instances unread =>
    have same : s'.marked n.key = s.marked n.key :=
      Stores.marked_eq_of_stored_eq (by rw [instances])
    rw [same]
    exact agrees

theorem Agrees.asked {extent : Extent} {marked : Bool} (agrees : g.Agrees marked) (q : Question)
    (answer : q.Answer) :
    ((courseConduct extent n).told g q answer).Agrees marked := by
  rcases told_cases extent n g q answer with same | ⟨c, rfl, written, counted⟩
  · rw [same]
    exact agrees
  · rw [counted]
    have holds : c.holds = c.puts := if_neg (by simp [written])
    exact Eq.trans agrees holds

end Standing

section Protocol

variable {κ : Type} [DecidableEq κ]

/-- The protocol of attempts, one at a time for each instance, while others leave the finalizer
alone. -/
def holdersProtocol (subject : κ → InstanceName)
    (distinct : ∀ j k, (subject j).key = (subject k).key → j = k) :
    Protocol κ Standing Stores.KeepsFinalizers where
  start _ := .outset
  discipline k := (courseConduct .attempt (subject k)).toDiscipline
  Safe s _ := s.instances.Sound
  Tie k g s log :=
    g.Known (subject k) s (chronicle k log) ∧ g.Agrees (s.marked (subject k).key)
  tie_start _ := ⟨.outset, trivial⟩
  interfered sound keeps := by
    refine ⟨keeps.sound sound, ?_⟩
    rintro k g ⟨known, agrees⟩
    exact ⟨⟨known.fits.mono keeps.knows, known.told⟩, (keeps.marked _).symm ▸ agrees⟩
  answered := by
    rintro k g s s' log r answer sound ⟨known, agrees⟩ permitted serves
    have advances := Standing.advances known.fits permitted serves
    refine ⟨advances.sound known.fits sound,
      ⟨known.advances sound advances, agrees.advances known.fits advances⟩, ?_⟩
    rintro j h other ⟨known', agrees'⟩
    have apart : (subject j).key ≠ (subject k).key := fun same => other (distinct j k same)
    refine ⟨known'.other other known.fits advances, ?_⟩
    rw [Stores.marked_eq_of_stored_eq (advances.stored_of_ne known.fits apart)]
    exact agrees'

end Protocol

/-- When an attempt at an instance that is to stay has succeeded, the stored instance has the
finalizer exactly if the version that the attempt read had it or was of the first generation. -/
theorem finalizer_after_success {κ : Type} [DecidableEq κ] (subject : κ → InstanceName)
    (distinct : ∀ j k, (subject j).key = (subject k).key → j = k)
    {w₀ w : World κ (Result Action)} (idle : w₀.Idle) (sound : w₀.stores.instances.Sound)
    (run : World.Reaches
      (fun k p => p = reconcileKey (subject k).namespaceName (subject k).name)
      Stores.KeepsFinalizers w₀ w)
    {k : κ} {action : Action} (succeeded : w.running k = some (.done (.ok action)))
    {found : Instance} (isRead : (chronicle k w.log).read = some found)
    (stays : found.isDeleting = false) :
    (∃ stored, w.stores.instances.stored (subject k).key = some stored ∧
        stored.hasFinalizer = true) ↔
      found.hasFinalizer = true ∨ found.metadata.generation = some 1 := by
  obtain ⟨-, standing⟩ := exists_standing (P := holdersProtocol subject distinct) (fun _ => rfl)
    (fun _ => rfl) (fun q answer tie => ⟨tie.1.asked q answer, tie.2.asked q answer⟩) idle sound run
  obtain ⟨g, ⟨⟨fits, told⟩, agrees⟩, -, done⟩ := standing succeeded
  cases g with
  | outset => exact (done action rfl).elim
  | missing => cases isRead.symm.trans told
  | under c =>
    obtain rfl : found = c.found := Option.some.inj (isRead.symm.trans told)
    have marked : w.stores.marked (subject k).key = c.holds := agrees
    rw [← Option.any_eq_true, ← Stores.marked, marked]
    exact c.holds_iff_of_done stays fits.touched (done action rfl)

/-! ## The first attempt at an instance -/

/-- The first attempt at a new instance, which nobody has changed before it. -/
theorem finalizer_after_success_of_first_generation :
    ∃ (w₀ w : World Unit (Result Action)) (action : Action) (found stored : Instance),
      w₀.Idle ∧ w₀.stores.instances.Sound ∧
      World.Reaches (fun _ p => p = reconcileKey "bar" "foo") Stores.KeepsFinalizers w₀ w ∧
      w.running () = some (.done (.ok action)) ∧ (chronicle () w.log).read = some found ∧
      found.isDeleting = false ∧ found.metadata.generation = some 1 ∧
      w.stores.instances.stored "foo@bar" = some stored ∧ stored.hasFinalizer = true := by
  have succeeds : (Cluster.nursery "a").succeeds {} = true := by decide +kernel
  have told : ((Cluster.nursery "a").recounts {} {}).read.any
      (fun i => !i.isDeleting && i.metadata.generation = some 1) = true := by decide +kernel
  obtain ⟨found, isRead, asked⟩ := (Option.any_eq_true _ _).1 told
  simp only [Bool.and_eq_true, Bool.not_eq_true', decide_eq_true_eq] at asked
  obtain ⟨stays, first⟩ := asked
  have idle := World.idle_onCluster (κ := Unit) (α := Result Action) (Cluster.nursery "a")
  have sound := (Cluster.blocky_nursery "a").instances
  have start : World.Reaches (fun _ p => p = reconcileKey "bar" "foo") Stores.KeepsFinalizers
      (World.onCluster Unit (Result Action) (Cluster.nursery "a"))
      (World.onCluster Unit (Result Action) (Cluster.nursery "a")) := .refl
  obtain ⟨w, action, run, succeeded, log, -⟩ :=
    Cluster.exists_success succeeds rfl start rfl (Cluster.shows_stores _) rfl
  have isRead : (chronicle () w.log).read = some found := by
    rw [log]
    exact isRead
  obtain ⟨stored, isStored, marked⟩ := (finalizer_after_success (fun _ => ⟨"bar", "foo"⟩)
    (fun _ _ _ => rfl) idle sound run succeeded isRead stays).2 (.inr first)
  exact ⟨_, w, action, found, stored, idle, sound, run, succeeded, isRead, stays, first, isStored,
    marked⟩

/-- Somebody creates an instance without the finalizer, or changes what a stored one asks for, and its
generation goes up by one. -/
def Stores.CreatesOrEdits (s s' : Stores) : Prop :=
  s'.documents = s.documents ∧ ∃ v i, v ∉ s.instances.spent ∧
    s'.instances = s.instances.write v i i.stays ∧
    (s.instances.stored i.key = none ∧ i.metadata.generation = some 1 ∧ i.hasFinalizer = false ∨
      ∃ j spec generation, s.instances.stored i.key = some j ∧
        j.metadata.generation = some generation ∧
        i = { j with spec, metadata.generation := some (generation + 1) })

theorem Stores.WritesInstance.createsOrEdits {s s' : Stores} {v : String} {i : Instance}
    (writes : s.WritesInstance v i s')
    (how : s.instances.stored i.key = none ∧ i.metadata.generation = some 1 ∧
        i.hasFinalizer = false ∨
      ∃ j spec generation, s.instances.stored i.key = some j ∧
        j.metadata.generation = some generation ∧
        i = { j with spec, metadata.generation := some (generation + 1) }) :
    s.CreatesOrEdits s' :=
  ⟨writes.documents, v, i, writes.fresh, writes.instances, how⟩

/-- An instance that was created and then given another text. -/
def editedInstance : Instance :=
  { (Instance.newborn "foo" "a").numbered 1 with
    spec.resources := [.str "b"]
    metadata.generation := some 2 }

def Cluster.edited : Cluster := ((created "a").saveInstance editedInstance).2

/-- An instance that is edited before its first attempt has its block written without ever getting
the finalizer: nothing will keep it in the store until the block is out again. -/
theorem success_without_finalizer :
    ∃ (w₀ w : World Unit (Result Action)) (action : Action) (found stored : Instance),
      w₀.Idle ∧ w₀.stores.instances.Sound ∧
      World.Reaches (fun _ p => p = reconcileKey "bar" "foo") Stores.CreatesOrEdits w₀ w ∧
      w.running () = some (.done (.ok action)) ∧ (chronicle () w.log).read = some found ∧
      found.isDeleting = false ∧
      w.stores.instances.stored "foo@bar" = some stored ∧ stored.hasFinalizer = false ∧
      Block.located (w.stores.content nurseryTarget).toList "foo@bar".toList =
        some (Block.render "foo@bar".toList stored.fragment.toList) := by
  have succeeds : Cluster.edited.succeeds {} = true := by decide +kernel
  have told : (Cluster.edited.recounts {} {}).read.any (fun i => !i.isDeleting) = true := by
    decide +kernel
  have unmarked : ((Cluster.edited.attempted {}).1.instances.lookup "foo@bar").any
      (fun i => !i.hasFinalizer && i.asksFor "b") = true := by decide +kernel
  have document : ((Cluster.edited.attempted {}).1.documents.lookup nurseryTarget.mapKey).map
      (·.content nurseryTarget.key) =
        some (Document.header ++ Document.renderBlock "foo@bar" editedInstance.fragment) := rfl
  -- The instance is created and then edited, both by others.
  let w₀ := World.onCluster Unit (Result Action) {}
  obtain ⟨s₁, v₁, writes₁, shows₁⟩ := (Cluster.shows_stores {}).exists_saved (.newborn "foo" "a")
  have creates : w₀.stores.CreatesOrEdits s₁ := writes₁.createsOrEdits (.inl ⟨rfl, rfl, rfl⟩)
  obtain ⟨s₂, v₂, writes₂, shows₂⟩ := shows₁.exists_saved editedInstance
  have stored₁ : s₁.instances.stored editedInstance.key =
      some ((Instance.newborn "foo" "a").numbered 1) := by
    rw [shows₁.instances.stored]
    rfl
  have edits : s₁.CreatesOrEdits s₂ :=
    writes₂.createsOrEdits (.inr ⟨_, _, 1, stored₁, rfl, rfl⟩)
  have run : World.Reaches (fun _ p => p = reconcileKey "bar" "foo") Stores.CreatesOrEdits w₀
      { w₀ with stores := s₂ } :=
    .tail (.tail .refl (.interfered s₁ creates)) (.interfered s₂ edits)
  have idle : World.Idle { w₀ with stores := s₂ } := ⟨fun _ => rfl, rfl⟩
  obtain ⟨w, action, run, succeeded, log, shows, -⟩ :=
    Cluster.exists_success succeeds rfl run rfl shows₂ rfl
  obtain ⟨found, isRead, stays⟩ := (Option.any_eq_true _ _).1 told
  have isRead : (chronicle () w.log).read = some found := by
    rw [log]
    exact isRead
  obtain ⟨stored, look, asked⟩ := (Option.any_eq_true _ _).1 unmarked
  simp only [Bool.and_eq_true, Bool.not_eq_true'] at asked
  obtain ⟨lacks, asks⟩ := asked
  have fragment : stored.fragment = editedInstance.fragment := by
    rw [Instance.fragment, Instance.resources_of_asksFor asks]
    rfl
  have closed : Block.closes editedInstance.fragment.toList = true := by
    rw [Instance.fragment, show editedInstance.spec.resources = [.str "b"] from rfl,
      Fragment.closes_str]
    decide +kernel
  have name : editedInstance.key = "foo@bar" := by decide +kernel
  refine ⟨w₀, w, action, found, stored, World.idle_onCluster {}, Cluster.sound_instances rfl, run,
    succeeded, isRead, by simpa using stays, ?_, lacks, ?_⟩
  · rw [shows.instances.stored]
    exact look
  · rw [fragment]
    exact shows.located_fresh name (nursery_free ()) closed document

end StateMetrics
