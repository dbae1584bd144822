import StateMetrics.Proofs.Reconcile.Finalizer
import StateMetrics.Proofs.Run.Regime

/-!
# Steps of attempts

One answered request of an attempt is one of five things: nothing comes of it, the instance is read,
its condition is written, its finalizer is written, or the errand at the document goes on.
`Standing.advances` derives that once, from the conduct of the attempt, from what it knows of the
stores and from what the stores may answer; an invariant of runs has these five cases and no others.
The log tells what an attempt has read last (`chronicle`).
-/

namespace StateMetrics

/-! ## What the log tells of an attempt -/

/-- What a request has read of its instance, if it has. -/
def Request.read? : (r : Request) → r.Answer → Option (Option Instance)
  | .getInstance .., .ok found => some found
  | _, _ => none

/-- What an attempt has read last, and the versions at which it has written documents. -/
structure Chronicle where
  read : Option Instance := none
  written : List Instance := []

/-- The chronicle with one more answer. -/
def Chronicle.note (h : Chronicle) (r : Request) (answer : r.Answer) : Chronicle where
  read := (r.read? answer).getD h.read
  written := if r.wroteDocument answer then h.written ++ h.read.toList else h.written

section Chronicle

variable {κ : Type} [DecidableEq κ] {a b : κ}

/-- The chronicle of an attempt, as the log of all attempts has it. -/
def chronicle (a : κ) (log : List (Occurrence κ)) : Chronicle :=
  (log.filter (·.attempt = a)).foldl (fun h o => h.note o.request o.answer) {}

theorem chronicle_concat_self (log : List (Occurrence κ)) (r : Request) (answer : r.Answer) :
    chronicle a (log ++ [⟨a, r, answer⟩]) = (chronicle a log).note r answer := by
  simp [chronicle, List.filter_append]

/-- The answers of an attempt that runs alone all go into its chronicle. -/
theorem chronicle_append_map (log : List (Occurrence κ)) (answers : List (Σ r : Request, r.Answer)) :
    chronicle a (log ++ answers.map fun o => ⟨a, o.1, o.2⟩) =
      answers.foldl (fun h o => h.note o.1 o.2) (chronicle a log) := by
  have all : (answers.map fun o => (⟨a, o.1, o.2⟩ : Occurrence κ)).filter (·.attempt = a) =
      answers.map fun o => ⟨a, o.1, o.2⟩ :=
    List.filter_eq_self.2 fun o mem => by
      obtain ⟨o', -, rfl⟩ := List.mem_map.1 mem
      exact decide_eq_true rfl
  rw [chronicle, List.filter_append, all, List.foldl_append, List.foldl_map]
  rfl

theorem chronicle_concat_of_ne (other : b ≠ a) (log : List (Occurrence κ)) (r : Request)
    (answer : r.Answer) : chronicle b (log ++ [⟨a, r, answer⟩]) = chronicle b log := by
  simp [chronicle, List.filter_append, other.symm]

end Chronicle

/-! ## What an attempt knows -/

namespace Instance

/-- All that the instance asks for at its document. -/
theorem putting_congr {i j : Instance} (spec : i.spec = j.spec) (key : i.key = j.key)
    (namespaceName : i.metadata.namespaceName = j.metadata.namespaceName) :
    i.putting = j.putting := by
  have target : i.target = j.target := by rw [Instance.target, Instance.target, spec, namespaceName]
  have fragment : i.fragment = j.fragment := by rw [Instance.fragment, Instance.fragment, spec]
  rw [putting, putting, target, key, fragment]

/-- A later version of the same instance: what it asks for is the same. -/
structure Continues (j i : Instance) : Prop where
  spec : j.spec = i.spec
  key : j.key = i.key
  namespaceName : j.metadata.namespaceName = i.metadata.namespaceName
  generation : j.metadata.generation = i.metadata.generation
  deletion : j.metadata.deletionTimestamp = i.metadata.deletionTimestamp

theorem Continues.refl (i : Instance) : i.Continues i := ⟨rfl, rfl, rfl, rfl, rfl⟩

theorem Continues.trans {h i j : Instance} (later : h.Continues j) (continues : j.Continues i) :
    h.Continues i where
  spec := later.spec.trans continues.spec
  key := later.key.trans continues.key
  namespaceName := later.namespaceName.trans continues.namespaceName
  generation := later.generation.trans continues.generation
  deletion := later.deletion.trans continues.deletion

theorem Continues.target {i j : Instance} (continues : j.Continues i) : j.target = i.target := by
  rw [Instance.target, Instance.target, continues.spec, continues.namespaceName]

/-- A later version of an instance asks for the same at the document. -/
theorem Continues.errand {i j : Instance} (continues : j.Continues i) (puts : Bool) :
    j.errand puts = i.errand puts := by
  cases puts with
  | true => exact putting_congr continues.spec continues.key continues.namespaceName
  | false =>
    show j.removing = i.removing
    rw [removing, removing, continues.target, continues.key]

/-- The instance as it is stored by a write of its finalizer. -/
def refinalized (i : Instance) (puts : Bool) (labels : Option TextMap) : Instance :=
  { i with
    metadata.finalizers := (i.finalized puts).metadata.finalizers
    metadata.labels := labels }

/-- A write of the finalizer puts it on or takes it off, as is to be done. -/
theorem hasFinalizer_refinalized (i : Instance) (puts : Bool) (labels : Option TextMap) :
    (i.refinalized puts labels).hasFinalizer = puts := by
  cases puts with
  | true => exact i.hasFinalizer_addFinalizer
  | false => exact i.hasFinalizer_removeFinalizer

end Instance

/-- What an attempt under way knows: the version in hand, which asks for the same as the one found
and has its finalizer, unless that was written. -/
structure Course.Fits (c : Course) (n : InstanceName) (s : Stores) : Prop where
  knows : s.instances.Knows c.hand
  key : c.hand.key = n.key
  continues : c.hand.Continues c.found
  untouched : c.finalizer = .untouched → c.hand.hasFinalizer = c.found.hasFinalizer
  touched : c.finalizer ≠ .untouched → c.found.phase ≠ .updating

namespace Course

variable {n : InstanceName} {s : Stores} {c : Course}

/-- The errand of an attempt is at the block of the attempt's instance. -/
theorem Fits.key_errand (fits : c.Fits n s) : c.errand.key = n.key :=
  (Errand.key_errand c.puts c.hand).trans fits.key

/-- The errand of an attempt is at the target of the version that it found. -/
theorem Fits.target_errand (fits : c.Fits n s) : c.errand.target = c.found.target := by
  rw [← fits.continues.target]
  unfold errand Instance.errand
  split <;> rfl

/-- The errand of an attempt cannot be mistaken for markers. -/
theorem Fits.sound_errand (fits : c.Fits n s) (free : '\n' ∉ n.key.toList) : c.errand.Sound :=
  Errand.sound_errand (fits.key ▸ free) c.puts

/-- The errand stays the same with a later version in hand. -/
theorem errand_rewritten {i : Instance} {finalizer : FinalizerStage}
    (continues : i.Continues c.hand) :
    Course.errand { c with hand := i, finalizer := finalizer } = c.errand :=
  continues.errand c.puts

end Course

/-- An attempt under way knows what it has to know of the stores. -/
def Standing.Fits (n : InstanceName) (s : Stores) : Standing → Prop
  | under c => c.Fits n s
  | _ => True

/-- The log tells where the attempt stands. -/
def Standing.Told (h : Chronicle) : Standing → Prop
  | outset => True
  | missing => h.read = none
  | under c => h.read = some c.found

/-! ## Steps -/

/-- What an answered request of an attempt at the instance of a name does to the stores, and where the
attempt stands then. -/
inductive Standing.Advances (n : InstanceName) (s : Stores) :
    Standing → (r : Request) → r.Answer → Stores → Standing → Prop
  | idle {g g' : Standing} {r : Request} {answer : r.Answer} :
    r.read? answer = none → r.wroteDocument answer = false → g' = g ∨ g' = .outset →
    Advances n s g r answer s g'
  | read {g : Standing} {r : Request} {answer : r.Answer} :
    r.read? answer = some (s.instances.stored n.key) → r.wroteDocument answer = false →
    Advances n s g r answer s (.ofFound (s.instances.stored n.key))
  | reported {c : Course} {given : Instance} {status : Bool} {v : String} {s' : Stores} :
    c.finalizer = .untouched → s.instances.stored n.key = some c.hand →
    given.Reports c.hand status → (status = true → c.puts = true ∧ c.stage = .settled) →
    s.WritesInstance v { c.hand with status := given.status } s' →
    Advances n s (.under c) (.updateStatus given)
      (.ok (Stored.stamp v { c.hand with status := given.status })) s'
      (.under { c with hand := Stored.stamp v { c.hand with status := given.status } })
  | marked {c : Course} {given : Instance} {labels : Option TextMap} {v : String} {s' : Stores} :
    c.finalizer = .untouched → s.instances.stored n.key = some c.hand →
    c.stage = .settled → c.marks = true →
    s.WritesInstance v (c.hand.refinalized c.puts labels) s' →
    Advances n s (.under c) (.updateInstance given)
      (.ok (Stored.stamp v (c.hand.refinalized c.puts labels))) s'
      (.under { c with
        hand := Stored.stamp v (c.hand.refinalized c.puts labels), finalizer := .written })
  | errand {c : Course} {r : Request} {answer : r.Answer} {s' : Stores} :
    c.errand.discipline.permits c.stage r → s.Serves r answer s' →
    s'.instances = s.instances → r.read? answer = none →
    Advances n s (.under c) r answer s'
      (.under { c with stage := c.errand.discipline.after c.stage r answer })

namespace Standing

variable {n : InstanceName} {s s' : Stores} {g g' : Standing} {r : Request} {answer : r.Answer}

/-- What an attempt may ask for and a store may answer is one of the five steps. -/
theorem advances {extent : Extent} (fits : g.Fits n s)
    (permitted : (courseConduct extent n).permits g r) (serves : s.Serves r answer s') :
    g.Advances n s r answer s' ((courseConduct extent n).after g r answer) := by
  obtain ⟨-, permitted⟩ := permitted
  cases r with
  | getInstance namespaceName name =>
    obtain ⟨-, rfl⟩ := permitted
    rcases serves with ⟨⟨error, rfl⟩, rfl⟩ | ⟨rfl, rfl⟩
    · exact .idle rfl rfl (.inr rfl)
    · exact .read rfl rfl
  | namespaceLabels name =>
    obtain rfl := serves
    exact .idle rfl rfl (.inl (by cases g <;> rfl))
  | record about event =>
    obtain rfl := serves
    exact .idle rfl rfl (.inl (by cases g <;> rfl))
  | updateStatus given =>
    cases g with
    | outset | missing => exact permitted.elim
    | under c =>
      obtain ⟨untouched, status, reports, may⟩ := permitted
      rcases serves with ⟨⟨error, rfl⟩, rfl⟩ | ⟨found, current, ⟨v, fresh, rfl, written⟩, documents⟩
      · exact .idle rfl rfl (.inl rfl)
      · -- The write went through, so what is stored is still the version in hand.
        obtain rfl := Hand.eq_of_current fits.knows reports.1 current
        have stored : s.instances.stored n.key = some c.hand := by
          rw [← fits.key, ← reports.1.1]
          exact current.1
        exact .reported untouched stored reports may ⟨fresh, written, documents⟩
  | updateInstance given =>
    cases g with
    | outset | missing => exact permitted.elim
    | under c =>
      obtain ⟨untouched, settled, marks, rfl⟩ := permitted
      rcases serves with ⟨⟨error, rfl⟩, rfl⟩ |
        ⟨found, labels, current, -, ⟨v, fresh, rfl, written⟩, documents⟩
      · exact .idle rfl rfl (.inl rfl)
      · have same := Hand.finalized_sameVersion c.puts c.hand
        obtain rfl := Hand.eq_of_current fits.knows same current
        have stored : s.instances.stored n.key = some c.hand := by
          rw [← fits.key, ← same.1]
          exact current.1
        exact .marked untouched stored settled marks ⟨fresh, written, documents⟩
  | getDocument | createDocument | updateDocument =>
    cases g with
    | outset | missing => exact permitted.elim
    | under c => exact .errand permitted.2 serves (Errand.instances_of_served permitted.2 serves) rfl

namespace Advances

/-- The instances stay as they are, or the attempt's own is written. -/
theorem instances_cases (advances : g.Advances n s r answer s' g') (fits : g.Fits n s) :
    s'.instances = s.instances ∨ ∃ v i, s.WritesInstance v i s' ∧ i.key = n.key := by
  cases advances with
  | idle | read => exact .inl rfl
  | reported untouched stored reports may writes => exact .inr ⟨_, _, writes, fits.key⟩
  | marked untouched stored settled marks writes => exact .inr ⟨_, _, writes, fits.key⟩
  | errand permitted serves instances unread => exact .inl instances

/-- The documents stay as they are, or the errand of the attempt goes on. -/
theorem documents_cases (advances : g.Advances n s r answer s' g') :
    s'.documents = s.documents ∧ r.wroteDocument answer = false ∨
      ∃ c, g = .under c ∧ c.errand.discipline.permits c.stage r ∧ s.Serves r answer s' ∧
        g' = .under { c with stage := c.errand.discipline.after c.stage r answer } := by
  cases advances with
  | idle unread unwritten stands => exact .inl ⟨rfl, unwritten⟩
  | read isRead unwritten => exact .inl ⟨rfl, unwritten⟩
  | reported untouched stored reports may writes => exact .inl ⟨writes.documents, rfl⟩
  | marked untouched stored settled marks writes => exact .inl ⟨writes.documents, rfl⟩
  | errand permitted serves instances unread => exact .inr ⟨_, rfl, permitted, serves, rfl⟩

/-- No step spoils that instances are stored under their names. -/
theorem sound (advances : g.Advances n s r answer s' g') (fits : g.Fits n s)
    (sound : s.instances.Sound) : s'.instances.Sound := by
  rcases advances.instances_cases fits with same | ⟨v, i, writes, -⟩
  · exact same ▸ sound
  · exact writes.instances ▸ sound.write

/-- Nobody's knowledge of an instance is lost. -/
theorem knows (advances : g.Advances n s r answer s' g') (fits : g.Fits n s) {i : Instance}
    (knows : s.instances.Knows i) : s'.instances.Knows i := by
  rcases advances.instances_cases fits with same | ⟨v, j, writes, -⟩
  · exact same ▸ knows
  · exact writes.instances ▸ knows.write writes.fresh

/-- No step touches another instance. -/
theorem stored_of_ne (advances : g.Advances n s r answer s' g') (fits : g.Fits n s) {key : String}
    (other : key ≠ n.key) : s'.instances.stored key = s.instances.stored key := by
  rcases advances.instances_cases fits with same | ⟨v, i, writes, name⟩
  · rw [same]
  · rw [writes.instances]
    exact Shelf.stored_write_of_ne fun same => other (same.trans name)

/-- After a step the attempt knows what it has to know of the stores. -/
theorem fits (advances : g.Advances n s r answer s' g') (fits : g.Fits n s)
    (sound : s.instances.Sound) : g'.Fits n s' := by
  cases advances with
  | idle unread unwritten stands =>
    rcases stands with rfl | rfl
    · exact fits
    · trivial
  | read isRead unwritten =>
    cases stored : s.instances.stored n.key with
    | none => trivial
    | some i =>
      exact ⟨Shelf.knows_of_stored sound stored, sound.name_eq stored, .refl i, fun _ => rfl,
        fun never => (never rfl).elim⟩
  | reported untouched stored reports may writes =>
    exact ⟨writes.instances ▸ Shelf.knows_of_write, fits.key,
      { fits.continues with }, fits.untouched, fits.touched⟩
  | marked untouched stored settled marks writes =>
    refine ⟨writes.instances ▸ Shelf.knows_of_write, fits.key, { fits.continues with },
      nofun, fun _ updating => ?_⟩
    simp [Course.marks, updating] at marks
  | errand permitted serves instances unread =>
    exact ⟨instances ▸ fits.knows, fits.key, fits.continues, fits.untouched, fits.touched⟩

/-- After a step the log tells where the attempt stands. -/
theorem told {h : Chronicle} (advances : g.Advances n s r answer s' g') (told : g.Told h) :
    g'.Told (h.note r answer) := by
  have kept (unread : r.read? answer = none) : (h.note r answer).read = h.read := by
    rw [Chronicle.note, unread]
    rfl
  cases advances with
  | idle unread unwritten stands =>
    rcases stands with rfl | rfl
    · cases g' with
      | outset => trivial
      | missing | under => exact (kept unread).trans told
    · trivial
  | read isRead unwritten =>
    have now : (h.note r answer).read = s.instances.stored n.key := by
      rw [Chronicle.note, isRead]
      rfl
    cases stored : s.instances.stored n.key with
    | none => exact now.trans stored
    | some i => exact now.trans stored
  | reported | marked => exact told
  | errand permitted serves instances unread => exact (kept unread).trans told

end Advances

/-- What an attempt knows outlasts everything that leaves the knowledge of instances alone. -/
theorem Fits.mono (fits : g.Fits n s)
    (knows : ∀ i, s.instances.Knows i → s'.instances.Knows i) : g.Fits n s' := by
  cases g with
  | outset | missing => trivial
  | under c => exact ⟨knows _ fits.knows, fits.key, fits.continues, fits.untouched, fits.touched⟩

/-- The attempt is where the log tells, with what it knows of the stores. -/
structure Known (n : InstanceName) (s : Stores) (h : Chronicle) (g : Standing) : Prop where
  fits : g.Fits n s
  told : g.Told h

section Known

variable {κ : Type} [DecidableEq κ] {a b : κ} {log : List (Occurrence κ)}

theorem Known.outset {h : Chronicle} : Known n s h .outset := ⟨trivial, trivial⟩

/-- After its own step an attempt is where the log tells. -/
theorem Known.advances (known : g.Known n s (chronicle a log)) (sound : s.instances.Sound)
    (advances : g.Advances n s r answer s' g') :
    g'.Known n s' (chronicle a (log ++ [⟨a, r, answer⟩])) := by
  rw [chronicle_concat_self]
  exact ⟨advances.fits known.fits sound, advances.told known.told⟩

/-- The step of another attempt takes nothing away. -/
theorem Known.other {m : InstanceName} {g₂ : Standing} (known : g₂.Known m s (chronicle b log))
    (other : b ≠ a) (fits : g.Fits n s) (advances : g.Advances n s r answer s' g') :
    g₂.Known m s' (chronicle b (log ++ [⟨a, r, answer⟩])) := by
  rw [chronicle_concat_of_ne other]
  exact ⟨known.fits.mono fun _ knows => advances.knows fits knows, known.told⟩

end Known

/-- Where a question was asked the attempt stands as before, but for a finalizer that is counted
now. -/
theorem told_cases (extent : Extent) (n : InstanceName) (g : Standing) (q : Question)
    (answer : q.Answer) :
    (courseConduct extent n).told g q answer = g ∨
      ∃ c, g = .under c ∧ c.finalizer = .written ∧
        (courseConduct extent n).told g q answer = .under { c with finalizer := .counted } := by
  cases g with
  | outset | missing => exact .inl rfl
  | under c =>
    by_cases written : c.finalizer = .written
    · exact .inr ⟨c, rfl, written, congrArg under (if_pos written)⟩
    · exact .inl (congrArg under (if_neg written))

theorem Fits.asked {extent : Extent} (fits : g.Fits n s) (q : Question) (answer : q.Answer) :
    ((courseConduct extent n).told g q answer).Fits n s := by
  rcases told_cases extent n g q answer with same | ⟨c, rfl, written, counted⟩
  · rw [same]
    exact fits
  · rw [counted]
    exact ⟨fits.knows, fits.key, fits.continues, nofun, fun _ => fits.touched (by simp [written])⟩

theorem Known.asked {extent : Extent} {h : Chronicle} (known : g.Known n s h) (q : Question)
    (answer : q.Answer) : ((courseConduct extent n).told g q answer).Known n s h := by
  refine ⟨known.fits.asked q answer, ?_⟩
  rcases told_cases extent n g q answer with same | ⟨c, rfl, written, counted⟩
  · rw [same]
    exact known.told
  · rw [counted]
    exact known.told

/-- After a question nothing is left to be counted. -/
theorem due?_told (extent : Extent) (n : InstanceName) (g : Standing) (q : Question)
    (answer : q.Answer) : ((courseConduct extent n).told g q answer).due? = none := by
  cases g with
  | outset | missing => rfl
  | under c =>
    show c.told.due? = none
    rw [Course.told, Course.due?]
    by_cases written : c.finalizer = .written
    · rw [if_pos written]
      rfl
    · rw [if_neg written, if_neg written]

end Standing

/-! ## Runs -/

/-- In a run of attempts, one at a time for each instance, every attempt under way stands somewhere,
tied as the protocol says, and conforms from there on. -/
theorem exists_standing {κ : Type} [DecidableEq κ] {others : Stores → Stores → Prop}
    {P : Protocol κ Standing others} {subject : κ → InstanceName}
    (start : ∀ k, P.start k = .outset)
    (discipline : ∀ k, P.discipline k = (courseConduct .attempt (subject k)).toDiscipline)
    (asked : ∀ {k g s log} (q : Question) (answer : q.Answer), P.Tie k g s log →
      P.Tie k ((courseConduct .attempt (subject k)).told g q answer) s log)
    {w₀ w : World κ (Result Action)} (idle : w₀.Idle) (safe : P.Safe w₀.stores [])
    (run : World.Reaches
      (fun k p => p = reconcileKey (subject k).namespaceName (subject k).name) others w₀ w) :
    P.Safe w.stores w.log ∧ ∀ {k p}, w.running k = some p →
      ∃ g, P.Tie k g w.stores w.log ∧
        p.Conforms (courseConduct .attempt (subject k)) Standing.Ends g := by
  let R : Regime κ Standing (Result Action) others :=
    P.regime (fun k => courseConduct .attempt (subject k)) (fun _ g result => g.Ends result)
      (fun k => (discipline k).symm) fun tie _ => asked _ _ tie
  have begins : ∀ k p, p = reconcileKey (subject k).namespaceName (subject k).name →
      p.Conforms (R.conduct k) (R.Ends k) (R.start k) := by
    rintro k p rfl
    show Program.Conforms _ _ _ (P.start k)
    rw [start k]
    exact Standing.reconcileKey_conforms (.inr rfl) rfl
  obtain ⟨notes, governs⟩ := R.governs idle ⟨safe, fun _ => P.tie_start safe⟩ begins run
  exact ⟨governs.holds.1, fun {k p} atPoint =>
    ⟨notes k, governs.holds.2 k, governs.conforms atPoint⟩⟩

/-- What is left of a program is a success. -/
def Program.succeeded : Program (Result Action) → Bool
  | .done (.ok _) => true
  | _ => false

theorem Program.exists_of_succeeded {p : Program (Result Action)} (succeeded : p.succeeded = true) :
    ∃ action, p = .done (.ok action) := by
  rcases p with (error | action) | ⟨r, next⟩ | ⟨q, next⟩
  · cases succeeded
  · exact ⟨action, rfl⟩
  · cases succeeded
  · cases succeeded

/-! ## The attempt at the instance of a cluster -/

/-- Whether the instance asks for one text and nothing else. -/
def Instance.asksFor (text : String) (i : Instance) : Bool :=
  match i.spec.resources with
  | [.str found] => found = text
  | _ => false

theorem Instance.resources_of_asksFor {text : String} {i : Instance} (asks : i.asksFor text = true) :
    i.spec.resources = [.str text] := by
  rw [asksFor] at asks
  split at asks
  · next found shape => rw [shape, of_decide_eq_true asks]
  · cases asks

namespace Cluster

/-- The cluster and the controller's own state after an attempt at its instance. -/
def attempted (c : Cluster) (own : ControllerState) : Cluster × ControllerState :=
  ((reconcileKey "bar" "foo").runUntil (fun _ => false) handle c own).2

/-- Whether the attempt at the instance of the cluster succeeds. -/
def succeeds (c : Cluster) (own : ControllerState) : Bool :=
  ((reconcileKey "bar" "foo").runUntil (fun _ => false) handle c own).1.succeeded

/-- What is told with the attempt at the instance of the cluster. -/
def recounts (c : Cluster) (own : ControllerState) (h : Chronicle) : Chronicle :=
  ((reconcileKey "bar" "foo").answersUntil (fun _ => false) handle c own).foldl
    (fun h o => h.note o.1 o.2) h

/-- Where the attempt at the instance of a cluster succeeds, some run of the world ends with it. -/
theorem exists_success {starts : Unit → Program (Result Action) → Prop}
    {others : Stores → Stores → Prop} {w₀ w₁ : World Unit (Result Action)} {c : Cluster}
    {own : ControllerState} (succeeds : c.succeeds own = true)
    (may : starts () (reconcileKey "bar" "foo")) (run : World.Reaches starts others w₀ w₁)
    (free : w₁.running () = none) (shows : c.Shows w₁.stores) (owns : w₁.own = own) :
    ∃ (w : World Unit (Result Action)) (action : Action),
      World.Reaches starts others w₀ w ∧ w.running () = some (.done (.ok action)) ∧
      chronicle () w.log = c.recounts own (chronicle () w₁.log) ∧
      (c.attempted own).1.Shows w.stores ∧ w.own = (c.attempted own).2 := by
  subst owns
  obtain ⟨w, run', atEnd, shows', own, -, log⟩ :=
    World.reaches_undisturbed others may free shows
  obtain ⟨action, ended⟩ := Program.exists_of_succeeded succeeds
  refine ⟨w, action, run.trans run', ended ▸ atEnd, ?_, shows', own⟩
  rw [log, chronicle_append_map]
  rfl

/-- The cluster in which nothing but an instance of a text was created. -/
def created (text : String) : Cluster := (({} : Cluster).saveInstance (.newborn "foo" text)).2

/-- Somebody creates an instance of a text in an empty cluster, and the attempt at it succeeds. -/
theorem exists_created (starts : Unit → Program (Result Action) → Prop)
    (others : Stores → Stores → Prop) {text : String}
    (succeeds : (created text).succeeds {} = true) (may : starts () (reconcileKey "bar" "foo"))
    (creates : ∀ v s, (stores {}).WritesInstance v (.newborn "foo" text) s → others (stores {}) s) :
    ∃ (w : World Unit (Result Action)) (action : Action),
      World.Reaches starts others (World.onCluster Unit (Result Action) {}) w ∧
      w.running () = some (.done (.ok action)) ∧
      chronicle () w.log = (created text).recounts {} {} ∧
      ((created text).attempted {}).1.Shows w.stores ∧ w.own = ((created text).attempted {}).2 := by
  let w₀ := World.onCluster Unit (Result Action) {}
  obtain ⟨s, v, writes, shows⟩ := (shows_stores {}).exists_saved (.newborn "foo" text)
  have shows : (created text).Shows s := shows
  have run : World.Reaches starts others w₀ { w₀ with stores := s } :=
    .tail .refl (.interfered s (creates v s writes))
  obtain ⟨w, action, run, ended, log, shows, own⟩ :=
    exists_success succeeds may run rfl shows rfl
  have log : chronicle () w.log = (created text).recounts {} {} := log
  exact ⟨w, action, run, ended, log, shows, own⟩

/-- The block of an instance stands in the document that was created for it. -/
theorem Shows.located_fresh {c : Cluster} {s : Stores} (shows : c.Shows s) {i : Instance}
    {target : Target} {key : String} (name : i.key = key) (free : '\n' ∉ key.toList)
    (closed : Block.closes i.fragment.toList = true)
    (created : (c.documents.lookup target.mapKey).map (·.content target.key) =
      some (Document.header ++ Document.renderBlock key i.fragment)) :
    Block.located (s.content target).toList key.toList =
      some (Block.render key.toList i.fragment.toList) := by
  subst name
  obtain ⟨d, look, content⟩ := Option.map_eq_some_iff.1 created
  rw [shows.content look, content, Errand.located_fresh free, Errand.outcome_putting, if_pos closed]

end Cluster

end StateMetrics
