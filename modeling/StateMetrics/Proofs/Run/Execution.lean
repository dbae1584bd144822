import StateMetrics.Proofs.Run.World

/-!
# Attempts on the cluster in memory

Running a program on the cluster in memory, in full or up to some request, is a run of the world in
which only one attempt takes steps. So worlds with real programs can be reached, not only described.
-/

namespace StateMetrics

/-- Runs a program up to the first request that it is to stop at; what is left of the program. -/
def Program.runUntil {α σ : Type} (stop : Request → Bool) (handle : Handler σ) :
    Program α → σ → ControllerState → Program α × σ × ControllerState
  | .done value, s, own => (.done value, s, own)
  | .request r next, s, own =>
    if stop r then (.request r next, s, own)
    else (next (handle r s).1).runUntil stop handle (handle r s).2 own
  | .ask q next, s, own => (next (own.answer q).1).runUntil stop handle s (own.answer q).2

/-- The requests of a program up to the first one that it is to stop at, with the answers to them. -/
def Program.answersUntil {α σ : Type} (stop : Request → Bool) (handle : Handler σ) :
    Program α → σ → ControllerState → List (Σ r : Request, r.Answer)
  | .done _, _, _ => []
  | .request r next, s, own =>
    if stop r then []
    else ⟨r, (handle r s).1⟩ ::
      (next (handle r s).1).answersUntil stop handle (handle r s).2 own
  | .ask q next, s, own => (next (own.answer q).1).answersUntil stop handle s (own.answer q).2

/-- An instance of one text that nobody reconciled yet. -/
def Instance.newborn (name text : String) : Instance where
  metadata :=
    { name := some name, namespaceName? := some "bar", generation := some 1
      resourceVersion := some "1" }
  spec :=
    { target := { name := "ksm", namespaceName? := none, key := "" }
      resources := [.str text] }
  status := none

/-- What the controller sees of a cluster whose writes all gave versions. -/
def Cluster.stores (c : Cluster) : Stores where
  instances := ⟨fun key => c.instances.lookup key, {v | ∃ n ≤ c.writes, v = Decimal.natText n}⟩
  documents := ⟨fun key => c.documents.lookup key, {v | ∃ n ≤ c.writes, v = Decimal.natText n}⟩

theorem Cluster.sound_documents {c : Cluster} (empty : c.documents = []) :
    c.stores.documents.Sound :=
  Shelf.sound_of_empty fun key => by
    show c.documents.lookup key = none
    rw [empty]
    rfl

theorem Cluster.sound_instances {c : Cluster} (empty : c.instances = []) :
    c.stores.instances.Sound :=
  Shelf.sound_of_empty fun key => by
    show c.instances.lookup key = none
    rw [empty]
    rfl

theorem Cluster.shows_stores (c : Cluster) : c.Shows c.stores where
  instances := ⟨rfl, fun _ mem => mem⟩
  documents := ⟨rfl, fun _ mem => mem⟩

namespace World

variable {κ α : Type} [DecidableEq κ] {w : World κ α} {a : κ} {c : Cluster}

/-- A cluster with nothing under way. -/
def onCluster (κ α : Type) (c : Cluster) : World κ α :=
  { stores := c.stores, own := {}, running := fun _ => none, log := [] }

omit [DecidableEq κ] in
/-- Nothing has happened yet on the cluster. -/
theorem idle_onCluster (c : Cluster) : (onCluster κ α c).Idle := ⟨fun _ => rfl, rfl⟩

/-- The answer of the cluster is an answer in the world. -/
theorem answers_handle {r : Request} {next : r.Answer → Program α}
    (atRequest : w.running a = some (.request r next)) (shows : c.Shows w.stores) :
    ∃ stores, (Cluster.handle r c).2.Shows stores ∧ w.Answers a r (Cluster.handle r c).1
      { w.proceed a (some (next (Cluster.handle r c).1)) with
        stores, log := w.log ++ [⟨a, r, (Cluster.handle r c).1⟩] } := by
  obtain ⟨stores, shows', serves⟩ := shows.serves r
  exact ⟨stores, shows', .intro next stores atRequest serves⟩

/-- A program that runs on the cluster up to some request is an attempt that gets as far, and the log
has what it was answered. -/
theorem reaches_runUntil_log (starts : κ → Program α → Prop) (others : Stores → Stores → Prop)
    (stop : Request → Bool) {p : Program α} (atPoint : w.running a = some p)
    (shows : c.Shows w.stores) :
    ∃ w', Reaches starts others w w' ∧
      w'.running a = some (p.runUntil stop Cluster.handle c w.own).1 ∧
      (p.runUntil stop Cluster.handle c w.own).2.1.Shows w'.stores ∧
      w'.own = (p.runUntil stop Cluster.handle c w.own).2.2 ∧
      (∀ b, b ≠ a → w'.running b = w.running b) ∧
      w'.log = w.log ++
        (p.answersUntil stop Cluster.handle c w.own).map fun o => ⟨a, o.1, o.2⟩ := by
  induction p generalizing w c with
  | done value => exact ⟨w, .refl, atPoint, shows, rfl, fun _ _ => rfl, (List.append_nil _).symm⟩
  | request r next ih =>
    by_cases stops : stop r = true
    · rw [Program.runUntil, Program.answersUntil, if_pos stops, if_pos stops]
      exact ⟨w, .refl, atPoint, shows, rfl, fun _ _ => rfl, (List.append_nil _).symm⟩
    · rw [Program.runUntil, Program.answersUntil, if_neg stops, if_neg stops]
      obtain ⟨stores, shows', answers⟩ := answers_handle atPoint shows
      have next : ({ w.proceed a (some (next (Cluster.handle r c).1)) with
          stores, log := w.log ++ [⟨a, r, (Cluster.handle r c).1⟩] } : World κ α).running a =
            some (next (Cluster.handle r c).1) := proceed_running_self w a _
      obtain ⟨w', run, atPoint', shows'', own, rest, log⟩ := ih (Cluster.handle r c).1 next shows'
      refine ⟨w', .head (.answered a r _ answers) run, atPoint', shows'', own, fun b other =>
        (rest b other).trans (proceed_running_of_ne other w _), ?_⟩
      rw [log, List.map_cons, List.append_assoc]
      rfl
  | ask q next ih =>
    have next : ({ w.proceed a (some (next (w.own.answer q).1)) with
        own := (w.own.answer q).2 } : World κ α).running a =
          some (next (w.own.answer q).1) := proceed_running_self w a _
    obtain ⟨w', run, atPoint', shows', own, rest, log⟩ := ih (w.own.answer q).1 next shows
    exact ⟨w', .head (.asked a q _ atPoint) run, atPoint', shows', own, fun b other =>
      (rest b other).trans (proceed_running_of_ne other w _), log⟩

/-- An attempt that nobody disturbs is run to its end. -/
theorem reaches_undisturbed {starts : κ → Program α → Prop} (others : Stores → Stores → Prop)
    {p : Program α} (may : starts a p) (free : w.running a = none) (shows : c.Shows w.stores) :
    ∃ w', Reaches starts others w w' ∧
      w'.running a = some (p.runUntil (fun _ => false) Cluster.handle c w.own).1 ∧
      (p.runUntil (fun _ => false) Cluster.handle c w.own).2.1.Shows w'.stores ∧
      w'.own = (p.runUntil (fun _ => false) Cluster.handle c w.own).2.2 ∧
      (∀ b, b ≠ a → w'.running b = w.running b) ∧
      w'.log = w.log ++
        (p.answersUntil (fun _ => false) Cluster.handle c w.own).map fun o => ⟨a, o.1, o.2⟩ := by
  have atStart : (w.proceed a (some p)).running a = some p := proceed_running_self ..
  obtain ⟨w', run, atEnd, shows', own, rest, log⟩ :=
    reaches_runUntil_log starts others (fun _ => false) atStart shows
  exact ⟨w', .head (.begun a p free may) run, atEnd, shows', own, fun b other =>
    (rest b other).trans (proceed_running_of_ne other w _), log⟩

/-- A program that runs on the cluster up to some request is an attempt that gets as far. -/
theorem reaches_runUntil (starts : κ → Program α → Prop) (others : Stores → Stores → Prop)
    (stop : Request → Bool) {p : Program α} (atPoint : w.running a = some p)
    (shows : c.Shows w.stores) :
    ∃ w', Reaches starts others w w' ∧
      w'.running a = some (p.runUntil stop Cluster.handle c w.own).1 ∧
      (p.runUntil stop Cluster.handle c w.own).2.1.Shows w'.stores ∧
      w'.own = (p.runUntil stop Cluster.handle c w.own).2.2 ∧
      ∀ b, b ≠ a → w'.running b = w.running b := by
  obtain ⟨w', run, atPoint', shows', own, rest, -⟩ :=
    reaches_runUntil_log starts others stop atPoint shows
  exact ⟨w', run, atPoint', shows', own, rest⟩

end World

end StateMetrics
