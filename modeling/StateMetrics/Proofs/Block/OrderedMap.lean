import StateMetrics.Proofs.Block.Layout

/-!
# A document as an ordered map

What upserts and removals do to a document that was only ever written by them: they do to its
entries what is done to a map that keeps the order of insertion. `Holds` relates a document to its
entries, `Holds.step` is one change and `Holds.run` any number of them. The entries that the search
does not find, because they run into their end marker, stay where they are.
-/

namespace StateMetrics.Block

open Text

/-- A change of a document. -/
inductive Change where
  | upsert (key fragment : List Char)
  | remove (key : List Char)
  deriving DecidableEq, Repr

/-- What a change came to. -/
inductive Report where
  | unchanged
  | appended
  | replaced
  | removed
  | absent
  deriving DecidableEq, Repr

namespace Change

/-- The key whose block is changed. -/
def key : Change → List Char
  | upsert key _ => key
  | remove key => key

/-- Whether the change puts a block into the document. -/
def isUpsert : Change → Bool
  | upsert .. => true
  | remove _ => false

/-- The change made to a document; a document that is as it should be is kept. -/
def edit (document : List Char) : Change → Report × List Char
  | upsert key fragment =>
    match Block.upsert document key fragment with
    | .unchanged => (.unchanged, document)
    | .appended document => (.appended, document)
    | .replaced document => (.replaced, document)
  | remove key =>
    match Block.remove document key with
    | none => (.absent, document)
    | some document => (.removed, document)

/-- The change made to entries, where `owns` tells the entries of a key. -/
def act (owns : List Char → Entry → Bool) (entries : List Entry) : Change → Report × List Entry
  | upsert key fragment =>
    match entries.find? (owns key) with
    | none => (.appended, entries ++ [⟨key, fragment⟩])
    | some e =>
      if e.fragment = fragment then (.unchanged, entries)
      else (.replaced, entries.map fun x => if owns key x then ⟨key, fragment⟩ else x)
  | remove key =>
    if entries.any (owns key) then (.removed, entries.filter fun x => !owns key x)
    else (.absent, entries)

/-- Changes made one after another; what each of them came to, and what there is at the end. -/
def run {σ : Type} (step : σ → Change → Report × σ) : List Change → σ → List Report × σ
  | [], s => ([], s)
  | change :: changes, s =>
    let (report, s) := step s change
    let (reports, s) := run step changes s
    (report :: reports, s)

/-- The change made to a map from keys to fragments that keeps the order of insertion. -/
def onMap : List Entry → Change → Report × List Entry := act fun key e => e.key = key

/-- The key has no newline, and the fragment cannot be mistaken for markers. -/
def Sound : Change → Prop
  | upsert key fragment => '\n' ∉ key ∧ Tame fragment
  | remove key => '\n' ∉ key

/-- The key has no newline; the fragment ends with one unless it is empty, and no line of it is a
marker. -/
def Allowed : Change → Prop
  | upsert key fragment =>
    '\n' ∉ key ∧ closes fragment = true ∧ ∀ line ∈ splitLines fragment, ¬ IsMarker line
  | remove key => '\n' ∉ key

/-- What is asked of a change in the main theorem is more than one step needs. -/
theorem Allowed.sound {change : Change} (allowed : change.Allowed) : change.Sound := by
  cases change with
  | upsert key fragment => exact ⟨allowed.1, tame_of_closes allowed.2.1 allowed.2.2⟩
  | remove key => exact allowed

@[simp] theorem key_upsert (key fragment : List Char) : (upsert key fragment).key = key := rfl

@[simp] theorem key_remove (key : List Char) : (remove key).key = key := rfl

theorem run_cons {σ : Type} (step : σ → Change → Report × σ) (change : Change)
    (changes : List Change) (s : σ) :
    run step (change :: changes) s =
      ((step s change).1 :: (run step changes (step s change).2).1,
        (run step changes (step s change).2).2) := rfl

section Act

variable {owns other : List Char → Entry → Bool} {entries before after : List Entry}
  {key fragment : List Char} {e : Entry}

theorem find?_of_absent (absent : ∀ x ∈ entries, owns key x = false) :
    entries.find? (owns key) = none :=
  List.find?_eq_none.2 fun x mem => by simp [absent x mem]

/-- The entry of the key is found whatever stands behind it. -/
theorem find?_of_split (present : owns key e = true) (front : ∀ x ∈ before, owns key x = false) :
    (before ++ e :: after).find? (owns key) = some e := by
  rw [List.find?_append, find?_of_absent front, List.find?_cons, present]
  rfl

theorem act_upsert_of_absent (absent : ∀ x ∈ entries, owns key x = false) :
    act owns entries (upsert key fragment) = (.appended, entries ++ [⟨key, fragment⟩]) := by
  simp only [act, find?_of_absent absent]

theorem act_remove_of_absent (absent : ∀ x ∈ entries, owns key x = false) :
    act owns entries (remove key) = (.absent, entries) := by
  have unowned : entries.any (owns key) = false := List.any_eq_false.2 fun x mem => by
    simp [absent x mem]
  simp [act, unowned]

/-- A fragment under a key that is there takes the place of the old one, if it differs. -/
theorem act_upsert_of_present (present : owns key e = true)
    (front : ∀ x ∈ before, owns key x = false) (back : ∀ x ∈ after, owns key x = false) :
    act owns (before ++ e :: after) (upsert key fragment) =
      if e.fragment = fragment then (.unchanged, before ++ e :: after)
      else (.replaced, before ++ ⟨key, fragment⟩ :: after) := by
  have kept : ∀ list : List Entry, (∀ x ∈ list, owns key x = false) →
      list.map (fun x => if owns key x then ⟨key, fragment⟩ else x) = list := fun list absent =>
    (List.map_congr_left fun x mem => by simp [absent x mem]).trans (List.map_id list)
  rw [act, find?_of_split present front]
  simp only [List.map_append, List.map_cons, kept before front, kept after back, present, if_true]

/-- A removal takes one entry out and moves no other. -/
theorem act_remove_of_present (present : owns key e = true)
    (front : ∀ x ∈ before, owns key x = false) (back : ∀ x ∈ after, owns key x = false) :
    act owns (before ++ e :: after) (remove key) = (.removed, before ++ after) := by
  have kept : ∀ list : List Entry, (∀ x ∈ list, owns key x = false) →
      list.filter (fun x => !owns key x) = list := fun list absent =>
    List.filter_eq_self.2 fun x mem => by simp [absent x mem]
  have any : (before ++ e :: after).any (owns key) = true := by simp [present]
  simp [act, any, List.filter_append, kept before front, kept after back, present]

/-- Only what `owns` says about the entries there matters. -/
theorem act_congr {change : Change}
    (same : ∀ x ∈ entries, owns change.key x = other change.key x) :
    act owns entries change = act other entries change := by
  have filter : entries.filter (owns change.key) = entries.filter (other change.key) :=
    List.filter_congr same
  have find : entries.find? (owns change.key) = entries.find? (other change.key) := by
    rw [← List.head?_filter, filter, List.head?_filter]
  cases change with
  | upsert key fragment =>
    have map : entries.map (fun x => if owns key x then ⟨key, fragment⟩ else x) =
        entries.map (fun x => if other key x then ⟨key, fragment⟩ else x) :=
      List.map_congr_left fun x mem => by rw [show owns key x = other key x from same x mem]
    simp only [act, show entries.find? (owns key) = entries.find? (other key) from find, map]
  | remove key =>
    have any : entries.any (owns key) = entries.any (other key) := by
      rw [← List.isSome_find?, ← List.isSome_find?]
      exact congrArg Option.isSome find
    have rest : entries.filter (fun x => !owns key x) = entries.filter (fun x => !other key x) :=
      List.filter_congr fun x mem => by rw [show owns key x = other key x from same x mem]
    simp only [act, any, rest]

theorem mem_act {change : Change} {x : Entry} (mem : x ∈ (act owns entries change).2) :
    x ∈ entries ∨ change = upsert x.key x.fragment := by
  cases change with
  | upsert key fragment =>
    cases present : entries.find? (owns key) with
    | none =>
      simp only [act, present, List.mem_append, List.mem_singleton] at mem
      exact mem.imp_right fun same => by rw [same]
    | some e =>
      by_cases same : e.fragment = fragment
      · simp only [act, present, if_pos same] at mem
        exact .inl mem
      · simp only [act, present, if_neg same, List.mem_map] at mem
        obtain ⟨y, inside, rfl⟩ := mem
        split
        · exact .inr rfl
        · exact .inl inside
  | remove key =>
    rw [act] at mem
    split at mem
    · exact .inl (List.mem_filter.1 mem).1
    · exact .inl mem

end Act

end Change

/-! ## One change -/

/-- No key finds both entries. -/
def Entry.Apart (a b : Entry) : Prop := ∀ key, a.isFoundBy key = true → b.isFoundBy key = false

/-- The document was written block by block and holds these entries; a placeholder holds none. -/
structure Holds (entries : List Entry) (document : List Char) : Prop where
  sound : ∀ e ∈ entries, e.Sound
  apart : entries.Pairwise Entry.Apart
  text : document = documentOf entries ∨ entries = [] ∧ isPlaceholder document = true

section Holds

variable {entries before after : List Entry} {document key fragment : List Char} {e : Entry}

/-- A document without text holds no entries. -/
theorem holds_nil : Holds [] [] := ⟨by simp, .nil, .inr ⟨rfl, rfl⟩⟩

theorem Entry.key_eq_of_isFoundBy (isFound : e.isFoundBy key = true) : e.key = key := by
  simp only [isFoundBy, Bool.and_eq_true, decide_eq_true_eq] at isFound
  exact isFound.1

/-- Two entries of which one is not found under the key of the other are never found together. -/
theorem Entry.apart_of_absent {x : Entry} (absent : x.isFoundBy e.key = false) :
    x.Apart e ∧ e.Apart x := by
  constructor
  · intro key isFound
    rw [Bool.eq_false_iff]
    intro alsoFound
    rw [key_eq_of_isFoundBy alsoFound, isFound] at absent
    cases absent
  · intro key isFound
    rwa [key_eq_of_isFoundBy isFound] at absent

/-- The entry that the search for a key finds, if any, is the only one. -/
theorem exists_split_of_isFoundBy
    (apart : entries.Pairwise Entry.Apart) (mem : e ∈ entries)
    (isFound : e.isFoundBy key = true) :
    ∃ before after, entries = before ++ e :: after ∧ (∀ x ∈ before, x.isFoundBy key = false) ∧
      ∀ x ∈ after, x.isFoundBy key = false := by
  obtain ⟨before, after, rfl⟩ := List.append_of_mem mem
  obtain ⟨-, rest, across⟩ := List.pairwise_append.1 apart
  refine ⟨before, after, rfl, fun x inside => ?_, fun x inside => ?_⟩
  · rw [Bool.eq_false_iff]
    intro alsoFound
    have passes := across x inside e List.mem_cons_self key alsoFound
    rw [isFound] at passes
    cases passes
  · exact (List.pairwise_cons.1 rest).1 x inside key isFound

/-- A block whose key is not found goes behind the others. -/
theorem Holds.upsert_of_absent (holds : Holds entries document)
    (absent : ∀ x ∈ entries, x.isFoundBy key = false) :
    upsert document key fragment = .appended (documentOf (entries ++ [⟨key, fragment⟩])) := by
  rcases holds.text with rfl | ⟨rfl, placeholder⟩
  · have appended := append_documentOf entries ⟨key, fragment⟩
    simp only [upsert, find_documentOf_eq_none holds.sound absent]
    rw [← appended]
    rfl
  · have ends : endsWithNewline header = true := by decide +kernel
    simp only [upsert, find_of_isPlaceholder placeholder]
    rw [append, placeholder, if_pos rfl, ends, List.nil_append, documentOf]
    simp [Entry.text]

/-- Nothing is removed where the key is not found. -/
theorem Holds.remove_of_absent (holds : Holds entries document)
    (absent : ∀ x ∈ entries, x.isFoundBy key = false) : remove document key = none := by
  rcases holds.text with rfl | ⟨rfl, placeholder⟩
  · simp only [remove, find_documentOf_eq_none holds.sound absent, Option.map_none]
  · simp only [remove, find_of_isPlaceholder placeholder, Option.map_none]

theorem Holds.eq_documentOf (holds : Holds (before ++ e :: after) document) :
    document = documentOf (before ++ e :: after) :=
  holds.text.resolve_right fun never => by simp at never

/-- A block whose key is found stays where it is, with the new fragment. -/
theorem Holds.upsert_of_present (holds : Holds (before ++ e :: after) document)
    (isFound : e.isFoundBy key = true) (back : ∀ x ∈ after, x.isFoundBy key = false) :
    upsert document key fragment =
      if e.fragment = fragment then .unchanged
      else .replaced (documentOf (before ++ ⟨key, fragment⟩ :: after)) := by
  obtain rfl := holds.eq_documentOf
  obtain rfl := Entry.key_eq_of_isFoundBy isFound
  have same : e.text = render e.key fragment ↔ e.fragment = fragment :=
    (render_injective e.key).eq_iff
  have spliced := splice_documentOf holds.sound [⟨e.key, fragment⟩]
  simp only [upsert, find_documentOf holds.sound isFound back, slice_documentOf holds.sound, same]
  split
  · rfl
  · congr 1
    simpa [Entry.text] using spliced

/-- A block whose key is found is taken out whole. -/
theorem Holds.remove_of_present (holds : Holds (before ++ e :: after) document)
    (isFound : e.isFoundBy key = true) (back : ∀ x ∈ after, x.isFoundBy key = false) :
    remove document key = some (documentOf (before ++ after)) := by
  obtain rfl := holds.eq_documentOf
  have spliced := splice_documentOf holds.sound []
  simp only [remove, find_documentOf holds.sound isFound back, Option.map_some]
  simpa using spliced

/-- Nobody's entry is found, or exactly one is. -/
theorem Holds.absent_or_split (holds : Holds entries document) (key : List Char) :
    (∀ x ∈ entries, x.isFoundBy key = false) ∨
      ∃ before e after, entries = before ++ e :: after ∧ e.isFoundBy key = true ∧
        (∀ x ∈ before, x.isFoundBy key = false) ∧ ∀ x ∈ after, x.isFoundBy key = false := by
  by_cases present : ∃ e ∈ entries, e.isFoundBy key = true
  · obtain ⟨e, mem, isFound⟩ := present
    obtain ⟨before, after, shape, front, back⟩ := exists_split_of_isFoundBy holds.apart mem isFound
    exact .inr ⟨before, e, after, shape, isFound, front, back⟩
  · refine .inl fun x mem => ?_
    rw [Bool.eq_false_iff]
    exact fun isFound => present ⟨x, mem, isFound⟩

/-- The block that the search finds is the one of the entry that it finds. -/
theorem Holds.located (holds : Holds entries document) (key : List Char) :
    located document key = (entries.find? (Entry.isFoundBy key)).map Entry.text := by
  rcases holds.absent_or_split key with absent | ⟨before, e, after, rfl, isFound, front, back⟩
  · rw [Change.find?_of_absent absent, Block.located]
    rcases holds.text with rfl | ⟨rfl, placeholder⟩
    · rw [find_documentOf_eq_none holds.sound absent]
      rfl
    · rw [find_of_isPlaceholder placeholder]
      rfl
  · obtain rfl := holds.eq_documentOf
    rw [Change.find?_of_split isFound front, Block.located,
      find_documentOf holds.sound isFound back]
    simp only [Option.map_some, slice_documentOf holds.sound]

theorem Holds.concat (holds : Holds entries document) (sound : e.Sound)
    (absent : ∀ x ∈ entries, x.isFoundBy e.key = false) :
    Holds (entries ++ [e]) (documentOf (entries ++ [e])) where
  sound x mem := (List.mem_append.1 mem).elim (holds.sound x) fun same =>
    List.mem_singleton.1 same ▸ sound
  apart := List.pairwise_append.2 ⟨holds.apart, List.pairwise_singleton _ _, fun x mem _ same =>
    List.mem_singleton.1 same ▸ (Entry.apart_of_absent (absent x mem)).1⟩
  text := .inl rfl

theorem Holds.replace (holds : Holds (before ++ e :: after) document) {e' : Entry}
    (sound : e'.Sound) (front : ∀ x ∈ before, x.isFoundBy e'.key = false)
    (back : ∀ x ∈ after, x.isFoundBy e'.key = false) :
    Holds (before ++ e' :: after) (documentOf (before ++ e' :: after)) where
  sound x mem := by
    rcases List.mem_append.1 mem with inBefore | mem
    · exact holds.sound x (by simp [inBefore])
    · rcases List.mem_cons.1 mem with rfl | inAfter
      · exact sound
      · exact holds.sound x (by simp [inAfter])
  apart := by
    obtain ⟨first, rest, across⟩ := List.pairwise_append.1 holds.apart
    refine List.pairwise_append.2 ⟨first, List.pairwise_cons.2 ⟨fun x mem => ?_,
      (List.pairwise_cons.1 rest).2⟩, fun x mem y mem' => ?_⟩
    · exact (Entry.apart_of_absent (back x mem)).2
    · rcases List.mem_cons.1 mem' with rfl | inAfter
      · exact (Entry.apart_of_absent (front x mem)).1
      · exact across x mem y (List.mem_cons_of_mem _ inAfter)
  text := .inl rfl

theorem Holds.erase (holds : Holds (before ++ e :: after) document) :
    Holds (before ++ after) (documentOf (before ++ after)) where
  sound x mem := holds.sound x (by
    rcases List.mem_append.1 mem with inBefore | inAfter
    · simp [inBefore]
    · simp [inAfter])
  apart := holds.apart.sublist (List.Sublist.append_left (List.sublist_cons_self e after) before)
  text := .inl rfl

/-- A change does to the document what it does to its entries. The document is written block by block
from the first upsert on. -/
theorem Holds.step (holds : Holds entries document) {change : Change} (sound : change.Sound) :
    (change.edit document).1 = (change.act Entry.isFoundBy entries).1 ∧
      Holds (change.act Entry.isFoundBy entries).2 (change.edit document).2 ∧
      (change.isUpsert = true ∨ document = documentOf entries →
        (change.edit document).2 = documentOf (change.act Entry.isFoundBy entries).2) := by
  cases change with
  | upsert key fragment =>
    have newSound : Entry.Sound ⟨key, fragment⟩ := ⟨sound.1, sound.2⟩
    rcases holds.absent_or_split key with absent | ⟨before, e, after, rfl, isFound, front, back⟩
    · have edited : (Change.upsert key fragment).edit document =
          (.appended, documentOf (entries ++ [⟨key, fragment⟩])) := by
        simp only [Change.edit, holds.upsert_of_absent absent]
      rw [edited, Change.act_upsert_of_absent absent]
      exact ⟨rfl, holds.concat newSound absent, fun _ => rfl⟩
    · rw [Change.act_upsert_of_present isFound front back]
      by_cases same : e.fragment = fragment
      · have edited : (Change.upsert key fragment).edit document = (.unchanged, document) := by
          simp only [Change.edit, holds.upsert_of_present isFound back, if_pos same]
        rw [edited, if_pos same]
        exact ⟨rfl, holds, fun _ => holds.eq_documentOf⟩
      · have edited : (Change.upsert key fragment).edit document =
            (.replaced, documentOf (before ++ ⟨key, fragment⟩ :: after)) := by
          simp only [Change.edit, holds.upsert_of_present isFound back, if_neg same]
        rw [edited, if_neg same]
        exact ⟨rfl, holds.replace newSound front back, fun _ => rfl⟩
  | remove key =>
    rcases holds.absent_or_split key with absent | ⟨before, e, after, rfl, isFound, front, back⟩
    · have edited : (Change.remove key).edit document = (.absent, document) := by
        simp only [Change.edit, holds.remove_of_absent absent]
      rw [edited, Change.act_remove_of_absent absent]
      exact ⟨rfl, holds, fun written => written.resolve_left (by simp [Change.isUpsert])⟩
    · have edited : (Change.remove key).edit document =
          (.removed, documentOf (before ++ after)) := by
        simp only [Change.edit, holds.remove_of_present isFound back]
      rw [edited, Change.act_remove_of_present isFound front back]
      exact ⟨rfl, holds.erase, fun _ => rfl⟩

/-- The entry that is found for a key after a change of it. -/
def Change.outcome : Change → Option Entry
  | upsert key fragment => if closes fragment then some ⟨key, fragment⟩ else none
  | remove _ => none

/-- The entry just put in is found, provided that its fragment closes. -/
theorem find?_outcome_append (absent : ∀ x ∈ after, x.isFoundBy key = false) (fragment : List Char) :
    (⟨key, fragment⟩ :: after).find? (Entry.isFoundBy key) =
      (Change.upsert key fragment).outcome := by
  have unfound := Change.find?_of_absent absent
  cases closed : closes fragment <;>
    simp [Entry.isFoundBy, Change.outcome, closed, unfound]

/-- A change decides what is found for its key. -/
theorem Holds.find?_act (holds : Holds entries document) (change : Change) :
    (change.act Entry.isFoundBy entries).2.find? (Entry.isFoundBy change.key) = change.outcome := by
  cases change with
  | upsert key fragment =>
    rw [Change.key_upsert]
    rcases holds.absent_or_split key with absent | ⟨before, e, after, rfl, isFound, front, back⟩
    · rw [Change.act_upsert_of_absent absent, List.find?_append, Change.find?_of_absent absent]
      exact find?_outcome_append (by simp) fragment
    · rw [Change.act_upsert_of_present isFound front back]
      by_cases same : e.fragment = fragment
      · rw [if_pos same, List.find?_append, Change.find?_of_absent front]
        obtain rfl := Entry.key_eq_of_isFoundBy isFound
        subst same
        exact find?_outcome_append back e.fragment
      · rw [if_neg same, List.find?_append, Change.find?_of_absent front]
        exact find?_outcome_append back fragment
  | remove key =>
    rw [Change.key_remove]
    rcases holds.absent_or_split key with absent | ⟨before, e, after, rfl, isFound, front, back⟩
    · rw [Change.act_remove_of_absent absent]
      exact Change.find?_of_absent absent
    · rw [Change.act_remove_of_present isFound front back]
      exact Change.find?_of_absent fun x mem =>
        (List.mem_append.1 mem).elim (front x) (back x)

/-- A change leaves alone what is found for any other key. -/
theorem Holds.find?_act_of_ne (holds : Holds entries document) {change : Change}
    (other : change.key ≠ key) :
    (change.act Entry.isFoundBy entries).2.find? (Entry.isFoundBy key) =
      entries.find? (Entry.isFoundBy key) := by
  have notThis : ∀ e : Entry, e.isFoundBy change.key = true → e.isFoundBy key = false :=
    fun e isFound => by
      rw [Bool.eq_false_iff]
      intro alsoFound
      exact other ((Entry.key_eq_of_isFoundBy isFound).symm.trans
        (Entry.key_eq_of_isFoundBy alsoFound))
  cases change with
  | upsert changed fragment =>
    have differs : changed ≠ key := other
    have notNew : Entry.isFoundBy key ⟨changed, fragment⟩ = false := by
      simp [Entry.isFoundBy, differs]
    rcases holds.absent_or_split changed with absent | ⟨before, e, after, rfl, isFound, front, back⟩
    · rw [Change.act_upsert_of_absent absent, List.find?_append, List.find?_cons, notNew]
      simp
    · rw [Change.act_upsert_of_present isFound front back]
      split
      · rfl
      · rw [List.find?_append, List.find?_append, List.find?_cons, List.find?_cons,
          notNew, notThis e isFound]
  | remove changed =>
    rcases holds.absent_or_split changed with absent | ⟨before, e, after, rfl, isFound, front, back⟩
    · rw [Change.act_remove_of_absent absent]
    · rw [Change.act_remove_of_present isFound front back, List.find?_append, List.find?_append,
        List.find?_cons, notThis e isFound]

/-! ## Any number of changes -/

/-- Changes one after another do to the document what they do to its entries. -/
theorem Holds.run (holds : Holds entries document) {changes : List Change}
    (sound : ∀ change ∈ changes, change.Sound) :
    (Change.run Change.edit changes document).1 =
        (Change.run (Change.act Entry.isFoundBy) changes entries).1 ∧
      Holds (Change.run (Change.act Entry.isFoundBy) changes entries).2
        (Change.run Change.edit changes document).2 ∧
      (changes.any Change.isUpsert = true ∨ document = documentOf entries →
        (Change.run Change.edit changes document).2 =
          documentOf (Change.run (Change.act Entry.isFoundBy) changes entries).2) := by
  induction changes generalizing entries document with
  | nil => exact ⟨rfl, holds, fun written => written.resolve_left (by simp)⟩
  | cons change changes ih =>
    obtain ⟨report, next, written⟩ := holds.step (sound change (by simp))
    obtain ⟨reports, final, finalWritten⟩ := ih next fun c mem => sound c (by simp [mem])
    refine ⟨by simp only [Change.run_cons, report, reports], final, fun any => finalWritten ?_⟩
    rw [List.any_cons, Bool.or_eq_true, or_assoc] at any
    rcases any with now | later | before
    · exact .inr (written (.inl now))
    · exact .inl later
    · exact .inr (written (.inr before))

/-- Removals from a document without entries do nothing. -/
theorem Holds.run_of_no_upsert (holds : Holds [] document) {changes : List Change}
    (removals : changes.any Change.isUpsert = false) :
    Change.run Change.edit changes document = (changes.map fun _ => .absent, document) := by
  induction changes with
  | nil => rfl
  | cons change changes ih =>
    rw [List.any_cons, Bool.or_eq_false_iff] at removals
    cases change with
    | upsert key fragment => exact absurd removals.1 (by simp [Change.isUpsert])
    | remove key =>
      have edited : (Change.remove key).edit document = (.absent, document) := by
        have absent : Block.remove document key = none := holds.remove_of_absent (by simp)
        simp only [Change.edit, absent]
      rw [Change.run_cons, edited, ih removals.2, List.map_cons]

/-- Where all fragments close, the search tells entries by their keys alone, and goes on to do
so. -/
theorem run_act_eq_run_onMap (closed : ∀ e ∈ entries, closes e.fragment = true)
    {changes : List Change} (allowed : ∀ change ∈ changes, change.Allowed) :
    Change.run (Change.act Entry.isFoundBy) changes entries =
        Change.run Change.onMap changes entries ∧
      ∀ e ∈ (Change.run Change.onMap changes entries).2, closes e.fragment = true := by
  induction changes generalizing entries with
  | nil => exact ⟨rfl, closed⟩
  | cons change changes ih =>
    -- The search finds an entry of its key if the entry closes, and all entries here do.
    have same : change.act Entry.isFoundBy entries = change.onMap entries :=
      Change.act_congr fun e mem => by simp [Entry.isFoundBy, closed e mem]
    have next : ∀ e ∈ (change.onMap entries).2, closes e.fragment = true := by
      intro e mem
      rcases Change.mem_act mem with before | rfl
      · exact closed e before
      · exact (allowed _ List.mem_cons_self).2.1
    obtain ⟨rest, final⟩ := ih next fun c mem => allowed c (by simp [mem])
    exact ⟨by simp only [Change.run_cons, same, rest], final⟩

end Holds

/-- A document that starts as a placeholder or as the header is changed as an ordered map is: each
change comes to the same, and from the first upsert on the document is the header with the blocks of
the entries in their order, one a key. Before that the document stays, and no removal finds anything
in it. -/
theorem run_edit_eq_run_onMap {document : List Char}
    (fresh : isPlaceholder document = true ∨ document = header) {changes : List Change}
    (allowed : ∀ change ∈ changes, change.Allowed) :
    let text := Change.run Change.edit changes document
    let map := Change.run Change.onMap changes []
    text.1 = map.1 ∧ (map.2.map Entry.key).Nodup ∧
      text.2 = (if changes.any Change.isUpsert then documentOf map.2 else document) ∧
      (changes.any Change.isUpsert = false → text.1 = changes.map fun _ => .absent) := by
  have holds : Holds [] document := by
    refine ⟨by simp, .nil, ?_⟩
    rcases fresh with placeholder | rfl
    · exact .inr ⟨rfl, placeholder⟩
    · exact .inl documentOf_nil.symm
  obtain ⟨reports, final, written⟩ := holds.run fun c mem => (allowed c mem).sound
  have empty : ∀ e ∈ ([] : List Entry), closes e.fragment = true := by simp
  obtain ⟨same, closed⟩ := run_act_eq_run_onMap empty allowed
  rw [same] at reports final written
  refine ⟨reports, ?_, ?_, fun removals => by rw [holds.run_of_no_upsert removals]⟩
  · refine List.pairwise_map.2 (final.apart.imp_of_mem fun {a b} inA inB apart sameKey => ?_)
    have isFound : a.isFoundBy a.key = true := by simp [Entry.isFoundBy, closed a inA]
    have alsoFound : b.isFoundBy a.key = true := by simp [Entry.isFoundBy, closed b inB, sameKey]
    rw [apart a.key isFound] at alsoFound
    cases alsoFound
  · cases upserts : changes.any Change.isUpsert with
    | true => exact written (.inl upserts)
    | false => rw [holds.run_of_no_upsert upserts]; rfl

/-- A document of two braces, and changes of which each report comes at least once. -/
theorem run_edit_eq_run_onMap_of_braces :
    let changes : List Change := [.remove ['a'], .upsert ['a'] ['x', '\n'], .upsert ['b'] [],
      .upsert ['a'] ['y', '\n'], .upsert ['b'] [], .remove ['a'], .remove ['c']]
    (∀ change ∈ changes, change.Allowed) ∧
      Change.run Change.edit changes ['\x7b', '\x7d'] =
        ([.absent, .appended, .appended, .replaced, .unchanged, .removed, .absent],
          documentOf [⟨['b'], []⟩]) := by
  intro changes
  have plain : ∀ fragment : List Char,
      (∀ line ∈ splitLines fragment, line.head? ≠ some '#') →
      ∀ line ∈ splitLines fragment, ¬ IsMarker line := fun _ heads line mem marker =>
    heads line mem marker.head?
  have allowed : ∀ change ∈ changes, change.Allowed := by
    intro change mem
    simp only [changes, List.mem_cons, List.not_mem_nil, or_false] at mem
    rcases mem with rfl | rfl | rfl | rfl | rfl | rfl | rfl
    · exact (by decide : '\n' ∉ ['a'])
    · exact ⟨by decide, by decide, plain _ (by decide)⟩
    · exact ⟨by decide, by decide, plain _ (by decide)⟩
    · exact ⟨by decide, by decide, plain _ (by decide)⟩
    · exact ⟨by decide, by decide, plain _ (by decide)⟩
    · exact (by decide : '\n' ∉ ['a'])
    · exact (by decide : '\n' ∉ ['c'])
  obtain ⟨reports, -, text, -⟩ :=
    run_edit_eq_run_onMap (.inl (by decide : isPlaceholder ['\x7b', '\x7d'] = true)) allowed
  exact ⟨allowed, Prod.ext reports text⟩

end StateMetrics.Block
