import StateMetrics.Instance.Stored
import StateMetrics.Proofs.Decimal.Finite

/-!
# Proper values

A number is proper if it is one that JSON can write: an integer of 64 bits, or a double that is
finite. Whatever is read has proper numbers only (`Written.isProper_of_read?`): the scanner makes no
others (`isProper_of_numberOf?`), and putting tokens together and dropping repeated members makes no
new ones. So the resources of every specification that is read are proper (`gives_resources`).
-/

namespace StateMetrics.Json

/-- The number is an integer of 64 bits, or a real that is finite. -/
def Number.IsProper : Number → Prop
  | .integer value => fitsInWord value = true
  | .real value => value.isFinite = true

/-- All numbers in the value are proper. -/
inductive IsProper : Json → Prop
  | null : IsProper .null
  | bool (value : Bool) : IsProper (.bool value)
  | number {value : Number} (proper : value.IsProper) : IsProper (.number value)
  | str (text : String) : IsProper (.str text)
  | arr {items : List Json} (each : ∀ v ∈ items, IsProper v) : IsProper (.arr items)
  | obj {members : List (String × Json)} (each : ∀ m ∈ members, IsProper m.2) :
    IsProper (.obj members)

/-- All numbers in what is written are proper, unless they are too large. -/
inductive Written.IsProper : Written → Prop
  | null : IsProper .null
  | bool (value : Bool) : IsProper (.bool value)
  | number {value : Option Number} (proper : ∀ n ∈ value, n.IsProper) : IsProper (.number value)
  | text (value : Option String) : IsProper (.text value)
  | arr {items : List Written} (each : ∀ w ∈ items, IsProper w) : IsProper (.arr items)
  | obj {members : List (Option String × Written)} (each : ∀ m ∈ members, IsProper m.2) :
    IsProper (.obj members)

/-! ## Tokens -/

/-- The number of a numeral is proper. -/
theorem isProper_of_numberOf? {negative : Bool} {numeral : Decimal.Numeral} {n : Number}
    (read : numberOf? negative numeral = some n) : n.IsProper := by
  rw [numberOf?] at read
  generalize (if negative then -(Decimal.accumulate 0 numeral.whole : Int)
    else Decimal.accumulate 0 numeral.whole) = signed at read
  split at read
  · next whole =>
    obtain rfl := Option.some.inj read
    simp only [Bool.and_eq_true] at whole
    exact whole.1.2
  · obtain ⟨x, stepwise, rfl⟩ := Option.map_eq_some_iff.1 read
    exact Decimal.Numeral.isFinite_of_stepwise? stepwise

/-- The value in a token, if any, is proper. -/
def Token.IsProper : Token → Prop
  | .scalar value => value.IsProper
  | _ => True

/-- A number that is scanned is proper. -/
theorem isProper_of_takeNumber? {negative : Bool} {text rest : List Char} {token : Token}
    (taken : takeNumber? negative text = some (token, rest)) : token.IsProper := by
  rw [takeNumber?] at taken
  dsimp only at taken
  split at taken
  · obtain ⟨rfl, -⟩ := Prod.mk.inj (Option.some.inj taken)
    exact .number fun n read => isProper_of_numberOf? read
  · cases taken

/-- The next token of a text is proper. -/
theorem Token.isProper_of_take? {chars rest : List Char} {token : Token}
    (taken : Token.take? chars = some (token, rest)) : token.IsProper := by
  rw [Token.take?.eq_def] at taken
  split at taken
  · cases taken
  · cases taken; trivial
  · cases taken; trivial
  · cases taken; trivial
  · cases taken; trivial
  · cases taken; trivial
  · cases taken; trivial
  · obtain ⟨pair, -, same⟩ := Option.map_eq_some_iff.1 taken
    cases same
    trivial
  · obtain ⟨rest, -, same⟩ := Option.map_eq_some_iff.1 taken
    cases same
    exact .null
  · obtain ⟨rest, -, same⟩ := Option.map_eq_some_iff.1 taken
    cases same
    exact .bool true
  · obtain ⟨rest, -, same⟩ := Option.map_eq_some_iff.1 taken
    cases same
    exact .bool false
  · exact isProper_of_takeNumber? taken
  · exact isProper_of_takeNumber? taken

/-- All tokens of a text are proper. -/
theorem Token.isProper_of_scanOnto {acc : List Token} (proper : ∀ t ∈ acc, t.IsProper)
    {fuel : Nat} {chars : List Char} {tokens : List Token}
    (scanned : Token.scanOnto acc fuel chars = some tokens) : ∀ t ∈ tokens, t.IsProper := by
  have reversed : ∀ t ∈ acc.reverse, t.IsProper := fun t mem => proper t (List.mem_reverse.1 mem)
  induction fuel generalizing acc chars with
  | zero =>
    rw [scanOnto] at scanned
    split at scanned
    · obtain rfl := Option.some.inj scanned
      exact reversed
    · cases scanned
  | succ fuel ih =>
    rw [scanOnto] at scanned
    split at scanned
    · obtain rfl := Option.some.inj scanned
      exact reversed
    · split at scanned
      · cases scanned
      · next token rest taken =>
        have more := List.forall_mem_cons.2 ⟨Token.isProper_of_take? taken, proper⟩
        exact ih more scanned fun t mem => more t (List.mem_reverse.1 mem)

/-! ## Readings -/

/-- What an open list or object holds is proper. -/
def Frame.IsProper : Frame → Prop
  | .list items => ∀ w ∈ items, w.IsProper
  | .object members _ => ∀ m ∈ members, m.2.IsProper

/-- What was read so far is proper. -/
structure Reading.IsProper (r : Reading) : Prop where
  stack : ∀ f ∈ r.stack, f.IsProper
  result : ∀ w, r.expected = .nothing w → w.IsProper

namespace Reading

variable {r r' : Reading} {w : Written} {stack : List Frame} {token : Token}

theorem isProper_start : start.IsProper :=
  ⟨List.forall_mem_nil _, fun _ never => Expected.noConfusion never⟩

/-- A proper value that is read to its end leaves proper what is open around it. -/
theorem isProper_finish (proper : w.IsProper) (each : ∀ f ∈ stack, f.IsProper) :
    (finish w stack).IsProper := by
  cases stack with
  | nil =>
    refine ⟨each, fun v last => ?_⟩
    obtain rfl := Expected.nothing.inj last
    exact proper
  | cons frame stack =>
    obtain ⟨inside, others⟩ := List.forall_mem_cons.1 each
    cases frame with
    | list items =>
      have more : Frame.IsProper (.list (w :: items)) := List.forall_mem_cons.2 ⟨proper, inside⟩
      exact ⟨List.forall_mem_cons.2 ⟨more, others⟩, nofun⟩
    | object members name =>
      have more : Frame.IsProper (.object ((name, w) :: members) name) :=
        List.forall_mem_cons.2 ⟨proper, inside⟩
      exact ⟨List.forall_mem_cons.2 ⟨more, others⟩, nofun⟩

/-- A token that starts a value leaves what was read proper. -/
theorem isProper_value (each : ∀ f ∈ r.stack, f.IsProper) (known : token.IsProper)
    (taken : r.value token = some r') : r'.IsProper := by
  rw [value.eq_def] at taken
  split at taken
  · cases taken
    exact isProper_finish known each
  · cases taken
    exact isProper_finish (.text _) each
  · cases taken
    exact ⟨List.forall_mem_cons.2 ⟨List.forall_mem_nil _, each⟩, nofun⟩
  · cases taken
    exact ⟨List.forall_mem_cons.2 ⟨List.forall_mem_nil _, each⟩, nofun⟩
  · cases taken

/-- A bracket closes what held proper values only. -/
theorem isProper_close (each : ∀ f ∈ r.stack, f.IsProper)
    (closed : r.close token = some r') : r'.IsProper := by
  rw [close.eq_def] at closed
  split at closed
  · split at closed
    · next items stack open' =>
      cases closed
      rw [open'] at each
      obtain ⟨inside, others⟩ := List.forall_mem_cons.1 each
      exact isProper_finish (.arr fun w mem => inside w (List.mem_reverse.1 mem)) others
    · cases closed
  · split at closed
    · next members name stack open' =>
      cases closed
      rw [open'] at each
      obtain ⟨inside, others⟩ := List.forall_mem_cons.1 each
      exact isProper_finish (.obj fun m mem => inside m (List.mem_reverse.1 mem)) others
    · cases closed
  · cases closed

theorem isProper_name (each : ∀ f ∈ r.stack, f.IsProper)
    (named : r.name token = some r') : r'.IsProper := by
  rw [name.eq_def] at named
  split at named
  · split at named
    · next members old stack open' =>
      cases named
      rw [open'] at each
      obtain ⟨inside, others⟩ := List.forall_mem_cons.1 each
      exact ⟨List.forall_mem_cons.2 ⟨inside, others⟩, nofun⟩
    · cases named
  · cases named

/-- A token more leaves what was read proper. -/
theorem isProper_step (proper : r.IsProper) (known : token.IsProper)
    (stepped : r.step token = some r') : r'.IsProper := by
  have each := proper.stack
  rw [step.eq_def] at stepped
  split at stepped
  · exact isProper_value each known stepped
  · exact isProper_close each stepped
  · exact isProper_value each known stepped
  · cases stepped
    exact ⟨each, nofun⟩
  · exact isProper_close each stepped
  · exact isProper_name each stepped
  · exact isProper_close each stepped
  · exact isProper_name each stepped
  · cases stepped
    exact ⟨each, nofun⟩
  · cases stepped
  · cases stepped
    exact ⟨each, nofun⟩
  · exact isProper_close each stepped
  · cases stepped

end Reading

/-- What proper tokens are put together to is proper. -/
theorem Written.isProper_of_ofTokens? {tokens : List Token} (known : ∀ t ∈ tokens, t.IsProper)
    {w : Written} (made : Written.ofTokens? tokens = some w) : w.IsProper := by
  have reads {r r' : Reading} (proper : r.IsProper) (run : tokens.foldlM Reading.step r = some r') :
      r'.IsProper := by
    clear made
    induction tokens generalizing r with
    | nil =>
      obtain rfl := Option.some.inj run
      exact proper
    | cons t tokens ih =>
      obtain ⟨first, others⟩ := List.forall_mem_cons.1 known
      rw [List.foldlM_cons] at run
      obtain ⟨next, stepped, rest⟩ := Option.bind_eq_some_iff.1 run
      exact ih others (Reading.isProper_step proper first stepped) rest
  rw [ofTokens?] at made
  obtain ⟨r, run, result⟩ := Option.bind_eq_some_iff.1 made
  split at result
  · next last =>
    obtain rfl := Option.some.inj result
    exact (reads Reading.isProper_start run).result _ last
  · cases result

/-- What a text writes is proper. -/
theorem Written.isProper_of_read? {text : String} {w : Written}
    (read : Written.read? text = some w) : w.IsProper := by
  rw [Written.read?] at read
  obtain ⟨tokens, scanned, made⟩ := Option.bind_eq_some_iff.1 read
  exact Written.isProper_of_ofTokens?
    (Token.isProper_of_scanOnto (List.forall_mem_nil _) scanned) made

/-! ## Values -/

theorem mem_insert {name : String} {v : Json} {map : NameMap Json} {m : String × Json}
    (mem : m ∈ NameMap.insert name v map) : m = (name, v) ∨ m ∈ map := by
  induction map with
  | nil => exact .inl (List.mem_singleton.1 mem)
  | cons pair map ih =>
    rw [NameMap.insert] at mem
    split at mem
    · exact List.mem_cons.1 mem
    · split at mem
      · exact (List.mem_cons.1 mem).imp_right (List.mem_cons_of_mem _)
      · rcases List.mem_cons.1 mem with rfl | later
        · exact .inr List.mem_cons_self
        · exact (ih later).imp_right (List.mem_cons_of_mem _)

/-- The members of a map that is made of pairs are some of the pairs. -/
theorem mem_of_mem_ofPairs {pairs : List (String × Json)} {m : String × Json}
    (mem : m ∈ NameMap.ofPairs pairs) : m ∈ pairs := by
  have onto {map : NameMap Json} (mem : m ∈ pairs.foldl
      (fun map (name, value) => NameMap.insert name value map) map) : m ∈ pairs ∨ m ∈ map := by
    clear * - mem
    induction pairs generalizing map with
    | nil => exact .inr mem
    | cons pair pairs ih =>
      rcases ih mem with later | now
      · exact .inl (List.mem_cons_of_mem _ later)
      · rcases mem_insert now with rfl | before
        · exact .inl List.mem_cons_self
        · exact .inr before
  exact (onto mem).resolve_right List.not_mem_nil

namespace Written

/-- Whatever value is written is proper. -/
def StandsForProper (w : Written) : Prop :=
  ∀ (levels : Nat) (v : Json), w.toJson? levels = some v → v.IsProper

/-- The items of a list are proper if what they are made of stands for such. -/
theorem isProper_itemsToJson? {items : List Written} (each : ∀ w ∈ items, w.StandsForProper)
    {levels : Nat} {list : List Json} (made : itemsToJson? levels items = some list) :
    ∀ v ∈ list, v.IsProper := by
  induction items generalizing list with
  | nil =>
    rw [itemsToJson?] at made
    obtain rfl := Option.some.inj made
    exact List.forall_mem_nil _
  | cons w items ih =>
    obtain ⟨first, others⟩ := List.forall_mem_cons.1 each
    rw [itemsToJson?] at made
    obtain ⟨v, value, made⟩ := Option.bind_eq_some_iff.1 made
    obtain ⟨rest, values, made⟩ := Option.bind_eq_some_iff.1 made
    obtain rfl := Option.some.inj made
    exact List.forall_mem_cons.2 ⟨first levels v value, ih others values⟩

/-- The members of an object are proper if what they are made of stands for such. -/
theorem isProper_membersToJson? {members : List (Option String × Written)}
    (each : ∀ m ∈ members, m.2.StandsForProper) {levels : Nat} {pairs : List (String × Json)}
    (made : membersToJson? levels members = some pairs) : ∀ m ∈ pairs, m.2.IsProper := by
  induction members generalizing pairs with
  | nil =>
    rw [membersToJson?] at made
    obtain rfl := Option.some.inj made
    exact List.forall_mem_nil _
  | cons m members ih =>
    obtain ⟨first, others⟩ := List.forall_mem_cons.1 each
    rw [membersToJson?] at made
    obtain ⟨name, -, made⟩ := Option.bind_eq_some_iff.1 made
    obtain ⟨v, value, made⟩ := Option.bind_eq_some_iff.1 made
    obtain ⟨rest, values, made⟩ := Option.bind_eq_some_iff.1 made
    obtain rfl := Option.some.inj made
    exact List.forall_mem_cons.2 ⟨first levels v value, ih others values⟩

/-- What is written with proper numbers only stands for a proper value, if for any. -/
theorem IsProper.standsForProper {w : Written} (proper : w.IsProper) : w.StandsForProper := by
  induction proper with
  | null =>
    intro levels v value
    rw [toJson?] at value
    obtain rfl := Option.some.inj value
    exact .null
  | bool b =>
    intro levels v value
    rw [toJson?] at value
    obtain rfl := Option.some.inj value
    exact .bool b
  | number proper =>
    intro levels v value
    rw [toJson?] at value
    obtain ⟨n, here, rfl⟩ := Option.map_eq_some_iff.1 value
    exact .number (proper n here)
  | text text =>
    intro levels v value
    rw [toJson?] at value
    obtain ⟨text, -, rfl⟩ := Option.map_eq_some_iff.1 value
    exact .str text
  | arr _ ih =>
    intro levels v value
    cases levels with
    | zero => rw [toJson?] at value; cases value
    | succ levels =>
      rw [toJson?] at value
      obtain ⟨list, made, rfl⟩ := Option.map_eq_some_iff.1 value
      exact .arr (isProper_itemsToJson? ih made)
  | obj _ ih =>
    intro levels v value
    cases levels with
    | zero => rw [toJson?] at value; cases value
    | succ levels =>
      rw [toJson?] at value
      obtain ⟨pairs, made, rfl⟩ := Option.map_eq_some_iff.1 value
      exact .obj fun m mem => isProper_membersToJson? ih made m (mem_of_mem_ofPairs mem)

end Written

/-! ## Decoded values -/

section

variable {α β : Type} {decode : Decoder α} {P : α → Prop} {w : Written}

/-- What is decoded from proper values has a property. -/
def Decoder.Gives (decode : Decoder α) (P : α → Prop) : Prop :=
  ∀ (w : Written) (a : α), w.IsProper → decode w = .ok a → P a

theorem exists_of_bind_eq_ok {first : Except DecodeError α} {next : α → Except DecodeError β} {b : β}
    (whole : first >>= next = .ok b) : ∃ a, first = .ok a ∧ next a = .ok b := by
  cases first with
  | error fault => cases whole
  | ok a => exact ⟨a, rfl, whole⟩

theorem exists_of_map_eq_ok {first : Except DecodeError α} {f : α → β} {b : β}
    (whole : first.map f = .ok b) : ∃ a, first = .ok a ∧ f a = b := by
  cases first with
  | error fault => cases whole
  | ok a => exact ⟨a, rfl, Except.ok.inj whole⟩

theorem gives_anything (outer : Nat) : (Decode.anything outer).Gives IsProper := by
  intro w v proper decoded
  rw [Decode.anything] at decoded
  split at decoded
  · next value found =>
    obtain rfl := Except.ok.inj decoded
    exact proper.standsForProper _ _ found
  · cases decoded

/-- A property of whatever an item is decoded to holds of all items of a list. -/
theorem Decoder.Gives.list (gives : decode.Gives P) :
    (Decode.list decode).Gives fun found => ∀ a ∈ found, P a := by
  intro w found proper decoded
  cases proper with
  | @arr items each =>
    replace decoded : items.mapM decode = .ok found := decoded
    induction items generalizing found with
    | nil =>
      obtain rfl := Except.ok.inj decoded
      exact List.forall_mem_nil _
    | cons item items ih =>
      obtain ⟨first, others⟩ := List.forall_mem_cons.1 each
      rw [List.mapM_cons] at decoded
      obtain ⟨a, here, decoded⟩ := exists_of_bind_eq_ok decoded
      obtain ⟨rest, there, decoded⟩ := exists_of_bind_eq_ok decoded
      obtain rfl := Except.ok.inj decoded
      exact List.forall_mem_cons.2 ⟨gives item a first here, ih rest others there⟩
  | _ => cases decoded

/-- A property of whatever a value is decoded to holds of a member that is decoded. -/
theorem Decoder.Gives.member? (gives : decode.Gives P) {members : Decode.Members}
    (each : ∀ m ∈ members, m.2.IsProper) {name : String} {found : Option α}
    (decoded : Decode.member? members name decode = .ok found) : ∀ a ∈ found, P a := by
  have proper : ∀ w ∈ Decode.valuesOf members name, w.IsProper := by
    intro w mem
    obtain ⟨⟨found, value⟩, inside, here⟩ := List.mem_filterMap.1 mem
    dsimp only at here
    split at here
    · obtain rfl := Option.some.inj here
      exact each _ inside
    · cases here
  rw [Decode.member?] at decoded
  split at decoded
  · obtain rfl := Except.ok.inj decoded
    exact nofun
  · next value only =>
    obtain ⟨a, value, rfl⟩ := exists_of_map_eq_ok decoded
    rintro b ⟨⟩
    exact gives _ _ (proper _ (only ▸ List.mem_singleton_self _)) value
  · cases decoded

/-- A property of whatever a value is decoded to holds of an item that is decoded. -/
theorem Decoder.Gives.item? (gives : decode.Gives P) {items : List Written}
    (each : ∀ w ∈ items, w.IsProper) {place : Nat} {found : Option α}
    (decoded : Decode.item? items place decode = .ok found) : ∀ a ∈ found, P a := by
  rw [Decode.item?] at decoded
  split at decoded
  · obtain rfl := Except.ok.inj decoded
    exact nofun
  · next value here =>
    obtain ⟨a, value, rfl⟩ := exists_of_map_eq_ok decoded
    rintro b ⟨⟩
    exact gives _ _ (each _ (List.mem_of_getElem? here)) value

end

/-- The resources of every specification that is read are proper. -/
theorem gives_resources :
    Decoder.Gives InstanceSpec.decode fun spec => ∀ v ∈ spec.resources, v.IsProper := by
  have resources := (gives_anything 3).list
  have whole {found : Option (List Json)} (each : ∀ list ∈ found, ∀ v ∈ list, v.IsProper) :
      ∀ v ∈ found.getD [], v.IsProper := by
    cases found with
    | none => exact List.forall_mem_nil _
    | some list => exact each list rfl
  intro w spec proper decoded
  cases proper with
  | @obj members each =>
    rw [InstanceSpec.decode, Decode.record, Decode.named] at decoded
    split at decoded
    · obtain ⟨target?, -, decoded⟩ := exists_of_bind_eq_ok decoded
      obtain ⟨found, here, decoded⟩ := exists_of_bind_eq_ok decoded
      obtain ⟨target, -, decoded⟩ := exists_of_bind_eq_ok decoded
      obtain rfl := Except.ok.inj decoded
      exact whole (resources.member? each here)
    · cases decoded
  | @arr items each =>
    rw [InstanceSpec.decode, Decode.record] at decoded
    obtain ⟨target, -, decoded⟩ := exists_of_bind_eq_ok decoded
    obtain ⟨found, here, decoded⟩ := exists_of_bind_eq_ok decoded
    obtain ⟨_, -, decoded⟩ := exists_of_bind_eq_ok decoded
    obtain rfl := Except.ok.inj decoded
    exact whole (resources.item? each here)
  | _ => cases decoded

end StateMetrics.Json
