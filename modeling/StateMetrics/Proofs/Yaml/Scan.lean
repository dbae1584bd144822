import StateMetrics.Proofs.Yaml.Literal
import StateMetrics.Proofs.Yaml.Scalars
import StateMetrics.Yaml.Token.Scan

/-!
# Printed text is split into its tokens

Outside of brackets a text is split from one spot to the next: a spot is what is left of the text,
with the columns of the lists and maps around it. `Spot.Reads` says which tokens stand between two
spots; it composes, so that a value is read as its pieces are.
-/

namespace StateMetrics.Yaml

namespace Scan

/-- A scan in front of its next token: behind the filler, the names given up that lie too far back
and the lists and maps ended that stand further to the right. -/
def ready? (s : Scan) : Option Scan :=
  let filled := skipFiller s.inBrackets false s.nameAllowed s.rest
  ({ s with rest := filled.1, nameAllowed := filled.2 } : Scan).dropPassed?.map fun s =>
    s.unroll s.here.column

theorem step?_eq (s : Scan) : s.step? = s.ready?.bind token? := by
  rw [step?, ready?]
  rw [Option.bind_map]
  rfl

theorem run?_of_finished {s : Scan} (finished : s.finished = true) (fuel : Nat) :
    s.run? fuel = some s := by
  cases fuel with
  | zero => rw [run?, if_pos finished]
  | succ fuel => rw [run?, if_pos finished]

theorem run?_succ {s : Scan} (further : s.finished = false) (fuel : Nat) :
    s.run? (fuel + 1) = s.ready?.bind fun s => s.token?.bind fun s => s.run? fuel := by
  rw [run?, if_neg (Bool.eq_false_iff.1 further), step?_eq, Option.bind_assoc]

theorem run?_congr {s s' : Scan} (further : s.finished = false) (further' : s'.finished = false)
    (same : s.ready? = s'.ready?) (fuel : Nat) : s.run? fuel = s'.run? fuel := by
  cases fuel with
  | zero => rw [run?, run?, further, further', if_neg Bool.false_ne_true, if_neg Bool.false_ne_true]
  | succ fuel => rw [run?_succ further, run?_succ further', same]

end Scan

/-! ## Spots -/

/-- A spot in a text outside of brackets where no name waits for its colon: the column of the list
or map around it, those of the ones around that, whether a name may stand here, the column here and
the text from here on. -/
structure Spot where
  indent : Int
  outer : List Int
  allowed : Bool
  column : Nat
  text : List Char

namespace Spot

/-- The scan at a spot. -/
def scan (p : Spot) (slots : Array (List Token)) (index line : Nat) : Scan :=
  { rest := marksFrom index line p.column p.text, slots, indent := p.indent, outer := p.outer,
    nameAllowed := p.allowed }

/-- From one spot a scan gets to another, and takes tokens in; every step has a character. -/
def Reads (p : Spot) (tokens : List Token) (q : Spot) : Prop :=
  ∀ slots index line, ∃ (count : Nat) (slots' : Array (List Token)) (index' line' : Nat),
    count + q.text.length ≤ p.text.length ∧
    slots'.toList.flatten = slots.toList.flatten ++ tokens ∧
    ∀ fuel, (p.scan slots index line).run? (count + fuel) = (q.scan slots' index' line').run? fuel

theorem Reads.refl (p : Spot) : p.Reads [] p := fun slots index line =>
  ⟨0, slots, index, line, Nat.le_of_eq (Nat.zero_add _), (List.append_nil _).symm, fun fuel => by
    rw [Nat.zero_add]⟩

/-- What is read from one spot to another, and from there to a third. -/
theorem Reads.trans {p q r : Spot} {first second : List Token} (toQ : p.Reads first q)
    (toR : q.Reads second r) : p.Reads (first ++ second) r := by
  intro slots index line
  obtain ⟨count, slots₁, index₁, line₁, length, tokens, run⟩ := toQ slots index line
  obtain ⟨count', slots₂, index₂, line₂, length', tokens', run'⟩ := toR slots₁ index₁ line₁
  refine ⟨count + count', slots₂, index₂, line₂, by omega, ?_, fun fuel => ?_⟩
  · rw [tokens', tokens, List.append_assoc]
  · rw [Nat.add_assoc, run, run']

/-- Spots from which a scan gets ready alike. -/
theorem Reads.of_ready {p q : Spot} {tokens : List Token}
    (shorter : q.text.length ≤ p.text.length)
    (ready : ∀ slots index line, ∃ (slots' : Array (List Token)) (index' line' : Nat),
      slots'.toList.flatten = slots.toList.flatten ++ tokens ∧
      (p.scan slots index line).ready? = (q.scan slots' index' line').ready?) :
    p.Reads tokens q := by
  intro slots index line
  obtain ⟨slots', index', line', flat, same⟩ := ready slots index line
  refine ⟨0, slots', index', line', by omega, flat, fun fuel => ?_⟩
  rw [Nat.zero_add]
  exact Scan.run?_congr rfl rfl same fuel

end Spot

/-! ## Between two tokens -/

theorem column_here (index line column : Nat) (text : List Char) :
    ((marksFrom index line column text).headD default).column = column := by
  fun_cases marksFrom index line column text <;> rfl

theorem Scan.dropPassed?_of_passed {s : Scan} {name : NameSlot} (names : s.names = [some name])
    (optional : name.required = false) (passed : name.isPassed s.here = true) :
    s.dropPassed? = some { s with names := [none] } := by
  simp [dropPassed?, names, passed, giveUp?, optional]

theorem mapM_eq_some_self {α : Type} {f : α → Option α} {items : List α}
    (kept : ∀ a ∈ items, f a = some a) : items.mapM f = some items := by
  induction items with
  | nil => rfl
  | cons a items ih =>
    rw [List.mapM_cons, kept a List.mem_cons_self,
      ih fun b mem => kept b (List.mem_cons_of_mem _ mem)]
    rfl

/-- Names that lie close enough are kept. -/
theorem Scan.dropPassed?_of_kept {s : Scan}
    (kept : ∀ name, some name ∈ s.names → name.isPassed s.here = false) :
    s.dropPassed? = some s := by
  rw [dropPassed?, mapM_eq_some_self]
  · rfl
  · intro name? mem
    cases name? with
    | none => rfl
    | some name => simp [kept name mem]

theorem line_here (index line column : Nat) (text : List Char) :
    ((marksFrom index line column text).headD default).line = line := by
  fun_cases marksFrom index line column text <;> rfl

theorem index_here (index line column : Nat) (text : List Char) :
    ((marksFrom index line column text).headD default).index = index := by
  fun_cases marksFrom index line column text <;> rfl

theorem Scan.closed_succ (column : Int) (count : Nat) (indent : Int) (outer : List Int) :
    closed column (count + 1) indent outer =
      ((closed column count indent outer).1, (closed column count indent outer).2.1,
        (closed column count indent outer).2.2 + 1) := by
  induction outer generalizing indent count with
  | nil =>
    rw [closed, closed]
    split <;> rfl
  | cons next outer ih =>
    rw [closed, closed]
    split
    · exact ih (count + 1) next
    · rfl

/-- Nothing ends where text does not stand further to the left. -/
theorem Scan.unroll_of_le {s : Scan} {column : Int} (right : s.indent ≤ column) :
    s.unroll column = s := by
  have stays : closed column 0 s.indent s.outer = (s.indent, s.outer, 0) := by
    cases s.outer with
    | nil => rw [closed, if_neg (Int.not_lt.2 right)]
    | cons next outer => rw [closed, if_neg (Int.not_lt.2 right)]
  rw [unroll, stays]
  split
  · rfl
  · simp

namespace Spot

theorem column_here_scan (p : Spot) (slots : Array (List Token)) (index line : Nat) :
    (p.scan slots index line).here.column = p.column :=
  column_here ..

/-- A list or map that stands further to the right than the column is ended. -/
theorem unroll_scan {p : Spot} {outer : List Int} {indent column : Int}
    (around : p.outer = indent :: outer) (left : column < p.indent)
    (slots : Array (List Token)) (index line : Nat) :
    (p.scan slots index line).unroll column =
      ({ p with indent, outer }.scan (slots.push [.blockEnd]) index line).unroll column := by
  have outside (q : Spot) (slots : Array (List Token)) :
      (q.scan slots index line).inBrackets = false := rfl
  have ends : Scan.closed column 0 p.indent p.outer = Scan.closed column 1 indent outer := by
    rw [around, Scan.closed, if_pos left]
  have list (count : Nat) : List.replicate (count + 1) [Token.blockEnd] =
      [.blockEnd] :: List.replicate count [.blockEnd] := List.replicate_succ
  rw [Scan.unroll, Scan.unroll, if_neg (by simp [outside]), if_neg (by simp [outside])]
  simp only [scan, ends, Scan.closed_succ column 0 indent outer, list]
  congr 1

/-- A scan gets ready at a spot by what the filler leaves. -/
theorem ready?_scan {p q : Spot} {index line index' line' : Nat}
    (filler : skipFiller false false p.allowed (marksFrom index line p.column p.text) =
      (marksFrom index' line' q.column q.text, q.allowed))
    (indent : q.indent = p.indent) (outer : q.outer = p.outer) (slots : Array (List Token)) :
    (p.scan slots index line).ready? = some ((q.scan slots index' line').unroll q.column) := by
  have kept : (q.scan slots index' line').dropPassed? = some (q.scan slots index' line') := rfl
  have whole : ({ p.scan slots index line with
      rest := marksFrom index' line' q.column q.text,
      nameAllowed := q.allowed } : Scan) = q.scan slots index' line' := by
    rw [scan, scan, indent, outer]
  have read : skipFiller (p.scan slots index line).inBrackets false
      (p.scan slots index line).nameAllowed (p.scan slots index line).rest =
      (marksFrom index' line' q.column q.text, q.allowed) := filler
  rw [Scan.ready?, read, whole, kept, Option.map_some, column_here_scan]

/-- Spots from which the filler leaves the same are ready alike. -/
theorem ready?_congr {p q : Spot} {index line index' line' : Nat}
    (filler : skipFiller false false p.allowed (marksFrom index line p.column p.text) =
      skipFiller false false q.allowed (marksFrom index' line' q.column q.text))
    (indent : q.indent = p.indent) (outer : q.outer = p.outer) (slots : Array (List Token)) :
    (p.scan slots index line).ready? = (q.scan slots index' line').ready? := by
  have outside (r : Spot) (index line : Nat) : (r.scan slots index line).inBrackets = false := rfl
  rw [Scan.ready?, Scan.ready?, outside, outside]
  simp only [scan, filler, indent, outer]

/-! ## Filler -/

section

variable {indent : Int} {outer : List Int} {allowed : Bool} {column : Nat} {text next : List Char}

theorem Reads.space : Reads ⟨indent, outer, allowed, column, ' ' :: text⟩ []
    ⟨indent, outer, allowed, column + 1, text⟩ := by
  apply Reads.of_ready (Nat.le_succ _)
  intro slots index line
  refine ⟨slots, index + 1, line, (List.append_nil _).symm, ?_⟩
  apply ready?_congr
  · exact skipFiller_space false allowed index line column text
  · rfl
  · rfl

theorem Reads.nextLine (shows : Shows next) (column' : Nat) :
    Reads ⟨indent, outer, allowed, column, lineStart false column' ++ next⟩ []
      ⟨indent, outer, true, column', next⟩ := by
  apply Reads.of_ready
  · rw [List.length_append]
    exact Nat.le_add_left _ _
  · intro slots index line
    refine ⟨slots, index + 1 + column', line + 1, (List.append_nil _).symm, ?_⟩
    apply ready?_congr
    · exact (skipFiller_lineStart shows allowed index line column column').trans
        (skipFiller_of_shows shows false true _ _ column').symm
    · rfl
    · rfl

/-- A list or map ends in front of text further to the left. -/
theorem Reads.blockEnd (shows : Shows next) {inner : Int} (left : (column : Int) < inner) :
    Reads ⟨inner, indent :: outer, allowed, column, next⟩ [.blockEnd]
      ⟨indent, outer, allowed, column, next⟩ := by
  apply Reads.of_ready
  · exact Nat.le_refl _
  · intro slots index line
    refine ⟨slots.push [.blockEnd], index, line, by simp, ?_⟩
    have stays := skipFiller_of_shows shows false allowed index line column
    rw [ready?_scan (p := ⟨inner, indent :: outer, allowed, column, next⟩)
        (q := ⟨inner, indent :: outer, allowed, column, next⟩) stays rfl rfl,
      ready?_scan (p := ⟨indent, outer, allowed, column, next⟩)
        (q := ⟨indent, outer, allowed, column, next⟩) stays rfl rfl, unroll_scan rfl left]

end

end Spot

/-- A scan in front of what shows is ready if its names lie close enough and nothing ends. -/
theorem Scan.ready?_of_shows {s : Scan} {index line column : Nat} {text : List Char}
    (rest : s.rest = marksFrom index line column text) (shows : Shows text)
    (close : ∀ name, some name ∈ s.names →
      name.start.line = line ∧ index ≤ name.start.index + maxNameLength)
    (right : s.inBrackets = true ∨ s.indent ≤ column) : s.ready? = some s := by
  have here : s.here.column = column := by
    rw [Scan.here, rest, column_here]
  have kept : s.dropPassed? = some s := by
    apply dropPassed?_of_kept
    intro name mem
    obtain ⟨sameLine, near⟩ := close name mem
    rw [NameSlot.isPassed, Scan.here, rest, line_here, index_here, sameLine]
    simpa using near
  have filler := skipFiller_of_shows shows s.inBrackets s.nameAllowed index line column
  rw [← rest] at filler
  rw [ready?, filler]
  show (s.dropPassed?.map fun s => s.unroll s.here.column) = some s
  rw [kept, Option.map_some, here]
  rcases right with inside | le
  · rw [unroll, if_pos inside]
  · rw [unroll_of_le le]

/-! ## Tokens -/

theorem Scan.item?_of_kept {s rolled : Scan} (allowed : s.nameAllowed = true)
    (kept : (s.roll s.here.column .blockList).dropName? = some rolled) :
    s.item? = some { rolled.take .item 1 with nameAllowed := true } := by
  rw [item?, kept]
  simp only [allowed, Bool.not_true, Bool.and_false]
  rfl

theorem Scan.name?_of_kept {s rolled : Scan} (allowed : s.nameAllowed = true)
    (kept : (s.roll s.here.column .blockMap).dropName? = some rolled) :
    s.name? = some { rolled.take .name 1 with nameAllowed := !rolled.inBrackets } := by
  rw [name?, kept]
  simp only [allowed, Bool.not_true, Bool.and_false]
  rfl

/-- A colon with no name in front of it. -/
theorem Scan.value?_of_none {s : Scan} (names : s.names = [none]) (allowed : s.nameAllowed = true) :
    s.value? = some { (s.roll s.here.column .blockMap).take .value 1 with
      nameAllowed := !(s.roll s.here.column .blockMap).inBrackets } := by
  rw [value?, names]
  simp only [allowed, Bool.not_true, Bool.and_false]
  rfl

/-- What starts a list or map at a column. -/
def opening (token : Token) (indent : Int) (column : Nat) : List Token :=
  if indent < column then [token] else []

/-- The columns around a list or map at a column. -/
def enclosing (indent : Int) (outer : List Int) (column : Nat) : List Int :=
  if indent < column then indent :: outer else outer

@[simp] theorem opening_self (token : Token) (column : Nat) : opening token column column = [] :=
  if_neg (Int.lt_irrefl _)

@[simp] theorem enclosing_self (outer : List Int) (column : Nat) :
    enclosing column outer column = outer :=
  if_neg (Int.lt_irrefl _)

theorem opening_of_lt {indent : Int} {column : Nat} (deeper : indent < column) (token : Token) :
    opening token indent column = [token] :=
  if_pos deeper

theorem enclosing_of_lt {indent : Int} {column : Nat} (deeper : indent < column)
    (outer : List Int) : enclosing indent outer column = indent :: outer :=
  if_pos deeper

namespace Spot

theorem exists_roll_scan (p : Spot) (token : Token) {column : Nat} (right : p.indent ≤ column)
    (slots : Array (List Token)) (index line : Nat) :
    ∃ slots' : Array (List Token),
      slots'.toList.flatten = slots.toList.flatten ++ opening token p.indent column ∧
      (p.scan slots index line).roll column token =
        ({ p with indent := column, outer := enclosing p.indent p.outer column } : Spot).scan slots'
          index line := by
  have outside : (p.scan slots index line).inBrackets = false := rfl
  have indent : (p.scan slots index line).indent = p.indent := rfl
  rw [Scan.roll, Scan.isDeeper, outside, indent, opening, enclosing]
  by_cases deeper : p.indent < column
  · refine ⟨slots.push [token], ?_, ?_⟩
    · simp [deeper]
    · simp [deeper, scan, Scan.push]
  · have same : p.indent = column := by omega
    refine ⟨slots, ?_, ?_⟩
    · simp [deeper]
    · simp [same, scan]

theorem ready?_scan_of_shows (p : Spot) (shows : Shows p.text) (right : p.indent ≤ p.column)
    (slots : Array (List Token)) (index line : Nat) :
    (p.scan slots index line).ready? = some (p.scan slots index line) :=
  Scan.ready?_of_shows rfl shows (fun name mem => by simp [scan] at mem) (.inr right)

/-- One token stands between two spots. -/
theorem Reads.of_token {p q : Spot} {tokens : List Token} (shows : Shows p.text)
    (right : p.indent ≤ p.column) (shorter : q.text.length < p.text.length)
    (token : ∀ slots index line, ∃ (s : Scan) (slots' : Array (List Token)) (index' line' : Nat),
      (p.scan slots index line).token? = some s ∧ s.finished = false ∧
      slots'.toList.flatten = slots.toList.flatten ++ tokens ∧
      s.ready? = (q.scan slots' index' line').ready?) :
    p.Reads tokens q := by
  intro slots index line
  obtain ⟨s, slots', index', line', taken, further, flat, same⟩ := token slots index line
  have ready := p.ready?_scan_of_shows shows right slots index line
  refine ⟨1, slots', index', line', by omega, flat, fun fuel => ?_⟩
  rw [Nat.add_comm, Scan.run?_succ rfl, ready, Option.bind_some, taken, Option.bind_some]
  exact Scan.run?_congr further rfl same fuel

section

variable {indent : Int} {outer : List Int} {allowed : Bool} {column : Nat} {text next : List Char}

/-- What follows separates an indicator from its text. -/
def Separated (text : List Char) : Prop := ∃ c rest, text = c :: rest ∧ (c = ' ' ∨ c = '\n')

theorem Separated.headChar (separated : Separated text) (index line column : Nat) :
    isSeparator (headChar (marksFrom index line column text)) = true ∧
      headChar (marksFrom index line column text) ≠ '-' := by
  obtain ⟨c, rest, rfl, rfl | rfl⟩ := separated
  · rw [headChar_marksFrom_cons (by decide)]
    decide
  · have newline : isSeparator '\n' = true ∧ '\n' ≠ '-' := by decide
    rw [marksFrom_newline]
    exact newline

/-- An indicator that is separated from its text stands for itself. -/
theorem token?_of_separated (separated : Separated text) {c : Char}
    (indicator : c = '-' ∨ c = '?' ∨ c = ':') {s : Scan} {index line : Nat}
    (rest : s.rest = marksFrom index line column (c :: text)) :
    s.token? = if c = '-' then s.item? else if c = '?' then s.name? else s.value? := by
  obtain ⟨separates, noDash⟩ := separated.headChar (index + 1) line (column + 1)
  have facts : isBreak c = false ∧ c ≠ endChar ∧ c ≠ '.' := by
    rcases indicator with rfl | rfl | rfl <;> decide
  have dashes := startsWithThree_eq_false '-' ⟨c, index, line, column⟩ _
    (.inr (.inr noDash))
  have points := startsWithThree_eq_false '.' ⟨c, index, line, column⟩
    (marksFrom (index + 1) line (column + 1) text) (.inr (.inl facts.2.2))
  rw [marksFrom_cons facts.1] at rest
  rcases indicator with rfl | rfl | rfl
  all_goals simp [Scan.token?, rest, dashes, points, separates, facts.2.1]

theorem shows_of_indicator {c : Char} (indicator : c = '-' ∨ c = '?' ∨ c = ':')
    (text : List Char) : Shows (c :: text) := by
  rcases indicator with rfl | rfl | rfl
  all_goals exact .cons (by decide) (by decide) (by decide) (by decide) text

/-- The list or map that starts at a spot keeps the names of the scan. -/
theorem dropName?_roll_scan (p : Spot) (token : Token) (slots : Array (List Token))
    (index line : Nat) :
    ((p.scan slots index line).roll (p.scan slots index line).here.column token).dropName? =
        some ((p.scan slots index line).roll (p.scan slots index line).here.column token) ∧
      ((p.scan slots index line).roll (p.scan slots index line).here.column token).inBrackets =
        false := by
  rw [Scan.roll]
  split
  · exact ⟨rfl, rfl⟩
  · exact ⟨rfl, rfl⟩

/-- An indicator stands in the list or map at its column, which starts with it if it is deeper than
the one around. -/
theorem Reads.of_indicator {c : Char} (indicator : c = '-' ∨ c = '?' ∨ c = ':')
    (right : indent ≤ column) {start token : Token}
    (taken : ∀ slots index line,
      (scan ⟨indent, outer, true, column, c :: text⟩ slots index line).token? = some
        { ((scan ⟨indent, outer, true, column, c :: text⟩ slots index line).roll column
            start).take token 1 with nameAllowed := true }) :
    Reads ⟨indent, outer, true, column, c :: text⟩ (opening start indent column ++ [token])
      ⟨column, enclosing indent outer column, true, column + 1, text⟩ := by
  have inside : isBreak c = false := by rcases indicator with rfl | rfl | rfl <;> decide
  apply Reads.of_token
  · exact shows_of_indicator indicator text
  · exact right
  · exact Nat.lt_succ_self _
  · intro slots index line
    obtain ⟨slots', flat, rolled⟩ := exists_roll_scan ⟨indent, outer, true, column, c :: text⟩
      start right slots index line
    refine ⟨_, slots'.push [token], index + 1, line, taken slots index line, ?_, by simp [flat], ?_⟩
    · rw [rolled]
      rfl
    · rw [rolled]
      simp [scan, Scan.take, Scan.push, Scan.skip, marksFrom_cons inside]

/-- A dash is read as an item, and starts a list if it stands deeper than what is around it. -/
theorem Reads.item (separated : Separated text) (right : indent ≤ column) :
    Reads ⟨indent, outer, true, column, '-' :: text⟩ (opening .blockList indent column ++ [.item])
      ⟨column, enclosing indent outer column, true, column + 1, text⟩ := by
  refine .of_indicator (.inl rfl) right fun slots index line => ?_
  obtain ⟨kept, -⟩ := dropName?_roll_scan ⟨indent, outer, true, column, '-' :: text⟩ .blockList
    slots index line
  rw [token?_of_separated separated (.inl rfl) rfl, if_pos rfl, Scan.item?_of_kept rfl kept,
    column_here_scan]

/-- A question mark is read as a name to come, and starts a map if it stands deeper than what is
around it. -/
theorem Reads.question (separated : Separated text) (right : indent ≤ column) :
    Reads ⟨indent, outer, true, column, '?' :: text⟩ (opening .blockMap indent column ++ [.name])
      ⟨column, enclosing indent outer column, true, column + 1, text⟩ := by
  refine .of_indicator (.inr (.inl rfl)) right fun slots index line => ?_
  obtain ⟨kept, outside⟩ := dropName?_roll_scan ⟨indent, outer, true, column, '?' :: text⟩ .blockMap
    slots index line
  rw [token?_of_separated separated (.inr (.inl rfl)) rfl, if_neg (by decide), if_pos rfl,
    Scan.name?_of_kept rfl kept, outside, Bool.not_false, column_here_scan]

/-- The colon behind a name over several lines. -/
theorem Reads.colon (separated : Separated text) :
    Reads ⟨column, outer, true, column, ':' :: text⟩ [.value]
      ⟨column, outer, true, column + 1, text⟩ := by
  have read : Reads ⟨column, outer, true, column, ':' :: text⟩
      (opening .blockMap column column ++ [.value])
      ⟨column, enclosing column outer column, true, column + 1, text⟩ := by
    refine .of_indicator (.inr (.inr rfl)) (Int.le_refl _) fun slots index line => ?_
    obtain ⟨-, outside⟩ := dropName?_roll_scan ⟨column, outer, true, column, ':' :: text⟩ .blockMap
      slots index line
    rw [token?_of_separated separated (.inr (.inr rfl)) rfl, if_neg (by decide),
      if_neg (by decide), Scan.value?_of_none rfl rfl, outside, Bool.not_false, column_here_scan]
  rwa [opening_self, enclosing_self] at read

end

/-! ## Scalars -/

section

variable {indent : Int} {outer : List Int} {column : Nat} {text next : List Char}

/-- The slot left in front of a node that may be a name. -/
def slot (p : Spot) (slots : Array (List Token)) (index line : Nat) : NameSlot :=
  ⟨slots.size, p.indent = p.column, (p.scan slots index line).here⟩

theorem saveName?_scan (p : Spot) (slots : Array (List Token)) (index line : Nat) :
    (p.scan slots index line).saveName? = some (if p.allowed then
      { p.scan (slots.push []) index line with names := [some (p.slot slots index line)] }
      else p.scan slots index line) := by
  have given : (p.scan slots index line).nameAllowed = p.allowed := rfl
  have kept : (p.scan slots index line).dropName? = some (p.scan slots index line) := rfl
  rw [Scan.saveName?, given]
  cases p.allowed with
  | true =>
    rw [if_pos rfl, if_pos rfl, kept, slot, Option.bind_eq_bind, Option.bind_some,
      column_here_scan]
    simp [scan, Scan.inBrackets]
    rfl
  | false => rfl

theorem exists_saveName?_scan (p : Spot) (slots : Array (List Token)) (index line : Nat) :
    ∃ (slots' : Array (List Token)) (name? : Option NameSlot),
      slots'.toList.flatten = slots.toList.flatten ∧
      (p.scan slots index line).saveName? =
        some { p.scan slots' index line with names := [name?] } ∧
      ∀ name ∈ name?, name.required = decide (p.indent = p.column) ∧
        name.start.index = index ∧ name.start.line = line := by
  rw [saveName?_scan]
  cases p.allowed with
  | true =>
    refine ⟨slots.push [], some (p.slot slots index line), by simp, rfl, fun name mem => ?_⟩
    rw [← Option.some.inj mem]
    exact ⟨rfl, index_here .., line_here ..⟩
  | false => exact ⟨slots, none, rfl, rfl, fun name mem => by cases mem⟩

/-- A scan behind a node that may be a name is ready as from a spot on a later line. -/
theorem ready?_of_passed {s : Scan} {q : Spot} {name? : Option NameSlot} {index line : Nat}
    (names : s.names = [name?])
    (passed : ∀ name ∈ name?, name.required = false ∧ name.start.line < line)
    (filler : skipFiller false false s.nameAllowed s.rest =
      (marksFrom index line q.column q.text, q.allowed))
    (indent : s.indent = q.indent) (outer : s.outer = q.outer) (further : s.finished = false) :
    s.ready? = some ((q.scan s.slots index line).unroll q.column) := by
  have outside : s.inBrackets = false := by
    rw [Scan.inBrackets, names]
    rfl
  have whole : ({ s with
      rest := marksFrom index line q.column q.text, nameAllowed := q.allowed,
      names := [none] } : Scan) = q.scan s.slots index line := by
    rw [scan, ← indent, ← outer, ← further]
  have given : ({ s with
      rest := marksFrom index line q.column q.text,
      nameAllowed := q.allowed } : Scan).dropPassed? = some (q.scan s.slots index line) := by
    rw [← whole]
    cases name? with
    | none => simp [Scan.dropPassed?, names]
    | some name =>
      obtain ⟨optional, earlier⟩ := passed name rfl
      refine Scan.dropPassed?_of_passed (s := { s with
        rest := marksFrom index line q.column q.text, nameAllowed := q.allowed }) names optional ?_
      rw [Scan.here, NameSlot.isPassed, line_here]
      simp [earlier]
  rw [Scan.ready?, outside, filler, given, Option.map_some, column_here_scan]

/-- A node that may be a name, read as a value: a filler and a later line are behind it. -/
theorem Reads.of_node {p : Spot} {token : Token} (shows : Shows p.text)
    (right : p.indent < p.column) (next : List Char) (showsNext : Shows next)
    (shorter : next.length < p.text.length) (column : Nat)
    (read : ∀ slots index line, ∃ (rest : List Mark) (allowed : Bool) (index' line' : Nat),
      (p.scan slots index line).token? = (p.scan slots index line).saveName?.map (fun s =>
        { s.push token with rest, nameAllowed := allowed }) ∧
      line < line' ∧
      skipFiller false false allowed rest = (marksFrom index' line' column next, true)) :
    p.Reads [token] ⟨p.indent, p.outer, true, column, next⟩ := by
  apply Reads.of_token
  · exact shows
  · exact Int.le_of_lt right
  · exact shorter
  · intro slots index line
    obtain ⟨rest, allowed, index', line', dispatch, later, filler⟩ := read slots index line
    have optional : decide (p.indent = p.column) = false := decide_eq_false (Int.ne_of_lt right)
    have stays := skipFiller_of_shows showsNext false true index' line' column
    obtain ⟨slots', name?, flat, saved, slot⟩ := exists_saveName?_scan p slots index line
    rw [dispatch, saved, Option.map_some]
    refine ⟨_, slots'.push [token], index', line', rfl, rfl, by simp [flat], ?_⟩
    rw [ready?_of_passed (q := ⟨p.indent, p.outer, true, column, next⟩) rfl ?_ filler rfl rfl rfl,
      ready?_scan (q := ⟨p.indent, p.outer, true, column, next⟩) stays rfl rfl]
    · rfl
    · intro name mem
      obtain ⟨required, -, starts⟩ := slot name mem
      exact ⟨required.trans optional, by omega⟩

theorem token?_of_standsPlain {scalar : List Char} (stands : StandsPlain scalar) {allowed : Bool}
    (unmarked : ∀ c ∈ scalar.head?, Unmarked column c) (slots : Array (List Token))
    (index line : Nat) :
    (scan ⟨indent, outer, allowed, column, scalar ++ text⟩ slots index line).token? =
      (scan ⟨indent, outer, allowed, column, scalar ++ text⟩ slots index line).plain? := by
  obtain ⟨c, rest, rfl, separates, starts⟩ := stands.starts
  obtain ⟨printable, inside⟩ := stands.inside c List.mem_cons_self
  have noEnd := (ne_of_isPrintable printable).2.1
  have marks := marksFrom_cons inside index line column (rest ++ text)
  have dashes := (unmarked c rfl).startsWithThree (.inl rfl) index line
    (marksFrom (index + 1) line (column + 1) (rest ++ text))
  have points := (unmarked c rfl).startsWithThree (.inr rfl) index line
    (marksFrom (index + 1) line (column + 1) (rest ++ text))
  have outside (rest : List Mark) : ({ rest, slots, indent, outer, nameAllowed := allowed } :
      Scan).inBrackets = false := rfl
  rcases starts with free | ⟨special, d, more, rfl, further⟩
  · have others : c ≠ '-' ∧ c ≠ '?' ∧ c ≠ ':' ∧ c ≠ '#' ∧ c ≠ '&' ∧ c ≠ '*' ∧ c ≠ '!' ∧ c ≠ '|' ∧
        c ≠ '>' ∧ c ≠ '\'' ∧ c ≠ '"' ∧ c ≠ '%' ∧ c ≠ '@' ∧ c ≠ '`' ∧ c ≠ ',' ∧ c ≠ '[' ∧
        c ≠ ']' ∧ c ≠ '\x7b' ∧ c ≠ '\x7d' := by
      simpa [indicators, bracketChars, not_or] using free
    have plain (f : Char) : startsPlain false c f = true := by
      simp [startsPlain, separates, free]
    simp [Scan.token?, scan, marks, dashes, points, noEnd, others, outside, plain]
  · have behind : headChar (marksFrom (index + 1) line (column + 1) (d :: more ++ text)) = d := by
      have insideNext := (stands.inside d (List.mem_cons_of_mem _ List.mem_cons_self)).2
      rw [List.cons_append, headChar_marksFrom_cons insideNext]
    have visible : isBlank d = false := by
      have parts : d ≠ ' ' ∧ d ≠ '\t' := by
        constructor
        all_goals
          intro same
          rw [same] at further
          revert further
          decide
      simp [isBlank, parts]
    have either : c = '-' ∨ c = '?' ∨ c = ':' := by simpa using special
    simp only [List.cons_append] at marks dashes points behind
    rcases either with rfl | rfl | rfl
    all_goals
      simp [Scan.token?, scan, marks, dashes, points, noEnd, outside, behind, further, visible,
        startsPlain]

/-- A plain scalar is taken in with the slot that is left for a name in front of it. -/
theorem plain?_scan {p : Spot} {index line : Nat} {scalar : List Char} {crossed : Bool}
    {rest : List Mark} (read : plainRest false (p.indent + 1) [] .nothing
      (marksFrom index line p.column p.text) = some (scalar, crossed, rest))
    (slots : Array (List Token)) :
    (p.scan slots index line).plain? = (p.scan slots index line).saveName?.map fun s =>
      { s.push (.scalar scalar true) with rest, nameAllowed := crossed } := by
  obtain ⟨slots', name?, -, saved, -⟩ := exists_saveName?_scan p slots index line
  rw [Scan.plain?, saved]
  simp [scan, Scan.inBrackets, read]

theorem node?_scan {p : Spot} {index line : Nat} {token : Token} {rest : List Mark}
    {take : List Mark → Option (Token × List Mark)}
    (read : take (marksFrom index line p.column p.text) = some (token, rest))
    (slots : Array (List Token)) :
    (p.scan slots index line).node? take = (p.scan slots index line).saveName?.map fun s =>
      { s.push token with rest, nameAllowed := false } := by
  obtain ⟨slots', name?, -, saved, -⟩ := exists_saveName?_scan p slots index line
  rw [Scan.node?, saved]
  simp [scan, read]

/-- A text written in quotes. -/
def quoted (double : Bool) (text : List Char) : List Char :=
  quote double :: (text.flatMap (quotedChar double) ++ [quote double])

theorem shows_quoted (double : Bool) (scalar rest : List Char) :
    Shows (quoted double scalar ++ rest) := by
  cases double with
  | true => exact .cons (by decide) (by decide) (by decide) (by decide) _
  | false => exact .cons (by decide) (by decide) (by decide) (by decide) _

theorem quoted_append (double : Bool) (scalar rest : List Char) :
    quoted double scalar ++ rest =
      quote double :: (scalar.flatMap (quotedChar double) ++ quote double :: rest) := by
  simp [quoted]

/-- A text written in quotes is read as the text, up to the closing quote. -/
theorem quotedRest_quoted {double : Bool} {scalar : List Char}
    (plain : double = false → ∀ c ∈ scalar, isPrintable c = true ∧ isBreak c = false)
    (index line column : Nat) (rest : List Char)
    (further : ∀ index column, headChar (marksFrom index line column rest) ≠ '\'') :
    quotedRest double [] .nothing
        ((marksFrom index line column (quoted double scalar ++ rest)).drop 1) =
      some (scalar, marksFrom (index + (quoted double scalar).length) line
        (column + (quoted double scalar).length) rest) := by
  have inside : isBreak (quote double) = false := by cases double <;> decide
  have length : (quoted double scalar).length =
      1 + (scalar.flatMap (quotedChar double)).length + 1 := by
    simp [quoted]
    omega
  rw [quoted_append, marksFrom_cons inside, List.drop_succ_cons, List.drop_zero,
    quotedRest_flatMap plain rfl _ _ _ further, length]
  simp only [Gap.onto, Gap.reversedText, List.append_nil, List.reverse_nil, List.nil_append,
    Nat.add_assoc]

theorem token?_of_quote {double : Bool} {allowed : Bool} (slots : Array (List Token))
    (index line : Nat) :
    (scan ⟨indent, outer, allowed, column, quote double :: text⟩ slots index line).token? =
      (scan ⟨indent, outer, allowed, column, quote double :: text⟩ slots index line).node?
        fun marks => (quotedRest double [] .nothing (marks.drop 1)).map fun (text, rest) =>
          (.scalar text false, rest) := by
  have facts : isBreak (quote double) = false ∧ quote double ≠ endChar ∧ quote double ≠ '-' ∧
      quote double ≠ '.' := by
    cases double <;> decide
  have dashes := startsWithThree_eq_false '-' ⟨quote double, index, line, column⟩
    (marksFrom (index + 1) line (column + 1) text) (.inr (.inl facts.2.2.1))
  have points := startsWithThree_eq_false '.' ⟨quote double, index, line, column⟩
    (marksFrom (index + 1) line (column + 1) text) (.inr (.inl facts.2.2.2))
  have marks := marksFrom_cons facts.1 index line column text
  have noEnd := facts.2.1
  cases double
  all_goals
    simp only [quote, Bool.false_eq_true, if_false, if_true] at marks dashes points noEnd ⊢
    simp [Scan.token?, scan, marks, dashes, points, noEnd]

/-- A plain value is read. -/
theorem Reads.plainValue {scalar : List Char} (stands : StandsPlain scalar) {allowed : Bool}
    (right : indent < column) (positive : 0 < column) (shows : Shows next) {column' : Nat}
    (left : column' ≤ indent) :
    Reads ⟨indent, outer, allowed, column, scalar ++ (lineStart false column' ++ next)⟩
      [.scalar scalar true] ⟨indent, outer, true, column', next⟩ := by
  apply Reads.of_node (stands.shows _) right next shows
  · simp only [List.length_append, length_lineStart]
    omega
  · intro slots index line
    have unmarked : ∀ c ∈ scalar.head?, Unmarked column c := fun _ _ => .inl positive
    have inside : indent + 1 ≤ column + 1 := by omega
    have behind : (column' : Int) < indent + 1 := by omega
    obtain ⟨index', read⟩ := stands.plainRest_value unmarked inside shows behind index line
    exact ⟨_, true, index', line + 1,
      (token?_of_standsPlain stands unmarked slots index line).trans (plain?_scan read slots),
      Nat.lt_succ_self line, skipFiller_of_shows shows false true _ _ _⟩

/-- A value in quotes is read. -/
theorem Reads.quotedValue {double : Bool} {scalar : List Char}
    (plain : double = false → ∀ c ∈ scalar, isPrintable c = true ∧ isBreak c = false)
    {allowed : Bool} (right : indent < column) (shows : Shows next) (column' : Nat) :
    Reads ⟨indent, outer, allowed, column,
        quoted double scalar ++ (lineStart false column' ++ next)⟩
      [.scalar scalar false] ⟨indent, outer, true, column', next⟩ := by
  have newline (index line column : Nat) :
      headChar (marksFrom index line column (lineStart false column' ++ next)) ≠ '\'' := by
    have other : '\n' ≠ '\'' := by decide
    rw [lineStart, if_neg Bool.false_ne_true, List.cons_append, marksFrom_newline]
    exact other
  apply Reads.of_node (shows_quoted double scalar _) right next shows
  · simp only [List.length_append, length_lineStart]
    omega
  · intro slots index line
    have read := quotedRest_quoted plain index line column _ (newline · line ·)
    refine ⟨marksFrom (index + (quoted double scalar).length) line
      (column + (quoted double scalar).length) (lineStart false column' ++ next), false, _,
      line + 1, (token?_of_quote slots index line).trans (node?_scan ?_ slots),
      Nat.lt_succ_self line,
      skipFiller_lineStart shows false _ _ _ _⟩
    exact congrArg (Option.map _) read

theorem token?_of_bar {s : Scan} {index line : Nat} (outside : s.inBrackets = false)
    (rest : s.rest = marksFrom index line column ('|' :: text)) : s.token? = s.byLines? false := by
  have facts : isBreak '|' = false ∧ '|' ≠ endChar := by decide
  have three (d : Char) (other : '|' ≠ d) := startsWithThree_eq_false d
    ⟨'|', index, line, column⟩ (marksFrom (index + 1) line (column + 1) text)
    (.inr (.inl other))
  rw [marksFrom_cons facts.1] at rest
  simp [Scan.token?, rest, three '-' (by decide), three '.' (by decide), facts.2, outside]

/-- A value in a literal block is read. -/
theorem Reads.literalValue {scalar : List Char} (nonempty : scalar ≠ [])
    (printable : ∀ c ∈ scalar, isPrintable c = true)
    (breaks : OnlyNewlines scalar) {allowed : Bool} {around : Nat}
    (right : around < column) (shows : Shows next) {column' : Nat} (left : column' ≤ around) :
    Reads ⟨around, outer, allowed, column,
        literal (around + 2) scalar ++ (lineStart (scalar.getLast?.any isBreak) column' ++ next)⟩
      [.scalar scalar false] ⟨around, outer, true, column', next⟩ := by
  rw [literal, List.cons_append, List.append_assoc, List.cons_append]
  apply Reads.of_token
  · exact .cons (by decide) (by decide) (by decide) (by decide) _
  · exact Int.ofNat_le.2 (Nat.le_of_lt right)
  · simp only [List.length_append, List.length_cons]
    omega
  · intro slots index line
    obtain ⟨index', line', read⟩ := exists_takeByLines?_literal nonempty printable breaks shows left
      (index + 1) line (column + 1)
    refine ⟨scan ⟨around, outer, true, column', next⟩ (slots.push [.scalar scalar false]) index'
      line', slots.push [.scalar scalar false], index', line', ?_, rfl, by simp, rfl⟩
    rw [token?_of_bar rfl rfl, Scan.byLines?]
    simp [scan, marksFrom_cons (c := '|') (by decide), Scan.dropName?, Scan.giveUp?, Scan.push,
      read]

/-- Two tokens stand between two spots. -/
theorem Reads.of_two_tokens {p q : Spot} {tokens : List Token} (shows : Shows p.text)
    (right : p.indent ≤ p.column) (shorter : q.text.length + 2 ≤ p.text.length)
    (token : ∀ slots index line, ∃ (between s : Scan) (slots' : Array (List Token))
      (index' line' : Nat),
      (p.scan slots index line).token? = some between ∧ between.finished = false ∧
      between.ready? = some between ∧ between.token? = some s ∧ s.finished = false ∧
      slots'.toList.flatten = slots.toList.flatten ++ tokens ∧
      s.ready? = (q.scan slots' index' line').ready?) :
    p.Reads tokens q := by
  intro slots index line
  obtain ⟨between, s, slots', index', line', first, unfinished, stays, second, further, flat,
    same⟩ := token slots index line
  have ready := p.ready?_scan_of_shows shows right slots index line
  refine ⟨2, slots', index', line', by omega, flat, fun fuel => ?_⟩
  rw [Nat.add_comm, Scan.run?_succ rfl, ready, Option.bind_some, first, Option.bind_some,
    Scan.run?_succ unfinished, stays, Option.bind_some, second, Option.bind_some]
  exact Scan.run?_congr further rfl same fuel

/-- The brackets of an empty list or map. -/
def brackets (map : Bool) : List Char := if map then ['\x7b', '\x7d'] else ['[', ']']

/-- The tokens of an empty list or map. -/
def bracketTokens (map : Bool) : List Token :=
  if map then [.openMap, .closeMap] else [.openList, .closeList]

/-- The brackets of an empty list and those of an empty map are read alike. -/
theorem exists_brackets (map : Bool) : ∃ (o c : Char) (opens closes : Token),
    brackets map = [o, c] ∧ bracketTokens map = [opens, closes] ∧
    (∀ text, Shows (o :: text)) ∧ (∀ text, Shows (c :: text)) ∧ isBreak o = false ∧
    isBreak c = false ∧
    (∀ (s : Scan) (index line column : Nat) (text : List Char),
      s.rest = marksFrom index line column (o :: text) → s.token? = s.openBracket? opens) ∧
    ∀ (s : Scan) (index line column : Nat) (text : List Char),
      s.rest = marksFrom index line column (c :: text) → s.token? = s.closeBracket? closes := by
  have three (d c : Char) (other : c ≠ d) (index line column : Nat) (rest : List Mark) :=
    startsWithThree_eq_false d ⟨c, index, line, column⟩ rest
      (.inr (.inl other))
  cases map with
  | true =>
    refine ⟨'\x7b', '\x7d', .openMap, .closeMap, rfl, rfl,
      .cons (by decide) (by decide) (by decide) (by decide),
      .cons (by decide) (by decide) (by decide) (by decide), by decide, by decide, ?_, ?_⟩
    all_goals
      intro s index line column text rest
      rw [marksFrom_cons (by decide)] at rest
      simp [Scan.token?, rest, three, endChar]
  | false =>
    refine ⟨'[', ']', .openList, .closeList, rfl, rfl,
      .cons (by decide) (by decide) (by decide) (by decide),
      .cons (by decide) (by decide) (by decide) (by decide), by decide, by decide, ?_, ?_⟩
    all_goals
      intro s index line column text rest
      rw [marksFrom_cons (by decide)] at rest
      simp [Scan.token?, rest, three, endChar]

/-- A pair of brackets is read. -/
theorem Reads.brackets (map : Bool) {allowed : Bool} (right : indent < column)
    (shows : Shows next) (column' : Nat) :
    Reads ⟨indent, outer, allowed, column,
        Spot.brackets map ++ (lineStart false column' ++ next)⟩
      (bracketTokens map) ⟨indent, outer, true, column', next⟩ := by
  obtain ⟨o, c, opens, closes, chars, tokens, showsO, showsC, insideO, insideC, opening, closing⟩ :=
    exists_brackets map
  rw [chars, tokens, List.cons_append, List.cons_append, List.nil_append]
  apply Reads.of_two_tokens
  · exact showsO _
  · exact Int.le_of_lt right
  · simp only [List.length_append, List.length_cons, length_lineStart]
    omega
  · intro slots index line
    have optional : decide (indent = column) = false := decide_eq_false (Int.ne_of_lt right)
    obtain ⟨slots', name?, flat, saved, slot⟩ := exists_saveName?_scan
      ⟨indent, outer, allowed, column, o :: c :: (lineStart false column' ++ next)⟩ slots index line
    refine ⟨{
        rest := marksFrom (index + 1) line (column + 1) (c :: (lineStart false column' ++ next))
        slots := slots'.push [opens]
        indent, outer
        names := [none, name?] }, {
        rest := marksFrom (index + 2) line (column + 2) (lineStart false column' ++ next)
        slots := (slots'.push [opens]).push [closes]
        indent, outer
        names := [name?]
        nameAllowed := false }, (slots'.push [opens]).push [closes], index + 2 + 1 + column',
      line + 1, ?_, rfl, ?_, ?_, rfl, by simp [flat], ?_⟩
    · rw [opening _ index line column _ rfl, Scan.openBracket?, saved]
      simp [scan, Scan.take, Scan.push, Scan.skip, marksFrom_cons insideO]
    · refine Scan.ready?_of_shows rfl (showsC _) (fun name mem => ?_) (.inl rfl)
      have same : some name = name? := by simpa using mem
      obtain ⟨-, begins, starts⟩ := slot name same.symm
      exact ⟨starts, by rw [begins]; exact Nat.add_le_add_left (by decide) index⟩
    · rw [closing _ (index + 1) line (column + 1) _ rfl, Scan.closeBracket?]
      simp [Scan.dropName?, Scan.giveUp?, Scan.inBrackets, Scan.take, Scan.push, Scan.skip,
        marksFrom_cons insideC]
    · have stays :=
        skipFiller_of_shows shows false true (index + 2 + 1 + column') (line + 1) column'
      rw [ready?_of_passed (q := ⟨indent, outer, true, column', next⟩) rfl ?_
          (skipFiller_lineStart shows false (index + 2) line (column + 2) column') rfl rfl rfl,
        ready?_scan (q := ⟨indent, outer, true, column', next⟩) stays rfl rfl]
      intro name mem
      obtain ⟨required, -, starts⟩ := slot name mem
      exact ⟨required.trans optional, by omega⟩

end

/-! ## Names -/

section

variable {indent : Int} {outer : List Int} {column : Nat} {text : List Char}

theorem modify_push_push (slots : Array (List Token)) (inner last : List Token)
    (f : List Token → List Token) :
    ((slots.push inner).push last).modify slots.size f = (slots.push (f inner)).push last := by
  have list (before : List (List Token)) :
      (before ++ [inner, last]).modify before.length f = before ++ [f inner, last] := by
    induction before with
    | nil => rfl
    | cons first before ih => simp [ih]
  apply Array.toList_inj.1
  have written := list slots.toList
  simpa using written

/-- The colon behind a name. -/
theorem value?_of_name {s : Scan} {name : NameSlot} (names : s.names = [some name])
    (starts : name.start.column = column) (right : s.indent ≤ column) :
    s.value? = some { (({ s with
        indent := column
        outer := enclosing s.indent s.outer column } : Scan).fill name.slot
          (opening .blockMap s.indent column ++ [.name])).take .value 1 with
        names := [none]
        nameAllowed := false } := by
  obtain ⟨rest, slots, indent, outer, names', allowed, finished⟩ := s
  obtain rfl : names' = [some name] := names
  rw [Scan.value?]
  simp only [Scan.isDeeper, Scan.inBrackets, starts, opening, enclosing]
  by_cases deeper : indent < column
  · simp [deeper, Scan.take, Scan.push, Scan.skip, Scan.fill]
  · have same : indent = column := Int.le_antisymm right (Int.not_lt.1 deeper)
    simp [same, Scan.take, Scan.push, Scan.skip, Scan.fill]

/-- A name in front of its colon is read, whatever its style. -/
theorem Reads.of_name {written : List Char} {token : Token} (shows : Shows (written ++ ':' :: text))
    (nonempty : written ≠ []) (short : written.length ≤ maxNameLength) (right : indent ≤ column)
    (separated : Separated text)
    (read : ∀ slots index line,
      (scan ⟨indent, outer, true, column, written ++ ':' :: text⟩ slots index line).token? =
        (scan ⟨indent, outer, true, column, written ++ ':' :: text⟩ slots index line).saveName?.map
          fun s => { s.push token with
            rest := marksFrom (index + written.length) line (column + written.length) (':' :: text)
            nameAllowed := false }) :
    Reads ⟨indent, outer, true, column, written ++ ':' :: text⟩
      (opening .blockMap indent column ++ [.name, token, .value])
      ⟨column, enclosing indent outer column, false, column + written.length + 1, text⟩ := by
  have positive := List.length_pos_of_ne_nil nonempty
  apply Reads.of_two_tokens
  · exact shows
  · exact right
  · simp only [List.length_append, List.length_cons]
    omega
  · intro slots index line
    have start := column_here index line column (written ++ ':' :: text)
    let named : Scan := {
      rest := marksFrom (index + written.length) line (column + written.length) (':' :: text)
      slots := (slots.push []).push [token]
      indent, outer
      names := [some (slot ⟨indent, outer, true, column, written ++ ':' :: text⟩ slots index line)]
      nameAllowed := false }
    have ready : named.ready? = some named := by
      refine Scan.ready?_of_shows rfl (shows_of_indicator (.inr (.inr rfl)) text) ?_ (.inr ?_)
      · intro name mem
        obtain rfl : name = slot _ slots index line := by simpa [named] using mem
        refine ⟨line_here .., ?_⟩
        have begins : (slot ⟨indent, outer, true, column, written ++ ':' :: text⟩ slots index
          line).start.index = index := index_here ..
        rw [begins]
        exact Nat.add_le_add_left short index
      · exact Int.le_trans right (Int.ofNat_le.2 (Nat.le_add_right _ _))
    let slots' := ((slots.push (opening .blockMap indent column ++ [.name])).push [token]).push
      [.value]
    refine ⟨named, scan ⟨column, enclosing indent outer column, false,
      column + written.length + 1, text⟩ slots' (index + written.length + 1) line, slots',
      index + written.length + 1, line, ?_, rfl, ready, ?_, rfl, ?_, rfl⟩
    · rw [read, saveName?_scan, if_pos rfl, Option.map_some]
      rfl
    · rw [token?_of_separated separated (.inr (.inr rfl)) rfl, if_neg (by decide),
        if_neg (by decide), value?_of_name rfl start right]
      simp [named, slots', slot, scan, Scan.take, Scan.push, Scan.skip, Scan.fill,
        modify_push_push, marksFrom_cons (c := ':') (by decide)]
    · simp [slots']

/-- A plain name is read. -/
theorem Reads.plainName {name : List Char} (stands : StandsPlain name)
    (short : name.length ≤ maxNameLength) (right : indent ≤ column)
    (unmarked : ∀ c ∈ name.head?, Unmarked column c) (separated : Separated text) :
    Reads ⟨indent, outer, true, column, name ++ ':' :: text⟩
      (opening .blockMap indent column ++ [.name, .scalar name true, .value])
      ⟨column, enclosing indent outer column, false, column + name.length + 1, text⟩ := by
  obtain ⟨c, rest, name_eq, -⟩ := stands.starts
  apply Reads.of_name (stands.shows _) (name_eq ▸ List.cons_ne_nil c rest) short right separated
  intro slots index line
  have inside : indent + 1 ≤ column + 1 := by omega
  have read := stands.plainRest_name unmarked inside index line fun index column =>
    (separated.headChar index line column).1
  exact (token?_of_standsPlain stands unmarked slots index line).trans (plain?_scan read slots)

/-- A name in quotes is read. -/
theorem Reads.quotedName {double : Bool} {name : List Char}
    (plain : double = false → ∀ c ∈ name, isPrintable c = true ∧ isBreak c = false)
    (short : (quoted double name).length ≤ maxNameLength) (right : indent ≤ column)
    (separated : Separated text) :
    Reads ⟨indent, outer, true, column, quoted double name ++ ':' :: text⟩
      (opening .blockMap indent column ++ [.name, .scalar name false, .value])
      ⟨column, enclosing indent outer column, false, column + (quoted double name).length + 1,
        text⟩ := by
  apply Reads.of_name (shows_quoted double name _) (List.cons_ne_nil _ _) short right separated
  intro slots index line
  have read := quotedRest_quoted plain index line column (':' :: text) fun index column => by
    rw [headChar_marksFrom_cons (by decide)]
    decide
  exact (token?_of_quote slots index line).trans (node?_scan (congrArg (Option.map _) read) slots)

end

end Spot

end StateMetrics.Yaml
