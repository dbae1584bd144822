import StateMetrics.Yaml.Mark
import StateMetrics.Yaml.Printer

/-!
# The marks of printed text

Printed text ends its lines with newlines only. So the marks of a line are those of its characters
one after another, and the filler in front of the next token is what the printer puts between two
pieces: a line end, unless the piece before ended with one, and the indentation.
-/

namespace StateMetrics.Yaml

/-- A character inside a line has the mark of its column, and the next one that of the next
column. -/
theorem marksFrom_cons {c : Char} (inside : isBreak c = false) (index line column : Nat)
    (text : List Char) : marksFrom index line column (c :: text) =
      ⟨c, index, line, column⟩ :: marksFrom (index + 1) line (column + 1) text := by
  have other : c ≠ '\r' := fun same => by
    rw [same] at inside
    cases inside
  rw [marksFrom, inside]
  · rfl
  · intro text' same
    exact absurd same other

/-- Behind a newline the columns start again. -/
theorem marksFrom_newline (index line column : Nat) (text : List Char) :
    marksFrom index line column ('\n' :: text) =
      ⟨'\n', index, line, column⟩ :: marksFrom (index + 1) (line + 1) 0 text := by
  rw [marksFrom]
  · rfl
  · intro text' same
    cases same

/-- The marks of characters that stand in one line. -/
def lineMarks (index line column : Nat) : List Char → List Mark
  | [] => []
  | c :: text => ⟨c, index, line, column⟩ :: lineMarks (index + 1) line (column + 1) text

theorem map_char_lineMarks (index line column : Nat) (text : List Char) :
    (lineMarks index line column text).map Mark.char = text := by
  induction text generalizing index column with
  | nil => rfl
  | cons c text ih => rw [lineMarks, List.map_cons, ih]

theorem length_lineMarks (index line column : Nat) (text : List Char) :
    (lineMarks index line column text).length = text.length := by
  rw [← List.length_map (f := Mark.char), map_char_lineMarks]

theorem char_mem_of_mem_lineMarks {index line column : Nat} {text : List Char} {m : Mark}
    (mem : m ∈ lineMarks index line column text) : m.char ∈ text := by
  rw [← map_char_lineMarks index line column text]
  exact List.mem_map_of_mem mem

/-- The marks of a text that stays on its line, and those of what stands behind it. -/
theorem marksFrom_append {text : List Char} (inside : ∀ c ∈ text, isBreak c = false)
    (index line column : Nat) (rest : List Char) :
    marksFrom index line column (text ++ rest) = lineMarks index line column text ++
      marksFrom (index + text.length) line (column + text.length) rest := by
  induction text generalizing index column with
  | nil => rfl
  | cons c text ih =>
    rw [List.cons_append, marksFrom_cons (inside c List.mem_cons_self),
      ih fun c mem => inside c (List.mem_cons_of_mem _ mem), List.length_cons, lineMarks,
      Nat.add_right_comm index 1, Nat.add_right_comm column 1]
    rfl

/-- Newlines are the only line ends in a text. -/
def OnlyNewlines (text : List Char) : Prop := ∀ c ∈ text, isBreak c = true → c = '\n'

instance (text : List Char) : Decidable (OnlyNewlines text) :=
  decidable_of_iff (text.all (fun c => !isBreak c || c = '\n') = true) (by
    simp [OnlyNewlines, Decidable.or_iff_not_imp_left])

@[simp] theorem onlyNewlines_append (first second : List Char) :
    OnlyNewlines (first ++ second) ↔ OnlyNewlines first ∧ OnlyNewlines second :=
  List.forall_mem_append

@[simp] theorem onlyNewlines_cons (c : Char) (text : List Char) :
    OnlyNewlines (c :: text) ↔ (isBreak c = true → c = '\n') ∧ OnlyNewlines text :=
  List.forall_mem_cons

theorem isBreak_of_mem_spaces {c : Char} {count : Nat} (mem : c ∈ spaces count) :
    isBreak c = false := by
  rw [List.eq_of_mem_replicate mem]
  decide

@[simp] theorem length_spaces (count : Nat) : (spaces count).length = count :=
  List.length_replicate

theorem spaces_add (a b : Nat) : spaces (a + b) = spaces a ++ spaces b :=
  List.replicate_append_replicate.symm

theorem spaces_succ (count : Nat) : spaces (count + 1) = ' ' :: spaces count :=
  List.replicate_succ

theorem headChar_marksFrom_cons {c : Char} (inside : isBreak c = false) (index line column : Nat)
    (text : List Char) : headChar (marksFrom index line column (c :: text)) = c := by
  rw [marksFrom_cons inside]
  rfl

theorem ne_of_isPrintable {c : Char} (printable : isPrintable c = true) :
    c ≠ '\t' ∧ c ≠ endChar ∧ c ≠ byteOrderMark := by
  refine ⟨?_, ?_, ?_⟩
  all_goals
    intro same
    rw [same] at printable
    revert printable
    decide

@[simp] theorem headChar_cons (m : Mark) (rest : List Mark) : headChar (m :: rest) = m.char := rfl

theorem startsWithThree_eq_false (c : Char) (m : Mark) (rest : List Mark)
    (other : m.column ≠ 0 ∨ m.char ≠ c ∨ headChar rest ≠ c) :
    startsWithThree c (m :: rest) = false := by
  match rest with
  | [] => rfl
  | [_] => rfl
  | n :: _ :: _ =>
    rcases other with column | first | second
    · simp [startsWithThree, column]
    · simp [startsWithThree, first]
    · have next : n.char ≠ c := second
      simp [startsWithThree, next]

/-! ## Filler -/

/-- The text starts with what is no filler, or there is none. -/
def Shows (text : List Char) : Prop :=
  ∀ c, text.head? = some c → isBreak c = false ∧ isBlank c = false ∧ c ≠ '#' ∧ c ≠ byteOrderMark

theorem Shows.nil : Shows [] := fun _ head => by cases head

theorem Shows.cons {c : Char} (inside : isBreak c = false) (visible : isBlank c = false)
    (noComment : c ≠ '#') (noMark : c ≠ byteOrderMark) (text : List Char) : Shows (c :: text) := by
  intro d head
  obtain rfl : c = d := Option.some.inj head
  exact ⟨inside, visible, noComment, noMark⟩

/-- Two marks of an end of text stand for the same, and so do the marks of what shows. -/
theorem Shows.exists_marks {text : List Char} (shows : Shows text) (index line column : Nat) :
    ∃ m rest, marksFrom index line column text = m :: rest ∧ m.line = line ∧ m.column = column ∧
      m.index = index ∧ isBreak m.char = false ∧ isBlank m.char = false ∧ m.char ≠ '#' ∧
      m.char ≠ byteOrderMark := by
  cases text with
  | nil =>
    have plain : isBreak endChar = false ∧ isBlank endChar = false ∧ endChar ≠ '#' ∧
        endChar ≠ byteOrderMark := by decide
    exact ⟨_, _, rfl, rfl, rfl, rfl, plain⟩
  | cons c text =>
    obtain ⟨inside, visible, noComment, noMark⟩ := shows c rfl
    exact ⟨_, _, marksFrom_cons inside .., rfl, rfl, rfl, inside, visible, noComment, noMark⟩

/-- Where text shows there is no filler in front of it. -/
theorem skipFiller_of_shows {text : List Char} (shows : Shows text) (inBrackets allowed : Bool)
    (index line column : Nat) :
    skipFiller inBrackets false allowed (marksFrom index line column text) =
      (marksFrom index line column text, allowed) := by
  obtain ⟨m, rest, marks, -, -, -, inside, visible, noComment, noMark⟩ :=
    shows.exists_marks index line column
  have parts : m.char ≠ ' ' ∧ m.char ≠ '\t' := by simpa [isBlank] using visible
  rw [marks, skipFiller]
  simp [inside, parts, noComment, noMark]

theorem skipFiller_space (inBrackets allowed : Bool) (index line column : Nat) (text : List Char) :
    skipFiller inBrackets false allowed (marksFrom index line column (' ' :: text)) =
      skipFiller inBrackets false allowed (marksFrom (index + 1) line (column + 1) text) := by
  rw [marksFrom_cons (by decide), skipFiller]
  rfl

/-- Spaces are filler. -/
theorem skipFiller_spaces (inBrackets allowed : Bool) (count index line column : Nat)
    (text : List Char) :
    skipFiller inBrackets false allowed (marksFrom index line column (spaces count ++ text)) =
      skipFiller inBrackets false allowed
        (marksFrom (index + count) line (column + count) text) := by
  induction count generalizing index column with
  | zero => rfl
  | succ count ih =>
    rw [spaces_succ, List.cons_append, skipFiller_space, ih, Nat.add_right_comm index 1,
      Nat.add_right_comm column 1]
    rfl

/-- A line end is filler, and behind it a name may start. -/
theorem skipFiller_newline (allowed : Bool) (index line column : Nat) (text : List Char) :
    skipFiller false false allowed (marksFrom index line column ('\n' :: text)) =
      skipFiller false false true (marksFrom (index + 1) (line + 1) 0 text) := by
  rw [marksFrom_newline, skipFiller]
  simp only [show isBreak '\n' = true from rfl, if_true, Bool.not_false, Bool.or_true]

@[simp] theorem onlyNewlines_spaces (count : Nat) : OnlyNewlines (spaces count) :=
  fun c mem ends => by
    rw [isBreak_of_mem_spaces mem] at ends
    cases ends

@[simp] theorem onlyNewlines_lineStart (closed : Bool) (indent : Nat) :
    OnlyNewlines (lineStart closed indent) := by
  rw [lineStart]
  split
  · simp
  · simp

theorem length_lineStart (indent : Nat) : (lineStart false indent).length = indent + 1 := by
  rw [lineStart, if_neg Bool.false_ne_true, List.length_cons, length_spaces]

/-- The end of a line and the indentation of the next are filler. -/
theorem skipFiller_lineStart {next : List Char} (shows : Shows next) (allowed : Bool)
    (index line column indent : Nat) :
    skipFiller false false allowed
        (marksFrom index line column (lineStart false indent ++ next)) =
      (marksFrom (index + 1 + indent) (line + 1) indent next, true) := by
  rw [lineStart, if_neg Bool.false_ne_true, List.cons_append, skipFiller_newline,
    skipFiller_spaces, Nat.zero_add, skipFiller_of_shows shows]

end StateMetrics.Yaml
