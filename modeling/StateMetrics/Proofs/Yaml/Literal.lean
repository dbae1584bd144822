import Mathlib.Data.List.Basic
import StateMetrics.Proofs.Yaml.Marks
import StateMetrics.Yaml.Token.Lines

/-!
# Literal blocks are read back

A text whose only line ends are newlines is a number of newlines and then lines, each with newlines
behind it (`exists_newlines_lines`). A literal block indents those lines; what reads it takes them
one by one (`exists_takeLines_front`), and the hints in front of the block tell how deep they stand
and how many of the last newlines belong to the text (`exists_takeByLines?_literal`).
-/

namespace StateMetrics.Yaml

/-- So many newlines. -/
def newlines (count : Nat) : List Char := List.replicate count '\n'

theorem newlines_succ (count : Nat) : newlines (count + 1) = '\n' :: newlines count :=
  List.replicate_succ

theorem reverse_newlines (count : Nat) : (newlines count).reverse = newlines count :=
  List.reverse_replicate

/-- Lines with text in them, each with the number of empty lines behind it. -/
abbrev Paragraphs := List (List Char × Nat)

/-- The text of the lines, every line ended. -/
def Paragraphs.text (lines : Paragraphs) : List Char :=
  lines.flatMap fun line => line.1 ++ newlines (line.2 + 1)

/-- The lines have text in them and no line end. -/
def Paragraphs.Proper (lines : Paragraphs) : Prop :=
  ∀ line ∈ lines, line.1 ≠ [] ∧ ∀ c ∈ line.1, isPrintable c = true ∧ isBreak c = false

/-- A text that ends its last line, if it has any, is newlines and lines. -/
theorem exists_newlines_lines (text : List Char) (printable : ∀ c ∈ text, isPrintable c = true)
    (breaks : OnlyNewlines text)
    (ends : ∀ c, text.getLast? = some c → c = '\n') :
    ∃ (count : Nat) (lines : Paragraphs), text = newlines count ++ lines.text ∧ lines.Proper := by
  induction text with
  | nil => exact ⟨0, [], rfl, fun _ mem => by cases mem⟩
  | cons c text ih =>
    have endsTail : ∀ d, text.getLast? = some d → d = '\n' := fun d last =>
      ends d (by rw [List.getLast?_cons, last]; rfl)
    obtain ⟨count, lines, rfl, proper⟩ := ih
      (fun d mem => printable d (List.mem_cons_of_mem _ mem))
      (fun d mem => breaks d (List.mem_cons_of_mem _ mem)) endsTail
    by_cases newline : c = '\n'
    · exact ⟨count + 1, lines, by rw [newline, newlines_succ]; rfl, proper⟩
    · have free : isPrintable c = true ∧ isBreak c = false :=
        ⟨printable c List.mem_cons_self, Bool.eq_false_iff.2 fun break' =>
          newline (breaks c List.mem_cons_self break')⟩
      -- The character starts a line of its own, or the first of the lines that follow.
      cases count with
      | succ count =>
        refine ⟨0, ([c], count) :: lines, rfl, List.forall_mem_cons.2 ⟨⟨List.cons_ne_nil c [], ?_⟩,
          proper⟩⟩
        intro d mem
        rw [List.mem_singleton.1 mem]
        exact free
      | zero =>
        cases lines with
        | nil => exact absurd (ends c rfl) newline
        | cons first lines =>
          obtain ⟨first, others⟩ := List.forall_mem_cons.1 proper
          exact ⟨0, (c :: _, _) :: lines, rfl, List.forall_mem_cons.2
            ⟨⟨List.cons_ne_nil _ _, List.forall_mem_cons.2 ⟨free, first.2⟩⟩, others⟩⟩

/-! ## The written lines -/

/-- The lines as a literal block has them: behind so many spaces each. -/
def Paragraphs.written (indent : Nat) (lines : Paragraphs) : List Char :=
  lines.flatMap fun line => spaces indent ++ (line.1 ++ newlines (line.2 + 1))

theorem literalBody_cons {c : Char} (inside : isBreak c = false) (indent : Nat)
    (text : List Char) :
    literalBody indent false (c :: text) = c :: literalBody indent false text := by
  rw [literalBody, inside, if_neg Bool.false_ne_true, if_neg Bool.false_ne_true, List.nil_append]

theorem literalBody_start {c : Char} (inside : isBreak c = false) (indent : Nat)
    (text : List Char) :
    literalBody indent true (c :: text) =
      spaces indent ++ literalBody indent false (c :: text) := by
  rw [literalBody_cons inside, literalBody, inside, if_neg Bool.false_ne_true, if_pos rfl]

theorem literalBody_line (indent : Nat) {line : List Char}
    (inside : ∀ c ∈ line, isBreak c = false) (text : List Char) :
    literalBody indent false (line ++ text) = line ++ literalBody indent false text := by
  induction line with
  | nil => rfl
  | cons c line ih =>
    rw [List.cons_append, literalBody_cons (inside c List.mem_cons_self),
      ih fun d mem => inside d (List.mem_cons_of_mem _ mem), List.cons_append]

theorem literalBody_newlines (indent : Nat) (afterBreak : Bool) (count : Nat)
    (text : List Char) : literalBody indent afterBreak (newlines (count + 1) ++ text) =
      newlines (count + 1) ++ literalBody indent true text := by
  induction count generalizing afterBreak with
  | zero => rfl
  | succ count ih =>
    rw [newlines_succ (count + 1), List.cons_append, literalBody, if_pos (by decide), ih]
    rfl

/-- The body of a literal block is its lines, each behind the indentation, but for the empty
ones. -/
theorem literalBody_text (indent : Nat) {lines : Paragraphs} (proper : lines.Proper) :
    literalBody indent true lines.text = lines.written indent := by
  induction lines with
  | nil => rfl
  | cons first lines ih =>
    obtain ⟨⟨nonempty, inside⟩, others⟩ := List.forall_mem_cons.1 proper
    obtain ⟨line, count⟩ := first
    obtain ⟨c, line, rfl⟩ := List.exists_cons_of_ne_nil nonempty
    have free := fun d mem => (inside d mem).2
    have starts (rest : List Char) : literalBody indent true ((c :: line) ++ rest) =
        spaces indent ++ literalBody indent false ((c :: line) ++ rest) :=
      literalBody_start (free c List.mem_cons_self) indent (line ++ rest)
    rw [Paragraphs.text, List.flatMap_cons, List.append_assoc, ← Paragraphs.text, starts,
      literalBody_line indent free, literalBody_newlines, ih others, Paragraphs.written,
      Paragraphs.written, List.flatMap_cons, List.append_assoc, List.append_assoc]

theorem literalBody_newlines_text (indent count : Nat) {lines : Paragraphs}
    (proper : lines.Proper) : literalBody indent true (newlines count ++ lines.text) =
      newlines count ++ lines.written indent := by
  cases count with
  | zero => exact literalBody_text indent proper
  | succ count => rw [literalBody_newlines, literalBody_text indent proper]

/-- The end of the last line belongs to the block, whether it is written with it or behind it. -/
theorem literalBody_append_newline (indent : Nat) (afterBreak : Bool) (text : List Char) :
    literalBody indent afterBreak (text ++ ['\n']) =
      literalBody indent afterBreak text ++ ['\n'] := by
  induction text generalizing afterBreak with
  | nil => rfl
  | cons c text ih =>
    rw [List.cons_append, literalBody, literalBody]
    split
    · rw [ih]
      rfl
    · rw [ih, List.append_assoc]
      rfl

/-! ## Reading the lines -/

/-- Indentation is no deeper than what is looked for. -/
def Shallow (indent : Option Nat) (column : Nat) : Prop := ∀ depth ∈ indent, column ≤ depth

theorem skipIndentation_space {indent : Option Nat} (deepest : Nat) (breaks : List Char)
    {column : Nat} (shallow : Shallow indent (column + 1)) (index line : Nat)
    (text : List Char) :
    skipIndentation indent deepest breaks (marksFrom index line column (' ' :: text)) =
      skipIndentation indent deepest breaks (marksFrom (index + 1) line (column + 1) text) := by
  rw [marksFrom_cons (by decide), skipIndentation.eq_def]
  cases indent with
  | none => rfl
  | some depth =>
    have bound : column < depth := shallow depth rfl
    simp [bound]

theorem skipIndentation_spaces {indent : Option Nat} (deepest : Nat) (breaks : List Char)
    {count column : Nat} (shallow : Shallow indent (column + count)) (index line : Nat)
    (text : List Char) :
    skipIndentation indent deepest breaks
        (marksFrom index line column (spaces count ++ text)) =
      skipIndentation indent deepest breaks
        (marksFrom (index + count) line (column + count) text) := by
  induction count generalizing index column with
  | zero => rfl
  | succ count ih =>
    rw [← Nat.add_assoc] at shallow
    have first : Shallow indent (column + 1) := fun depth mem => by
      have bound := shallow depth mem
      omega
    rw [spaces_succ, List.cons_append, skipIndentation_space _ _ first,
      ih (by rw [Nat.add_right_comm]; exact shallow), Nat.add_assoc index, Nat.add_assoc column,
      Nat.add_comm 1]

theorem skipIndentation_newline (indent : Option Nat) (deepest : Nat) (breaks : List Char)
    (index line column : Nat) (text : List Char) :
    skipIndentation indent deepest breaks (marksFrom index line column ('\n' :: text)) =
      skipIndentation indent (max deepest column) ('\n' :: breaks)
        (marksFrom (index + 1) (line + 1) 0 text) := by
  rw [marksFrom_newline, skipIndentation.eq_def]
  simp [show isBreak '\n' = true from rfl]

/-- Empty lines are skipped one after another. -/
theorem exists_skipIndentation_newlines (indent : Option Nat) (deepest : Nat)
    (breaks : List Char) (count index line : Nat) (text : List Char) :
    ∃ deepest', skipIndentation indent deepest breaks
        (marksFrom index line 0 (newlines count ++ text)) =
      skipIndentation indent deepest' (newlines count ++ breaks)
        (marksFrom (index + count) (line + count) 0 text) := by
  induction count generalizing index line deepest breaks with
  | zero => exact ⟨deepest, rfl⟩
  | succ count ih =>
    obtain ⟨deepest', further⟩ := ih (max deepest 0) ('\n' :: breaks) (index + 1) (line + 1)
    refine ⟨deepest', ?_⟩
    have shifted : newlines count ++ '\n' :: breaks = newlines (count + 1) ++ breaks := by
      rw [newlines, newlines, List.replicate_succ', List.append_assoc]
      rfl
    rw [newlines_succ, List.cons_append, skipIndentation_newline, further, shifted,
      Nat.add_assoc index, Nat.add_assoc line, Nat.add_comm 1]
    rfl

/-- Indentation ends in front of what is no space. -/
theorem skipIndentation_of_ne {indent : Option Nat} (deepest : Nat) (breaks : List Char)
    {m : Mark} (inside : isBreak m.char = false) (noTab : m.char ≠ '\t')
    (visible : m.char ≠ ' ' ∨ indent = some m.column) (rest : List Mark) :
    skipIndentation indent deepest breaks (m :: rest) =
      some (breaks, max deepest m.column, m :: rest) := by
  rw [skipIndentation.eq_def]
  rcases visible with noSpace | rfl
  · simp [inside, noTab, noSpace]
  · simp [inside]

/-- What was read of a block, line ends included, the last character first. -/
def LinesSoFar.all (s : LinesSoFar) : List Char := s.empties ++ (s.lineEnd.toList ++ s.acc)

/-- What was read when a line with empty lines behind it was read too. -/
def LinesSoFar.add (s : LinesSoFar) (line : List Char) (count : Nat) : LinesSoFar :=
  ⟨line.reverse ++ s.all, some '\n', newlines count, line.head?.any isBlank⟩

theorem LinesSoFar.all_add (s : LinesSoFar) (line : List Char) (count : Nat) :
    (s.add line count).all = (line ++ newlines (count + 1)).reverse ++ s.all := by
  rw [newlines_succ, List.reverse_append, List.reverse_cons, reverse_newlines]
  simp [LinesSoFar.all, LinesSoFar.add]

/-- What was read when the lines were read too. -/
def LinesSoFar.addAll (s : LinesSoFar) (lines : Paragraphs) : LinesSoFar :=
  lines.foldl (fun s line => s.add line.1 line.2) s

/-- Lines read are added behind what was read before. -/
theorem LinesSoFar.all_addAll (s : LinesSoFar) (lines : Paragraphs) :
    (s.addAll lines).all = lines.text.reverse ++ s.all := by
  induction lines generalizing s with
  | nil => rfl
  | cons first lines ih =>
    rw [addAll, List.foldl_cons, ← addAll, ih, all_add, Paragraphs.text, Paragraphs.text,
      List.flatMap_cons]
    simp only [List.reverse_append, List.append_assoc]

/-- Behind a line stands its end, and behind that empty lines. -/
theorem LinesSoFar.exists_all_addAll (s : LinesSoFar) {lines : Paragraphs} (nonempty : lines ≠ []) :
    ∃ count, (s.addAll lines).lineEnd = some '\n' ∧
      (s.addAll lines).empties = newlines count := by
  induction lines generalizing s with
  | nil => exact absurd rfl nonempty
  | cons first lines ih =>
    rw [addAll, List.foldl_cons, ← addAll]
    by_cases last : lines = []
    · rw [last]
      exact ⟨first.2, rfl, rfl⟩
    · exact ih _ last

/-- Where reading stands in front of some lines, and the text from there on: behind the indentation
of the first line, or of what follows if there is none. -/
def Paragraphs.front (indent column : Nat) (next : List Char) : Paragraphs → Nat × List Char
  | [] => (column, next)
  | (line, count) :: lines =>
    (indent, line ++ (newlines (count + 1) ++ (written indent lines ++ (spaces column ++ next))))

theorem Paragraphs.written_append (indent column : Nat) (next : List Char) (lines : Paragraphs) :
    lines.written indent ++ (spaces column ++ next) =
      spaces (lines.front indent column next).1 ++ (lines.front indent column next).2 := by
  cases lines with
  | nil => rfl
  | cons first lines => simp [written, front, List.append_assoc]

section

variable {indent column : Nat} {next : List Char}

/-- Behind empty lines reading stands in front of the next line, or of what follows the block. -/
theorem exists_skipIndentation_written (shows : Shows next) (left : column < indent)
    {lines : Paragraphs} (proper : lines.Proper) (deepest : Nat) (breaks : List Char)
    (index line : Nat) :
    ∃ deepest', skipIndentation (some indent) deepest breaks
        (marksFrom index line 0 (lines.written indent ++ (spaces column ++ next))) =
      some (breaks, deepest', marksFrom (index + (lines.front indent column next).1) line
        (lines.front indent column next).1 (lines.front indent column next).2) := by
  have shallow : Shallow (some indent) (0 + (lines.front indent column next).1) := by
    intro depth mem
    rw [← Option.some.inj mem, Nat.zero_add]
    cases lines with
    | nil => exact Nat.le_of_lt left
    | cons first lines => exact Nat.le_refl indent
  rw [lines.written_append, skipIndentation_spaces deepest breaks shallow, Nat.zero_add]
  cases lines with
  | nil =>
    obtain ⟨m, rest, marks, -, -, -, inside, visible, -⟩ :=
      shows.exists_marks (index + column) line column
    have parts : m.char ≠ ' ' ∧ m.char ≠ '\t' := by simpa [isBlank] using visible
    refine ⟨max deepest m.column, ?_⟩
    rw [Paragraphs.front, marks]
    exact skipIndentation_of_ne deepest breaks inside parts.2 (.inl parts.1) rest
  | cons first lines =>
    obtain ⟨⟨nonempty, inside⟩, -⟩ := List.forall_mem_cons.1 proper
    obtain ⟨text, count⟩ := first
    obtain ⟨c, text, rfl⟩ := List.exists_cons_of_ne_nil nonempty
    obtain ⟨printable, free⟩ := inside c List.mem_cons_self
    refine ⟨max deepest indent, ?_⟩
    rw [Paragraphs.front, List.cons_append, marksFrom_cons free]
    exact skipIndentation_of_ne deepest breaks free
      (ne_of_isPrintable printable).1 (.inr rfl) _

/-- A line of a block goes up to the mark that ends it. -/
theorem takeLine_lineMarks {text : List Char}
    (inside : ∀ c ∈ text, isPrintable c = true ∧ isBreak c = false) (index line column : Nat)
    {m : Mark} (ends : isBreak m.char = true) (rest : List Mark) :
    (lineMarks index line column text ++ m :: rest).takeWhile
        (fun m => !(isBreak m.char || m.char = endChar)) = lineMarks index line column text ∧
      dropLine (lineMarks index line column text ++ m :: rest) = m :: rest := by
  have within : ∀ m ∈ lineMarks index line column text,
      (!(isBreak m.char || m.char = endChar)) = true := by
    intro m mem
    obtain ⟨printable, noBreak⟩ := inside m.char (char_mem_of_mem_lineMarks mem)
    simp [noBreak, (ne_of_isPrintable printable).2.1]
  constructor
  · rw [List.takeWhile_append_of_pos within, List.takeWhile_cons_of_neg (by simp [ends]),
      List.append_nil]
  · rw [dropLine, List.dropWhile_append_of_pos within, List.dropWhile_cons_of_neg (by simp [ends])]

/-- A line is taken up to its end, and the reader goes on behind the empty lines that follow. -/
theorem takeLines_cons {s : LinesSoFar} {text : List Char} (nonempty : text ≠ [])
    (inside : ∀ c ∈ text, isPrintable c = true ∧ isBreak c = false) (fuel index line : Nat)
    (rest : List Char) :
    takeLines false indent s (fuel + 1) (marksFrom index line indent (text ++ '\n' :: rest)) =
      (skipIndentation (some indent) 0 []
        (marksFrom (index + text.length + 1) (line + 1) 0 rest)).bind fun (empties, _, behind) =>
          takeLines false indent
            ⟨text.reverse ++ s.all, some '\n', empties, text.head?.any isBlank⟩ fuel behind := by
  obtain ⟨m, newline, marks⟩ : ∃ m : Mark, m.char = '\n' ∧
      marksFrom index line indent (text ++ '\n' :: rest) = lineMarks index line indent text ++
        m :: marksFrom (index + text.length + 1) (line + 1) 0 rest :=
    ⟨_, rfl, by rw [marksFrom_append fun c mem => (inside c mem).2, marksFrom_newline]⟩
  have ends : isBreak '\n' = true := by decide
  rw [marks]
  generalize marksFrom (index + text.length + 1) (line + 1) 0 rest = after
  obtain ⟨taken, dropped⟩ := takeLine_lineMarks inside index line indent (newline ▸ ends) after
  obtain ⟨c, text, rfl⟩ := List.exists_cons_of_ne_nil nonempty
  have first := (ne_of_isPrintable (inside c List.mem_cons_self).1).2.1
  rw [lineMarks, List.cons_append] at taken dropped
  have joined : s.joined false (isBlank c) = s.all := by
    simp [LinesSoFar.joined, LinesSoFar.all]
  rw [lineMarks, List.cons_append, takeLines, if_neg (by simp [first]), taken, dropped]
  simp only [newline, ends, if_true, joined]
  rw [List.map_cons, map_char_lineMarks]
  cases skipIndentation (some indent) 0 [] after with
  | none => rfl
  | some found => rfl

/-- The lines of a block are read up to what follows it. -/
theorem exists_takeLines_front (shows : Shows next) (left : column < indent) {lines : Paragraphs}
    (proper : lines.Proper) {fuel : Nat} (enough : lines.length ≤ fuel) (s : LinesSoFar)
    (index line : Nat) :
    ∃ index' line', takeLines false indent s fuel (marksFrom index line
        (lines.front indent column next).1 (lines.front indent column next).2) =
      some (s.addAll lines, marksFrom index' line' column next) := by
  induction lines generalizing s fuel index line with
  | nil =>
    refine ⟨index, line, ?_⟩
    obtain ⟨m, rest, marks, -, place, -⟩ := shows.exists_marks index line column
    cases fuel with
    | zero => rfl
    | succ fuel =>
      have other : m.column ≠ indent := by omega
      rw [Paragraphs.front, marks, takeLines, if_pos (by simp [other])]
      rfl
  | cons first lines ih =>
    obtain ⟨⟨nonempty, inside⟩, others⟩ := List.forall_mem_cons.1 proper
    obtain ⟨text, count⟩ := first
    obtain ⟨fuel, rfl⟩ := Nat.exists_eq_succ_of_ne_zero (Nat.ne_zero_of_lt enough)
    obtain ⟨deepest, empties⟩ := exists_skipIndentation_newlines (some indent) 0 [] count
      (index + text.length + 1) (line + 1)
      (Paragraphs.written indent lines ++ (spaces column ++ next))
    obtain ⟨deepest', further⟩ := exists_skipIndentation_written shows left others deepest
      (newlines count ++ []) (index + text.length + 1 + count) (line + 1 + count)
    obtain ⟨index', line', rest⟩ := ih others (Nat.le_of_succ_le_succ enough)
      (s.add text count) _ _
    refine ⟨index', line', ?_⟩
    rw [Paragraphs.front, newlines_succ, List.cons_append, takeLines_cons nonempty inside,
      empties, further, List.append_nil]
    exact rest

end

/-! ### The lines are not more than the marks -/

theorem count_newline_le_length (index line column : Nat) (text : List Char) :
    text.count '\n' ≤ (marksFrom index line column text).length := by
  fun_induction marksFrom index line column text with
  | case1 => simp
  | case2 index line column text ih => simp; omega
  | case3 index line column c text _ _ ih => rw [List.count_cons, List.length_cons]; split <;> omega
  | case4 index line column c text _ _ ih => rw [List.count_cons, List.length_cons]; split <;> omega

theorem Paragraphs.length_le_count (indent : Nat) (lines : Paragraphs) :
    lines.length ≤ (lines.written indent).count '\n' := by
  induction lines with
  | nil => exact Nat.le_refl 0
  | cons first lines ih =>
    rw [written, List.flatMap_cons, ← written, newlines_succ]
    simp only [List.count_append, List.count_cons_self, List.length_cons]
    omega

/-- The reader has fuel for all lines: each has at least a mark of its own. -/
theorem Paragraphs.length_le_marks (indent column : Nat) (next : List Char) (lines : Paragraphs)
    (index line : Nat) :
    lines.length ≤ (marksFrom index line (lines.front indent column next).1
      (lines.front indent column next).2).length := by
  refine Nat.le_trans ?_ (count_newline_le_length index line _ _)
  cases lines with
  | nil => exact Nat.zero_le _
  | cons first lines =>
    have others := Paragraphs.length_le_count indent lines
    rw [front, newlines_succ]
    simp only [List.count_append, List.count_cons_self, List.length_cons, List.cons_append]
    omega

/-! ## The hints -/

/-- What the hints say about the line ends behind the last line. -/
def chompingOf (text : List Char) : Chomping :=
  match text.reverse with
  | [] => .strip
  | [c] => if isBreak c then .keep else .strip
  | c :: d :: _ => if !isBreak c then .strip else if isBreak d then .keep else .clip

/-- What the hints say about the indentation. -/
def incrementOf (text : List Char) : Option Nat :=
  if text.head?.any fun c => c = ' ' || isBreak c then some 2 else none

/-- The hint about the line ends. -/
def chompingHint : Chomping → List Char
  | .strip => ['-']
  | .keep => ['+']
  | .clip => []

theorem literalHints_eq (text : List Char) : literalHints text =
    (if (incrementOf text).isSome then ['2'] else []) ++ chompingHint (chompingOf text) := by
  have first : (if text.head?.any fun c => c = ' ' || isBreak c then ['2'] else []) =
      if (incrementOf text).isSome then ['2'] else [] := by
    rw [incrementOf]
    split <;> rfl
  rw [literalHints, first, chompingOf]
  congr 1
  match text.reverse with
  | [] => rfl
  | [c] =>
    simp only []
    split <;> rfl
  | c :: d :: _ =>
    simp only []
    split
    · rfl
    · split <;> rfl

theorem literalHints_spec {text : List Char} {c : Char} (mem : c ∈ literalHints text) :
    isPrintable c = true ∧ isBreak c = false := by
  rw [literalHints_eq] at mem
  rcases List.mem_append.1 mem with digit | sign
  · split at digit
    · rw [List.mem_singleton.1 digit]
      decide
    · cases digit
  · cases chomping : chompingOf text with
    | strip => rw [chomping] at sign; rw [List.mem_singleton.1 sign]; decide
    | keep => rw [chomping] at sign; rw [List.mem_singleton.1 sign]; decide
    | clip => rw [chomping] at sign; cases sign

/-- The reader takes from the header what the printer has hinted at. -/
theorem takeHeader_literalHints (text : List Char) (index line column : Nat) (rest : List Char) :
    takeHeader {} false 2 (marksFrom index line column (literalHints text ++ '\n' :: rest)) =
      (⟨chompingOf text, incrementOf text⟩, marksFrom (index + (literalHints text).length) line
        (column + (literalHints text).length) ('\n' :: rest)) := by
  have increments : incrementOf text = none ∨ incrementOf text = some 2 := by
    rw [incrementOf]
    split
    · exact .inr rfl
    · exact .inl rfl
  rw [literalHints_eq]
  generalize chompingOf text = chomping
  rcases increments with unhinted | two
  · rw [unhinted]
    cases chomping with
    | strip => rfl
    | clip => rfl
    | keep => rfl
  · rw [two]
    cases chomping with
    | strip => rfl
    | clip => rfl
    | keep => rfl

/-! ## Literal blocks -/

theorem newlines_append_inj {count : Nat} {acc : List Char} {c : Char} {rest : List Char}
    (same : newlines count ++ '\n' :: acc = '\n' :: c :: rest) (other : c ≠ '\n') :
    count = 0 ∧ acc = c :: rest := by
  cases count with
  | zero => exact ⟨rfl, (List.cons.inj same).2⟩
  | succ count =>
    rw [newlines_succ, List.cons_append] at same
    have tail := (List.cons.inj same).2
    cases count with
    | zero => exact absurd (List.cons.inj tail).1.symm other
    | succ count => exact absurd (List.cons.inj tail).1.symm other

theorem LinesSoFar.text_keep (s : LinesSoFar) : s.text .keep = s.all.reverse := by
  rw [text, all, List.append_assoc]

/-- The text with its last line ended. -/
def withLastLineEnded (text : List Char) : List Char :=
  text ++ if text.getLast?.any isBreak then [] else ['\n']

theorem mem_withLastLineEnded {text : List Char} {c : Char} (mem : c ∈ withLastLineEnded text) :
    c ∈ text ∨ c = '\n' := by
  rcases List.mem_append.1 mem with inside | behind
  · exact .inl inside
  · split at behind
    · cases behind
    · exact .inr (List.mem_singleton.1 behind)

/-- A text with its last line ended ends with a newline. -/
theorem eq_newline_of_getLast?_withLastLineEnded {text : List Char} (breaks : OnlyNewlines text)
    {c : Char} (last : (withLastLineEnded text).getLast? = some c) : c = '\n' := by
  rw [withLastLineEnded] at last
  split at last
  · next closed =>
    rw [List.append_nil] at last
    rw [last] at closed
    exact breaks c (List.mem_of_getLast? last) closed
  · rw [List.getLast?_append] at last
    exact (Option.some.inj last).symm

section

variable {text : List Char} {count : Nat} {lines : Paragraphs}

theorem LinesSoFar.all_addAll_whole (whole : withLastLineEnded text = newlines count ++ lines.text) :
    (({ empties := newlines count } : LinesSoFar).addAll lines).all =
      (withLastLineEnded text).reverse := by
  rw [LinesSoFar.all_addAll, whole, List.reverse_append, reverse_newlines]
  simp [LinesSoFar.all]

/-- A text that has more than newlines has lines, so that newlines end what was read of it. -/
theorem LinesSoFar.exists_newlines_addAll
    (whole : withLastLineEnded text = newlines count ++ lines.text) {c : Char} (mem : c ∈ text)
    (inside : isBreak c = false) (s : LinesSoFar) :
    ∃ count, (s.addAll lines).lineEnd = some '\n' ∧ (s.addAll lines).empties = newlines count := by
  refine LinesSoFar.exists_all_addAll _ fun empty => ?_
  have newline : c ∈ newlines count ++ Paragraphs.text lines := whole ▸ List.mem_append_left _ mem
  rw [empty, Paragraphs.text, List.flatMap_nil, List.append_nil] at newline
  rw [List.eq_of_mem_replicate newline] at inside
  cases inside

/-- Of what was read of a block the hints keep the text. -/
theorem text_addAll (nonempty : text ≠ []) (breaks : OnlyNewlines text)
    (whole : withLastLineEnded text = newlines count ++ lines.text) :
    (({ empties := newlines count } : LinesSoFar).addAll lines).text (chompingOf text) = text := by
  have all := LinesSoFar.all_addAll_whole whole
  have ended {c : Char} (mem : c ∈ text) (inside : isBreak c = false) :=
    LinesSoFar.exists_newlines_addAll whole mem inside { empties := newlines count }
  generalize ({ empties := newlines count } : LinesSoFar).addAll lines = s at all ended ⊢
  have member {c : Char} {more : List Char} (shape : text.reverse = more) (mem : c ∈ more) :
      c ∈ text := List.mem_reverse.1 (shape ▸ mem)
  rw [withLastLineEnded, ← List.head?_reverse] at all
  cases shape : text.reverse with
  | nil => exact absurd (List.reverse_eq_nil_iff.1 shape) nonempty
  | cons c more =>
    rw [shape, List.reverse_append, shape] at all
    have text_eq : text = (c :: more).reverse := by rw [← shape, List.reverse_reverse]
    cases inside : isBreak c with
    | false =>
      have strip : chompingOf text = .strip := by
        rw [chompingOf, shape]
        cases more with
        | nil => simp [inside]
        | cons d more => simp [inside]
      obtain ⟨count, lineEnd, empties⟩ := ended (member shape List.mem_cons_self) inside
      have acc : newlines count ++ '\n' :: s.acc = '\n' :: c :: more := by
        simpa [LinesSoFar.all, lineEnd, empties, inside] using all
      have other : c ≠ '\n' := fun same => by
        rw [same] at inside
        cases inside
      rw [strip, LinesSoFar.text, (newlines_append_inj acc other).2, text_eq]
      rfl
    | true =>
      have newline := breaks c (member shape List.mem_cons_self) inside
      have all : s.all = c :: more := by simpa [inside] using all
      have keep (chomping : chompingOf text = .keep) : s.text (chompingOf text) = text := by
        rw [chomping, LinesSoFar.text_keep, all, text_eq]
      cases more with
      | nil => exact keep (by simp [chompingOf, shape, inside])
      | cons d more =>
        cases further : isBreak d with
        | true => exact keep (by simp [chompingOf, shape, inside, further])
        | false =>
          have clip : chompingOf text = .clip := by simp [chompingOf, shape, inside, further]
          obtain ⟨count, lineEnd, empties⟩ :=
            ended (member shape (List.mem_cons_of_mem _ List.mem_cons_self)) further
          have acc : newlines count ++ '\n' :: s.acc = '\n' :: d :: more := by
            simpa [LinesSoFar.all, lineEnd, empties, newline] using all
          have other : d ≠ '\n' := fun same => by
            rw [same] at further
            cases further
          rw [clip, LinesSoFar.text, (newlines_append_inj acc other).2, lineEnd, text_eq, newline]
          rfl

end

theorem restOfLine?_newline (index line column : Nat) (rest : List Char) :
    restOfLine? (marksFrom index line column ('\n' :: rest)) =
      some (marksFrom (index + 1) (line + 1) 0 rest) := by
  rw [marksFrom_newline]
  rfl

section

variable {text next : List Char} {around column count : Nat} {lines : Paragraphs}

/-- The indentation is that of the hints, or shown by the first line. -/
theorem exists_skipIndentation_first (nonempty : text ≠ []) (shows : Shows next)
    (left : column ≤ around) (proper : lines.Proper) {more : List Char}
    (whole : text ++ more = newlines count ++ lines.text) (index line : Nat) :
    ∃ index' line' deepest, ((incrementOf text).map (around + ·)).getD
        (max (max deepest ((around : Int) + 1).toNat) 1) = around + 2 ∧
      skipIndentation ((incrementOf text).map (around + ·)) 0 []
          (marksFrom index line 0 (newlines count ++
            (lines.written (around + 2) ++ (spaces column ++ next)))) =
        some (newlines count, deepest,
          marksFrom index' line' (lines.front (around + 2) column next).1
            (lines.front (around + 2) column next).2) := by
  obtain ⟨c, text, rfl⟩ := List.exists_cons_of_ne_nil nonempty
  cases hint : incrementOf (c :: text) with
  | some two =>
    obtain rfl : 2 = two := by
      rw [incrementOf] at hint
      split at hint
      · exact Option.some.inj hint
      · cases hint
    obtain ⟨deepest, empties⟩ := exists_skipIndentation_newlines (some (around + 2)) 0 [] count
      index line (lines.written (around + 2) ++ (spaces column ++ next))
    have behind : column < around + 2 := by omega
    obtain ⟨deepest', further⟩ := exists_skipIndentation_written shows behind proper deepest
      (newlines count ++ []) (index + count) (line + count)
    refine ⟨index + count + (lines.front (around + 2) column next).1, line + count, deepest', rfl,
      ?_⟩
    rw [Option.map_some, empties, further, List.append_nil]
  | none =>
    have first : c ≠ ' ' ∧ isBreak c = false := by
      rw [incrementOf] at hint
      split at hint
      · cases hint
      · next plain => simpa using plain
    -- No newline comes first, so that a line does, and it starts as the text does.
    cases count with
    | succ count =>
      have newline : c = '\n' := (List.cons.inj whole).1
      rw [newline] at first
      cases first.2
    | zero =>
      cases lines with
      | nil => cases whole
      | cons firstLine lines =>
        obtain ⟨⟨filled, inside⟩, -⟩ := List.forall_mem_cons.1 proper
        obtain ⟨line', ends⟩ := firstLine
        obtain ⟨d, line', rfl⟩ := List.exists_cons_of_ne_nil filled
        obtain rfl : c = d := (List.cons.inj whole).1
        have shallow : Shallow none (0 + (around + 2)) := fun _ mem => by cases mem
        have depth : max (max (around + 2) ((around : Int) + 1).toNat) 1 = around + 2 := by omega
        refine ⟨index + (around + 2), line, around + 2, depth, ?_⟩
        rw [newlines, List.replicate_zero, List.nil_append, Paragraphs.written_append,
          Option.map_none, Paragraphs.front, skipIndentation_spaces 0 [] shallow, Nat.zero_add,
          List.cons_append, marksFrom_cons first.2]
        exact skipIndentation_of_ne 0 [] first.2
          (ne_of_isPrintable (inside c List.mem_cons_self).1).1 (.inl first.1) _

/-- A text is read back from a literal block, in text indented to a column, up to the next token. -/
theorem exists_takeByLines?_literal (nonempty : text ≠ [])
    (printable : ∀ c ∈ text, isPrintable c = true)
    (breaks : OnlyNewlines text) (shows : Shows next)
    (left : column ≤ around) (index line column' : Nat) :
    ∃ index' line', takeByLines? false around (marksFrom index line column'
        (literalHints text ++ '\n' :: (literalBody (around + 2) true text ++
          (lineStart (text.getLast?.any isBreak) column ++ next)))) =
      some (text, marksFrom index' line' column next) := by
  obtain ⟨count, lines, whole, proper⟩ := exists_newlines_lines (withLastLineEnded text)
    (fun c mem => (mem_withLastLineEnded mem).elim (printable c) fun same => same ▸ by decide)
    (fun c mem ends => (mem_withLastLineEnded mem).elim (fun inside => breaks c inside ends) id)
    (fun _ last => eq_newline_of_getLast?_withLastLineEnded breaks last)
  have body : literalBody (around + 2) true text ++
      (lineStart (text.getLast?.any isBreak) column ++ next) =
      newlines count ++ (lines.written (around + 2) ++ (spaces column ++ next)) := by
    rw [← List.append_assoc (newlines count), ← literalBody_newlines_text _ _ proper, ← whole,
      withLastLineEnded]
    cases text.getLast?.any isBreak with
    | true => rw [if_pos rfl, List.append_nil]; rfl
    | false =>
      rw [if_neg Bool.false_ne_true, literalBody_append_newline, List.append_assoc]
      rfl
  obtain ⟨index₁, line₁, deepest, indent, first⟩ := exists_skipIndentation_first nonempty shows
    left proper whole (index + (literalHints text).length + 1) (line + 1)
  have behind : column < around + 2 := by omega
  obtain ⟨index₂, line₂, rest⟩ := exists_takeLines_front shows behind proper
    (lines.length_le_marks (around + 2) column next index₁ line₁)
    { empties := newlines count } index₁ line₁
  refine ⟨index₂, line₂, ?_⟩
  have increment : incrementOf text ≠ some 0 := by
    rw [incrementOf]
    split <;> simp
  have depth : (max (around : Int) 0).toNat = around := by omega
  rw [body, takeByLines?, takeHeader_literalHints]
  simp only [increment, if_false, restOfLine?_newline, depth, Option.bind_eq_bind,
    Option.bind_some, first, indent, rest, Option.pure_def, text_addAll nonempty breaks whole]

end

end StateMetrics.Yaml
