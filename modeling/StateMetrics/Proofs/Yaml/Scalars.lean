import Mathlib.Algebra.Group.Nat.Hom
import Mathlib.Data.List.Basic
import StateMetrics.Proofs.Yaml.Marks
import StateMetrics.Yaml.Token.Scalar

/-!
# Scalars in a line are read back

A text written plain, in single or in double quotes stands in one line; what reads it stops right
behind it and gives the text again.
-/

namespace StateMetrics.Yaml

/-! ## Plain scalars -/

/-- The text may stand plain where a column lies in front of it: it starts no other token, ends with
a word and has no character in it that ends it. -/
structure StandsPlain (text : List Char) : Prop where
  inside : ∀ c ∈ text, isPrintable c = true ∧ isBreak c = false
  starts : ∃ c rest, text = c :: rest ∧ isSeparator c = false ∧ (c ∉ indicators ∨
    c ∈ ['-', '?', ':'] ∧ ∃ d more, rest = d :: more ∧ isSeparator d = false)
  lastSpace : text.getLast? ≠ some ' '
  lastColon : text.getLast? ≠ some ':'
  noColon : adjacent (· = ':') isSeparator text = false
  noComment : adjacent isSeparator (· = '#') text = false

theorem adjacent_eq_false_of_left {p q : Char → Bool} {text : List Char}
    (never : ∀ c ∈ text, p c = false) : adjacent p q text = false := by
  induction text with
  | nil => rfl
  | cons a text ih =>
    cases text with
    | nil => rfl
    | cons b text =>
      rw [adjacent, never a List.mem_cons_self, Bool.false_and, Bool.false_or]
      exact ih fun c mem => never c (List.mem_cons_of_mem _ mem)

theorem adjacent_eq_false_of_right {p q : Char → Bool} {text : List Char}
    (never : ∀ c ∈ text, q c = false) : adjacent p q text = false := by
  induction text with
  | nil => rfl
  | cons a text ih =>
    cases text with
    | nil => rfl
    | cons b text =>
      rw [adjacent, never b (List.mem_cons_of_mem _ List.mem_cons_self), Bool.and_false,
        Bool.false_or]
      exact ih fun c mem => never c (List.mem_cons_of_mem _ mem)

/-- A character of a word: a small letter, a digit, a sign or a point. -/
def isWord (c : Char) : Bool :=
  c.isDigit || ('a'.toNat ≤ c.toNat && c.toNat ≤ 'z'.toNat) || ['+', '-', '.'].contains c

theorem isWord_spec {c : Char} (word : isWord c = true) :
    isPrintable c = true ∧ isBreak c = false ∧ isSeparator c = false ∧ c ≠ ' ' ∧ c ≠ ':' ∧
      c ≠ '#' ∧ (c = '-' ∨ c ∉ indicators) := by
  have ascii : ∀ n < 128, isWord (Char.ofNat n) = true →
      isPrintable (Char.ofNat n) = true ∧ isBreak (Char.ofNat n) = false ∧
        isSeparator (Char.ofNat n) = false ∧ Char.ofNat n ≠ ' ' ∧ Char.ofNat n ≠ ':' ∧
        Char.ofNat n ≠ '#' ∧ (Char.ofNat n = '-' ∨ Char.ofNat n ∉ indicators) := by
    decide +kernel
  have small : c.toNat < 128 := by
    simp only [isWord, Char.isDigit, Bool.or_eq_true, Bool.and_eq_true, decide_eq_true_eq,
      List.contains_cons, List.contains_nil, beq_iff_eq, Bool.or_false] at word
    rcases word with (⟨-, high⟩ | ⟨-, high⟩) | rfl | rfl | rfl
    · exact Nat.lt_of_le_of_lt (UInt32.le_iff_toNat_le.1 high) (by decide)
    · exact Nat.lt_of_le_of_lt high (by decide)
    · decide
    · decide
    · decide
  have spec := ascii c.toNat small
  rw [Char.ofNat_toNat] at spec
  exact spec word

/-- A word may stand plain if there is more than dashes in it. -/
theorem StandsPlain.of_isWord {text : List Char} (word : ∀ c ∈ text, isWord c = true)
    (more : ∃ c ∈ text, c ≠ '-') : StandsPlain text := by
  have spec := fun c mem => isWord_spec (word c mem)
  have last : ∀ c, isWord c = false → text.getLast? ≠ some c := fun c other same => by
    rw [word c (List.mem_of_getLast? same)] at other
    cases other
  obtain ⟨d, inside, other⟩ := more
  obtain ⟨c, rest, rfl⟩ := List.exists_cons_of_ne_nil (List.ne_nil_of_mem inside)
  obtain ⟨-, -, separates, -, -, -, starts⟩ := spec c List.mem_cons_self
  refine ⟨fun c mem => ⟨(spec c mem).1, (spec c mem).2.1⟩, ⟨c, rest, rfl, separates, ?_⟩,
    last ' ' (by decide), last ':' (by decide),
    adjacent_eq_false_of_left fun c mem => decide_eq_false (spec c mem).2.2.2.2.1,
    adjacent_eq_false_of_right fun c mem => decide_eq_false (spec c mem).2.2.2.2.2.1⟩
  rcases starts with rfl | free
  · right
    refine ⟨by decide, ?_⟩
    cases rest with
    | nil => exact absurd (List.mem_singleton.1 inside) other
    | cons e rest =>
      exact ⟨e, rest, rfl, (spec e (List.mem_cons_of_mem _ List.mem_cons_self)).2.2.1⟩
  · exact .inl free

/-- A word of more than dashes may stand plain. -/
theorem StandsPlain.of_all {text : List Char} (word : text.all isWord = true)
    (more : text.any (· ≠ '-') = true) : StandsPlain text :=
  .of_isWord (List.all_eq_true.1 word) (by simpa using more)

/-- The texts that are written plain may stand plain. -/
theorem StandsPlain.of_admitsPlain {text : List Char} (nonempty : text ≠ [])
    (admits : admitsPlain text = true) : StandsPlain text := by
  simp only [admitsPlain, hasUnprintable, hasIndicator, Bool.not_eq_true', Bool.or_eq_false_iff,
    List.any_eq_false, decide_eq_false_iff_not] at admits
  obtain ⟨⟨⟨⟨breaks, printable⟩, firstSpace⟩, lastSpace⟩, ⟨⟨-, start⟩, noColon, lastColon⟩,
    noComment⟩ := admits
  have inside : ∀ c ∈ text, isPrintable c = true ∧ isBreak c = false := fun c mem =>
    ⟨by simpa using printable c mem, by simpa using breaks c mem⟩
  refine ⟨inside, ?_, lastSpace, lastColon, noColon, noComment⟩
  obtain ⟨c, rest, rfl⟩ := List.exists_cons_of_ne_nil nonempty
  have separates : isSeparator c = false := by
    obtain ⟨isPrintable, free⟩ := inside c List.mem_cons_self
    obtain ⟨noTab, noEnd, -⟩ := ne_of_isPrintable isPrintable
    have noSpace : c ≠ ' ' := fun same => firstSpace (congrArg some same)
    have noNull : c.toNat ≠ 0 := fun same => noEnd (Char.toNat_inj.1 same)
    simp [isSeparator, noSpace, noTab, noNull, free]
  refine ⟨c, rest, rfl, separates, ?_⟩
  simp only [Bool.or_eq_false_iff, Bool.and_eq_false_iff, decide_eq_false_iff_not] at start
  obtain ⟨reserved, marker⟩ := start
  have free : c ∉ reservedStarts := by simpa using reserved
  have rest_of (others : rest ≠ [] ∧ rest.head?.any isSeparator = false) :
      ∃ d more, rest = d :: more ∧ isSeparator d = false := by
    obtain ⟨d, more, rfl⟩ := List.exists_cons_of_ne_nil others.1
    exact ⟨d, more, rfl, by simpa using others.2⟩
  by_cases special : c ∈ ['-', '?', ':']
  · refine .inr ⟨special, ?_⟩
    by_cases colon : c = ':'
    · cases rest with
      | nil => exact absurd (by rw [colon]; rfl) lastColon
      | cons d rest =>
        rw [colon, adjacent] at noColon
        exact ⟨d, rest, rfl, by simpa using (Bool.or_eq_false_iff.1 noColon).1⟩
    · have either : c = '?' ∨ c = '-' := by
        simp only [List.mem_cons, List.not_mem_nil, or_false] at special
        tauto
      rcases marker with ⟨noQuestion, noDash⟩ | others
      · rcases either with same | same
        · exact absurd same noQuestion
        · exact absurd same noDash
      · exact rest_of ⟨others.1, others.2⟩
  · left
    have all : indicators.all (fun d => d ∈ reservedStarts ++ ['-', '?', ':']) = true := by decide
    intro mem
    have either : c ∈ reservedStarts ∨ c ∈ ['-', '?', ':'] := by
      simpa using List.all_eq_true.1 all c mem
    exact either.elim free special

/-- A plain scalar is no filler. -/
theorem StandsPlain.shows {text : List Char} (stands : StandsPlain text) (rest : List Char) :
    Shows (text ++ rest) := by
  obtain ⟨c, more, rfl, separates, starts⟩ := stands.starts
  obtain ⟨printable, inside⟩ := stands.inside c List.mem_cons_self
  obtain ⟨noTab, -, noMark⟩ := ne_of_isPrintable printable
  have noSpace : c ≠ ' ' := fun same => by
    rw [same] at separates
    cases separates
  have noComment : c ≠ '#' := fun same => by
    rw [same] at starts
    exact absurd starts (by simp [indicators])
  exact .cons inside (by simp [isBlank, noSpace, noTab]) noComment noMark _

/-- A character at a column starts no marker of a document's start or end. -/
def Unmarked (column : Nat) (c : Char) : Prop := 0 < column ∨ c ≠ '-' ∧ c ≠ '.'

theorem Unmarked.startsWithThree {c : Char} {column : Nat} (unmarked : Unmarked column c) {d : Char}
    (marker : d = '-' ∨ d = '.') (index line : Nat) (rest : List Mark) :
    startsWithThree d (⟨c, index, line, column⟩ :: rest) = false := by
  refine startsWithThree_eq_false _ _ _ (unmarked.imp Nat.ne_of_gt fun others => .inl ?_)
  rcases marker with rfl | rfl
  · exact others.1
  · exact others.2

/-- The gap in front of the next word is none, or blanks in front of what is no comment and stands
far enough to the right. -/
def Gap.Continues (gap : Gap) (indent : Int) (column : Nat) (first : Char) : Prop :=
  gap.crossesLine = false ∧ (gap ≠ .nothing → first ≠ '#' ∧ indent ≤ column)

theorem Gap.Continues.addBlank {gap : Gap} {indent : Int} {column : Nat} {first : Char}
    (continues : gap.Continues indent column first) :
    (gap.addBlank ' ').crossesLine = false ∧
      (gap.addBlank ' ').reversedText = ' ' :: gap.reversedText := by
  cases gap with
  | nothing => exact ⟨rfl, rfl⟩
  | blanks => exact ⟨rfl, rfl⟩
  | lines => cases continues.1

/-- A blank in a plain scalar is kept in the gap until something stands behind it. -/
theorem plainRest_blank {indent : Int} {acc : List Char} {gap : Gap}
    (index line column : Nat) (text : List Char) :
    plainRest false indent acc gap (marksFrom index line column (' ' :: text)) =
      plainRest false indent acc (gap.addBlank ' ')
        (marksFrom (index + 1) line (column + 1) text) := by
  rw [marksFrom_cons (by decide), plainRest]
  rfl

/-- A character in a plain scalar is read with the gap in front of it. -/
theorem plainRest_cons {indent : Int} {acc : List Char} {gap : Gap} {c : Char}
    {column : Nat} {text : List Char} (printable : isPrintable c = true)
    (inside : isBreak c = false) (noSpace : c ≠ ' ') (unmarked : Unmarked column c)
    (continues : gap.Continues indent column c) (index line : Nat)
    (noEnd : endsPlain false c (headChar (marksFrom (index + 1) line (column + 1) text)) = false) :
    plainRest false indent acc gap (marksFrom index line column (c :: text)) =
      plainRest false indent (c :: (gap.reversedText ++ acc)) .nothing
        (marksFrom (index + 1) line (column + 1) text) := by
  obtain ⟨noTab, noNull, -⟩ := ne_of_isPrintable printable
  have visible : isBlank c = false := by simp [isBlank, noSpace, noTab]
  have stays : ¬ (gap ≠ .nothing ∧ (c = '#' ∨ (column : Int) < indent)) := by
    rintro ⟨parted, hash | left⟩
    · exact (continues.2 parted).1 hash
    · exact absurd (continues.2 parted).2 (Int.not_le.2 left)
  rw [marksFrom_cons inside, plainRest]
  simp only [visible, inside, noNull, atMarker, unmarked.startsWithThree (.inl rfl),
    unmarked.startsWithThree (.inr rfl), noEnd, spoilsPlain, Bool.false_eq_true,
    if_false, Bool.or_false, Bool.not_false, Bool.true_and, Bool.false_and, decide_false,
    Bool.false_or]
  rw [if_neg (by simpa using stays)]

/-- A text that may stand plain is read up to its last character. -/
theorem plainRest_append {indent : Int} {text : List Char}
    (inside : ∀ c ∈ text, isPrintable c = true ∧ isBreak c = false)
    (lastSpace : text.getLast? ≠ some ' ') (lastColon : text.getLast? ≠ some ':')
    (noColon : adjacent (· = ':') isSeparator text = false)
    (noComment : adjacent isSeparator (· = '#') text = false) (nonempty : text ≠ [])
    {column : Nat} (unmarked : ∀ c ∈ text.head?, Unmarked column c) (right : indent ≤ column + 1)
    (acc : List Char) {gap : Gap} (continues : ∀ c ∈ text.head?, gap.Continues indent column c)
    (index line : Nat) (rest : List Char) :
    plainRest false indent acc gap (marksFrom index line column (text ++ rest)) =
      plainRest false indent (text.reverse ++ (gap.reversedText ++ acc)) .nothing
        (marksFrom (index + text.length) line (column + text.length) rest) := by
  induction text generalizing acc gap index column with
  | nil => exact absurd rfl nonempty
  | cons c text ih =>
    obtain ⟨printable, free⟩ := inside c List.mem_cons_self
    have first := continues c rfl
    have starts := unmarked c rfl
    cases text with
    | nil =>
      have noSpace : c ≠ ' ' := fun same => lastSpace (congrArg some same)
      have other : c ≠ ':' := fun same => lastColon (congrArg some same)
      rw [List.cons_append, plainRest_cons printable free noSpace starts first _ _
        (by simp [endsPlain, other])]
      rfl
    | cons d text =>
      have freeTail : ∀ e ∈ d :: text, isPrintable e = true ∧ isBreak e = false :=
        fun e mem => inside e (List.mem_cons_of_mem _ mem)
      rw [List.getLast?_cons_cons] at lastSpace lastColon
      rw [adjacent, Bool.or_eq_false_iff] at noColon noComment
      have further (acc : List Char) {gap : Gap}
          (continues : gap.Continues indent (column + 1) d) :=
        ih freeTail lastSpace lastColon noColon.2 noComment.2 (List.cons_ne_nil d text)
          (fun _ _ => .inl (Nat.succ_pos column)) (by omega) acc
          (fun _ mem => Option.some.inj mem ▸ continues) (index + 1)
      have lengths : (c :: d :: text).length = 1 + (d :: text).length := Nat.add_comm _ 1
      rw [lengths, ← Nat.add_assoc, ← Nat.add_assoc, List.reverse_cons, List.append_assoc,
        List.singleton_append, List.cons_append]
      by_cases space : c = ' '
      · have noHash : d ≠ '#' := by
          have separates : isSeparator c = true := by rw [space]; decide
          simpa [separates] using noComment.1
        obtain ⟨inLine, text'⟩ := first.addBlank
        rw [space, plainRest_blank, further acc ⟨inLine, fun _ => ⟨noHash, by omega⟩⟩, text',
          List.cons_append]
      · have noEnd : endsPlain false c
            (headChar (marksFrom (index + 1) line (column + 1) (d :: text ++ rest))) = false := by
          rw [List.cons_append, headChar_marksFrom_cons (freeTail d List.mem_cons_self).2,
            endsPlain, noColon.1]
          rfl
        rw [plainRest_cons printable free space starts first _ _ noEnd,
          further (c :: (gap.reversedText ++ acc)) ⟨rfl, fun never => absurd rfl never⟩,
          Gap.reversedText, List.nil_append]

/-- A name ends in front of its colon. -/
theorem plainRest_colon {indent : Int} (acc : List Char) {index line column : Nat}
    {rest : List Char}
    (separates : isSeparator (headChar (marksFrom (index + 1) line (column + 1) rest)) = true) :
    plainRest false indent acc .nothing (marksFrom index line column (':' :: rest)) =
      some (acc.reverse, false, marksFrom index line column (':' :: rest)) := by
  rw [marksFrom_cons (by decide), plainRest]
  simp only [spoilsPlain, endsPlain, separates]
  rfl

theorem plainRest_spaces {indent : Int} (acc : List Char) (count index line column : Nat)
    (text : List Char) :
    plainRest false indent acc (.lines (some '\n') [])
        (marksFrom index line column (spaces count ++ text)) =
      plainRest false indent acc (.lines (some '\n') [])
        (marksFrom (index + count) line (column + count) text) := by
  induction count generalizing index column with
  | zero => rfl
  | succ count ih =>
    rw [spaces_succ, List.cons_append, plainRest_blank, Gap.addBlank, ih,
      Nat.add_right_comm index 1, Nat.add_right_comm column 1]
    rfl

/-- A plain scalar ends in front of text further to the left. -/
theorem plainRest_lineStart {indent : Int} (acc : List Char) {next : List Char}
    (shows : Shows next) {column' : Nat} (left : (column' : Int) < indent)
    (index line column : Nat) :
    plainRest false indent acc .nothing
        (marksFrom index line column (lineStart false column' ++ next)) =
      some (acc.reverse, true, marksFrom (index + 1 + column') (line + 1) column' next) := by
  obtain ⟨m, rest, marks, -, same, -, inside, visible, -⟩ :=
    shows.exists_marks (index + 1 + column') (line + 1) column'
  have newline : isBlank '\n' = false ∧ isBreak '\n' = true := by decide
  rw [lineStart, if_neg Bool.false_ne_true, List.cons_append, marksFrom_newline, plainRest]
  simp only [newline.1, newline.2, Bool.false_eq_true, if_false, if_true, Gap.addBreak]
  rw [plainRest_spaces, Nat.zero_add, marks, plainRest]
  simp [visible, inside, Gap.crossesLine, same, left]

/-- A plain name is read up to its colon. -/
theorem StandsPlain.plainRest_name {text : List Char} (stands : StandsPlain text) {indent : Int}
    {column : Nat} (unmarked : ∀ c ∈ text.head?, Unmarked column c) (right : indent ≤ column + 1)
    (index line : Nat) {rest : List Char} (separates : ∀ index column,
      isSeparator (headChar (marksFrom index line column rest)) = true) :
    plainRest false indent [] .nothing (marksFrom index line column (text ++ ':' :: rest)) =
      some (text, false,
        marksFrom (index + text.length) line (column + text.length) (':' :: rest)) := by
  obtain ⟨c, more, rfl, -⟩ := stands.starts
  rw [plainRest_append stands.inside stands.lastSpace stands.lastColon stands.noColon
      stands.noComment (List.cons_ne_nil c more) unmarked right []
      (fun _ _ => ⟨rfl, fun never => absurd rfl never⟩),
    plainRest_colon _ (separates _ _), Gap.reversedText, List.append_nil, List.append_nil,
    List.reverse_reverse]

/-- A plain value is read up to the next token. -/
theorem StandsPlain.plainRest_value {text : List Char} (stands : StandsPlain text) {indent : Int}
    {column : Nat} (unmarked : ∀ c ∈ text.head?, Unmarked column c) (right : indent ≤ column + 1)
    {next : List Char} (shows : Shows next) {column' : Nat} (left : (column' : Int) < indent)
    (index line : Nat) :
    ∃ index', plainRest false indent [] .nothing
        (marksFrom index line column (text ++ (lineStart false column' ++ next))) =
      some (text, true, marksFrom index' (line + 1) column' next) := by
  obtain ⟨c, more, rfl, -⟩ := stands.starts
  refine ⟨index + (c :: more).length + 1 + column', ?_⟩
  rw [plainRest_append stands.inside stands.lastSpace stands.lastColon stands.noColon
      stands.noComment (List.cons_ne_nil c more) unmarked right []
      (fun _ _ => ⟨rfl, fun never => absurd rfl never⟩),
    plainRest_lineStart _ shows left, Gap.reversedText, List.append_nil, List.append_nil,
    List.reverse_reverse]

/-! ## Quoted scalars -/

/-- A character inside single quotes. -/
def singleQuotedChar (c : Char) : List Char := if c = '\'' then ['\'', '\''] else [c]

theorem singleQuotedBody_eq {text : List Char} (inside : ∀ c ∈ text, isBreak c = false)
    (indent : Nat) : singleQuotedBody indent false text = text.flatMap singleQuotedChar := by
  induction text with
  | nil => rfl
  | cons c text ih =>
    rw [singleQuotedBody, inside c List.mem_cons_self,
      ih fun c mem => inside c (List.mem_cons_of_mem _ mem), List.flatMap_cons, singleQuotedChar]
    by_cases quote : c = '\''
    · rw [quote]
      rfl
    · by_cases space : c = ' '
      · rw [space]
        rfl
      · simp [space, quote]

/-- What was read comes to stand in front of what follows it: the characters, the last first, of
the text so far and the gap behind it. -/
def Gap.onto (gap : Gap) (acc : List Char) : List Char := gap.reversedText ++ acc

theorem quotedRest_blank {double : Bool} {acc : List Char} {gap : Gap}
    (index line column : Nat) (text : List Char) :
    quotedRest double acc gap (marksFrom index line column (' ' :: text)) =
      quotedRest double acc (gap.addBlank ' ')
        (marksFrom (index + 1) line (column + 1) text) := by
  rw [marksFrom_cons (by decide), quotedRest]
  rfl

/-- A character between quotes that is neither a quote nor a backslash stands for itself. -/
theorem quotedRest_cons {double : Bool} {acc : List Char} {gap : Gap} {c : Char}
    (printable : isPrintable c = true) (inside : isBreak c = false) (noSpace : c ≠ ' ')
    (single : c = '\'' → double = true) (quote : c = '"' → double = false)
    (backslash : c = '\\' → double = false) (inLine : gap.crossesLine = false)
    (index line column : Nat) (text : List Char) :
    quotedRest double acc gap (marksFrom index line column (c :: text)) =
      quotedRest double (c :: gap.onto acc) .nothing
        (marksFrom (index + 1) line (column + 1) text) := by
  obtain ⟨noTab, noNull, -⟩ := ne_of_isPrintable printable
  have visible : isBlank c = false := by simp [isBlank, noSpace, noTab]
  have noSingle : ¬ (c = '\'' ∧ double = false) := fun both => by
    rw [single both.1] at both
    cases both.2
  have noQuote : ¬ (c = '"' ∧ double = true) := fun both => by
    rw [quote both.1] at both
    cases both.2
  have noBackslash : ¬ (c = '\\' ∧ double = true) := fun both => by
    rw [backslash both.1] at both
    cases both.2
  rw [marksFrom_cons inside, quotedRest]
  simp [visible, inside, noNull, inLine, noSingle, noQuote, noBackslash, Gap.onto]

/-! ### Escapes -/

theorem upperHexDigit_mod (n : Nat) : upperHexDigit (n % 16) = upperHexDigit n := by
  rw [upperHexDigit, upperHexDigit, Nat.mod_mod]

theorem hexValue?_upperHexDigit (n : Nat) : hexValue? (upperHexDigit n) = some (n % 16) := by
  have digits : ∀ d < 16, hexValue? (upperHexDigit d) = some d := by decide
  rw [← upperHexDigit_mod, digits _ (Nat.mod_lt n (by decide))]

/-- Hexadecimal digits are read as the number they are written for, up to their width. -/
theorem hexNumber?_hexDigits (width n : Nat) :
    hexNumber? (hexDigits width n) = some (n % 16 ^ width) := by
  rw [hexNumber?]
  induction width generalizing n with
  | zero => simp [hexDigits, Nat.mod_one]
  | succ width ih =>
    have parts : n % 16 ^ (width + 1) = 16 * (n / 16 % 16 ^ width) + n % 16 := by
      rw [Nat.pow_succ, Nat.mul_comm, Nat.mod_mul, Nat.add_comm]
    rw [hexDigits, List.foldlM_append, ih, Option.bind_eq_bind, Option.bind_some,
      List.foldlM_cons, hexValue?_upperHexDigit, parts]
    rfl

theorem length_hexDigits (width n : Nat) : (hexDigits width n).length = width := by
  induction width generalizing n with
  | zero => rfl
  | succ width ih => rw [hexDigits, List.length_append, ih, List.length_singleton]

theorem upperHexDigit_spec (n : Nat) :
    isPrintable (upperHexDigit n) = true ∧ isBreak (upperHexDigit n) = false := by
  have digits : ∀ d < 16, isPrintable (upperHexDigit d) = true ∧
      isBreak (upperHexDigit d) = false := by decide
  rw [← upperHexDigit_mod]
  exact digits _ (Nat.mod_lt n (by decide))

theorem hexDigits_spec {width n : Nat} {c : Char} (mem : c ∈ hexDigits width n) :
    isPrintable c = true ∧ isBreak c = false := by
  induction width generalizing n with
  | zero => cases mem
  | succ width ih =>
    rw [hexDigits, List.mem_append, List.mem_singleton] at mem
    rcases mem with further | rfl
    · exact ih further
    · exact upperHexDigit_spec n

/-- An escape by number gives the character of that number. -/
theorem takeEscape?_hexDigits {letter c : Char} {width : Nat}
    (width? : escapeWidth? letter = some width) (plain : isBreak letter = false)
    (fits : c.toNat < 16 ^ width) (index line column : Nat) (rest : List Char) :
    takeEscape? (marksFrom index line column (letter :: (hexDigits width c.toNat ++ rest))) =
      some (c, marksFrom (index + 1 + width) line (column + 1 + width) rest) := by
  have free : ∀ d ∈ hexDigits width c.toNat, isBreak d = false := fun _ mem =>
    (hexDigits_spec mem).2
  have length : (lineMarks (index + 1) line (column + 1) (hexDigits width c.toNat)).length =
      width := by
    rw [length_lineMarks, length_hexDigits]
  have valid : c.toNat.isValidChar := c.valid
  have number : character? c.toNat = some c := by
    rw [character?, if_pos valid, Char.ofNat_toNat]
  rw [marksFrom_cons plain, marksFrom_append free, length_hexDigits, takeEscape?]
  simp only [width?]
  rw [if_neg (by rw [List.length_append, length]; omega), List.take_left' length,
    List.drop_left' length, map_char_lineMarks, hexNumber?_hexDigits, Nat.mod_eq_of_lt fits]
  simp [number]

/-- A short escape gives its character. -/
theorem takeEscape?_short {c e : Char} (short : shortEscape? c.toNat = some e)
    (index line column : Nat) (rest : List Char) :
    isPrintable e = true ∧ isBreak e = false ∧
      takeEscape? (marksFrom index line column (e :: rest)) =
        some (c, marksFrom (index + 1) line (column + 1) rest) := by
  have all : ∀ pair ∈ [(0x00, '0'), (0x07, 'a'), (0x08, 'b'), (0x09, 't'), (0x0A, 'n'),
      (0x0B, 'v'), (0x0C, 'f'), (0x0D, 'r'), (0x1B, 'e'), (0x22, '"'), (0x5C, '\\'),
      (0x85, 'N'), (0xA0, '_'), (0x2028, 'L'), (0x2029, 'P')],
      isPrintable pair.2 = true ∧ isBreak pair.2 = false ∧ escapeWidth? pair.2 = none ∧
        escaped? pair.2 = some (Char.ofNat pair.1) := by
    decide
  obtain ⟨before, after, whole, -⟩ := List.lookup_eq_some_iff.1 short
  obtain ⟨printable, inside, width?, value⟩ :=
    all (c.toNat, e) (whole ▸ List.mem_append_right before List.mem_cons_self)
  refine ⟨printable, inside, ?_⟩
  rw [marksFrom_cons inside, takeEscape?]
  simp only [width?, value, Char.ofNat_toNat, Option.map_some]

/-- What is written behind a backslash to give a character. -/
structure Escapes (written : List Char) (c : Char) : Prop where
  inside : ∀ d ∈ written, isPrintable d = true ∧ isBreak d = false
  nonempty : written ≠ []
  short : written.length + 1 ≤ 4 * c.utf8Size
  taken : ∀ index line column rest,
    takeEscape? (marksFrom index line column (written ++ rest)) =
      some (c, marksFrom (index + written.length) line (column + written.length) rest)

/-- A letter behind a backslash gives the character that it is short for. -/
theorem Escapes.of_shortEscape? {c e : Char} (short : shortEscape? c.toNat = some e) :
    Escapes [e] c := by
  obtain ⟨printable, inside, -⟩ := takeEscape?_short short 0 0 0 []
  refine ⟨?_, List.cons_ne_nil e [], ?_, ?_⟩
  · intro d mem
    rw [List.mem_singleton.1 mem]
    exact ⟨printable, inside⟩
  · have positive := c.utf8Size_pos
    rw [List.length_singleton]
    omega
  · intro index line column rest
    exact (takeEscape?_short short index line column rest).2.2

/-- A letter and as many digits as it calls for give the character of that number. -/
theorem Escapes.of_hexDigits {letter c : Char} {width : Nat}
    (width? : escapeWidth? letter = some width) (printable : isPrintable letter = true)
    (plain : isBreak letter = false) (fits : c.toNat < 16 ^ width)
    (short : width + 2 ≤ 4 * c.utf8Size) : Escapes (letter :: hexDigits width c.toNat) c := by
  refine ⟨?_, List.cons_ne_nil _ _, ?_, ?_⟩
  · intro d mem
    rcases List.mem_cons.1 mem with rfl | digit
    · exact ⟨printable, plain⟩
    · exact hexDigits_spec digit
  · rw [List.length_cons, length_hexDigits]
    exact short
  · intro index line column rest
    rw [List.cons_append, takeEscape?_hexDigits width? plain fits, List.length_cons,
      length_hexDigits, Nat.add_right_comm index, Nat.add_right_comm column]
    rfl

theorem two_le_utf8Size {c : Char} (large : 127 < c.toNat) : 2 ≤ c.utf8Size := by
  have beyond : ¬ c.val ≤ UInt32.ofNatLT 127 (by decide) := by
    rw [UInt32.le_iff_toNat_le, UInt32.toNat_ofNatLT]
    exact Nat.not_le.2 large
  rw [Char.utf8Size, if_neg beyond]
  repeat' split
  all_goals decide

theorem utf8Size_eq_four {c : Char} (large : 65535 < c.toNat) : c.utf8Size = 4 := by
  have beyond (n : Nat) (fits : n < UInt32.size) (small : n ≤ 65535) :
      ¬ c.val ≤ UInt32.ofNatLT n fits := by
    rw [UInt32.le_iff_toNat_le, UInt32.toNat_ofNatLT]
    exact Nat.not_le.2 (Nat.lt_of_le_of_lt small large)
  rw [Char.utf8Size, if_neg (beyond 127 (by decide) (by decide)),
    if_neg (beyond 2047 (by decide) (by decide)), if_neg (beyond 65535 (by decide) (by decide))]

/-- A character inside double quotes stands for itself, or a backslash and more give it. -/
theorem doubleQuotedChar_cases (c : Char) :
    (doubleQuotedChar c = [c] ∧ isPrintable c = true ∧ isBreak c = false ∧ c ≠ '"' ∧ c ≠ '\\') ∨
      ∃ written, doubleQuotedChar c = '\\' :: written ∧ Escapes written c := by
  rw [doubleQuotedChar]
  split
  · next itself =>
    left
    simpa [and_assoc] using itself
  · right
    split
    · next e short => exact ⟨[e], rfl, .of_shortEscape? short⟩
    · have positive := c.utf8Size_pos
      split
      · next small =>
        exact ⟨_, rfl, .of_hexDigits rfl (by decide) (by decide) (by omega) (by omega)⟩
      · split
        · next large small =>
          have size := two_le_utf8Size (c := c) (by omega)
          exact ⟨_, rfl, .of_hexDigits rfl (by decide) (by decide) (by omega) (by omega)⟩
        · next large =>
          have size := utf8Size_eq_four (c := c) (by omega)
          have fits : c.toNat < 16 ^ 8 := c.val.toNat_lt
          exact ⟨_, rfl, .of_hexDigits rfl (by decide) (by decide) fits (by omega)⟩

theorem doubleQuotedChar_spec {c d : Char} (mem : d ∈ doubleQuotedChar c) :
    isPrintable d = true ∧ isBreak d = false := by
  rcases doubleQuotedChar_cases c with ⟨same, printable, inside, -⟩ | ⟨written, same, escapes⟩
  · rw [same, List.mem_singleton] at mem
    exact mem ▸ ⟨printable, inside⟩
  · rw [same] at mem
    rcases List.mem_cons.1 mem with rfl | further
    · decide
    · exact escapes.inside d further

/-! ### Quoted texts -/

theorem Gap.onto_addBlank {gap : Gap} (inLine : gap.crossesLine = false) (acc : List Char) :
    (gap.addBlank ' ').crossesLine = false ∧ (gap.addBlank ' ').onto acc = ' ' :: gap.onto acc := by
  cases gap with
  | nothing => exact ⟨rfl, rfl⟩
  | blanks => exact ⟨rfl, rfl⟩
  | lines => cases inLine

/-- Two single quotes between single quotes are read as one. -/
theorem quotedRest_twoQuotes {acc : List Char} {gap : Gap} (inLine : gap.crossesLine = false)
    (index line column : Nat) (text : List Char) :
    quotedRest false acc gap (marksFrom index line column ('\'' :: '\'' :: text)) =
      quotedRest false ('\'' :: gap.onto acc) .nothing
        (marksFrom (index + 2) line (column + 2) text) := by
  have quote : isBlank '\'' = false ∧ isBreak '\'' = false ∧ '\'' ≠ endChar := by decide
  rw [marksFrom_cons quote.2.1, marksFrom_cons quote.2.1, quotedRest]
  simp [quote, inLine, Gap.onto]

/-- What is written behind a backslash is read as its character. -/
theorem quotedRest_escape {acc written : List Char} {gap : Gap} {c : Char}
    (escapes : Escapes written c) (inLine : gap.crossesLine = false) (index line column : Nat)
    (text : List Char) :
    quotedRest true acc gap (marksFrom index line column ('\\' :: (written ++ text))) =
      quotedRest true (c :: gap.onto acc) .nothing
        (marksFrom (index + 1 + written.length) line (column + 1 + written.length) text) := by
  have backslash : isBlank '\\' = false ∧ isBreak '\\' = false ∧ '\\' ≠ endChar := by decide
  have first : isBreak (headChar (marksFrom (index + 1) line (column + 1) (written ++ text))) =
      false := by
    obtain ⟨d, more, rfl⟩ := List.exists_cons_of_ne_nil escapes.nonempty
    have inside := (escapes.inside d List.mem_cons_self).2
    rw [List.cons_append, headChar_marksFrom_cons inside, inside]
  rw [marksFrom_cons backslash.2.1, quotedRest]
  simp only [backslash, inLine, first, Gap.onto, Bool.false_eq_true, Bool.false_and, if_false,
    if_true, decide_true, decide_false, Bool.and_true, Char.reduceEq]
  split
  · next unescaped =>
    rw [escapes.taken] at unescaped
    cases unescaped
  · next d after taken =>
    rw [escapes.taken] at taken
    cases taken
    rfl

/-- The quote around a text. -/
def quote (double : Bool) : Char := if double then '"' else '\''

/-- The quote that none follows closes the scalar. -/
theorem quotedRest_close (double : Bool) {acc : List Char} {gap : Gap}
    (inLine : gap.crossesLine = false) (index line column : Nat) {text : List Char}
    (further : headChar (marksFrom (index + 1) line (column + 1) text) ≠ '\'') :
    quotedRest double acc gap (marksFrom index line column (quote double :: text)) =
      some ((gap.onto acc).reverse, marksFrom (index + 1) line (column + 1) text) := by
  cases double with
  | true =>
    have facts : isBlank '"' = false ∧ isBreak '"' = false ∧ '"' ≠ endChar := by decide
    rw [quote, if_pos rfl, marksFrom_cons facts.2.1, quotedRest]
    simp [facts, inLine, Gap.onto]
  | false =>
    have facts : isBlank '\'' = false ∧ isBreak '\'' = false ∧ '\'' ≠ endChar := by decide
    rw [quote, if_neg Bool.false_ne_true, marksFrom_cons facts.2.1, quotedRest]
    cases marks : marksFrom (index + 1) line (column + 1) text with
    | nil => simp [facts, inLine, Gap.onto]
    | cons m rest =>
      rw [marks] at further
      have other : m.char ≠ '\'' := further
      simp [facts, inLine, Gap.onto, other]

/-- A character inside quotes. -/
def quotedChar (double : Bool) (c : Char) : List Char :=
  if double then doubleQuotedChar c else singleQuotedChar c

/-- What is written for a character inside quotes gives that character. -/
theorem exists_quotedRest_char {double : Bool} {c : Char}
    (plain : double = false → isPrintable c = true ∧ isBreak c = false) (acc : List Char)
    {gap : Gap} (inLine : gap.crossesLine = false) (index line column : Nat) (rest : List Char) :
    ∃ acc' gap', gap'.crossesLine = false ∧ gap'.onto acc' = c :: gap.onto acc ∧
      quotedRest double acc gap (marksFrom index line column (quotedChar double c ++ rest)) =
        quotedRest double acc' gap' (marksFrom (index + (quotedChar double c).length) line
          (column + (quotedChar double c).length) rest) := by
  have itself (same : quotedChar double c = [c]) (printable : isPrintable c = true)
      (inside : isBreak c = false) (single : c = '\'' → double = true)
      (quote : c = '"' → double = false) (backslash : c = '\\' → double = false) :
      ∃ acc' gap', gap'.crossesLine = false ∧ gap'.onto acc' = c :: gap.onto acc ∧
        quotedRest double acc gap (marksFrom index line column (quotedChar double c ++ rest)) =
          quotedRest double acc' gap' (marksFrom (index + (quotedChar double c).length) line
            (column + (quotedChar double c).length) rest) := by
    rw [same]
    by_cases space : c = ' '
    · obtain ⟨still, onto⟩ := gap.onto_addBlank inLine acc
      rw [space]
      exact ⟨acc, _, still, onto, quotedRest_blank index line column rest⟩
    · exact ⟨_, .nothing, rfl, rfl, quotedRest_cons printable inside space single quote backslash
        inLine index line column rest⟩
  cases double with
  | true =>
    rcases doubleQuotedChar_cases c with ⟨same, printable, inside, quote, backslash⟩ |
      ⟨written, same, escapes⟩
    · exact itself same printable inside (fun _ => rfl) (fun q => absurd q quote)
        (fun b => absurd b backslash)
    · have form : quotedChar true c = '\\' :: written := same
      rw [form, List.length_cons, Nat.add_comm written.length, ← Nat.add_assoc, ← Nat.add_assoc]
      exact ⟨_, .nothing, rfl, rfl, quotedRest_escape escapes inLine index line column rest⟩
  | false =>
    obtain ⟨printable, inside⟩ := plain rfl
    by_cases quote : c = '\''
    · rw [quote]
      exact ⟨_, .nothing, rfl, rfl, quotedRest_twoQuotes inLine index line column rest⟩
    · exact itself (if_neg quote) printable inside (fun q => absurd q quote) (fun _ => rfl)
        (fun _ => rfl)

/-- What is written between quotes is read up to the closing one. -/
theorem quotedRest_flatMap {double : Bool} {text : List Char}
    (plain : double = false → ∀ c ∈ text, isPrintable c = true ∧ isBreak c = false)
    {acc : List Char} {gap : Gap} (inLine : gap.crossesLine = false) (index line column : Nat)
    {rest : List Char}
    (further : ∀ index column, headChar (marksFrom index line column rest) ≠ '\'') :
    quotedRest double acc gap (marksFrom index line column
        (text.flatMap (quotedChar double) ++ quote double :: rest)) =
      some ((gap.onto acc).reverse ++ text,
        marksFrom (index + (text.flatMap (quotedChar double)).length + 1) line
          (column + (text.flatMap (quotedChar double)).length + 1) rest) := by
  induction text generalizing acc gap index column with
  | nil =>
    rw [List.append_nil]
    exact quotedRest_close double inLine index line column (further _ _)
  | cons c text ih =>
    obtain ⟨acc', gap', inLine', onto, read⟩ := exists_quotedRest_char
      (fun single => plain single c List.mem_cons_self) acc inLine index line column
      (text.flatMap (quotedChar double) ++ quote double :: rest)
    rw [List.flatMap_cons, List.append_assoc, read,
      ih (fun single d mem => plain single d (List.mem_cons_of_mem _ mem)) inLine', onto,
      List.reverse_cons, List.append_assoc, List.singleton_append, List.length_append,
      ← Nat.add_assoc, ← Nat.add_assoc]

end StateMetrics.Yaml
