import StateMetrics.Proofs.Yaml.Depth

/-!
# Printed scalars are told apart

What stands behind a scalar shows where it ends, whatever its text and in whatever style it is
written: a plain one ends at the first line end, or at the first colon in front of a separator, a
quoted one at its quote, a literal block at the first line that is less deep. So the text behind the
start of a scalar tells its style, its text and what follows it (`written_append_inj`). Here all
line breaks may occur in a text, also those that are not read back.
-/

namespace StateMetrics.Yaml

/-! ## Starts of lines -/

/-- What shows does not stand further to the right than it does. -/
theorem spaces_append_ne {k i : Nat} (less : k < i) {next : List Char} (shows : Shows next)
    (text : List Char) : spaces k ++ next ≠ spaces i ++ text := by
  intro same
  obtain ⟨more, rfl⟩ := Nat.exists_eq_add_of_lt less
  rw [Nat.add_assoc, spaces_add, List.append_assoc, spaces_succ] at same
  obtain rfl := List.append_cancel_left same
  exact absurd (shows ' ' rfl).2.1 (by decide)

theorem spaces_append_inj {k k' : Nat} {next next' : List Char} (shows : Shows next)
    (shows' : Shows next') (same : spaces k ++ next = spaces k' ++ next') :
    k = k' ∧ next = next' := by
  rcases Nat.lt_trichotomy k k' with less | rfl | more
  · exact absurd same (spaces_append_ne less shows next')
  · exact ⟨rfl, List.append_cancel_left same⟩
  · exact absurd same.symm (spaces_append_ne more shows' next)

/-- What starts a line tells how deep the line is, whatever it shows. -/
theorem lineStart_append_inj {closed : Bool} {k k' : Nat} {next next' : List Char}
    (shows : Shows next) (shows' : Shows next')
    (same : lineStart closed k ++ next = lineStart closed k' ++ next') : k = k' ∧ next = next' := by
  cases closed with
  | true => exact spaces_append_inj shows shows' same
  | false => exact spaces_append_inj shows shows' (List.cons.inj same).2

/-! ## Plain scalars -/

/-- The text ends where a line end or a colon in front of a separator stands behind it. -/
structure EndsPlainly (text : List Char) : Prop where
  inside : ∀ c ∈ text, isBreak c = false
  lastColon : text.getLast? ≠ some ':'
  noColon : adjacent (· = ':') isSeparator text = false

theorem EndsPlainly.tail {c : Char} {text : List Char} (ends : EndsPlainly (c :: text)) :
    EndsPlainly text where
  inside d mem := ends.inside d (List.mem_cons_of_mem _ mem)
  lastColon last := ends.lastColon (by rw [List.getLast?_cons, last]; rfl)
  noColon := by
    cases text with
    | nil => rfl
    | cons d text => exact (Bool.or_eq_false_iff.1 ends.noColon).2

/-- A line end, or a colon in front of a separator. -/
def EndsPlain (text : List Char) : Prop :=
  (∃ rest, text = '\n' :: rest) ∨ ∃ c rest, text = ':' :: c :: rest ∧ isSeparator c = true

/-- A text that ends plainly does not start with what ends it. -/
theorem EndsPlainly.not_endsPlain {c : Char} {text : List Char} (ends : EndsPlainly (c :: text))
    (behind : List Char) : ¬ EndsPlain (c :: text ++ behind) := by
  rintro (⟨rest, same⟩ | ⟨d, rest, same, separates⟩)
  · obtain rfl : c = '\n' := (List.cons.inj same).1
    exact absurd (ends.inside '\n' List.mem_cons_self) (by decide)
  · obtain ⟨rfl, following⟩ := List.cons.inj same
    cases text with
    | nil => exact ends.lastColon rfl
    | cons e text =>
      obtain ⟨rfl, -⟩ := List.cons.inj following
      have colon := (Bool.or_eq_false_iff.1 ends.noColon).1
      simp [separates] at colon

/-- A plain scalar is told by where it ends, from what stands behind it. -/
theorem EndsPlainly.append_inj {a b t t' : List Char} (endsA : EndsPlainly a)
    (endsB : EndsPlainly b) (ends : EndsPlain t) (ends' : EndsPlain t') (same : a ++ t = b ++ t') :
    a = b ∧ t = t' := by
  induction a generalizing b with
  | nil =>
    cases b with
    | nil => exact ⟨rfl, same⟩
    | cons d b => exact absurd (same ▸ ends : EndsPlain (d :: b ++ t')) (endsB.not_endsPlain t')
  | cons c a ih =>
    cases b with
    | nil => exact absurd (same ▸ ends' : EndsPlain (c :: a ++ t)) (endsA.not_endsPlain t)
    | cons d b =>
      obtain ⟨rfl, rest⟩ := List.cons.inj same
      obtain ⟨rfl, behind⟩ := ih endsA.tail endsB.tail rest
      exact ⟨rfl, behind⟩

/-! ## Quoted scalars -/

/-- What is written for a character inside double quotes tells the character and what follows. -/
theorem doubleQuotedChar_append_inj {c d : Char} {x y : List Char}
    (same : doubleQuotedChar c ++ x = doubleQuotedChar d ++ y) : c = d ∧ x = y := by
  suffices alike : c = d by
    subst alike
    exact ⟨rfl, List.append_cancel_left same⟩
  rcases doubleQuotedChar_cases c with ⟨itself, -, -, -, other⟩ | ⟨written, escaped, escapes⟩
  · rcases doubleQuotedChar_cases d with ⟨itself', -⟩ | ⟨written', escaped', -⟩
    · rw [itself, itself'] at same
      exact (List.cons.inj same).1
    · rw [itself, escaped'] at same
      exact absurd (List.cons.inj same).1 other
  · rcases doubleQuotedChar_cases d with ⟨itself', -, -, -, other'⟩ | ⟨written', escaped', escapes'⟩
    · rw [escaped, itself'] at same
      exact absurd (List.cons.inj same).1.symm other'
    · rw [escaped, escaped'] at same
      have further : written ++ x = written' ++ y := (List.cons.inj same).2
      have taken := escapes.taken 0 0 0 x
      rw [further, escapes'.taken] at taken
      exact (congrArg Prod.fst (Option.some.inj taken)).symm

theorem doubleQuotedChar_append_ne (c : Char) (x y : List Char) :
    doubleQuotedChar c ++ x ≠ '"' :: y := by
  intro same
  rcases doubleQuotedChar_cases c with ⟨itself, -, -, other, -⟩ | ⟨written, escaped, -⟩
  · rw [itself] at same
    exact other (List.cons.inj same).1
  · rw [escaped] at same
    exact absurd (List.cons.inj same).1 (by decide)

/-- A text in double quotes is told by what stands up to the closing quote. -/
theorem doubleQuoted_append_inj {a b t t' : List Char}
    (same : doubleQuoted a ++ t = doubleQuoted b ++ t') : a = b ∧ t = t' := by
  rw [doubleQuoted, doubleQuoted, List.cons_append, List.cons_append, List.append_assoc,
    List.append_assoc] at same
  replace same := (List.cons.inj same).2
  induction a generalizing b with
  | nil =>
    cases b with
    | nil => exact ⟨rfl, (List.cons.inj same).2⟩
    | cons d b =>
      rw [List.flatMap_cons, List.append_assoc] at same
      exact absurd same.symm (doubleQuotedChar_append_ne d _ _)
  | cons c a ih =>
    cases b with
    | nil =>
      rw [List.flatMap_cons, List.append_assoc] at same
      exact absurd same (doubleQuotedChar_append_ne c _ _)
    | cons d b =>
      rw [List.flatMap_cons, List.flatMap_cons, List.append_assoc, List.append_assoc] at same
      obtain ⟨rfl, rest⟩ := doubleQuotedChar_append_inj same
      obtain ⟨rfl, behind⟩ := ih rest
      exact ⟨rfl, behind⟩

/-- The text holds no newline and no space behind a break. -/
structure FitsSingleQuotes (afterBreak : Bool) (text : List Char) : Prop where
  noNewline : '\n' ∉ text
  noSpace : afterBreak = true → text.head? ≠ some ' '
  tidy : hasSpaceAfterBreak text = false

theorem FitsSingleQuotes.tail {afterBreak : Bool} {c : Char} {text : List Char}
    (fits : FitsSingleQuotes afterBreak (c :: text)) : FitsSingleQuotes (isBreak c) text where
  noNewline mem := fits.noNewline (List.mem_cons_of_mem _ mem)
  noSpace ends first := by
    have tidy := fits.tidy
    obtain ⟨more, rfl⟩ := List.head?_eq_some_iff.1 first
    simp [hasSpaceAfterBreak, adjacent, ends] at tidy
  tidy := by
    cases text with
    | nil => rfl
    | cons d text => exact (Bool.or_eq_false_iff.1 fits.tidy).2

/-- A character inside single quotes: a break as it is, else with the indentation in front if it
starts a line, a quote twice. -/
theorem singleQuotedBody_cons {afterBreak : Bool} {c : Char} {text : List Char}
    (fits : FitsSingleQuotes afterBreak (c :: text)) (indent : Nat) :
    singleQuotedBody indent afterBreak (c :: text) =
      if isBreak c then c :: singleQuotedBody indent true text
      else (if afterBreak then spaces indent else []) ++
        (singleQuotedChar c ++ singleQuotedBody indent false text) := by
  have noNewline : c ≠ '\n' := fun same => fits.noNewline (same ▸ List.mem_cons_self)
  rw [singleQuotedBody, singleQuotedChar]
  by_cases space : c = ' '
  · have inLine : afterBreak = false :=
      Bool.eq_false_iff.2 fun after => fits.noSpace after (congrArg some space)
    subst space inLine
    rfl
  · rw [if_neg space]
    split
    · simp [noNewline]
    · by_cases quote : c = '\''
      · simp [quote]
      · simp [quote]

/-- No indentation in front of a character makes it a break. -/
theorem lead_append_ne {c d : Char} (ends : isBreak c = true) (inside : isBreak d = false)
    (indent : Nat) (afterBreak : Bool) (x y : List Char) :
    (if afterBreak then spaces indent else []) ++ d :: x ≠ c :: y := by
  intro same
  have other : d ≠ c := by
    rintro rfl
    rw [ends] at inside
    cases inside
  cases afterBreak with
  | false => exact other (List.cons.inj same).1
  | true =>
    cases indent with
    | zero => exact other (List.cons.inj same).1
    | succ indent =>
      obtain rfl : ' ' = c := (List.cons.inj same).1
      exact absurd ends (by decide)

theorem singleQuotedChar_cases (c : Char) :
    (c = '\'' ∧ singleQuotedChar c = ['\'', '\'']) ∨ c ≠ '\'' ∧ singleQuotedChar c = [c] := by
  rw [singleQuotedChar]
  by_cases quote : c = '\''
  · exact .inl ⟨quote, if_pos quote⟩
  · exact .inr ⟨quote, if_neg quote⟩

theorem singleQuotedChar_append_inj {c d : Char} {x y : List Char}
    (same : singleQuotedChar c ++ x = singleQuotedChar d ++ y) : c = d ∧ x = y := by
  suffices alike : c = d by
    subst alike
    exact ⟨rfl, List.append_cancel_left same⟩
  rcases singleQuotedChar_cases c with ⟨rfl, twice⟩ | ⟨-, once⟩
  · rcases singleQuotedChar_cases d with ⟨rfl, -⟩ | ⟨-, once'⟩
    · rfl
    · rw [twice, once'] at same
      exact (List.cons.inj same).1
  · rcases singleQuotedChar_cases d with ⟨rfl, twice'⟩ | ⟨-, once'⟩
    · rw [once, twice'] at same
      exact (List.cons.inj same).1
    · rw [once, once'] at same
      exact (List.cons.inj same).1

theorem singleQuotedChar_append_ne {t : List Char} (further : t.head? ≠ some '\'') (c : Char)
    (x : List Char) : singleQuotedChar c ++ x ≠ '\'' :: t := by
  intro same
  rcases singleQuotedChar_cases c with ⟨-, twice⟩ | ⟨other, once⟩
  · rw [twice] at same
    exact further (congrArg List.head? (List.cons.inj same).2).symm
  · rw [once] at same
    exact other (List.cons.inj same).1

theorem exists_singleQuotedChar_append_eq {c : Char} (inside : isBreak c = false) (x : List Char) :
    ∃ d y, singleQuotedChar c ++ x = d :: y ∧ isBreak d = false := by
  rcases singleQuotedChar_cases c with ⟨-, twice⟩ | ⟨-, once⟩
  · exact ⟨'\'', '\'' :: x, by rw [twice]; rfl, by decide⟩
  · exact ⟨c, x, by rw [once]; rfl, inside⟩

/-- What is inside single quotes does not start with the closing one. -/
theorem singleQuotedBody_append_ne {afterBreak : Bool} {c : Char} {text t : List Char}
    (fits : FitsSingleQuotes afterBreak (c :: text)) (further : t.head? ≠ some '\'') (indent : Nat)
    (x : List Char) : singleQuotedBody indent afterBreak (c :: text) ++ x ≠
      singleQuotedBody indent afterBreak [] ++ '\'' :: t := by
  rw [singleQuotedBody_cons fits, singleQuotedBody]
  intro same
  cases ends : isBreak c with
  | true =>
    rw [ends, if_pos rfl] at same
    exact lead_append_ne ends (by decide) _ _ _ _ same.symm
  | false =>
    rw [ends, if_neg Bool.false_ne_true, List.append_assoc, List.append_assoc] at same
    exact singleQuotedChar_append_ne further c _ (List.append_cancel_left same)

/-- Text in single quotes is told up to its last quote: inside, a quote is doubled, and the line
ends are those of the text. -/
theorem singleQuotedBody_append_inj {afterBreak : Bool} {a b t t' : List Char}
    (fits : FitsSingleQuotes afterBreak a) (fits' : FitsSingleQuotes afterBreak b)
    (further : t.head? ≠ some '\'') (further' : t'.head? ≠ some '\'') (indent : Nat)
    (same : singleQuotedBody indent afterBreak a ++ '\'' :: t =
      singleQuotedBody indent afterBreak b ++ '\'' :: t') : a = b ∧ t = t' := by
  induction a generalizing b afterBreak with
  | nil =>
    cases b with
    | nil => exact ⟨rfl, (List.cons.inj (List.append_cancel_left same)).2⟩
    | cons d b => exact absurd same.symm (singleQuotedBody_append_ne fits' further indent _)
  | cons c a ih =>
    cases b with
    | nil => exact absurd same (singleQuotedBody_append_ne fits further' indent _)
    | cons d b =>
      suffices step : c = d ∧ singleQuotedBody indent (isBreak c) a ++ '\'' :: t =
          singleQuotedBody indent (isBreak d) b ++ '\'' :: t' by
        obtain ⟨rfl, rest⟩ := step
        obtain ⟨rfl, behind⟩ := ih fits.tail fits'.tail rest
        exact ⟨rfl, behind⟩
      rw [singleQuotedBody_cons fits, singleQuotedBody_cons fits'] at same
      cases ends : isBreak c with
      | true =>
        cases ends' : isBreak d with
        | true =>
          rw [ends, ends'] at same
          exact List.cons.inj same
        | false =>
          obtain ⟨e, x, whole, inside⟩ := exists_singleQuotedChar_append_eq ends'
            (singleQuotedBody indent false b ++ '\'' :: t')
          rw [ends, ends', if_pos rfl, if_neg Bool.false_ne_true, List.append_assoc,
            List.append_assoc, whole] at same
          exact absurd same.symm (lead_append_ne ends inside _ _ _ _)
      | false =>
        cases ends' : isBreak d with
        | true =>
          obtain ⟨e, x, whole, inside⟩ := exists_singleQuotedChar_append_eq ends
            (singleQuotedBody indent false a ++ '\'' :: t)
          rw [ends, ends', if_pos rfl, if_neg Bool.false_ne_true, List.append_assoc,
            List.append_assoc, whole] at same
          exact absurd same (lead_append_ne ends' inside _ _ _ _)
        | false =>
          rw [ends, ends', if_neg Bool.false_ne_true, if_neg Bool.false_ne_true] at same
          simp only [List.append_assoc] at same
          exact singleQuotedChar_append_inj (List.append_cancel_left same)

/-- A text in single quotes is told by what stands up to the closing quote. -/
theorem singleQuoted_append_inj {a b t t' : List Char} (fits : FitsSingleQuotes false a)
    (fits' : FitsSingleQuotes false b) (further : t.head? ≠ some '\'')
    (further' : t'.head? ≠ some '\'') {indent : Nat}
    (same : singleQuoted indent a ++ t = singleQuoted indent b ++ t') : a = b ∧ t = t' := by
  rw [singleQuoted, singleQuoted, List.cons_append, List.cons_append, List.append_assoc,
    List.append_assoc] at same
  exact singleQuotedBody_append_inj fits fits' further further' indent (List.cons.inj same).2

/-! ## Literal blocks -/

/-- What is inside a literal block does not start with a line that is less deep. -/
theorem literalBody_append_ne {c : Char} {k indent : Nat} {next : List Char} (shows : Shows next)
    (left : k < indent) (text x : List Char) :
    literalBody indent true (c :: text) ++ x ≠ spaces k ++ next := by
  rw [literalBody]
  intro same
  cases ends : isBreak c with
  | true =>
    rw [ends, if_pos rfl] at same
    cases k with
    | zero =>
      have starts : next = c :: (literalBody indent true text ++ x) := same.symm
      have free := (shows c (congrArg List.head? starts)).1
      rw [ends] at free
      cases free
    | succ k =>
      obtain rfl : c = ' ' := (List.cons.inj same).1
      exact absurd ends (by decide)
  | false =>
    rw [ends, if_neg Bool.false_ne_true, if_pos rfl, List.append_assoc] at same
    exact spaces_append_ne left shows _ same.symm

/-- The lines of a literal block end where a line is less deep. -/
theorem literalBody_append_inj {afterBreak : Bool} {a b : List Char} {k k' indent : Nat}
    {next next' : List Char} (ended : endsLine afterBreak a = true)
    (ended' : endsLine afterBreak b = true) (shows : Shows next) (shows' : Shows next')
    (left : k < indent) (left' : k' < indent)
    (same : literalBody indent afterBreak a ++ (spaces k ++ next) =
      literalBody indent afterBreak b ++ (spaces k' ++ next')) :
    a = b ∧ spaces k ++ next = spaces k' ++ next' := by
  induction a generalizing b afterBreak with
  | nil =>
    obtain rfl : afterBreak = true := ended
    cases b with
    | nil => exact ⟨rfl, same⟩
    | cons d b => exact absurd same.symm (literalBody_append_ne shows left b _)
  | cons c a ih =>
    cases b with
    | nil =>
      obtain rfl : afterBreak = true := ended'
      exact absurd same (literalBody_append_ne shows' left' a _)
    | cons d b =>
      rw [endsLine_cons] at ended ended'
      suffices step : c = d ∧ literalBody indent (isBreak c) a ++ (spaces k ++ next) =
          literalBody indent (isBreak d) b ++ (spaces k' ++ next') by
        obtain ⟨rfl, rest⟩ := step
        obtain ⟨rfl, behind⟩ := ih ended ended' rest
        exact ⟨rfl, behind⟩
      rw [literalBody, literalBody] at same
      cases ends : isBreak c with
      | true =>
        cases ends' : isBreak d with
        | true =>
          rw [ends, ends'] at same
          exact List.cons.inj same
        | false =>
          rw [ends, ends', if_pos rfl, if_neg Bool.false_ne_true, List.append_assoc] at same
          exact absurd same.symm (lead_append_ne ends ends' _ _ _ _)
      | false =>
        cases ends' : isBreak d with
        | true =>
          rw [ends, ends', if_pos rfl, if_neg Bool.false_ne_true, List.append_assoc] at same
          exact absurd same (lead_append_ne ends' ends _ _ _ _)
        | false =>
          rw [ends, ends', if_neg Bool.false_ne_true, if_neg Bool.false_ne_true,
            List.append_assoc, List.append_assoc] at same
          exact List.cons.inj (List.append_cancel_left same)

/-- The hints of a literal block tell whether its text ends with a line break. -/
theorem dash_mem_literalHints_iff (text : List Char) :
    '-' ∈ literalHints text ↔ text.getLast?.any isBreak = false := by
  have digit : '-' ∉ if (incrementOf text).isSome then ['2'] else [] := by
    split
    · decide
    · exact List.not_mem_nil
  rw [literalHints_eq, List.mem_append, or_iff_right digit, chompingOf, ← List.head?_reverse]
  rcases text.reverse with _ | ⟨c, _ | ⟨d, rest⟩⟩
  · decide
  · cases ends : isBreak c <;> simp [ends, chompingHint]
  · cases ends : isBreak c <;> cases ends' : isBreak d <;> simp [ends, ends', chompingHint]

/-- The text with its last line ended ends a line. -/
theorem endsLine_withLastLineEnded (afterBreak : Bool) (text : List Char) :
    endsLine afterBreak (withLastLineEnded text) = true := by
  rw [endsLine, withLastLineEnded]
  split
  · next closed =>
    obtain ⟨c, last, ends⟩ := (Option.any_eq_true ..).1 closed
    rw [List.append_nil, last]
    exact ends
  · rw [List.getLast?_concat]
    rfl

/-- The line behind a literal block starts behind its last line, ended. -/
theorem literalBody_append_lineStart (indent : Nat) (text : List Char) (k : Nat)
    (next : List Char) :
    literalBody indent true text ++ (lineStart (text.getLast?.any isBreak) k ++ next) =
      literalBody indent true (withLastLineEnded text) ++ (spaces k ++ next) := by
  rw [withLastLineEnded, lineStart]
  split
  · rw [List.append_nil]
  · rw [literalBody_append_newline, List.append_assoc]
    rfl

theorem append_cons_inj_of_free {α : Type} {c : α} {a b x y : List α} (free : c ∉ a) (free' : c ∉ b)
    (same : a ++ c :: x = b ++ c :: y) : a = b ∧ x = y := by
  induction a generalizing b with
  | nil =>
    cases b with
    | nil => exact ⟨rfl, (List.cons.inj same).2⟩
    | cons d b => exact absurd ((List.cons.inj same).1 ▸ List.mem_cons_self) free'
  | cons d a ih =>
    cases b with
    | nil => exact absurd ((List.cons.inj same).1 ▸ List.mem_cons_self) free
    | cons e b =>
      obtain ⟨rfl, rest⟩ := List.cons.inj same
      obtain ⟨rfl, behind⟩ := ih (fun mem => free (List.mem_cons_of_mem _ mem))
        (fun mem => free' (List.mem_cons_of_mem _ mem)) rest
      exact ⟨rfl, behind⟩

/-- A literal block is told from what stands behind it: that is less deep than the lines of the
block. -/
theorem literal_append_inj {a b : List Char} {k k' indent : Nat} {next next' : List Char}
    (shows : Shows next) (shows' : Shows next') (left : k < indent) (left' : k' < indent)
    (same : literal indent a ++ (lineStart (a.getLast?.any isBreak) k ++ next) =
      literal indent b ++ (lineStart (b.getLast?.any isBreak) k' ++ next')) :
    a = b ∧ spaces k ++ next = spaces k' ++ next' := by
  have inside (text : List Char) : '\n' ∉ literalHints text := fun mem =>
    absurd (literalHints_spec mem).2 (by decide)
  rw [literal, literal, List.cons_append, List.cons_append, List.append_assoc, List.append_assoc,
    List.cons_append, List.cons_append] at same
  obtain ⟨hints, body⟩ := append_cons_inj_of_free (inside a) (inside b) (List.cons.inj same).2
  have closed : a.getLast?.any isBreak = b.getLast?.any isBreak := by
    have either := (dash_mem_literalHints_iff a).symm.trans (hints ▸ dash_mem_literalHints_iff b)
    rw [Bool.eq_iff_iff, ← not_iff_not, Bool.not_eq_true, Bool.not_eq_true]
    exact either
  rw [literalBody_append_lineStart, literalBody_append_lineStart] at body
  obtain ⟨whole, behind⟩ := literalBody_append_inj (endsLine_withLastLineEnded true a)
    (endsLine_withLastLineEnded true b) shows shows' left left' body
  rw [withLastLineEnded, withLastLineEnded, closed] at whole
  exact ⟨List.append_cancel_right whole, behind⟩

/-! ## Scalars in any style -/

/-- A text in a style. -/
def Style.written (style : Style) (indent : Nat) (text : List Char) : Piece :=
  match style with
  | .plain => ⟨text, false⟩
  | .singleQuoted => ⟨Yaml.singleQuoted indent text, false⟩
  | .doubleQuoted => ⟨Yaml.doubleQuoted text, false⟩
  | .literal => ⟨Yaml.literal indent text, text.getLast?.any isBreak⟩

theorem scalar_eq_written (indent : Nat) (text : List Char) :
    scalar indent text = (Style.ofText text).written indent text := rfl

/-- The text is plain: it starts as no text in another style does, nor as an item or a name behind a
question mark, and ends plainly. -/
structure IsPlain (text : List Char) : Prop extends EndsPlainly text where
  starts : ∃ c rest, text = c :: rest ∧ c ∉ ['\'', '"', '|'] ∧
    (c ∈ ['-', '?'] → ∃ d more, rest = d :: more ∧ isSeparator d = false)

theorem StandsPlain.isPlain {text : List Char} (stands : StandsPlain text) : IsPlain text where
  inside c mem := (stands.inside c mem).2
  lastColon := stands.lastColon
  noColon := stands.noColon
  starts := by
    obtain ⟨c, rest, whole, -, starts⟩ := stands.starts
    refine ⟨c, rest, whole, ?_, fun special => ?_⟩
    · intro mark
      have marks : ∀ d ∈ ['\'', '"', '|'], d ∈ indicators ∧ d ∉ ['-', '?', ':'] := by
        simp [indicators]
      exact starts.elim (fun free => free (marks c mark).1) fun other => (marks c mark).2 other.1
    · have isIndicator : ∀ d ∈ ['-', '?'], d ∈ indicators := by simp [indicators]
      exact (starts.resolve_left fun free => free (isIndicator c special)).2

namespace Style

/-- The text may be in the style. -/
def Fits : Style → List Char → Prop
  | plain, text => IsPlain text
  | singleQuoted, text => FitsSingleQuotes false text
  | doubleQuoted, _ => True
  | literal, _ => True

/-- The style that a first character shows. -/
def ofFirst (c : Char) : Style :=
  if c = '\'' then singleQuoted else if c = '"' then doubleQuoted else if c = '|' then literal
  else plain

/-- The first character of a scalar shows its style. -/
theorem exists_written_eq {style : Style} {text : List Char} (fits : style.Fits text)
    (indent : Nat) :
    ∃ c rest, (style.written indent text).text = c :: rest ∧ ofFirst c = style := by
  cases style with
  | plain =>
    obtain ⟨c, rest, whole, other, -⟩ := fits.starts
    simp only [List.mem_cons, List.not_mem_nil, or_false, not_or] at other
    exact ⟨c, rest, whole, by simp [ofFirst, other]⟩
  | singleQuoted => exact ⟨_, _, rfl, rfl⟩
  | doubleQuoted => exact ⟨_, _, rfl, rfl⟩
  | literal => exact ⟨_, _, rfl, rfl⟩

/-- The text can stand behind a scalar in the style: the start of a line that is less deep, or,
unless it is a literal block, the colon that makes it a name. -/
def Follows (style : Style) (indent : Nat) (closed : Bool) (text : List Char) : Prop :=
  (∃ k next, k < indent ∧ Shows next ∧ text = lineStart closed k ++ next) ∨
    style ≠ literal ∧ ∃ c rest, text = ':' :: c :: rest ∧ isSeparator c = true

theorem Follows.endsPlain {style : Style} {indent : Nat} {text : List Char}
    (follows : style.Follows indent false text) : EndsPlain text := by
  rcases follows with ⟨k, next, -, -, rfl⟩ | ⟨-, name⟩
  · exact .inl ⟨_, rfl⟩
  · exact .inr name

theorem Follows.head?_ne {style : Style} {indent : Nat} {text : List Char}
    (follows : style.Follows indent false text) : text.head? ≠ some '\'' := by
  rcases follows.endsPlain with ⟨rest, rfl⟩ | ⟨c, rest, rfl, -⟩
  · exact fun same => absurd (Option.some.inj same) (by decide)
  · exact fun same => absurd (Option.some.inj same) (by decide)

/-- A scalar and what follows it are told by their text. -/
theorem written_append_inj {style style' : Style} {a b t t' : List Char} {indent : Nat}
    (fits : style.Fits a) (fits' : style'.Fits b)
    (follows : style.Follows indent (style.written indent a).closed t)
    (follows' : style'.Follows indent (style'.written indent b).closed t')
    (same : (style.written indent a).text ++ t = (style'.written indent b).text ++ t') :
    style = style' ∧ a = b ∧ t = t' := by
  obtain rfl : style = style' := by
    obtain ⟨c, rest, whole, first⟩ := exists_written_eq fits indent
    obtain ⟨c', rest', whole', first'⟩ := exists_written_eq fits' indent
    rw [whole, whole'] at same
    rw [← first, ← first', (List.cons.inj same).1]
  refine ⟨rfl, ?_⟩
  cases style with
  | plain => exact fits.append_inj fits'.toEndsPlainly follows.endsPlain follows'.endsPlain same
  | singleQuoted => exact singleQuoted_append_inj fits fits' follows.head?_ne follows'.head?_ne same
  | doubleQuoted => exact doubleQuoted_append_inj same
  | literal =>
    obtain ⟨k, next, left, shows, rfl⟩ := follows.resolve_right fun other => other.1 rfl
    obtain ⟨k', next', left', shows', rfl⟩ := follows'.resolve_right fun other => other.1 rfl
    obtain ⟨rfl, behind⟩ := literal_append_inj shows shows' left left' same
    obtain ⟨rfl, rfl⟩ := spaces_append_inj shows shows' behind
    exact ⟨rfl, rfl⟩

/-- A string may be in its style. -/
theorem fits_ofText (text : List Char) : (ofText text).Fits text := by
  cases style : ofText text with
  | plain => exact (plain_spec style).isPlain
  | singleQuoted =>
    refine ⟨(singleQuoted_spec style).1, fun never => absurd never Bool.false_ne_true, ?_⟩
    rw [ofText_eq] at style
    split at style
    · split at style <;> cases style
    · split at style
      · cases style
      · split at style
        · next admits =>
          simp only [admitsSingleQuoted, Bool.not_eq_true', Bool.or_eq_false_iff] at admits
          exact admits.1.1
        · cases style
  | doubleQuoted => trivial
  | literal => trivial

end Style

end StateMetrics.Yaml
