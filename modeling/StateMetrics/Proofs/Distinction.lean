import StateMetrics.Proofs.Block.Placement
import StateMetrics.Proofs.Framing
import StateMetrics.Proofs.Yaml.Faithful

/-!
# What a block tells of the resources

The lines of the listing below its first are all in the text of the resources: a line that is moved
stays blank or not, so the text tells what it was before (`nest_injective`), and there is no text
only where there are no resources. So two lists of resources with one text have one listing
(`listing_eq_of_encodeChars_eq`), and are the same, for the listing tells its values apart
(`listing_injective`). A document has another block to take in as soon as the resources change
(`no_change_unnoticed`). The numbers of the resources are integers of 64 bits and finite doubles, as
in every specification that is read (`unchanged_iff_resources_eq`).
-/

namespace StateMetrics.Fragment

open Text Yaml

/-- A line that is moved stays blank, or stays as it shows. -/
theorem isBlankText_indentation_append (line : List Char) :
    isBlankText (indentation ++ line) = isBlankText line := by
  have white : isBlankText indentation = true := by decide
  rw [isBlankText, List.all_append, ← isBlankText, ← isBlankText, white, Bool.true_and]

/-- A nested line tells what it was: its blankness tells whether it was moved. -/
theorem nestLine_injective : Function.Injective nestLine := by
  intro a b same
  rw [nestLine, nestLine] at same
  cases blankA : isBlankText a with
  | true =>
    cases blankB : isBlankText b with
    | true => simpa [blankA, blankB] using same
    | false =>
      have moved : a = indentation ++ b := by simpa [blankA, blankB] using same
      rw [moved, isBlankText_indentation_append, blankB] at blankA
      cases blankA
  | false =>
    cases blankB : isBlankText b with
    | true =>
      have moved : indentation ++ a = b := by simpa [blankA, blankB] using same
      rw [← moved, isBlankText_indentation_append, blankA] at blankB
      cases blankB
    | false => simpa [blankA, blankB] using same

/-- Nested text tells what it was. -/
theorem nest_injective : Function.Injective nest := by
  intro a b same
  have lines : (splitLines a).map nestLine = (splitLines b).map nestLine := by
    rw [← splitLines_nest, ← splitLines_nest, same]
  rw [← joinLines_splitLines a, ← joinLines_splitLines b,
    List.map_injective_iff.2 nestLine_injective lines]

variable {r₁ r₂ : List Json}

/-- Resources with one text have one listing. -/
theorem listing_eq_of_encodeChars_eq (same : encodeChars r₁ = encodeChars r₂) :
    listing r₁ = listing r₂ := by
  rcases eq_or_ne r₁ [] with empty | nonempty
  · have empty' : r₂ = [] := by
      rw [← encodeChars_eq_nil_iff, ← same, encodeChars_eq_nil_iff]
      exact empty
    rw [empty, empty']
  · have nonempty' : r₂ ≠ [] := by
      rw [Ne, ← encodeChars_eq_nil_iff, ← same, encodeChars_eq_nil_iff]
      exact nonempty
    rw [encodeChars_eq_nest nonempty, encodeChars_eq_nest nonempty'] at same
    rw [listing_eq_printed nonempty, listing_eq_printed nonempty', nest_injective same]

/-- The text of resources tells as much as the listing does. -/
theorem encodeChars_eq_iff_listing_eq :
    encodeChars r₁ = encodeChars r₂ ↔ listing r₁ = listing r₂ := by
  refine ⟨listing_eq_of_encodeChars_eq, fun same => ?_⟩
  rw [encodeChars, encodeChars, same]

/-- Resources are told apart by their listings. -/
theorem listing_injective (proper₁ : ∀ v ∈ r₁, v.IsProper) (proper₂ : ∀ v ∈ r₂, v.IsProper)
    (same : listing r₁ = listing r₂) : r₁ = r₂ := by
  have ends : EndsValue .afterName 0 0 [] :=
    ⟨.nil, Nat.le_refl 0, fun _ => ⟨.nil, Nat.le_refl 0, fun _ _ => nofun⟩⟩
  rw [listing_eq_value, listing_eq_value] at same
  have values := (List.cons.inj (List.append_cancel_left same)).2
  have lists := isTold (.arr proper₁) (.arr r₂) .afterName 0 0 0 [] [] (.arr proper₂) ends ends
  simp only [List.append_nil] at lists
  exact Json.arr.inj (lists values).1

/-- Where the block of some resources stands, it stays as it is exactly if the new ones have the
same listing. -/
theorem unchanged_iff_listing_eq {document key : List Char}
    (stands : Block.located document key = some (Block.render key (encodeChars r₁))) :
    Block.upsert document key (encodeChars r₂) = .unchanged ↔ listing r₁ = listing r₂ := by
  rw [← encodeChars_eq_iff_listing_eq]
  constructor
  · intro unchanged
    have stands' := Block.located_of_unchanged unchanged
    rw [stands] at stands'
    exact Block.render_injective key (Option.some.inj stands')
  · intro same
    rw [← same]
    exact Block.upsert_of_located stands

/-- The block of proper resources stays as it is exactly if the later ones are the same. -/
theorem unchanged_iff_eq (proper₁ : ∀ v ∈ r₁, v.IsProper) (proper₂ : ∀ v ∈ r₂, v.IsProper)
    {document key : List Char}
    (stands : Block.located document key = some (Block.render key (encodeChars r₁))) :
    Block.upsert document key (encodeChars r₂) = .unchanged ↔ r₁ = r₂ := by
  rw [unchanged_iff_listing_eq stands]
  exact ⟨listing_injective proper₁ proper₂, fun same => same ▸ rfl⟩

/-- The block of a specification stays as it is exactly if a later one that is read has the same
resources. -/
theorem unchanged_iff_resources_eq {text₁ text₂ : String} {spec₁ spec₂ : InstanceSpec}
    (read₁ : (Json.Written.read? text₁).map InstanceSpec.decode = some (.ok spec₁))
    (read₂ : (Json.Written.read? text₂).map InstanceSpec.decode = some (.ok spec₂))
    {document key : List Char}
    (stands : Block.located document key =
      some (Block.render key (encodeChars spec₁.resources))) :
    Block.upsert document key (encodeChars spec₂.resources) = .unchanged ↔
      spec₁.resources = spec₂.resources := by
  obtain ⟨w₁, written₁, decoded₁⟩ := Option.map_eq_some_iff.1 read₁
  obtain ⟨w₂, written₂, decoded₂⟩ := Option.map_eq_some_iff.1 read₂
  exact unchanged_iff_eq
    (Json.gives_resources w₁ spec₁ (Json.Written.isProper_of_read? written₁) decoded₁)
    (Json.gives_resources w₂ spec₂ (Json.Written.isProper_of_read? written₂) decoded₂) stands

/-- Resources with one text have one listing, and are the same. So no change of them leaves a
document as it is in which the block of the old ones stands. -/
theorem no_change_unnoticed (r₁ r₂ : List Json) :
    (encodeChars r₁ = encodeChars r₂ → listing r₁ = listing r₂) ∧
    ((∀ v ∈ r₁, v.IsProper) → (∀ v ∈ r₂, v.IsProper) →
      (encodeChars r₁ = encodeChars r₂ ↔ r₁ = r₂) ∧
      ∀ document key, Block.located document key = some (Block.render key (encodeChars r₁)) →
        (Block.upsert document key (encodeChars r₂) = .unchanged ↔ r₁ = r₂)) := by
  refine ⟨listing_eq_of_encodeChars_eq, fun proper₁ proper₂ => ⟨?_, fun document key stands => ?_⟩⟩
  · rw [encodeChars_eq_iff_listing_eq]
    exact ⟨listing_injective proper₁ proper₂, fun same => same ▸ rfl⟩
  · exact unchanged_iff_eq proper₁ proper₂ stands

/-- One and one point zero are two resources. -/
theorem no_change_unnoticed_of_ones :
    let one : Json := .number (.integer 1)
    let onePointZero : Json := .number (.real ⟨0x3FF0000000000000⟩)
    let document := Block.render "a".toList (encodeChars [one])
    one.IsProper ∧ onePointZero.IsProper ∧
      Block.located document "a".toList = some (Block.render "a".toList (encodeChars [one])) ∧
      Block.upsert document "a".toList (encodeChars [onePointZero]) ≠ .unchanged := by
  intro one onePointZero document
  have proper : one.IsProper := .number (show fitsInWord 1 = true by decide)
  have proper' : onePointZero.IsProper := .number (show Binary64.isFinite _ = true by decide)
  have stands : Block.located document "a".toList =
      some (Block.render "a".toList (encodeChars [one])) := by
    have text : encodeChars [one] = "    - 1\n".toList := by
      rw [encodeChars_eq_nest (List.cons_ne_nil _ _), printed, items, value, items]
      decide +kernel
    show Block.located (Block.render _ _) _ = _
    rw [text]
    decide +kernel
  refine ⟨proper, proper', stands, fun unchanged => ?_⟩
  have same := (((no_change_unnoticed [one] [onePointZero]).2 (List.forall_mem_singleton.2 proper)
    (List.forall_mem_singleton.2 proper')).2 document "a".toList stands).1 unchanged
  exact absurd (List.cons.inj same).1 (by simp [one, onePointZero])

end StateMetrics.Fragment
