import DrawingCode.Proofs.Item.Equality
import DrawingCode.Proofs.Item.Phrase

/-! # The text of an item determines it

The phrase for an item can be read off its text, and it has the kind of the item and all of its
fields. So items with the same text have the same fields in the same order, up to the patterns
for what is no number, and they are equal if all doubles in them are numbers.
-/

namespace DrawingCode

open Text

namespace Item

mutual

/-- An item with every double that is no number replaced by one of them. -/
def canonical : Item → Item
  | step s => step (s.map Value.canonical)
  | raw v => raw v.canonical
  | point p => point (p.map Value.canonical)
  | size s => size (s.map Value.canonical)
  | rect r => rect (r.map Value.canonical)
  | color c => color (c.map Value.canonical)
  | transform t => transform (t.map Value.canonical)
  | route items bounds => route (canonicalAll items) (bounds.map Value.canonical)
  | image name items bounds => image name (canonicalAll items) (bounds.map Value.canonical)
  | item => item

def canonicalAll : List Item → List Item
  | [] => []
  | item :: rest => item.canonical :: canonicalAll rest

end

end Item

/-! ## Fields -/

theorem Point.phrase_eq_phrase_iff {p q : Point Value} :
    p.phrase = q.phrase ↔ p.map Value.canonical = q.map Value.canonical := by
  simp [phrase, Phrase.record, map, Value.phrase_eq_phrase_iff]

theorem Size.phrase_eq_phrase_iff {s t : Size Value} :
    s.phrase = t.phrase ↔ s.map Value.canonical = t.map Value.canonical := by
  simp [phrase, Phrase.record, map, Value.phrase_eq_phrase_iff]

theorem Rect.phrase_eq_phrase_iff {r s : Rect Value} :
    r.phrase = s.phrase ↔ r.map Value.canonical = s.map Value.canonical := by
  simp [phrase, Phrase.record, map, Value.phrase_eq_phrase_iff]

theorem Color.phrase_eq_phrase_iff {c d : Color Value} :
    c.phrase = d.phrase ↔ c.map Value.canonical = d.map Value.canonical := by
  simp [phrase, Phrase.record, map, Value.phrase_eq_phrase_iff]

theorem Transform.phrase_eq_phrase_iff {s t : Transform Value} :
    s.phrase = t.phrase ↔ s.map Value.canonical = t.map Value.canonical := by
  simp [phrase, Phrase.record, map, Value.phrase_eq_phrase_iff]

private theorem StepKind.name_injective : Function.Injective StepKind.name := by
  intro kind other same
  cases kind <;> cases other <;> first | rfl | exact absurd same (by decide)

private theorem StepKind.name_ne_bareStepName (kind : StepKind) : kind.name ≠ bareStepName := by
  cases kind <;> decide

private theorem StepKind.word_injective : Function.Injective StepKind.word := fun _ _ same =>
  name_injective (String.toList_inj.mp (congrArg Word.chars same))

private theorem FillRule.name_injective : Function.Injective FillRule.name := by
  intro rule other same
  cases rule <;> cases other <;> first | rfl | exact absurd same (by decide)

private theorem Step.kind_map {α β : Type} (f : α → β) (s : Step α) : (s.map f).kind = s.kind := by
  cases s <;> rfl

theorem Step.phrase_eq_phrase_iff {s t : Step Value} :
    s.phrase = t.phrase ↔ s.map Value.canonical = t.map Value.canonical := by
  by_cases kind : s.kind = t.kind
  · cases s <;> cases t <;> cases kind <;>
      simp [phrase, Phrase.record, Step.kind, phraseFields, map, Value.phrase_eq_phrase_iff,
        Point.phrase_eq_phrase_iff, Rect.phrase_eq_phrase_iff, Color.phrase_eq_phrase_iff,
        Transform.phrase_eq_phrase_iff, String.toList_inj, FillRule.name_injective.eq_iff]
  · refine iff_of_false (fun same => kind ?_) (fun same => kind ?_)
    · exact StepKind.word_injective (Brackets.record.inj (Phrase.row.inj same).1)
    · rw [← kind_map Value.canonical, same, kind_map]

private theorem optionPhrase_inj {s t : Option String} :
    optionPhrase s = optionPhrase t ↔ s = t := by
  cases s <;> cases t <;> simp [optionPhrase, Value.phrase, String.toList_inj]

private theorem kindPhrase_inj {kind other : Option StepKind} :
    kindPhrase kind = kindPhrase other ↔ kind = other := by
  cases kind <;> cases other <;>
    simp [kindPhrase, String.toList_inj, StepKind.name_injective.eq_iff,
      StepKind.name_ne_bareStepName, (StepKind.name_ne_bareStepName _).symm]

private theorem Settings.phraseFields_inj {s t : Settings} (name : Word) :
    Phrase.record name s.phraseFields = Phrase.record name t.phraseFields ↔ s = t := by
  cases s
  cases t
  simp [Phrase.record, phraseFields, optionPhrase_inj, String.toList_inj]

private theorem Generator.phrase_inj {g h : Generator} : g.phrase = h.phrase ↔ g = h := by
  cases g <;> cases h
  case implementation.implementation => simp [phrase, Settings.phraseFields_inj]
  all_goals simp [phrase, Phrase.record, Word.of, String.toList_inj]

/-- The ranks of the names of records; all other names are those of steps. -/
def recordRanks : List (String × Nat) :=
  [("DrawStep", 1), ("Point", 2), ("Size", 3), ("Rect", 4), ("RGBColor", 5), ("AffineTransform", 6),
    ("DrawRoute", 7), ("NamedImage", 8), ("ObjcCGGenerator", 9), ("ObjcHeaderCGGenerator", 9),
    ("GeneratorConfig", 10)]

/-- Tells what kind of item a phrase is for. -/
def phraseRank : Phrase → Nat
  | .row (.record name) _ => (recordRanks.lookup (String.ofList name.chars)).getD 0
  | .row .kind _ => 11
  | _ => 12

namespace Item

variable {a b : Item}

/-- Tells items of different kinds apart, other than kinds of steps and of generators. -/
def rank : Item → Nat
  | step _ => 0
  | bareStep => 1
  | point _ => 2
  | size _ => 3
  | rect _ => 4
  | color _ => 5
  | transform _ => 6
  | route .. => 7
  | image .. => 8
  | generator _ => 9
  | settings _ => 10
  | stepClass _ => 11
  | raw _ => 12

private theorem lookup_kind_name (kind : StepKind) : recordRanks.lookup kind.name = none := by
  cases kind <;> decide

private theorem phraseRank_phrase (a : Item) : phraseRank a.phrase = a.rank := by
  cases a with
  | step s =>
    change (recordRanks.lookup (String.ofList s.kind.name.toList)).getD 0 = 0
    rw [String.ofList_toList, lookup_kind_name, Option.getD_none]
  | generator g => cases g <;> rfl
  | raw v => cases v with
    | bool b => cases b <;> rfl
    | _ => rfl
  | _ => rfl

private theorem rank_canonical (a : Item) : a.canonical.rank = a.rank := by
  cases a <;> rfl

private theorem phrases_eq_iff {items others : List Item} (each : ∀ item ∈ items, ∀ other : Item,
    item.phrase = other.phrase ↔ item.canonical = other.canonical) :
    phrases items = phrases others ↔ canonicalAll items = canonicalAll others := by
  induction items generalizing others with
  | nil => cases others <;> simp [phrases, canonicalAll]
  | cons item rest ih =>
    obtain ⟨here, later⟩ := List.forall_mem_cons.mp each
    cases others with
    | nil => simp [phrases, canonicalAll]
    | cons other more => simp [phrases, canonicalAll, here other, ih later]

private theorem routePhrase_eq_iff {items others : List Phrase} {bounds bounds' : Rect Value} :
    routePhrase items bounds = routePhrase others bounds' ↔
      items = others ∧ bounds.map Value.canonical = bounds'.map Value.canonical := by
  simp [routePhrase, Phrase.record, Rect.phrase_eq_phrase_iff]

/-- Items have the same phrase exactly if they are the same up to the patterns for what is no
number. -/
theorem phrase_eq_phrase_iff : a.phrase = b.phrase ↔ a.canonical = b.canonical := by
  induction a using induction generalizing b with
  | item a ih =>
    by_cases ranks : a.rank = b.rank
    · cases a <;> cases b
      case step.step s t => simp [phrase, canonical, Step.phrase_eq_phrase_iff]
      case bareStep.bareStep => exact iff_of_true rfl rfl
      case point.point p q => simp [phrase, canonical, Point.phrase_eq_phrase_iff]
      case size.size s t => simp [phrase, canonical, Size.phrase_eq_phrase_iff]
      case rect.rect r s => simp [phrase, canonical, Rect.phrase_eq_phrase_iff]
      case color.color c d => simp [phrase, canonical, Color.phrase_eq_phrase_iff]
      case transform.transform s t => simp [phrase, canonical, Transform.phrase_eq_phrase_iff]
      case route.route items bounds others bounds' =>
        have parts : phrases items = phrases others ↔ canonicalAll items = canonicalAll others :=
          phrases_eq_iff fun item member _ => ih item member
        simp [phrase, canonical, routePhrase_eq_iff, parts]
      case image.image name items bounds name' others bounds' =>
        have parts : phrases items = phrases others ↔ canonicalAll items = canonicalAll others :=
          phrases_eq_iff fun item member _ => ih item member
        simp [phrase, canonical, Phrase.record, routePhrase_eq_iff, parts, String.toList_inj]
      case generator.generator g h => simp [phrase, canonical, Generator.phrase_inj]
      case settings.settings s t => simp [phrase, canonical, Settings.phraseFields_inj]
      case stepClass.stepClass k l => simp [phrase, canonical, kindPhrase_inj]
      case raw.raw v w => simp [phrase, canonical, Value.phrase_eq_phrase_iff]
      all_goals cases ranks
    · refine iff_of_false (fun same => ranks ?_) (fun same => ranks ?_)
      · rw [← phraseRank_phrase, same, phraseRank_phrase]
      · rw [← rank_canonical, same, rank_canonical]

private theorem map_rect_eq_self {r : Rect Value} {f : Value → Value}
    (same : ∀ v ∈ r.coordinates, f v = v) : r.map f = r := by
  simp_all [Rect.map, Rect.coordinates]

private theorem map_step_eq_self {s : Step Value} {f : Value → Value}
    (same : ∀ v ∈ s.coordinates, f v = v) : s.map f = s := by
  cases s <;> simp_all [Step.map, Step.coordinates, Point.map, Point.coordinates, Color.map,
    Rect.map, Transform.map]

private theorem canonicalAll_eq_self {items : List Item}
    (same : ∀ item ∈ items, item.canonical = item) :
    canonicalAll items = items := by
  induction items with
  | nil => rfl
  | cons item rest ih =>
    obtain ⟨here, later⟩ := List.forall_mem_cons.mp same
    rw [canonicalAll, here, ih later]

/-- An item in which every double is a number is left as it is. -/
theorem canonical_of_isNumbered (numbered : a.isNumbered) : a.canonical = a := by
  induction a using induction with
  | item a ih =>
    obtain ⟨values, parts⟩ := every_iff.mp numbered
    have same : ∀ v ∈ a.values, v.canonical = v := fun v here =>
      Value.canonical_of_isNumbered (values v here)
    have within : ∀ part ∈ a.parts, part.canonical = part := fun part here =>
      ih part here (parts part here)
    cases a with
    | step s => rw [canonical, map_step_eq_self same]
    | route items bounds | image name items bounds =>
      have row : canonicalAll items = items := canonicalAll_eq_self within
      rw [canonical, row, map_rect_eq_self same]
    | rect r => rw [canonical, map_rect_eq_self same]
    | raw v | point p | size s | color c | transform t =>
      simp_all [canonical, Item.values, Point.map, Point.coordinates, Size.map, Color.map,
        Transform.map]
    | bareStep | stepClass kind | generator g | settings s => rfl

/-- Items with the same text are the same item up to the patterns for what is no number, and only
these. So if all doubles in them are numbers, they are the same item, and they are equal. -/
theorem written_determines (a b : Item) :
    (a.written = b.written ↔ a.canonical = b.canonical) ∧
      (a.isNumbered → b.isNumbered → a.written = b.written →
        a = b ∧ (a.isProper → a.equal b)) := by
  have determined : a.written = b.written ↔ a.canonical = b.canonical := by
    rw [← phrase_eq_phrase_iff, ← String.toList_inj, toList_written, toList_written]
    exact Phrase.text_injective.eq_iff
  refine ⟨determined, fun numbered numberedOther same => ?_⟩
  have canonical := determined.mp same
  rw [canonical_of_isNumbered numbered, canonical_of_isNumbered numberedOther] at canonical
  exact ⟨canonical, fun proper => canonical ▸ (equal_self_iff proper).mpr numbered⟩

/-- Equal numbers of different kinds have different texts, and two patterns that stand for no number
have the same. -/
theorem written_determines_nestedRoute :
    let whole := nestedRoute (.int (2 ^ 53)) (.bool false) [("x", .int 1), ("y", .text "it's")]
    let mixed := nestedRoute (.double (.ofRank false (1076 * 2 ^ 52))) (.bool false)
      [("x", .int 1), ("y", .text "it's")]
    let none := nestedRoute (.double .nan) (.bool false) []
    let other := nestedRoute (.double ⟨true, 2 ^ 63 - 1, by decide⟩) (.bool false) []
    (whole.isNumbered ∧ mixed.isNumbered ∧ whole.isProper) ∧
      (whole.equal mixed ∧ whole.written ≠ mixed.written) ∧ whole.equal whole ∧
      none.written = other.written := by
  intro whole mixed none other
  have numbered : whole.isNumbered ∧ mixed.isNumbered := by decide +kernel
  have proper : whole.isProper := by decide +kernel
  refine ⟨⟨numbered.1, numbered.2, proper⟩, ⟨by decide +kernel, fun same => ?_⟩, ?_, ?_⟩
  · obtain ⟨identical, -⟩ := (written_determines whole mixed).2 numbered.1 numbered.2 same
    simp [whole, mixed, nestedRoute] at identical
  · exact ((written_determines whole whole).2 numbered.1 numbered.1 rfl).2 proper
  · exact (written_determines none other).1.mpr rfl

end Item

end DrawingCode
