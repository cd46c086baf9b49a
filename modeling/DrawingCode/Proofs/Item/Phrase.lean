import DrawingCode.Item.Written
import DrawingCode.Proofs.Item.Structure
import DrawingCode.Proofs.Value.Written

/-! # Phrases for items

The phrase for an item is a record of named fields, with the items of a route as a row in one of
them. The text of an item is the text of its phrase.
-/

namespace DrawingCode

open Text

namespace Text

/-- A record with named fields. -/
def Phrase.record (name : Word) (fields : List (Word × Phrase)) : Phrase :=
  .row (.record name) (fields.map fun field => .labelled (.name field.1) field.2)

private theorem toList_recordText {kind : String} {name : Word} {texts : List (String × String)}
    {fields : List (Word × Phrase)} (isName : kind.toList = name.chars)
    (same : List.Forall₂ (fun t f => t.1.toList = f.1.chars ∧ t.2.toList = f.2.text) texts fields) :
    (recordText kind texts).toList = (Phrase.record name fields).text := by
  have each : (texts.map fun field => field.1 ++ "=" ++ field.2).map String.toList =
      Phrase.texts (fields.map fun field => .labelled (.name field.1) field.2) := by
    induction same with
    | nil => rfl
    | cons here _ ih =>
      rw [List.map_cons, List.map_cons, ih, List.map_cons, Phrase.texts, Phrase.text, Label.text,
        ← here.1, ← here.2]
      simp
  simp [recordText, isName, String.toList_intercalate, each, Phrase.record, Phrase.text,
    Brackets.opening, Brackets.closing, Brackets.isSpaced, Brackets.ending, Brackets.closer]

end Text

def Point.phrase (p : Point Value) : Phrase :=
  .record (.of "Point") [(.of "x", p.x.phrase), (.of "y", p.y.phrase)]

def Size.phrase (s : Size Value) : Phrase :=
  .record (.of "Size") [(.of "width", s.width.phrase), (.of "height", s.height.phrase)]

def Rect.phrase (r : Rect Value) : Phrase :=
  .record (.of "Rect") [(.of "x", r.x.phrase), (.of "y", r.y.phrase), (.of "width", r.width.phrase),
    (.of "height", r.height.phrase)]

def Color.phrase (c : Color Value) : Phrase :=
  .record (.of "RGBColor") [(.of "red", c.red.phrase), (.of "green", c.green.phrase),
    (.of "blue", c.blue.phrase)]

def Transform.phrase (t : Transform Value) : Phrase :=
  .record (.of "AffineTransform") [(.of "a", t.a.phrase), (.of "b", t.b.phrase),
    (.of "c", t.c.phrase), (.of "d", t.d.phrase), (.of "tx", t.tx.phrase), (.of "ty", t.ty.phrase)]

def StepKind.word (kind : StepKind) : Word where
  chars := kind.name.toList
  nonempty := by cases kind <;> decide
  plain := List.forall_iff_forall_mem.mp (by cases kind <;> decide)

def Step.phraseFields : Step Value → List (Word × Phrase)
  | .moveTo point | .line point => [(.of "point", point.phrase)]
  | .curve first second target =>
    [(.of "c1", first.phrase), (.of "c2", second.phrase), (.of "end", target.phrase)]
  | .clip rule | .fill rule => [(.of "rule", .quoted rule.name.toList)]
  | .flatness value | .lineWidth value => [(.of "value", value.phrase)]
  | .nonStrokeColor color | .strokeColor color => [(.of "color", color.phrase)]
  | .appendRectangle rect => [(.of "rect", rect.phrase)]
  | .concatCTM transform => [(.of "transform", transform.phrase)]
  | .saveGState | .restoreGState | .closePath | .endPath | .nonStrokeColorSpace
  | .strokeColorSpace | .stroke => []

def Step.phrase (s : Step Value) : Phrase := .record s.kind.word s.phraseFields

/-- The phrase for a text that may be missing. -/
def optionPhrase : Option String → Phrase
  | some s => .quoted s.toList
  | none => Value.null.phrase

def Settings.phraseFields (s : Settings) : List (Word × Phrase) :=
  [(.of "prefix", .quoted s.functionPrefix.toList),
    (.of "header_import_path", optionPhrase s.headerPath),
    (.of "tool_name", .quoted s.toolName.toList)]

def Generator.phrase : Generator → Phrase
  | .implementation settings => .record (.of "ObjcCGGenerator") settings.phraseFields
  | .header functionPrefix toolName => .record (.of "ObjcHeaderCGGenerator")
    [(.of "prefix", .quoted functionPrefix.toList), (.of "tool_name", .quoted toolName.toList)]

def kindPhrase (kind : Option StepKind) : Phrase :=
  .row .kind [.quoted ("cggen.draw_ir.steps." ++ (kind.map (·.name)).getD bareStepName).toList]

def routePhrase (items : List Phrase) (bounds : Rect Value) : Phrase :=
  .record (.of "DrawRoute") [(.of "steps", .row .tuple items), (.of "bounding_rect", bounds.phrase)]

namespace Item

mutual

def phrase : Item → Phrase
  | step s => s.phrase
  | bareStep => .record (.of "DrawStep") []
  | stepClass kind => kindPhrase kind
  | raw v => v.phrase
  | point p => p.phrase
  | size s => s.phrase
  | rect r => r.phrase
  | color c => c.phrase
  | transform t => t.phrase
  | route items bounds => routePhrase (phrases items) bounds
  | image name items bounds => .record (.of "NamedImage")
    [(.of "name", .quoted name.toList), (.of "route", routePhrase (phrases items) bounds)]
  | generator g => g.phrase
  | settings s => .record (.of "GeneratorConfig") s.phraseFields

def phrases : List Item → List Phrase
  | [] => []
  | item :: rest => item.phrase :: phrases rest

end

end Item

/-! ## Texts -/

theorem Point.toList_written (p : Point Value) : p.written.toList = p.phrase.text :=
  toList_recordText rfl (by simp [Word.of, Value.toList_written])

theorem Size.toList_written (s : Size Value) : s.written.toList = s.phrase.text :=
  toList_recordText rfl (by simp [Word.of, Value.toList_written])

theorem Rect.toList_written (r : Rect Value) : r.written.toList = r.phrase.text :=
  toList_recordText rfl (by simp [Word.of, Value.toList_written])

theorem Color.toList_written (c : Color Value) : c.written.toList = c.phrase.text :=
  toList_recordText rfl (by simp [Word.of, Value.toList_written])

theorem Transform.toList_written (t : Transform Value) : t.written.toList = t.phrase.text :=
  toList_recordText rfl (by simp [Word.of, Value.toList_written])

private theorem toList_quoted (s : String) : (quoted s).toList = (Phrase.quoted s.toList).text :=
  String.toList_ofList

theorem Step.toList_written (s : Step Value) : s.written.toList = s.phrase.text := by
  apply toList_recordText rfl
  cases s <;> simp [writtenFields, phraseFields, Word.of, Value.toList_written,
    Point.toList_written, Rect.toList_written, Color.toList_written, Transform.toList_written,
    toList_quoted]

private theorem toList_writtenOption (s : Option String) :
    (writtenOption s).toList = (optionPhrase s).text := by
  cases s with
  | none => rfl
  | some s => exact toList_quoted s

theorem Generator.toList_written (g : Generator) : g.written.toList = g.phrase.text := by
  cases g <;> exact toList_recordText rfl (by simp [Settings.writtenFields, Settings.phraseFields,
    Word.of, toList_quoted, toList_writtenOption])

private theorem toList_tupleText {texts : List String} {items : List Phrase}
    (same : texts.map String.toList = Phrase.texts items) :
    (tupleText texts).toList = (Phrase.row .tuple items).text := by
  cases items with
  | nil =>
    obtain rfl : texts = [] := List.map_eq_nil_iff.mp same
    rfl
  | cons x items =>
    cases items with
    | nil =>
      obtain ⟨only, rfl, isText⟩ := List.map_eq_singleton_iff.mp same
      simp [tupleText, Phrase.text, Phrase.texts, Brackets.opening, Brackets.closing,
        Brackets.isSpaced, Brackets.ending, Brackets.closer, isText]
    | cons y items =>
      obtain ⟨first, others, rfl, -, later⟩ := List.map_eq_cons_iff.mp same
      obtain ⟨second, others, rfl, -, -⟩ := List.map_eq_cons_iff.mp later
      simp only [tupleText, Phrase.text, ← same]
      simp [Brackets.opening, Brackets.closing, Brackets.ending, Brackets.closer]

private theorem toList_routeText {texts : List String} {items : List Phrase}
    (same : texts.map String.toList = Phrase.texts items) (bounds : Rect Value) :
    (routeText texts bounds).toList = (routePhrase items bounds).text :=
  toList_recordText rfl (by simp [Word.of, toList_tupleText same, Rect.toList_written])

namespace Item

private theorem toList_kindText {opening path name closing : String}
    (isOpening : opening.toList = ['<', 'c', 'l', 'a', 's', 's', ' ', '\''] ++ path.toList)
    (isClosing : closing.toList = ['\'', '>']) (plain : ∀ c ∈ (path ++ name).toList, IsPlain c) :
    (opening ++ name ++ closing).toList =
      (Phrase.row .kind [.quoted (path ++ name).toList]).text := by
  simp only [Phrase.text, Phrase.texts, quotedChars_of_isPlain plain]
  simp [Brackets.opening, Brackets.closing, Brackets.isSpaced, Brackets.ending, Brackets.closer,
    isOpening, isClosing]

private theorem toList_written_stepClass (kind : Option StepKind) :
    (stepClass kind).written.toList = (kindPhrase kind).text := by
  refine toList_kindText (by decide) (by decide) ?_
  rw [String.toList_append, List.forall_mem_append]
  constructor
  · exact List.forall_iff_forall_mem.mp (by decide)
  · cases kind with
    | none => exact List.forall_iff_forall_mem.mp (by decide)
    | some kind => exact List.forall_iff_forall_mem.mp (by cases kind <;> decide)

private theorem map_toList_writtenAll {items : List Item}
    (same : ∀ item ∈ items, item.written.toList = item.phrase.text) :
    (writtenAll items).map String.toList = Phrase.texts (phrases items) := by
  induction items with
  | nil => rfl
  | cons item rest ih =>
    obtain ⟨here, later⟩ := List.forall_mem_cons.mp same
    rw [writtenAll, phrases, Phrase.texts, List.map_cons, here, ih later]

/-- The text of an item is that of its phrase. -/
theorem toList_written (a : Item) : a.written.toList = a.phrase.text := by
  induction a using induction with
  | item a ih =>
    cases a with
    | step s => exact s.toList_written
    | bareStep => exact toList_recordText rfl .nil
    | stepClass kind => exact toList_written_stepClass kind
    | raw v => exact v.toList_written
    | point p => exact p.toList_written
    | size s => exact s.toList_written
    | rect r => exact r.toList_written
    | color c => exact c.toList_written
    | transform t => exact t.toList_written
    | route items bounds => exact toList_routeText (map_toList_writtenAll ih) bounds
    | image name items bounds =>
      have route := toList_routeText (map_toList_writtenAll ih) bounds
      exact toList_recordText rfl (.cons ⟨rfl, toList_quoted name⟩ (.cons ⟨rfl, route⟩ .nil))
    | generator g => exact g.toList_written
    | settings s =>
      exact toList_recordText rfl (by
        simp [Settings.writtenFields, Settings.phraseFields, Word.of, toList_quoted,
          toList_writtenOption])

end Item

end DrawingCode
