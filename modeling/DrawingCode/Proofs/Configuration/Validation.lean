import DrawingCode.Proofs.Configuration
import DrawingCode.Proofs.Markup.Filling

/-! # Which documents hold settings

What a document is judged by is said without the order in which it is looked through: by what stands
under the keys of its mappings. A document either has settings, and they are those that stand there,
or exactly one fault is the first one in it. Other keys do not matter.
-/

namespace DrawingCode

open Markup
open Text (CodePoint)

namespace Markup.Document

/-- What stands under a textual key among entries, if anything. Of several entries with the key the
last one counts. -/
inductive Under (d : Document) (entries : List (Nat × Nat)) (key : String) :
    Option Datum → Prop where
  | absent (lacks : ∀ entry ∈ entries, d.datum? entry.1 ≠ some (.ofString key)) :
    Under d entries key none
  | present {earlier later : List (Nat × Nat)} {entry : Nat × Nat} {datum : Datum}
    (there : entries = earlier ++ entry :: later) (isKey : d.datum? entry.1 = some (.ofString key))
    (last : ∀ entry ∈ later, d.datum? entry.1 ≠ some (.ofString key))
    (value : d.datum? entry.2 = some datum) : Under d entries key (some datum)

variable {d : Document} {entries : List (Nat × Nat)} {key : String} {found : Option Datum}

theorem Under.find? (under : d.Under entries key found) : d.find? entries key = found := by
  cases under with
  | absent lacks =>
    have none : entries.reverse.find? (fun entry => d.datum? entry.1 == some (.ofString key)) =
        none := by
      simpa [List.find?_eq_none] using lacks
    rw [Document.find?, none]
    rfl
  | @present earlier later entry _ there isKey last value =>
    have reaches : entries.reverse.find? (fun entry => d.datum? entry.1 == some (.ofString key)) =
        some entry := by
      rw [List.find?_eq_some_iff_append]
      refine ⟨beq_iff_eq.mpr isKey, later.reverse, earlier.reverse, by simp [there], ?_⟩
      simpa using last
    rw [Document.find?, reaches]
    exact value

/-- Something is found under a key, or the key is not there. -/
theorem under_find? (valued : ∀ entry ∈ entries, (d.datum? entry.2).isSome) (key : String) :
    d.Under entries key (d.find? entries key) := by
  unfold Document.find?
  cases reaches : entries.reverse.find? fun entry => d.datum? entry.1 == some (.ofString key) with
  | none => exact .absent (by simpa [List.find?_eq_none] using reaches)
  | some entry =>
    obtain ⟨isKey, later, earlier, there, last⟩ := List.find?_eq_some_iff_append.mp reaches
    have there : entries = earlier.reverse ++ entry :: later.reverse := by
      rw [← entries.reverse_reverse, there]
      simp
    obtain ⟨datum, value⟩ := Option.isSome_iff_exists.mp (valued entry (by simp [there]))
    rw [Option.bind_some, value]
    exact .present there (beq_iff_eq.mp isKey) (by simpa using last) value

end Markup.Document

namespace Configuration

/-! ## Single settings -/

/-- The texts that what stands under a key can stand for. A key that is missing stands for a text of
its own. -/
inductive Textual (missing : String) : Option Datum → List CodePoint → Prop where
  | absent : Textual missing none (CodePoint.ofString missing)
  | text (points : List CodePoint) : Textual missing (some (.text points)) points

/-- What a path can be given as: by a text, by null or by nothing. -/
inductive Optional : Option Datum → Option (List CodePoint) → Prop where
  | absent : Optional none none
  | null : Optional (some .null) none
  | text (points : List CodePoint) : Optional (some (.text points)) (some points)

def NoText (datum : Datum) : Prop := ∀ points, datum ≠ .text points

variable {d : Document} {settings : List (Nat × Nat)} {key missing : String}

private theorem textOf_of_noText {datum : Datum} (noText : NoText datum) :
    textOf key datum = .error (.illTyped key datum.typeName) := by
  cases datum with
  | text points => exact absurd rfl (noText points)
  | _ => rfl

private theorem textAt_of_textual {found : Option Datum} {points : List CodePoint}
    (under : d.Under settings key found) (textual : Textual missing found points) :
    textAt d settings key missing = .ok points := by
  rw [textAt, under.find?]
  cases textual <;> rfl

private theorem textAt_of_noText {datum : Datum} (under : d.Under settings key (some datum))
    (noText : NoText datum) :
    textAt d settings key missing = .error (.illTyped key datum.typeName) := by
  rw [textAt, under.find?]
  exact textOf_of_noText noText

private theorem textAt?_of_optional {found : Option Datum} {points : Option (List CodePoint)}
    (under : d.Under settings key found) (optional : Optional found points) :
    textAt? d settings key = .ok points := by
  rw [textAt?, under.find?]
  cases optional <;> rfl

private theorem textAt?_of_noText {datum : Datum} (under : d.Under settings key (some datum))
    (notNull : datum ≠ .null) (noText : NoText datum) :
    textAt? d settings key = .error (.illTyped key datum.typeName) := by
  rw [textAt?, under.find?]
  cases datum with
  | null => exact absurd rfl notNull
  | _ => exact congrArg (Except.map some) (textOf_of_noText noText)

/-- What is found is a text to take, or a value that is none. -/
theorem textual_or_noText (missing : String) (found : Option Datum) :
    (∃ points, Textual missing found points) ∨ ∃ datum, found = some datum ∧ NoText datum := by
  match found with
  | none => exact .inl ⟨_, .absent⟩
  | some datum =>
    cases datum with
    | text points => exact .inl ⟨_, .text points⟩
    | _ => exact .inr ⟨_, rfl, fun _ => nofun⟩

private theorem optional_or_noText (found : Option Datum) :
    (∃ points, Optional found points) ∨
      ∃ datum, found = some datum ∧ datum ≠ .null ∧ NoText datum := by
  match found with
  | none => exact .inl ⟨_, .absent⟩
  | some datum =>
    cases datum with
    | null => exact .inl ⟨_, .null⟩
    | text points => exact .inl ⟨_, .text points⟩
    | _ => exact .inr ⟨_, rfl, nofun, fun _ => nofun⟩

/-! ## All settings -/

/-- How the entries of a mapping for settings are judged. The prefix counts first, then the path of
the header, then the name of the tool. -/
inductive SectionJudged (d : Document) (settings : List (Nat × Nat)) :
    Except ConfigurationFailure LoadedSettings → Prop where
  | settings {atPrefix atHeader atTool : Option Datum} {functionPrefix toolName : List CodePoint}
    {headerPath : Option (List CodePoint)}
    (underPrefix : d.Under settings prefixKey atPrefix)
    (underHeader : d.Under settings headerKey atHeader)
    (underTool : d.Under settings toolKey atTool)
    (isPrefix : Textual "" atPrefix functionPrefix) (isHeader : Optional atHeader headerPath)
    (isTool : Textual "cggen" atTool toolName) :
    SectionJudged d settings (.ok ⟨functionPrefix, headerPath, toolName⟩)
  | illTypedPrefix {datum : Datum} (underPrefix : d.Under settings prefixKey (some datum))
    (noText : NoText datum) :
    SectionJudged d settings (.error (.illTyped prefixKey datum.typeName))
  | illTypedHeader {atPrefix : Option Datum} {functionPrefix : List CodePoint} {datum : Datum}
    (underPrefix : d.Under settings prefixKey atPrefix)
    (isPrefix : Textual "" atPrefix functionPrefix)
    (underHeader : d.Under settings headerKey (some datum)) (notNull : datum ≠ .null)
    (noText : NoText datum) :
    SectionJudged d settings (.error (.illTyped headerKey datum.typeName))
  | illTypedTool {atPrefix atHeader : Option Datum} {functionPrefix : List CodePoint}
    {headerPath : Option (List CodePoint)} {datum : Datum}
    (underPrefix : d.Under settings prefixKey atPrefix)
    (isPrefix : Textual "" atPrefix functionPrefix)
    (underHeader : d.Under settings headerKey atHeader) (isHeader : Optional atHeader headerPath)
    (underTool : d.Under settings toolKey (some datum)) (noText : NoText datum) :
    SectionJudged d settings (.error (.illTyped toolKey datum.typeName))

variable {outcome : Except ConfigurationFailure LoadedSettings}

theorem SectionJudged.ofSection (judged : SectionJudged d settings outcome) :
    ofSection d settings = outcome := by
  unfold Configuration.ofSection
  cases judged with
  | settings underPrefix underHeader underTool isPrefix isHeader isTool =>
    rw [textAt_of_textual underPrefix isPrefix, textAt?_of_optional underHeader isHeader,
      defaultToolName, textAt_of_textual underTool isTool]
    rfl
  | illTypedPrefix underPrefix noText =>
    rw [textAt_of_noText underPrefix noText]
    rfl
  | illTypedHeader underPrefix isPrefix underHeader notNull noText =>
    rw [textAt_of_textual underPrefix isPrefix, textAt?_of_noText underHeader notNull noText]
    rfl
  | illTypedTool underPrefix isPrefix underHeader isHeader underTool noText =>
    rw [textAt_of_textual underPrefix isPrefix, textAt?_of_optional underHeader isHeader,
      textAt_of_noText underTool noText]
    rfl

/-- The first of the settings that is not as it should be decides. -/
theorem sectionJudged_ofSection (valued : ∀ entry ∈ settings, (d.datum? entry.2).isSome) :
    SectionJudged d settings (ofSection d settings) := by
  have under := Document.under_find? valued
  have judged : ∃ outcome, SectionJudged d settings outcome := by
    obtain ⟨_, isPrefix⟩ | ⟨_, atPrefix, noText⟩ :=
      textual_or_noText "" (d.find? settings prefixKey)
    · obtain ⟨_, isHeader⟩ | ⟨_, atHeader, notNull, noText⟩ :=
        optional_or_noText (d.find? settings headerKey)
      · obtain ⟨_, isTool⟩ | ⟨_, atTool, noText⟩ :=
          textual_or_noText "cggen" (d.find? settings toolKey)
        · exact ⟨_, .settings (under _) (under _) (under _) isPrefix isHeader isTool⟩
        · exact ⟨_, .illTypedTool (under _) isPrefix (under _) isHeader (atTool ▸ under _) noText⟩
      · exact ⟨_, .illTypedHeader (under _) isPrefix (atHeader ▸ under _) notNull noText⟩
    · exact ⟨_, .illTypedPrefix (atPrefix ▸ under _) noText⟩
  obtain ⟨outcome, judged⟩ := judged
  exact judged.ofSection ▸ judged

/-- Mappings with the same under the three keys are judged alike, whatever else is in them. -/
theorem SectionJudged.of_agree {d' : Document} {settings' : List (Nat × Nat)}
    (judged : SectionJudged d settings outcome)
    (agree : ∀ key ∈ [prefixKey, headerKey, toolKey], ∀ found,
      d.Under settings key found → d'.Under settings' key found) :
    SectionJudged d' settings' outcome := by
  have isPrefix := agree prefixKey (by simp)
  have isHeader := agree headerKey (by simp)
  have isTool := agree toolKey (by simp)
  cases judged with
  | settings atPrefix atHeader atTool functionPrefix headerPath toolName =>
    exact .settings (isPrefix _ atPrefix) (isHeader _ atHeader) (isTool _ atTool) functionPrefix
      headerPath toolName
  | illTypedPrefix atPrefix noText => exact .illTypedPrefix (isPrefix _ atPrefix) noText
  | illTypedHeader atPrefix functionPrefix atHeader notNull noText =>
    exact .illTypedHeader (isPrefix _ atPrefix) functionPrefix (isHeader _ atHeader) notNull noText
  | illTypedTool atPrefix functionPrefix atHeader headerPath atTool noText =>
    exact .illTypedTool (isPrefix _ atPrefix) functionPrefix (isHeader _ atHeader) headerPath
      (isTool _ atTool) noText

/-! ## Documents -/

/-- Nothing to look through: no document, or null. -/
inductive Nothing : Option Document → Prop where
  | noDocument : Nothing none
  | null {d : Document} (root : d.datum? d.root = some .null) : Nothing (some d)

def NoMapping (datum : Datum) : Prop := ∀ entries, datum ≠ .dict entries

/-- A document with a mapping for settings. -/
def HasSection (d : Document) (settings : List (Nat × Nat)) : Prop :=
  ∃ entries, d.datum? d.root = some (.dict entries) ∧
    d.Under entries sectionKey (some (.dict settings))

private theorem HasSection.sectionJudged (hasSection : HasSection d settings) (filled : d.Filled) :
    SectionJudged d settings (ofSection d settings) := by
  obtain ⟨_, _, present⟩ := hasSection
  cases present with
  | present _ _ _ value => exact sectionJudged_ofSection (filled.entries _ _ value)

/-- How the document in a file is judged. -/
inductive Judged (path : String) :
    Option Document → Except ConfigurationFailure LoadedSettings → Prop where
  | empty {document : Option Document} (nothing : Nothing document) :
    Judged path document (.error (.empty path))
  | notMapping {d : Document} {datum : Datum} (root : d.datum? d.root = some datum)
    (notNull : datum ≠ .null) (noMapping : NoMapping datum) :
    Judged path (some d) (.error (.notMapping path))
  | noSection {d : Document} {entries : List (Nat × Nat)}
    (root : d.datum? d.root = some (.dict entries)) (absent : d.Under entries sectionKey none) :
    Judged path (some d) (.error .noSection)
  | sectionNotMapping {d : Document} {entries : List (Nat × Nat)} {datum : Datum}
    (root : d.datum? d.root = some (.dict entries))
    (present : d.Under entries sectionKey (some datum)) (noMapping : NoMapping datum) :
    Judged path (some d) (.error .sectionNotMapping)
  | ofSection {d : Document} {settings : List (Nat × Nat)}
    {outcome : Except ConfigurationFailure LoadedSettings} (hasSection : HasSection d settings)
    (judged : SectionJudged d settings outcome) : Judged path (some d) outcome

variable {path : String} {document : Option Document}

theorem Judged.ofDocument (judged : Judged path document outcome) :
    ofDocument path document = outcome := by
  cases judged with
  | empty nothing =>
    cases nothing with
    | noDocument => rfl
    | null root => simp only [Configuration.ofDocument, root]
  | @notMapping d datum root notNull noMapping =>
    simp only [Configuration.ofDocument, root]
    cases datum with
    | null => exact absurd rfl notNull
    | dict entries => exact absurd rfl (noMapping entries)
    | _ => rfl
  | noSection root absent => simp only [Configuration.ofDocument, root, absent.find?]
  | @sectionNotMapping d entries datum root present noMapping =>
    simp only [Configuration.ofDocument, root, present.find?]
    cases datum with
    | dict settings => exact absurd rfl (noMapping settings)
    | _ => rfl
  | ofSection hasSection judged =>
    obtain ⟨entries, root, present⟩ := hasSection
    simp only [Configuration.ofDocument, root, present.find?]
    exact judged.ofSection

private theorem judged_ofDocument (filled : ∀ d ∈ document, d.Filled) :
    Judged path document (ofDocument path document) := by
  have judged : ∃ outcome, Judged path document outcome := by
    match document, filled with
    | none, _ => exact ⟨_, .empty .noDocument⟩
    | some d, filled =>
      have filled := filled d rfl
      obtain ⟨datum, root⟩ := Option.isSome_iff_exists.mp filled.root
      cases datum with
      | null => exact ⟨_, .empty (.null root)⟩
      | dict entries =>
        have under := Document.under_find? (filled.entries _ _ root) sectionKey
        cases found : d.find? entries sectionKey with
        | none => exact ⟨_, .noSection root (found ▸ under)⟩
        | some datum =>
          rw [found] at under
          cases datum with
          | dict settings =>
            have hasSection : HasSection d settings := ⟨entries, root, under⟩
            exact ⟨_, .ofSection hasSection (hasSection.sectionJudged filled)⟩
          | _ => exact ⟨_, .sectionNotMapping root under fun _ => nofun⟩
      | _ => exact ⟨_, .notMapping root nofun fun _ => nofun⟩
  obtain ⟨outcome, judged⟩ := judged
  exact judged.ofDocument ▸ judged

/-- Documents with the same under the keys of the settings, whatever else is in them. -/
def AgreeOnSettings (first second : Document) : Prop :=
  ∃ settings settings', HasSection first settings ∧ HasSection second settings' ∧
    ∀ key ∈ [prefixKey, headerKey, toolKey], ∀ found,
      first.Under settings key found → second.Under settings' key found

theorem Judged.isReported {failure : ConfigurationFailure}
    (judged : Judged path document (.error failure)) : failure.isReported :=
  (Ends.iff_outcomes.mp (ofDocument_reports path document)).2 failure judged.ofDocument

private theorem loaded_mem_log (path : String) (source : Source) :
    LogEvent.loaded ∈ (load path source).log ↔
      ∃ settings, (load path source).outcome = .ok settings := by
  cases source with
  | missing | directory => simp [load]
  | file bytes =>
    simp only [load]
    cases ofBytes path bytes <;> simp [Except.isOk, Except.toBool]

private theorem outcome_of_loads (path : String) {bytes : ByteArray}
    (loads : Document.ofExcerpt? (Excerpt.ofBytes bytes) = .ok document) :
    (load path (.file bytes)).outcome = ofDocument path document := by
  change ofExcerpt path (Excerpt.ofBytes bytes) = _
  rw [ofExcerpt, loads]

private theorem judged_of_loads (path : String) {bytes : ByteArray}
    (loads : Document.ofExcerpt? (Excerpt.ofBytes bytes) = .ok document) :
    Judged path document (load path (.file bytes)).outcome := by
  rw [outcome_of_loads path loads]
  refine judged_ofDocument fun d mem => ?_
  obtain rfl := mem
  exact Document.ofExcerpt?_filled loads

/-- A file with a document has the outcome that the document is judged by, and the log tells of the
settings exactly if there are any. All failures are reported, and of two documents only what stands
under the keys of the settings counts. -/
theorem outcome_iff_judged (path : String) (bytes : ByteArray) (document : Option Document)
    (loads : Document.ofExcerpt? (Excerpt.ofBytes bytes) = .ok document) :
    (∀ outcome, (load path (.file bytes)).outcome = outcome ↔ Judged path document outcome) ∧
    (∀ failure, (load path (.file bytes)).outcome = .error failure → failure.isReported) ∧
    (LogEvent.loaded ∈ (load path (.file bytes)).log ↔
      ∃ settings, (load path (.file bytes)).outcome = .ok settings) ∧
    ∀ other otherBytes first second, document = some first →
      Document.ofExcerpt? (Excerpt.ofBytes otherBytes) = .ok (some second) →
      AgreeOnSettings first second →
      (load other (.file otherBytes)).outcome = (load path (.file bytes)).outcome := by
  have judged := judged_of_loads path loads
  refine ⟨fun outcome => ⟨?_, ?_⟩, ?_, loaded_mem_log path _, ?_⟩
  · rintro rfl
    exact judged
  · intro expected
    rw [outcome_of_loads path loads, expected.ofDocument]
  · intro failure fails
    exact (fails ▸ judged).isReported
  · rintro other otherBytes first second rfl otherLoads
      ⟨settings, settings', hasSection, otherSection, agree⟩
    rw [outcome_of_loads other otherLoads, outcome_of_loads path loads]
    have judged := hasSection.sectionJudged (Document.ofExcerpt?_filled loads)
    exact (Judged.ofSection otherSection (judged.of_agree agree)).ofDocument.trans
      (Judged.ofSection hasSection judged).ofDocument.symm

/-- A mapping for settings that takes in another one and has a key twice then. -/
def takingIn : String :=
  "base: &b \x7bprefix: AB, tool_name: 3\x7d\n" ++
  "generator:\n" ++
  "  <<: *b\n" ++
  "  prefix: CD\n" ++
  "  other: [1, \x7b\x7d]\n"

/-- The document in it. -/
def takingInDocument : Document :=
  ⟨#[some (.dict [(1, 2), (7, 8)]), some (.ofString "base"), some (.dict [(3, 4), (5, 6)]),
    some (.ofString "prefix"), some (.ofString "AB"), some (.ofString "tool_name"), some .integer,
    some (.ofString "generator"), some (.dict [(3, 4), (5, 6), (10, 11), (12, 13)]), none,
    some (.ofString "prefix"), some (.ofString "CD"), some (.ofString "other"), some .list,
    some .integer, some (.dict [])], 0⟩

/-- A mapping for settings with half of a surrogate pair in it. -/
def halved : String := "generator:\n  prefix: \"\\uD800\"\n"

/-- The document in it. -/
def halvedDocument : Document :=
  ⟨#[some (.dict [(1, 2)]), some (.ofString "generator"), some (.dict [(3, 4)]),
    some (.ofString "prefix"), some (.text [.half 0xd800])], 0⟩

private theorem loads_of_ofChars {text : String}
    (loads : Document.ofExcerpt? (Excerpt.ofChars text.toList) = .ok document) :
    Document.ofExcerpt? (Excerpt.ofBytes text.toUTF8) = .ok document := by
  rw [Excerpt.ofBytes, fromUTF8?_toUTF8]
  exact loads

theorem outcome_iff_judged_takingIn :
    Document.ofExcerpt? (Excerpt.ofBytes takingIn.toUTF8) = .ok (some takingInDocument) ∧
      Judged "generator.yaml" (some takingInDocument) (.error (.illTyped toolKey "int")) ∧
      Document.ofExcerpt? (Excerpt.ofBytes halved.toUTF8) = .ok (some halvedDocument) ∧
      Judged "generator.yaml" (some halvedDocument)
        (.ok ⟨[.half 0xd800], none, CodePoint.ofString "cggen"⟩) := by
  have loads : Document.ofExcerpt? (Excerpt.ofBytes takingIn.toUTF8) =
      .ok (some takingInDocument) := loads_of_ofChars rfl
  have halfLoads : Document.ofExcerpt? (Excerpt.ofBytes halved.toUTF8) =
      .ok (some halvedDocument) := loads_of_ofChars rfl
  refine ⟨loads, ((outcome_iff_judged "generator.yaml" _ _ loads).1 _).mp ?_, halfLoads,
    ((outcome_iff_judged "generator.yaml" _ _ halfLoads).1 _).mp ?_⟩
  · exact outcome_of_loads "generator.yaml" loads
  · exact outcome_of_loads "generator.yaml" halfLoads

end Configuration

end DrawingCode
