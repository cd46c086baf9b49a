import DrawingCode.Proofs.Configuration
import DrawingCode.Proofs.Markup.Nested

/-! # Settings without quotes

A setting can be given by an identifier without quotes, and it is then this very text. The words of
the markup for truth values and for nothing are the only identifiers that are no texts, and for them
there is a failure or, if nothing is a setting as well, the setting is left out.
-/

namespace DrawingCode.Configuration

open Markup
open Text (IsIdentifier)

inductive Key where
  | functionPrefix
  | headerPath
  | toolName
deriving DecidableEq

namespace Key

def name : Key → String
  | functionPrefix => "prefix"
  | headerPath => "header_import_path"
  | toolName => "tool_name"

/-- The settings of which one is given. -/
def only (text : String) : Key → Settings
  | functionPrefix => ⟨text, none, "cggen"⟩
  | headerPath => ⟨"", some text, "cggen"⟩
  | toolName => ⟨"", none, text⟩

theorem isIdentifier_name (key : Key) : IsIdentifier key.name.toList := by
  cases key <;> decide

end Key

/-- The text that gives one setting by a word. -/
def textWith (key : Key) (word : String) : String :=
  "generator:\n  " ++ key.name ++ ": " ++ word ++ "\n"

/-- The words for truth values: small, with a capital, and in capitals. -/
def truthWords : List String :=
  ["yes", "no", "true", "false", "on", "off"].flatMap fun word =>
    [word, word.capitalize, word.toUpper]

/-- The words for nothing that are identifiers. -/
def nothingWords : List String := ["null", "Null", "NULL"]

private theorem truthWords_eq : truthWords = Plain.booleanWords := by decide +kernel

private theorem mem_nothingWords {word : String} (identifier : IsIdentifier word.toList) :
    word ∈ nothingWords ↔ word ∈ Plain.nullWords := by
  have noTilde : word ≠ "~" := by
    rintro rfl
    exact absurd ((Plain.isWord_of_isIdentifier identifier).letters '~' (by decide)) (by decide)
  have nonempty : word ≠ "" := by
    rintro rfl
    exact (Plain.isWord_of_isIdentifier identifier).nonempty rfl
  simp [nothingWords, Plain.nullWords, noTilde, nonempty]

/-! ## The document of a text -/

private theorem toList_textWith (key : Key) (word : String) :
    (textWith key word).toList = nested "generator".toList 2 key.name.toList word.toList := by
  change ("generator:\n  " ++ key.name ++ ": " ++ word ++ "\n").toList = _
  simp only [String.toList_append, List.append_assoc]
  rfl

private theorem ofText_textWith (path : String) (key : Key) {word : String}
    (identifier : IsIdentifier word.toList) :
    ofText path (textWith key word) =
      ofDocument path (some (nestedDocument "generator".toList key.name.toList word.toList)) := by
  have isSection : IsIdentifier "generator".toList := by decide
  have short : key.name.toList.length ≤ 1024 := by cases key <;> decide
  rw [ofText, toList_textWith, ofExcerpt, Document.ofExcerpt?_nested isSection
    key.isIdentifier_name identifier (by decide) short (by decide)]

/-- What is made of a word for a setting. -/
def settingsOf (key : Key) (word : String) : Except ConfigurationFailure LoadedSettings :=
  if word ∈ Plain.nullWords then
    match key with
    | .headerPath => .ok (Settings.loaded ⟨"", none, "cggen"⟩)
    | _ => .error (.illTyped key.name "NoneType")
  else if word ∈ Plain.booleanWords then .error (.illTyped key.name "bool")
  else .ok (key.only word).loaded

private theorem ofDocument_nested (path : String) (key : Key) (word : String) :
    ofDocument path (some (nestedDocument "generator".toList key.name.toList word.toList)) =
      settingsOf key word := by
  have isSection : wordDatum "generator".toList = .ofString "generator" := by decide
  have isKey : wordDatum key.name.toList = .ofString key.name := by cases key <;> decide
  rw [nestedDocument, isSection, isKey, wordDatum, String.ofList_toList]
  unfold settingsOf
  split_ifs <;> cases key <;> rfl

/-! ## Outcomes -/

/-- A failure that is reported and names the key of a setting and the kind of the value there. -/
def Refused (key : Key) (typeName : String)
    (outcome : Except ConfigurationFailure LoadedSettings) : Prop :=
  ∃ failure, outcome = .error failure ∧ failure.isReported ∧
    failure.message = "generator." ++ key.name ++ " must be a string, got " ++ typeName

private theorem refused_illTyped (key : Key) (typeName : String) :
    Refused key typeName (.error (.illTyped key.name typeName)) := by
  have begins : sectionKey ++ "." = "generator." := by decide
  refine ⟨_, rfl, rfl, ?_⟩
  change sectionKey ++ "." ++ key.name ++ " must be a string, got " ++ typeName = _
  rw [begins]

/-- A setting that is given by an identifier without quotes is this identifier, unless that is a
word for a truth value or for nothing. -/
theorem outcome_textWith (path : String) (key : Key) (word : String)
    (identifier : IsIdentifier word.toList) :
    (word ∈ truthWords →
      Refused key "bool" (load path (.file (textWith key word).toUTF8)).outcome) ∧
    (word ∈ nothingWords → key ≠ .headerPath →
      Refused key "NoneType" (load path (.file (textWith key word).toUTF8)).outcome) ∧
    (word ∈ nothingWords → key = .headerPath →
      (load path (.file (textWith key word).toUTF8)).outcome =
        .ok (Settings.loaded ⟨"", none, "cggen"⟩)) ∧
    (word ∉ truthWords → word ∉ nothingWords →
      (load path (.file (textWith key word).toUTF8)).outcome = .ok (key.only word).loaded) := by
  rw [outcome_toUTF8, ofText_textWith path key identifier, ofDocument_nested, truthWords_eq,
    mem_nothingWords identifier]
  unfold settingsOf
  have apart : word ∈ Plain.booleanWords → word ∉ Plain.nullWords := by
    have all : ∀ truth ∈ Plain.booleanWords, truth ∉ Plain.nullWords := by decide
    exact all word
  refine ⟨fun truth => ?_, fun null notHeader => ?_, fun null header => ?_,
    fun noTruth noNull => ?_⟩
  · rw [if_neg (apart truth), if_pos truth]
    exact refused_illTyped key "bool"
  · rw [if_pos null]
    cases key with
    | headerPath => exact absurd rfl notHeader
    | functionPrefix | toolName => exact refused_illTyped _ "NoneType"
  · rw [if_pos null, header]
  · rw [if_neg noNull, if_neg noTruth]

/-- A prefix of two letters can be a word for a truth value. -/
theorem outcome_textWith_no : IsIdentifier "NO".toList ∧
    Refused .functionPrefix "bool"
      (load "generator.yaml" (.file (textWith .functionPrefix "NO").toUTF8)).outcome := by
  have identifier : IsIdentifier "NO".toList := by decide
  exact ⟨identifier, (outcome_textWith "generator.yaml" .functionPrefix "NO" identifier).1
    (by decide +kernel)⟩

end DrawingCode.Configuration
