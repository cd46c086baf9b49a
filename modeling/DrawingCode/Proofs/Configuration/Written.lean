import DrawingCode.Proofs.Configuration.Unquoted
import DrawingCode.Proofs.Markup.Section
import Mathlib.Data.List.Basic

/-! # Written settings

All settings can be written: every character of a text as the escape of its code, and no path as the
word for nothing. They are read back unchanged, whatever the texts are made of and in whatever order
the lines stand.
-/

namespace DrawingCode.Configuration

open Markup

/-- A text between quotes, every character of it in an escape with eight hexadecimal digits, small
ones or capitals. -/
def escaped (capital : Bool) (text : String) : String :=
  "\"" ++ String.ofList (text.toList.flatMap (Quoted.escape capital)) ++ "\""

def writtenValue (capital : Bool) (settings : Settings) : Key → String
  | .functionPrefix => escaped capital settings.functionPrefix
  | .headerPath => match settings.headerPath with
    | some path => escaped capital path
    | none => "null"
  | .toolName => escaped capital settings.toolName

def line (capital : Bool) (settings : Settings) (key : Key) : String :=
  "  " ++ key.name ++ ": " ++ writtenValue capital settings key

/-- The text of settings, with a line under every key. The last line can end or not. -/
def written (capital closed : Bool) (settings : Settings) (keys : List Key) : String :=
  "\n".intercalate ("generator:" :: keys.map (line capital settings)) ++
    if closed then "\n" else ""

/-! ## Spellings -/

def spelling (capital : Bool) (settings : Settings) : Key → Spelling
  | .functionPrefix => .escaped capital settings.functionPrefix.toList
  | .headerPath => match settings.headerPath with
    | some path => .escaped capital path.toList
    | none => .word "null".toList (by decide)
  | .toolName => .escaped capital settings.toolName.toList

def entry (capital : Bool) (settings : Settings) (key : Key) : Entry :=
  ⟨key.name.toList, spelling capital settings key, key.isIdentifier_name, by cases key <;> decide⟩

variable (capital closed : Bool) (settings : Settings)

private theorem toList_escaped (text : String) :
    (escaped capital text).toList = (Spelling.escaped capital text.toList).chars := by
  simp only [escaped, String.toList_append, String.toList_ofList]
  rfl

private theorem toList_writtenValue (key : Key) :
    (writtenValue capital settings key).toList = (spelling capital settings key).chars := by
  cases key with
  | functionPrefix | toolName => exact toList_escaped capital _
  | headerPath =>
    unfold writtenValue spelling
    cases settings.headerPath with
    | some path => exact toList_escaped capital path
    | none => rfl

private theorem toList_line (key : Key) :
    (line capital settings key).toList = List.replicate 2 ' ' ++
      (key.name.toList ++ ':' :: ' ' :: (spelling capital settings key).chars) := by
  simp only [line, String.toList_append, toList_writtenValue, List.append_assoc]
  rfl

private theorem intercalate_lines (before : List Char) (keys : List Key) :
    ['\n'].intercalate (before :: keys.map fun key => (line capital settings key).toList) ++
        (if closed then ['\n'] else []) =
      before ++ Entry.lines 2 closed (keys.map (entry capital settings)) := by
  induction keys generalizing before with
  | nil => simp [Entry.lines]
  | cons key keys ih =>
    rw [List.map_cons, List.intercalate_cons_cons, List.append_assoc, ih, toList_line]
    simp [Entry.lines, entry]

theorem toList_written (keys : List Key) :
    (written capital closed settings keys).toList =
      "generator".toList ++ ':' :: Entry.lines 2 closed (keys.map (entry capital settings)) := by
  have ending : (if closed then "\n" else "").toList = if closed then ['\n'] else [] := by
    cases closed <;> rfl
  rw [written, String.toList_append, String.toList_intercalate, ending, List.map_cons,
    List.map_map]
  exact intercalate_lines capital closed settings "generator:".toList keys

/-! ## Reading back -/

/-- The value of a setting in a document. -/
def datum (settings : Settings) : Key → Datum
  | .functionPrefix => .ofString settings.functionPrefix
  | .headerPath => (settings.headerPath.map .ofString).getD .null
  | .toolName => .ofString settings.toolName

private theorem datum_spelling (key : Key) :
    (spelling capital settings key).datum = datum settings key := by
  cases key with
  | functionPrefix | toolName => rfl
  | headerPath =>
    unfold spelling datum
    cases settings.headerPath with
    | some path => rfl
    | none => exact show wordDatum "null".toList = .null by decide

/-- Settings are found in any order of their entries. -/
theorem ofDocument_section (path : String) {first second third : Key}
    (apart : [first, second, third].Nodup) :
    ofDocument path (some (sectionDocument "generator".toList (entry capital settings first)
      (entry capital settings second) (entry capital settings third))) = .ok settings.loaded := by
  have isSection : wordDatum "generator".toList = .ofString "generator" := by decide
  have isName (key : Key) : wordDatum key.name.toList = .ofString key.name := by
    cases key <;> decide
  have isKey (key : Key) : wordDatum (entry capital settings key).key = .ofString key.name :=
    isName key
  have value (key : Key) : (entry capital settings key).value.datum = datum settings key :=
    datum_spelling capital settings key
  rw [sectionDocument, isSection]
  simp only [isKey, value]
  obtain ⟨functionPrefix, headerPath, toolName⟩ := settings
  cases first <;> cases second <;> cases third <;>
    first
      | exact absurd apart (by decide)
      | cases headerPath <;> rfl

/-- Settings are read back from their text and no others are, whatever they are made of and whatever
the order of the lines is. -/
theorem outcome_written (path : String) (capital closed : Bool) (settings : Settings)
    (keys : List Key) (each : keys.Perm [.functionPrefix, .headerPath, .toolName]) :
    (load path (.file (written capital closed settings keys).toUTF8)).outcome =
        .ok settings.loaded ∧
      ∀ other : Settings,
        (load path (.file (written capital closed settings keys).toUTF8)).outcome =
          .ok other.loaded → other = settings := by
  let text := written capital closed settings keys
  have apart : keys.Nodup := each.nodup_iff.mpr (by decide)
  obtain ⟨first, second, third, rfl⟩ := List.length_eq_three.mp each.length_eq
  have isSection : Text.IsIdentifier "generator".toList := by decide
  have reads : (load path (.file text.toUTF8)).outcome = .ok settings.loaded := by
    rw [outcome_toUTF8, ofText, toList_written, ofExcerpt]
    simp only [List.map_cons, List.map_nil]
    rw [Document.ofExcerpt?_section isSection (by decide) (by decide)]
    exact ofDocument_section capital settings path apart
  exact ⟨reads, fun other same =>
    Settings.loaded_inj.mp (Except.ok.inj (same.symm.trans reads))⟩

/-- Settings without a path, with a quote, a zero character, a line break and a character beyond the
first plane in the texts. -/
def withoutPath : Settings := ⟨"\"\x00\n", none, "😀"⟩

theorem outcome_written_withoutPath :
    [Key.toolName, .headerPath, .functionPrefix].Perm [.functionPrefix, .headerPath, .toolName] ∧
      (load "generator.yaml" (.file (written true true withoutPath
        [.toolName, .headerPath, .functionPrefix]).toUTF8)).outcome = .ok withoutPath.loaded := by
  have each : [Key.toolName, .headerPath, .functionPrefix].Perm
      [.functionPrefix, .headerPath, .toolName] := by decide
  exact ⟨each, (outcome_written "generator.yaml" true true withoutPath _ each).1⟩

example : written true true withoutPath [.toolName, .headerPath, .functionPrefix] =
    "generator:\n" ++
    "  tool_name: \"\\U0001F600\"\n" ++
    "  header_import_path: null\n" ++
    "  prefix: \"\\U00000022\\U00000000\\U0000000A\"\n" := by decide

end DrawingCode.Configuration
