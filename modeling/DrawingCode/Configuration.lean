import DrawingCode.Log
import DrawingCode.Markup.Document
import DrawingCode.Settings

/-! # Configuration files

The settings of a run stand in a mapping under the key `generator` of a markup document. Every one
of them can be left out, none but the path of the header can be null, and other keys do not count.
The first thing that is wrong is reported, in the order in which the parts are looked at. What is
loaded are the texts of the document as they are, with the halves of surrogate pairs in them.
-/

namespace DrawingCode

/-- Settings as they are loaded, with texts that can hold halves of surrogate pairs. -/
structure LoadedSettings where
  functionPrefix : List Text.CodePoint
  headerPath : Option (List Text.CodePoint)
  toolName : List Text.CodePoint
deriving DecidableEq

def Settings.loaded (s : Settings) : LoadedSettings :=
  ⟨Text.CodePoint.ofString s.functionPrefix, s.headerPath.map Text.CodePoint.ofString,
    Text.CodePoint.ofString s.toolName⟩

theorem Settings.loaded_inj {s t : Settings} : s.loaded = t.loaded ↔ s = t := by
  obtain ⟨functionPrefix, headerPath, toolName⟩ := s
  obtain ⟨otherPrefix, otherPath, otherTool⟩ := t
  cases headerPath <;> cases otherPath <;> simp [loaded, Text.CodePoint.ofString_inj]

/-- What is found where a configuration file is looked for. -/
inductive Source where
  | missing
  | directory
  | file (bytes : ByteArray)

/-- Why no settings can be read. -/
inductive ConfigurationFailure where
  | missing (path : String)
  | directory (path : String)
  /-- The file is no text or no document, or a scalar in it has no value. -/
  | markup (path : String) (fault : Markup.Fault)
  | empty (path : String)
  | notMapping (path : String)
  /-- The key that the settings stand under is not there. -/
  | noSection
  | sectionNotMapping
  /-- A setting has a value of a kind that it cannot have. -/
  | illTyped (key typeName : String)
deriving DecidableEq

namespace Configuration

/-- The key that the settings stand under. -/
def sectionKey : String := "generator"

def prefixKey : String := "prefix"

def headerKey : String := "header_import_path"

def toolKey : String := "tool_name"

end Configuration

def ConfigurationFailure.message : ConfigurationFailure → String
  | missing path => "Configuration file not found: " ++ path
  | directory path => "[Errno 21] Is a directory: " ++ Text.quoted path
  | markup path .malformed => "Failed to parse YAML file " ++ path
  | markup _ fault => fault.message
  | empty path => "Empty configuration file: " ++ path
  | notMapping path => "Configuration root must be a mapping: " ++ path
  | noSection =>
    "Missing required configuration key: " ++ Text.quoted Configuration.sectionKey
  | sectionNotMapping => Configuration.sectionKey ++ " section must be a mapping"
  | illTyped key typeName =>
    Configuration.sectionKey ++ "." ++ key ++ " must be a string, got " ++ typeName

/-- Whether a failure is reported as one of the configuration. A path at which there is no file to
read has a failure of its own, and so have faults of markup other than those of its form. -/
def ConfigurationFailure.isReported : ConfigurationFailure → Bool
  | missing _ | directory _ => false
  | markup _ fault => fault = .malformed
  | empty _ | notMapping _ | noSection | sectionNotMapping | illTyped _ _ => true

namespace Configuration

open Markup
open Text (CodePoint)

/-- The text that a setting has to be. -/
def textOf (key : String) : Datum → Except ConfigurationFailure (List CodePoint)
  | .text points => .ok points
  | other => .error (.illTyped key other.typeName)

/-- A text under a key, or what stands for it where the key is missing. -/
def textAt (document : Document) (entries : List (Nat × Nat)) (key missing : String) :
    Except ConfigurationFailure (List CodePoint) :=
  match document.find? entries key with
  | none => .ok (CodePoint.ofString missing)
  | some datum => textOf key datum

/-- A text under a key, if there is one; null is none. -/
def textAt? (document : Document) (entries : List (Nat × Nat)) (key : String) :
    Except ConfigurationFailure (Option (List CodePoint)) :=
  match document.find? entries key with
  | none | some .null => .ok none
  | some datum => (textOf key datum).map some

def ofSection (document : Document) (entries : List (Nat × Nat)) :
    Except ConfigurationFailure LoadedSettings := do
  let functionPrefix ← textAt document entries prefixKey ""
  let headerPath ← textAt? document entries headerKey
  let toolName ← textAt document entries toolKey defaultToolName
  return ⟨functionPrefix, headerPath, toolName⟩

/-- The settings in a document. A file without a document counts as null. -/
def ofDocument (path : String) : Option Document → Except ConfigurationFailure LoadedSettings
  | none => .error (.empty path)
  | some document => match document.datum? document.root with
    | none | some .null => .error (.empty path)
    | some (.dict entries) => match document.find? entries sectionKey with
      | some (.dict settings) => ofSection document settings
      | some _ => .error .sectionNotMapping
      | none => .error .noSection
    | some _ => .error (.notMapping path)

def ofExcerpt (path : String) (e : Excerpt) : Except ConfigurationFailure LoadedSettings :=
  match Document.ofExcerpt? e with
  | .error fault => .error (.markup path fault)
  | .ok document => ofDocument path document

def ofText (path text : String) : Except ConfigurationFailure LoadedSettings :=
  ofExcerpt path (Excerpt.ofChars text.toList)

def ofBytes (path : String) (bytes : ByteArray) : Except ConfigurationFailure LoadedSettings :=
  ofExcerpt path (Excerpt.ofBytes bytes)

/-- The file that is read where no other is given. -/
def shipped : String :=
  "# Default code generation settings.\n" ++
  "generator:\n" ++
  "  # Written into the \"// Generated by\" comment of every file.\n" ++
  "  tool_name: cggen\n" ++
  "  # Prepended to function names: <prefix>Draw<Name>ImageInContext.\n" ++
  "  prefix: \"\"\n" ++
  "  # Header imported by the implementation file; null imports CoreGraphics.\n" ++
  "  header_import_path: null\n"

def shippedSource : Source := .file shipped.toUTF8

/-- The outcome of reading a configuration, and the log of it. -/
structure Loading where
  outcome : Except ConfigurationFailure LoadedSettings
  log : List LogEvent

/-- Reads the configuration that is found at a path. -/
def load (path : String) : Source → Loading
  | .missing => ⟨.error (.missing path), []⟩
  | .directory => ⟨.error (.directory path), [.loading path]⟩
  | .file bytes =>
    let outcome := ofBytes path bytes
    ⟨outcome, .loading path :: if outcome.isOk then [.loaded] else []⟩

end Configuration

end DrawingCode
