import DrawingCode.Configuration
import DrawingCode.Proofs.Markup.Composition
import DrawingCode.Proofs.Markup.Scan
import DrawingCode.Proofs.Markup.Valuation

/-! # How the reading of a configuration fails

A file whose bytes are a text gives settings, or a failure that is reported as one of the
configuration, unless something that keeps the rules of the markup cannot be followed or has no
value. There are few such things, and each can be found in the text or in the graph of its document.
-/

namespace DrawingCode

open Markup

namespace Configuration

/-- A reading that fails only with failures that are reported. -/
def Reports {α : Type} : Except ConfigurationFailure α → Prop :=
  Ends (fun _ => True) fun failure => failure.isReported

private theorem textOf_reports (key : String) (datum : Datum) : Reports (textOf key datum) := by
  unfold textOf
  split
  · trivial
  · rfl

private theorem textAt_reports (document : Document) (entries : List (Nat × Nat))
    (key missing : String) :
    Reports (textAt document entries key missing) := by
  unfold textAt
  split
  · trivial
  · exact textOf_reports key _

private theorem textAt?_reports (document : Document) (entries : List (Nat × Nat)) (key : String) :
    Reports (textAt? document entries key) := by
  unfold textAt?
  split
  · trivial
  · trivial
  · exact (textOf_reports key _).map fun _ _ => trivial

private theorem ofSection_reports (document : Document) (entries : List (Nat × Nat)) :
    Reports (ofSection document entries) :=
  (textAt_reports ..).bind fun _ _ => (textAt?_reports ..).bind fun _ _ =>
    (textAt_reports ..).bind fun _ _ => trivial

/-- What is wrong with a document is reported. -/
theorem ofDocument_reports (path : String) (document : Option Document) :
    Reports (ofDocument path document) := by
  unfold ofDocument
  split
  · rfl
  · split
    · rfl
    · rfl
    · split
      · exact ofSection_reports ..
      · rfl
      · rfl
    · rfl

private theorem outcome_of_decodes (path : String) {bytes : ByteArray} {text : String}
    (decodes : String.fromUTF8? bytes = some text) :
    (load path (.file bytes)).outcome = ofText path text := by
  change ofExcerpt path (Excerpt.ofBytes bytes) = ofText path text
  rw [Excerpt.ofBytes, decodes]
  rfl

theorem fromUTF8?_toUTF8 (text : String) : String.fromUTF8? text.toUTF8 = some text :=
  dif_pos text.isValidUTF8

/-- A file that a text has been written to holds the settings in the text. -/
theorem outcome_toUTF8 (path text : String) :
    (load path (.file text.toUTF8)).outcome = ofText path text :=
  outcome_of_decodes path (fromUTF8?_toUTF8 text)

end Configuration

end DrawingCode
