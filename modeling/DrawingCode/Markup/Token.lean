import DrawingCode.Text.Character

/-! # Tokens of markup

A text is cut into tokens. Some stand for characters of the text; those that open and close block
collections stand for its indentation, and a key token for the colon that follows the key.
-/

namespace DrawingCode.Markup

/-- A line that begins with a percent sign. -/
inductive Directive where
  /-- The version of the markup. -/
  | version (major minor : Nat)
  /-- A short form for the beginnings of tags. -/
  | tagHandle (handle expansion : String)
  /-- Any other directive, which has no effect. -/
  | other
deriving DecidableEq

/-- A token. -/
inductive Token where
  | directive (d : Directive)
  | documentStart
  | documentEnd
  | streamEnd
  | blockSequenceStart
  | blockMappingStart
  | blockEnd
  | flowSequenceStart
  | flowSequenceEnd
  | flowMappingStart
  | flowMappingEnd
  | blockEntry
  | flowEntry
  | key
  | value
  | alias (name : String)
  | anchor (name : String)
  /-- A tag: a handle, if it has one, and the rest. -/
  | tag (handle : Option String) (suffix : String)
  /-- A scalar, and whether it is plain. -/
  | scalar (content : List Text.CodePoint) (plain : Bool)
deriving DecidableEq

end DrawingCode.Markup
