import DrawingCode.Markup.Excerpt

/-! # Plain scalars

A plain scalar has no quotes. It ends where a colon or, inside brackets, a comma or a bracket ends
it, before a comment, and before a line that is indented too little or is a marker. Line breaks
inside it are folded: a single one becomes a space, and of several the first is dropped.
-/

namespace DrawingCode.Markup.Plain

/-- A scalar that has been read off the front of a text. -/
structure Reading where
  content : List Char
  rest : List Char
  /-- Whether a line has ended after the last word of the scalar. -/
  brokeLine : Bool
  /-- Whether characters behind the text have been looked at. -/
  overrun : Bool

/-- Whether a character ends a plain scalar inside brackets. -/
def isFlowEnd (c : Char) : Bool := ",?[]\x7b\x7d".toList.contains c

/-- Whether a colon with this text behind it ends a plain scalar. -/
def colonEnds (flow : Bool) (rest : List Char) : Bool :=
  atGap rest || flow && rest.head?.any fun c => isFlowEnd c && c != '?'

/-- The word at the front of a text, and what follows it. -/
def word (flow : Bool) : List Char → List Char × List Char
  | [] => ([], [])
  | c :: rest =>
    if isGap c || c == ':' && colonEnds flow rest || flow && isFlowEnd c then ([], c :: rest)
    else
      let (more, after) := word flow rest
      (c :: more, after)

/-- Whether a word is known to end before a text only by looking behind that text. -/
def wordOverrun (after : List Char) : Bool := after.isEmpty || after == [':']

/-- What stands between two words of a scalar. -/
structure Gap where
  /-- What the gap contributes to the scalar if another word follows. -/
  content : List Char
  rest : List Char
  brokeLine : Bool
  /-- How far the line behind the gap is indented, if a line has ended. -/
  column : Nat
  /-- Whether the gap ends at a marker between documents. -/
  marker : Bool
  /-- Whether characters behind the text have been looked at. -/
  overrun : Bool

/-- The line breaks at the front of a text, spaces between them aside. -/
def breaks (column : Nat) : List Char → Gap
  | [] => ⟨[], [], true, column, false, true⟩
  | c :: rest =>
    if c == ' ' then breaks (column + 1) rest
    else if isBreak c then
      let overrun := isShort (markerSpan rest) rest
      if atMarker rest then ⟨[], rest, true, 0, true, overrun⟩
      else
        let more := breaks 0 rest
        { more with content := breakChar c :: more.content, overrun := overrun || more.overrun }
    else ⟨[], c :: rest, true, column, false, false⟩

def gap (text : List Char) : Gap :=
  match skipSpaces text with
  | [] => ⟨text.takeWhile (· == ' '), [], false, 0, false, true⟩
  | c :: rest =>
    if isBreak c then
      let overrun := isShort (markerSpan rest) rest
      if atMarker rest then ⟨[], rest, true, 0, true, overrun⟩
      else
        let more := breaks 0 rest
        { more with
          content :=
            if breakChar c != '\n' then breakChar c :: more.content
            else if more.content.isEmpty then [' '] else more.content
          overrun := overrun || more.overrun }
    else ⟨text.takeWhile (· == ' '), c :: rest, false, 0, false, false⟩

/-- Whether a scalar cannot go on behind a gap. -/
def Gap.ends (g : Gap) (flow : Bool) (indent : Nat) : Bool :=
  g.marker || g.content.isEmpty || g.rest.head? == some '#' ||
    !flow && g.brokeLine && g.column < indent

/-- Reads words and gaps; every round takes a word, so `fuel` need not exceed the length. -/
def readWords (flow : Bool) (indent : Nat) : Nat → List Char → Reading
  | 0, text => ⟨[], text, false, false⟩
  | fuel + 1, text =>
    let (first, after) := word flow text
    if first.isEmpty then ⟨[], text, false, wordOverrun text⟩
    else
      let g := gap after
      let overrun := wordOverrun after || g.overrun
      if g.ends flow indent then ⟨first, g.rest, g.brokeLine, overrun⟩
      else
        let more := readWords flow indent fuel g.rest
        if more.content.isEmpty then ⟨first, g.rest, g.brokeLine, overrun || more.overrun⟩
        else
          ⟨first ++ g.content ++ more.content, more.rest, more.brokeLine, overrun || more.overrun⟩

/-- Reads the plain scalar at the front of a text. Outside brackets its further lines have to be
indented by `indent`. -/
def read (flow : Bool) (indent : Nat) (text : List Char) : Reading :=
  readWords flow indent text.length text

end DrawingCode.Markup.Plain
