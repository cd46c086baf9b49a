import DrawingCode.Markup.Character

/-! # Block scalars

A block scalar is a row of lines that are indented further than what is around it. Its header says
whether line breaks are folded, what becomes of those at the end, and how far the lines are
indented, where that is not to be read off the first line that has any text.
-/

namespace DrawingCode.Markup.Block

/-- What a header says about the line breaks at the end of a scalar. -/
inductive Chomping where
  /-- No break is kept. -/
  | strip
  /-- One break is kept. -/
  | clip
  /-- All breaks are kept. -/
  | keep
deriving DecidableEq

/-- The header of a block scalar, and what follows it. -/
structure Header where
  chomping : Chomping
  /-- How much further than its surroundings the scalar is indented. -/
  increment : Option Nat
  rest : List Char

/-- The chomping that a sign asks for. -/
def chomping? : Char → Option Chomping
  | '+' => some .keep
  | '-' => some .strip
  | _ => none

/-- The increment that a digit asks for; it is not zero. -/
def increment? (c : Char) : Option Nat :=
  if c.isDigit ∧ c ≠ '0' then some (c.toNat - '0'.toNat) else none

/-- The indicators at the front of a header, a sign and a digit in either order. -/
def indicators : List Char → Header
  | first :: rest =>
    match chomping? first, increment? first with
    | some chomping, _ =>
      match rest with
      | second :: more => match increment? second with
        | some n => ⟨chomping, some n, more⟩
        | none => ⟨chomping, none, rest⟩
      | [] => ⟨chomping, none, rest⟩
    | none, some n =>
      match rest with
      | second :: more => match chomping? second with
        | some chomping => ⟨chomping, some n, more⟩
        | none => ⟨.clip, some n, rest⟩
      | [] => ⟨.clip, some n, rest⟩
    | none, none => ⟨.clip, none, first :: rest⟩
  | [] => ⟨.clip, none, []⟩

/-- The header at the front of a text, up to the start of the next line. -/
def header? (text : List Char) : Option Header :=
  let h := indicators text
  if atSpace h.rest then (restOfLine? h.rest).map fun rest => { h with rest } else none

/-- Empty lines at the front of a text. -/
structure Lead where
  breaks : List Char
  /-- How far the line behind them has been read, all of it spaces. -/
  column : Nat
  rest : List Char

/-- The empty lines at the front of a text, of every line at most `indent` spaces. -/
def lead (indent column : Nat) : List Char → Lead
  | [] => ⟨[], column, []⟩
  | c :: rest =>
    if c == ' ' && column < indent then lead indent (column + 1) rest
    else if isBreak c then
      let more := lead indent 0 rest
      { more with breaks := breakChar c :: more.breaks }
    else ⟨[], column, c :: rest⟩

/-- The greatest indentation among the lines up to the first that has any text. -/
def deepest (column : Nat) : List Char → Nat
  | [] => 0
  | c :: rest =>
    if c == ' ' then max (column + 1) (deepest (column + 1) rest)
    else if isBreak c then deepest 0 rest
    else 0

/-- The lines of a block scalar. -/
structure Body where
  content : List Char
  /-- The break of the last line. -/
  lastBreak : List Char
  /-- The breaks of the empty lines behind it. -/
  tail : List Char
  rest : List Char

/-- What joins a line to the next one: a folded break between lines that begin with a word is a
space, or nothing before empty lines; every other break stays. -/
def joint (folded : Bool) (line lineBreak breaks next : List Char) : List Char :=
  if folded && lineBreak == ['\n'] && !line.head?.any isSpace && !next.head?.any isSpace then
    if breaks.isEmpty then [' '] else []
  else lineBreak

/-- Reads the lines that are indented by `indent`; every round takes a line, so `fuel` need not
exceed the length. -/
def readLines (folded : Bool) (indent : Nat) : Nat → Lead → Body
  | 0, before => ⟨[], [], before.breaks, before.rest⟩
  | fuel + 1, before =>
    if before.column = indent ∧ before.rest ≠ [] then
      let line := before.rest.takeWhile (!isBreak ·)
      let after := before.rest.dropWhile (!isBreak ·)
      let lineBreak := (after.take 1).map breakChar
      let next := lead indent 0 (after.drop 1)
      if next.column = indent ∧ next.rest ≠ [] then
        let more := readLines folded indent fuel next
        let glue := joint folded line lineBreak next.breaks next.rest
        { more with content := before.breaks ++ line ++ glue ++ more.content }
      else ⟨before.breaks ++ line, lineBreak, next.breaks, next.rest⟩
    else ⟨[], [], before.breaks, before.rest⟩

/-- Reads the block scalar whose indicator stands just before a text. Its lines are indented by one
space at least and by `indent`, how far its surroundings ask for. -/
def read? (folded : Bool) (indent : Nat) (text : List Char) : Option (List Char × List Char) := do
  let h ← header? text
  let least := max 1 indent
  let depth := match h.increment with
    | some n => least + n - 1
    | none => max least (deepest 0 h.rest)
  let body := readLines folded depth h.rest.length (lead depth 0 h.rest)
  let ending := match h.chomping with
    | .strip => []
    | .clip => body.lastBreak
    | .keep => body.lastBreak ++ body.tail
  return (body.content ++ ending, body.rest)

end DrawingCode.Markup.Block
