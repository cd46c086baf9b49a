import DrawingCode.Markup.Name
import DrawingCode.Markup.Scalar.Block
import DrawingCode.Markup.Scalar.Plain
import DrawingCode.Markup.Scalar.Quoted

/-! # Cutting a text into tokens

A scan walks through a text and keeps what it needs to see structure in indentation: the columns of
the block collections that are open, and for every level of brackets the token that would be a key
if a colon followed. Such a key stands on one line and is not longer than 1024 characters. When the
colon comes, the key token is put in before the key, and before it the start of a block mapping, if
one starts there. Whoever goes on looks at the character behind what has been taken.
-/

namespace DrawingCode.Markup

/-- A place in a text: how many characters, lines and columns come before it. -/
structure Place where
  index : Nat
  line : Nat
  column : Nat

namespace Place

/-- The place behind a character. A byte order mark takes no column. -/
def next (p : Place) (c : Char) : Place :=
  ⟨p.index + 1, if isBreak c then p.line + 1 else p.line,
    if isBreak c then 0 else if c = '\ufeff' then p.column else p.column + 1⟩

/-- The place behind a row of characters. -/
def advance (p : Place) (text : List Char) : Place := text.foldl next p

end Place

/-- What may turn out to be a key. -/
structure PendingKey where
  /-- How many tokens come before it. -/
  tokens : Nat
  /-- Whether nothing but a key can stand there. -/
  required : Bool
  place : Place

/-- The state of a scan. -/
structure Scan where
  /-- The fault behind the excerpt that is being cut. -/
  breach : Option Fault
  rest : List Char
  place : Place
  /-- The tokens so far, the last one first. -/
  tokens : List Token
  /-- How many tokens there are. -/
  count : Nat
  /-- The columns of the open block collections, the innermost one first. -/
  blocks : List Nat
  /-- Whether a key may start here. -/
  keyAllowed : Bool
  /-- What may be a key on the innermost level of brackets. -/
  pending : Option PendingKey
  /-- What may be keys on the levels of brackets around it. -/
  outer : List (Option PendingKey)

namespace Scan

/-- The state before an excerpt. -/
def start (e : Excerpt) : Scan := ⟨e.breach, e.chars, ⟨0, 0, 0⟩, [], 0, [], true, none, []⟩

def inFlow (s : Scan) : Bool := !s.outer.isEmpty

/-- The least column for further lines of a scalar. -/
def indent (s : Scan) : Nat := (s.blocks.head?.map (· + 1)).getD 0

/-- Goes on to a later rest of the text. -/
def moveTo (s : Scan) (rest : List Char) : Scan :=
  { s with rest, place := s.place.advance (s.rest.take (s.rest.length - rest.length)) }

def pass (s : Scan) (count : Nat) : Scan :=
  { s with rest := s.rest.drop count, place := s.place.advance (s.rest.take count) }

/-- Goes on behind all characters of a class. -/
def skip (s : Scan) (isMember : Char → Bool) : Scan :=
  { s with
    rest := s.rest.dropWhile isMember
    place := s.place.advance (s.rest.takeWhile isMember) }

def emit (s : Scan) (t : Token) : Scan := { s with tokens := t :: s.tokens, count := s.count + 1 }

/-- Puts a token in behind the first `place` tokens. -/
def insert (s : Scan) (place : Nat) (t : Token) : Scan :=
  let later := s.count - place
  { s with tokens := s.tokens.take later ++ t :: s.tokens.drop later, count := s.count + 1 }

/-- Closes the innermost block collections for as long as they are not to be kept. -/
def closeBlocks (keep : Nat → Bool) (s : Scan) : Scan :=
  let closed := s.blocks.takeWhile (!keep ·)
  { s with
    blocks := s.blocks.drop closed.length
    tokens := List.replicate closed.length .blockEnd ++ s.tokens
    count := s.count + closed.length }

/-- Closes the block collections that are indented further than the current column. -/
def unwind (s : Scan) : Scan :=
  if s.inFlow then s else s.closeBlocks (· ≤ s.place.column)

def unwindAll (s : Scan) : Scan := if s.inFlow then s else s.closeBlocks fun _ => false

/-- Whether a block collection at a column would be a new one. -/
def deeper (s : Scan) (column : Nat) : Bool := s.blocks.head?.all (· < column)

/-- Opens a block collection at the current column unless one is open there. -/
def openBlock (s : Scan) (t : Token) : Scan :=
  if s.deeper s.place.column then { s with blocks := s.place.column :: s.blocks }.emit t else s

/-- Whether a pending key can no longer be one. -/
def isStale (s : Scan) (k : PendingKey) : Bool :=
  k.place.line != s.place.line || 1024 < s.place.index - k.place.index

/-- Gives up a key that is not required. -/
def dropKey : Option PendingKey → Except Fault (Option PendingKey)
  | some k => if k.required then .error .malformed else .ok none
  | none => .ok none

/-- Gives up a pending key that can no longer be one. -/
def checkKey (s : Scan) (k : Option PendingKey) : Except Fault (Option PendingKey) :=
  if k.any s.isStale then dropKey k else .ok k

def checkKeys (s : Scan) : Except Fault Scan := do
  return { s with pending := ← s.checkKey s.pending, outer := ← s.outer.mapM s.checkKey }

def forgetKey (s : Scan) : Except Fault Scan := do
  return { s with pending := ← dropKey s.pending }

/-- Notes that the next token may be a key, if one may start here. -/
def saveKey (s : Scan) : Except Fault Scan :=
  if s.keyAllowed then do
    let s ← s.forgetKey
    let required := !s.inFlow && s.blocks.head? == some s.place.column
    return { s with pending := some ⟨s.count, required, s.place⟩ }
  else .ok s

def skipBlanks (s : Scan) : Scan :=
  let s := s.skip (· == ' ')
  if s.rest.head? = some '#' then s.skip (!isBreak ·) else s

/-- Skips spaces, comments and line breaks. Outside brackets a key may start on a new line. Every
round takes a line, so `fuel` need not exceed the length by more than one. -/
def skipGaps : Nat → Scan → Scan
  | 0, s => s
  | fuel + 1, s =>
    let s := s.skipBlanks
    if s.rest.head?.any isBreak then
      skipGaps fuel { s.pass 1 with keyAllowed := s.keyAllowed || !s.inFlow }
    else s

/-- Takes a number of characters that make up a token. -/
def take (s : Scan) (count : Nat) (t : Token) : Except Fault Scan := do
  let s := s.pass count
  look s.breach 1 s.rest
  return s.emit t

/-- A marker between documents, which closes all blocks. -/
def marker (s : Scan) (t : Token) : Except Fault Scan := do
  let s ← s.unwindAll.forgetKey
  take { s with keyAllowed := false } 3 t

def directive (s : Scan) : Except Fault Scan := do
  let s ← s.unwindAll.forgetKey
  let (d, rest) ← Name.directive s.breach (s.rest.drop 1)
  return ({ s with keyAllowed := false }.moveTo rest).emit (.directive d)

def openFlow (s : Scan) (t : Token) : Except Fault Scan := do
  let s ← s.saveKey
  take { s with keyAllowed := true, pending := none, outer := s.pending :: s.outer } 1 t

def closeFlow (s : Scan) (t : Token) : Except Fault Scan := do
  let s ← (← s.forgetKey).take 1 t
  match s.outer with
  | around :: outer => return { s with keyAllowed := false, pending := around, outer }
  | [] => .error .malformed

def flowEntry (s : Scan) : Except Fault Scan := do
  let s ← s.forgetKey
  take { s with keyAllowed := true } 1 .flowEntry

def blockEntry (s : Scan) : Except Fault Scan := do
  require (s.inFlow || s.keyAllowed)
  let s ← (if s.inFlow then s else s.openBlock .blockSequenceStart).forgetKey
  take { s with keyAllowed := true } 1 .blockEntry

/-- The question mark of a key. -/
def explicitKey (s : Scan) : Except Fault Scan := do
  require (s.inFlow || s.keyAllowed)
  let s ← (if s.inFlow then s else s.openBlock .blockMappingStart).forgetKey
  take { s with keyAllowed := !s.inFlow } 1 .key

/-- The colon before a value. The pending key becomes a key, if there is one. -/
def valueMark (s : Scan) : Except Fault Scan := do
  match s.pending with
  | some k =>
    let s := { s with pending := none, keyAllowed := false }.insert k.tokens .key
    if !s.inFlow && s.deeper k.place.column then
      let s := { s with blocks := k.place.column :: s.blocks }.insert k.tokens .blockMappingStart
      s.take 1 .value
    else s.take 1 .value
  | none =>
    require (s.inFlow || s.keyAllowed)
    let s := if s.inFlow then s else s.openBlock .blockMappingStart
    take { s with keyAllowed := !s.inFlow } 1 .value

/-- A token that may be a key, read by a reader. -/
def keyToken (s : Scan) (reading : Except Fault (Token × List Char)) : Except Fault Scan := do
  let s ← s.saveKey
  let (t, rest) ← reading
  return ({ s with keyAllowed := false }.moveTo rest).emit t

def quotedScalar (s : Scan) (double : Bool) : Except Fault Scan :=
  s.keyToken ((Quoted.read s.breach double (s.rest.drop 1)).map fun r => (.scalar r.1 false, r.2))

/-- A block scalar, behind which a key may start. -/
def blockScalar (s : Scan) (folded : Bool) : Except Fault Scan := do
  let s ← s.forgetKey
  match Block.read? folded s.indent (s.rest.drop 1) with
  | none => .error .malformed
  | some (content, rest) =>
    look s.breach 1 rest
    return ({ s with keyAllowed := true }.moveTo rest).emit
      (.scalar (Text.CodePoint.ofChars content) false)

/-- A plain scalar, behind which a key may start if a line has ended. -/
def plainScalar (s : Scan) : Except Fault Scan := do
  let s ← s.saveKey
  let r := Plain.read s.inFlow s.indent s.rest
  within s.breach r.overrun
  return ({ s with keyAllowed := r.brokeLine }.moveTo r.rest).emit
    (.scalar (Text.CodePoint.ofChars r.content) true)

/-- Whether a character is a mark outside brackets only if a gap follows it; a dash is so inside
brackets as well. -/
def needsGap (s : Scan) (c : Char) : Bool := c == '-' || !s.inFlow && (c == '?' || c == ':')

/-- Whether a plain scalar can begin with a character whatever follows it. -/
def isPlainStart (c : Char) : Bool :=
  !(isGap c || "-?:,[]\x7b\x7d#&*!|>'\"%@\x60".toList.contains c)

/-- A plain scalar, if a token can begin with a character that has this text behind it. -/
def plainToken (s : Scan) (c : Char) (rest : List Char) : Except Fault Scan :=
  if isPlainStart c then s.plainScalar
  else do
    look s.breach 2 s.rest
    if !atGap rest && s.needsGap c then s.plainScalar else .error .malformed

/-- Reads the token at the front of the text where no marker between documents is. -/
def readMark (s : Scan) (c : Char) (rest : List Char) : Except Fault Scan := do
  if s.needsGap c then look s.breach 2 s.rest
  if c == '[' then s.openFlow .flowSequenceStart
  else if c == '{' then s.openFlow .flowMappingStart
  else if c == ']' then s.closeFlow .flowSequenceEnd
  else if c == '}' then s.closeFlow .flowMappingEnd
  else if c == ',' then s.flowEntry
  else if c == '-' && atGap rest then s.blockEntry
  else if c == '?' && (s.inFlow || atGap rest) then s.explicitKey
  else if c == ':' && (s.inFlow || atGap rest) then s.valueMark
  else if c == '*' then s.keyToken ((Name.anchor s.breach rest).map fun r => (.alias r.1, r.2))
  else if c == '&' then s.keyToken ((Name.anchor s.breach rest).map fun r => (.anchor r.1, r.2))
  else if c == '!' then s.keyToken (Name.tag s.breach s.rest)
  else if c == '|' && !s.inFlow then s.blockScalar false
  else if c == '>' && !s.inFlow then s.blockScalar true
  else if c == '\'' then s.quotedScalar false
  else if c == '"' then s.quotedScalar true
  else s.plainToken c rest

def readToken (s : Scan) (c : Char) (rest : List Char) : Except Fault Scan :=
  if c == '%' && s.place.column == 0 then s.directive
  else if (c == '-' || c == '.') && s.place.column == 0 then do
    lookForMarker s.breach s.rest
    if atMarker s.rest then s.marker (if c == '-' then .documentStart else .documentEnd)
    else s.readMark c rest
  else s.readMark c rest

/-- The end of the text, which closes all blocks. -/
def finish (s : Scan) : Except Fault Scan := do
  return (← s.unwindAll.forgetKey).emit .streamEnd

end Scan

/-- The tokens that are settled: no pending key can be put in before them any more. -/
def Scan.settled (s : Scan) : List Token :=
  let live := (s.pending :: s.outer).filterMap fun k => k.filter (!s.isStale ·)
  s.tokens.reverse.take ((live.map (·.tokens)).foldl min s.count)

/-- The tokens of a text. Where the text is at fault, the settled tokens before the fault are
there. -/
structure Tokens where
  list : List Token
  fault : Option Fault

/-- Goes on to the next token. Pending keys are given up before and behind the gap, and blocks are
closed. -/
def Scan.ready (fuel : Nat) (s : Scan) : Except Fault Scan := do
  let s := (← s.checkKeys).skipGaps fuel
  look s.breach 1 s.rest
  return (← s.checkKeys).unwind

/-- Reads tokens to the end of the text; every round takes a character, so `fuel` need not exceed
the length by more than one. -/
def Scan.run : Nat → Scan → Tokens
  | 0, s => ⟨s.settled, some .malformed⟩
  | fuel + 1, s =>
    match s.ready (fuel + 1) with
    | .error e => ⟨s.settled, some e⟩
    | .ok ready =>
      match ready.rest with
      | [] => match ready.finish with
        | .ok last => ⟨last.tokens.reverse, none⟩
        | .error e => ⟨s.settled, some e⟩
      | c :: rest => match ready.readToken c rest with
        | .ok next => run fuel next
        | .error e => ⟨s.settled, some e⟩

/-- Cuts an excerpt into tokens. A byte order mark before the first line is skipped. -/
def Tokens.ofExcerpt (e : Excerpt) : Tokens :=
  let s := Scan.start e
  (if e.chars.head? = some '\ufeff' then s.pass 1 else s).run (e.chars.length + 1)

end DrawingCode.Markup
