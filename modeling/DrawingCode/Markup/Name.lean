import DrawingCode.Markup.Excerpt
import DrawingCode.Markup.Token

/-! # Names in markup

Anchors and aliases are named, tags are spelled with a handle or in full, and directives give the
version of the markup or a handle for tags. Each reader gets the text behind the indicator and
gives back what it has read and the rest of the text. It stops at the first thing that is at fault,
be it in the text or behind the excerpt.
-/

namespace DrawingCode.Markup.Name

def endsAnchor (c : Char) : Bool := isGap c || "?:,]\x7d%@\x60".toList.contains c

/-- The characters of a name at the front of a text. The character behind them is looked at. -/
def nameChars (breach : Option Fault) (text : List Char) :
    Except Fault (List Char × List Char) := do
  let rest := text.dropWhile isNameChar
  look breach 1 rest
  return (text.takeWhile isNameChar, rest)

def anchor (breach : Option Fault) (text : List Char) : Except Fault (String × List Char) := do
  let (name, rest) ← nameChars breach text
  require (!name.isEmpty && rest.head?.all endsAnchor)
  return (String.ofList name, rest)

/-- Whether a character may stand in the spelling of a tag, other than a percent sign. -/
def isTagChar (c : Char) : Bool := c.isAlphanum || "-;/?:@&=+$,_.!~*'()[]".toList.contains c

/-- The text that the bytes of some escapes stand for, given the last one first. -/
def escapedText (bytes : List UInt8) : Except Fault (List Char) :=
  match String.fromUTF8? ⟨bytes.reverse.toArray⟩ with
  | some text => .ok text.toList
  | none => .error .malformed

/-- Puts characters before what has been read. -/
def prepend (text : List Char) (reading : Except Fault (List Char × List Char)) :
    Except Fault (List Char × List Char) :=
  reading.map fun r => (text ++ r.1, r.2)

/-- The text that the spelling of a tag stands for. An escape, a percent sign with two hexadecimal
digits, is one byte; `bytes` are those of the escapes just before, the last one first. -/
def spelling (breach : Option Fault) (bytes : List UInt8) :
    List Char → Except Fault (List Char × List Char)
  | [] => do
    look breach 1 []
    return (← escapedText bytes, [])
  | '%' :: a :: b :: rest =>
    match hexNumber? [a, b] with
    | some n => spelling breach (UInt8.ofNat n :: bytes) rest
    | none => .error .malformed
  | c :: rest => do
    if c = '%' then .error (if rest.all fun d => (hexValue? d).isSome then endFault breach
      else .malformed)
    else
      let text ← escapedText bytes
      if isTagChar c then prepend (text ++ [c]) (spelling breach [] rest)
      else .ok (text, c :: rest)

/-- The text that the spelling of a tag stands for; the spelling has a character at least. -/
def tagText (breach : Option Fault) (text : List Char) : Except Fault (String × List Char) := do
  look breach 1 text
  require (text.head?.any fun c => isTagChar c || c == '%')
  let (content, rest) ← spelling breach [] text
  return (String.ofList content, rest)

/-- A handle for tags: one exclamation mark, or a name between two. -/
def handle (breach : Option Fault) (text : List Char) : Except Fault (String × List Char) := do
  look breach 1 text
  match text with
  | '!' :: rest =>
    look breach 1 rest
    if rest.head? = some ' ' then return ("!", rest)
    else
      let (name, rest) ← nameChars breach rest
      match rest with
      | '!' :: after =>
        look breach 1 after
        return (String.ofList ('!' :: (name ++ ['!'])), after)
      | _ => .error .malformed
  | _ => .error .malformed

/-- A tag in full, between angle brackets, of which the first is before the text. -/
def fullTag (breach : Option Fault) (text : List Char) : Except Fault (Token × List Char) := do
  let (name, rest) ← tagText breach text
  match rest with
  | '>' :: after =>
    look breach 1 after
    return (.tag none name, after)
  | _ => .error .malformed

/-- A tag with a handle, which is an exclamation mark unless another one follows before a space. -/
def shortTag (breach : Option Fault) (text : List Char) : Except Fault (Token × List Char) := do
  let word := (text.drop 1).takeWhile fun c => !(c == ' ' || isBreak c)
  if word.contains '!' then
    let (handle, rest) ← handle breach text
    let (suffix, rest) ← tagText breach rest
    return (.tag (some handle) suffix, rest)
  else
    look breach (word.length + 2) text
    let (suffix, rest) ← tagText breach (text.drop 1)
    return (.tag (some "!") suffix, rest)

/-- The tag at the front of a text, an exclamation mark first, up to a space. -/
def tag (breach : Option Fault) (text : List Char) : Except Fault (Token × List Char) := do
  look breach 2 text
  let (token, rest) ← match text with
    | _ :: '<' :: rest => fullTag breach rest
    | _ :: rest => if atGap rest then .ok (.tag none "!", rest) else shortTag breach text
    | [] => .error .malformed
  look breach 1 rest
  require (atSpace rest)
  return (token, rest)

def number (breach : Option Fault) (text : List Char) : Except Fault (Nat × List Char) := do
  look breach 1 text
  let digits := text.takeWhile Char.isDigit
  let rest := text.dropWhile Char.isDigit
  require !digits.isEmpty
  look breach 1 rest
  if mostDigits < digits.length then .error (.tooManyDigits digits.length)
  else return (Nat.ofDigitChars 10 digits 0, rest)

def version (breach : Option Fault) (text : List Char) : Except Fault (Directive × List Char) := do
  let (major, rest) ← number breach (skipSpaces text)
  match rest with
  | '.' :: rest =>
    let (minor, rest) ← number breach rest
    require (atSpace rest)
    return (.version major minor, rest)
  | _ => .error .malformed

def tagHandle (breach : Option Fault) (text : List Char) :
    Except Fault (Directive × List Char) := do
  let (handle, rest) ← handle breach (skipSpaces text)
  require (rest.head? = some ' ')
  let (expansion, rest) ← tagText breach (skipSpaces rest)
  require (atSpace rest)
  return (.tagHandle handle expansion, rest)

/-- The directive behind a percent sign, up to the start of the next line. -/
def directive (breach : Option Fault) (text : List Char) :
    Except Fault (Directive × List Char) := do
  let (name, rest) ← nameChars breach text
  require (!name.isEmpty && atSpace rest)
  let (directive, rest) ←
    if name = "YAML".toList then version breach rest
    else if name = "TAG".toList then tagHandle breach rest
    else .ok (.other, rest.dropWhile (!isBreak ·))
  let behind := skipComment (skipSpaces rest)
  look breach 1 behind
  require (atLineEnd behind)
  look breach 1 (behind.drop 1)
  return (directive, behind.drop 1)

end DrawingCode.Markup.Name
