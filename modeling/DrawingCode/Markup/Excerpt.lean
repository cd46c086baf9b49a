import DrawingCode.Markup.Character
import DrawingCode.Markup.Fault
import DrawingCode.Text.Utf8

/-! # Excerpts of a text

A text is read page by page, as far ahead as its tokens ask for; only the first two pages come
together. A page with a character that may not stand in a text is not read, nor is one for which
bytes are needed that are no text. What can be read before such a page is an excerpt, and looking
behind it is what finds the fault.
-/

namespace DrawingCode.Markup

/-- The part of a text that can be read, and the fault behind it, if there is one. -/
structure Excerpt where
  chars : List Char
  breach : Option Fault

def pageSize : Nat := 4096

def leastFetch : Nat := 8192

/-- The progress of reading the bytes of a text. -/
structure Fetch where
  /-- How many bytes have been fetched. -/
  bytes : Nat
  /-- How many characters they hold. -/
  chars : Nat
  /-- How many bytes the last fetch brought. -/
  lastBytes : Nat
  /-- How many characters the last fetch brought. -/
  lastChars : Nat

namespace Fetch

/-- How many bytes are fetched to get a number of characters: as many as these would take if they
were like those of the last fetch. -/
def size (f : Fetch) (wanted : Nat) : Nat :=
  max leastFetch (max wanted (f.lastBytes * wanted / f.lastChars))

/-- The progress when bytes up to a place have been fetched, where `ends` tells for each character
how many bytes are needed to know it. -/
def upTo (f : Fetch) (ends : List Nat) (place : Nat) : Fetch :=
  let chars := (ends.takeWhile (· ≤ place)).length
  ⟨place, chars, place - f.bytes, chars - f.chars⟩

/-- The page that cannot be read, counted from zero, if the byte at `stop` is no part of a text or
the `total` bytes end within a character. Every round fetches bytes or turns a page, so `fuel` need
not exceed the number of bytes by more than one. -/
def failingPage (ends : List Nat) (stop total : Nat) : Nat → Nat → Fetch → Nat
  | 0, page, _ => page
  | fuel + 1, page, f =>
    let needed := pageSize * (page + 1)
    if needed ≤ f.chars then failingPage ends stop total fuel (page + 1) f
    else
      let place := min total (f.bytes + f.size (needed - f.chars))
      if stop < place ∨ f.bytes = total then page
      else failingPage ends stop total fuel page (f.upTo ends place)

end Fetch

namespace Excerpt

/-- For each character of a text with line ends in one form, how many bytes are needed to know it.
Whether a carriage return is a line end of its own is known when the next character is. `offset`
bytes come before the text, the last of them a carriage return if one is `held`. -/
def ends (held : Bool) (offset : Nat) : List Char → List Nat
  | [] => []
  | c :: rest =>
    let place := offset + c.utf8Size
    let before := if held && c != '\n' then [place] else []
    before ++ if c = '\r' then ends true place rest else place :: ends false place rest

/-- The excerpt of a text before a page that cannot be read. -/
def before (page : Nat) (fault : Fault) (text : List Char) : Excerpt :=
  ⟨if page < 2 then [] else text.take (pageSize * page), some fault⟩

/-- The first page with a character that may not stand in a text. -/
def forbiddenPage? (text : List Char) : Option Nat :=
  (text.findIdx? (!isAllowed ·)).map (· / pageSize)

/-- The excerpt of a text that can be read: all of it, unless a character may not stand in it. -/
def ofChars (text : List Char) : Excerpt :=
  let text := normalizeBreaks text
  match forbiddenPage? text with
  | none => ⟨text, none⟩
  | some page => before page .malformed text

/-- The excerpt of bytes that are no text. -/
def ofUnsound (bytes : ByteArray) : Excerpt :=
  let chars := Text.Utf8.soundChars bytes
  let page := Fetch.failingPage (ends false 0 chars) (Text.Utf8.firstUnsound bytes) bytes.size
    (bytes.size + 1) 0 ⟨0, 0, 0, 0⟩
  let readable := before page .undecodable (normalizeBreaks chars)
  match forbiddenPage? readable.chars with
  | none => readable
  | some page => before page .malformed readable.chars

def ofBytes (bytes : ByteArray) : Excerpt :=
  match String.fromUTF8? bytes with
  | some text => ofChars text.toList
  | none => ofUnsound bytes

end Excerpt

/-- Whether a reader that looks at `count` characters looks behind a text. -/
def isShort (count : Nat) (text : List Char) : Bool := (text.drop (count - 1)).isEmpty

/-- Goes on unless a reader has looked behind the excerpt. -/
def within (breach : Option Fault) (overrun : Bool) : Except Fault Unit :=
  match breach with
  | some fault => if overrun then .error fault else .ok ()
  | none => .ok ()

def look (breach : Option Fault) (count : Nat) (text : List Char) : Except Fault Unit :=
  within breach (isShort count text)

/-- The fault of a text that ends where it must not. -/
def endFault (breach : Option Fault) : Fault := breach.getD .malformed

/-- How many characters are looked at to see whether a line begins with a marker. -/
def markerSpan : List Char → Nat
  | '-' :: '-' :: '-' :: _ | '.' :: '.' :: '.' :: _ => 4
  | _ => 3

def lookForMarker (breach : Option Fault) (line : List Char) : Except Fault Unit :=
  look breach (markerSpan line) line

/-- Goes on if a condition holds; the text is malformed if not. -/
def require (condition : Bool) : Except Fault Unit :=
  if condition then .ok () else .error .malformed

theorem within_none (overrun : Bool) : within none overrun = .ok () := rfl

theorem look_none (count : Nat) (text : List Char) : look none count text = .ok () := rfl

end DrawingCode.Markup
