import DrawingCode.Markup.Excerpt

/-! # Quoted scalars

Between single quotes every character stands for itself and a doubled quote for one. Between double
quotes a backslash begins an escape: a letter for a special character, a hexadecimal code, or a line
break that is to be forgotten. Line breaks are folded in both, and no marker between documents may
stand inside. A scalar whose closing quote is missing is read up to the end of the excerpt.
-/

namespace DrawingCode.Markup.Quoted

open Text (CodePoint)

/-- Puts a code point before what has been read. -/
def prepend (p : CodePoint) (reading : Except Fault (List CodePoint × List Char)) :
    Except Fault (List CodePoint × List Char) :=
  reading.map fun r => (p :: r.1, r.2)

/-- The character that an escape letter stands for. -/
def escapeChar? : Char → Option Char
  | '0' => some '\x00'
  | 'a' => some '\x07'
  | 'b' => some '\x08'
  | 't' => some '\t'
  | '\t' => some '\t'
  | 'n' => some '\n'
  | 'v' => some '\x0b'
  | 'f' => some '\x0c'
  | 'r' => some '\r'
  | 'e' => some '\x1b'
  | ' ' => some ' '
  | '"' => some '"'
  | '\\' => some '\\'
  | '/' => some '/'
  | 'N' => some '\x85'
  | '_' => some '\xa0'
  | 'L' => some '\u2028'
  | 'P' => some '\u2029'
  | _ => none

/-- The code point with the code that hexadecimal digits give. -/
def codePoint (digits : List Char) : Except Fault CodePoint :=
  match hexNumber? digits with
  | none => .error .malformed
  | some code =>
    if 0x80000000 ≤ code then .error .hugeCode
    else if 0x110000 ≤ code then .error .noCharacter
    else if 0xd800 ≤ code ∧ code < 0xe000 then .ok (.half code)
    else .ok (.char (Char.ofNat code))

/-- Whether a letter announces a code, with all digits before the end of the text being there. -/
def announcesCode (letter : Char) (rest : List Char) : Bool :=
  "xuU".toList.contains letter && rest.all fun d => (hexValue? d).isSome

/-- The characters up to a gap, to the closing quote or to the end of the text. -/
def singleRun : List Char → List CodePoint × List Char
  | '\'' :: '\'' :: rest =>
    let (more, after) := singleRun rest
    (.char '\'' :: more, after)
  | [] => ([], [])
  | c :: rest =>
    if c == '\'' || isGap c then ([], c :: rest)
    else
      let (more, after) := singleRun rest
      (.char c :: more, after)

/-- The characters up to a gap, to the closing quote, to an escaped line break or to the end of the
text, escapes resolved. -/
def doubleRun (breach : Option Fault) : List Char →
    Except Fault (List CodePoint × List Char)
  | [] => .ok ([], [])
  | ['\\'] => .error (endFault breach)
  | '\\' :: 'x' :: a :: b :: rest => do prepend (← codePoint [a, b]) (doubleRun breach rest)
  | '\\' :: 'u' :: a :: b :: c :: d :: rest => do
    prepend (← codePoint [a, b, c, d]) (doubleRun breach rest)
  | '\\' :: 'U' :: a :: b :: c :: d :: e :: f :: g :: h :: rest => do
    prepend (← codePoint [a, b, c, d, e, f, g, h]) (doubleRun breach rest)
  | '\\' :: letter :: rest =>
    match escapeChar? letter with
    | some c => prepend (.char c) (doubleRun breach rest)
    | none =>
      if isBreak letter then .ok ([], '\\' :: letter :: rest)
      else if announcesCode letter rest then .error (endFault breach)
      else .error .malformed
  | c :: rest =>
    if c == '"' || isGap c then .ok ([], c :: rest) else prepend (.char c) (doubleRun breach rest)

/-- The line breaks behind the start of a line, spaces and tabs aside. -/
def breaks (breach : Option Fault) (lineStart : Bool) : List Char →
    Except Fault (List CodePoint × List Char)
  | [] => .error (endFault breach)
  | c :: rest => do
    if lineStart then
      lookForMarker breach (c :: rest)
      require !atMarker (c :: rest)
    if isSpace c then breaks breach false rest
    else if isBreak c then prepend (.char (breakChar c)) (breaks breach true rest)
    else .ok ([], c :: rest)

/-- The gap at the front of a text: what it contributes, and what follows it. -/
def gap (breach : Option Fault) (text : List Char) :
    Except Fault (List CodePoint × List Char) :=
  match text.dropWhile isSpace with
  | [] => .error (endFault breach)
  | c :: rest =>
    if isBreak c then
      (breaks breach true rest).map fun more =>
        (if breakChar c != '\n' then .char (breakChar c) :: more.1
          else if more.1.isEmpty then [.char ' '] else more.1, more.2)
    else .ok (CodePoint.ofChars (text.takeWhile isSpace), c :: rest)

/-- Reads runs and gaps up to the closing quote; every round but the first takes a gap, so `fuel`
need not exceed the length by more than one. -/
def readRuns (breach : Option Fault) (double : Bool) : Nat → List Char →
    Except Fault (List CodePoint × List Char)
  | 0, _ => .error .malformed
  | fuel + 1, text => do
    let (run, rest) ← if double then doubleRun breach text else .ok (singleRun text)
    match rest with
    | [] => .error (endFault breach)
    | c :: after =>
      if c == (if double then '"' else '\'') then
        look breach 1 after
        .ok (run, after)
      else
        let (between, next) ← if c == '\\' then breaks breach true (after.drop 1)
          else gap breach rest
        let (more, last) ← readRuns breach double fuel next
        .ok (run ++ between ++ more, last)

/-- Reads the quoted scalar whose opening quote stands just before a text. -/
def read (breach : Option Fault) (double : Bool) (text : List Char) :
    Except Fault (List CodePoint × List Char) :=
  readRuns breach double (text.length + 1) text

end DrawingCode.Markup.Quoted
