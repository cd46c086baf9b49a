import DrawingCode.Proofs.Markup.BlockMapping
import DrawingCode.Proofs.Markup.Escaped

/-! # Cutting rows of entries into tokens

A mapping has a line for every entry. A value is a word without quotes or a text in escapes. Behind
a word the scan has already gone on to the next line, behind a closing quote it has not; either way
it gets to the next key, so the lines can be taken one by one.
-/

namespace DrawingCode.Markup

open Text (CodePoint IsIdentifier)

/-- What is written for a scalar: an identifier without quotes, or a text in escapes. -/
inductive Spelling where
  | word (text : List Char) (identifier : IsIdentifier text)
  | escaped (capital : Bool) (text : List Char)

namespace Spelling

def chars : Spelling → List Char
  | word text _ => text
  | escaped capital text => '"' :: (text.flatMap (Quoted.escape capital) ++ ['"'])

/-- The text that is read. -/
def content : Spelling → List Char
  | word text _ | escaped _ text => text

/-- Whether there are no quotes. -/
def plain : Spelling → Bool
  | word .. => true
  | escaped .. => false

def token (s : Spelling) : Token := .scalar (CodePoint.ofChars s.content) s.plain

theorem allowed_chars (s : Spelling) : ∀ c ∈ s.chars, isAllowed c ∧ c ≠ '\r' := by
  have letter {c : Char} (isLetter : Text.isWordChar c) : isAllowed c ∧ c ≠ '\r' :=
    ⟨isAllowed_of_isWordChar isLetter, ne_of_isWordChar isLetter rfl⟩
  cases s with
  | word text identifier =>
    exact fun c mem => letter ((Plain.isWord_of_isIdentifier identifier).letters c mem)
  | escaped capital text =>
    simp only [chars, List.forall_mem_cons, List.forall_mem_append]
    refine ⟨by decide, fun c mem => ?_, by decide, by simp⟩
    obtain rfl | isLetter := Quoted.escapes_within mem
    · decide
    · exact letter isLetter

end Spelling

/-- A line of a mapping. -/
structure Entry where
  key : List Char
  value : Spelling
  isIdentifier : IsIdentifier key
  short : key.length ≤ 1024

namespace Entry

def tokens (e : Entry) : List Token :=
  [.key, .scalar (CodePoint.ofChars e.key) true, .value, e.value.token]

theorem isWord (e : Entry) : IsWord e.key := Plain.isWord_of_isIdentifier e.isIdentifier

/-- The lines of a mapping, each behind the end of the line before. The last one can end or not. -/
def lines (spaces : Nat) (closed : Bool) : List Entry → List Char
  | [] => if closed then ['\n'] else []
  | e :: entries => '\n' :: (List.replicate spaces ' ' ++
      (e.key ++ ':' :: ' ' :: (e.value.chars ++ lines spaces closed entries)))

theorem length_lines {spaces : Nat} (indented : 0 < spaces) (closed : Bool) (entries : List Entry) :
    4 * entries.length ≤ (lines spaces closed entries).length := by
  induction entries with
  | nil => exact Nat.zero_le _
  | cons e entries ih =>
    simp only [lines, List.length_cons, List.length_append, List.length_replicate]
    omega

theorem allowed_lines (spaces : Nat) (closed : Bool) (entries : List Entry) :
    ∀ c ∈ lines spaces closed entries, isAllowed c ∧ c ≠ '\r' := by
  induction entries with
  | nil =>
    cases closed with
    | false => simp [lines]
    | true => exact List.forall_mem_singleton.mpr (by decide)
  | cons e entries ih =>
    simp only [lines, List.forall_mem_cons, List.forall_mem_append]
    refine ⟨by decide, fun c mem => ?_, (Spelling.word e.key e.isIdentifier).allowed_chars,
      by decide, by decide, e.value.allowed_chars, ih⟩
    rw [List.eq_of_mem_replicate mem]
    decide

end Entry

namespace Scan

variable {place : Place} {tokens : List Token} {count : Nat} {blocks : List Nat} {column : Nat}
  {rest : List Char}

/-! ## Values -/

/-- A text in escapes is read up to its closing quote, on the line where it begins. -/
theorem run_escaped (capital : Bool) (text : List Char) (inside : column ≤ place.column)
    (fuel : Nat) :
    (outside place (' ' :: ((Spelling.escaped capital text).chars ++ rest)) tokens count
        (column :: blocks) false).run (fuel + 1) =
      (outside (place.advance (' ' :: (Spelling.escaped capital text).chars)) rest
        (.scalar (CodePoint.ofChars text) false :: tokens) (count + 1) (column :: blocks) false).run
        fuel := by
  let inner := text.flatMap (Quoted.escape capital) ++ '"' :: rest
  have quoted : (Spelling.escaped capital text).chars ++ rest = '"' :: inner := by
    simp [Spelling.chars, inner]
  have starts : Starts ('"' :: inner) := by
    rintro _ ⟨⟩
    decide
  have reads : (Quoted.read none true inner).map (fun r => (Token.scalar r.1 false, r.2)) =
      .ok (.scalar (CodePoint.ofChars text) false, rest) := by
    rw [Quoted.read_escapes]
    rfl
  let atQuote := outside (place.advance [' ']) ('"' :: inner) tokens count (column :: blocks) false
  rw [quoted]
  refine run_of_ready (ready_space starts inside fuel) rfl ?_
  change atQuote.keyToken ((Quoted.read none true inner).map _) = _
  rw [reads]
  change Except.ok (emit (moveTo { atQuote with keyAllowed := false } rest) _) = _
  rw [moveTo_append quoted.symm]
  rfl

/-- Behind a value with another line behind it the scan gets to that line. -/
theorem run_value (value : Spelling) (inside : column ≤ place.column) {spaces : Nat}
    (less : spaces ≤ column) (starts : Starts rest)
    (noMarker : atMarker (List.replicate spaces ' ' ++ rest) = false) (fuel : Nat) :
    ∃ next : Scan, (outside place
          (' ' :: (value.chars ++ '\n' :: (List.replicate spaces ' ' ++ rest))) tokens count
          (column :: blocks) false).run (fuel + 1) = next.run fuel ∧
      ∀ left, next.ready (left + 2) = .ok (outside
        (place.advance (' ' :: (value.chars ++ '\n' :: List.replicate spaces ' '))) rest
        (value.token :: tokens) (count + 1) (column :: blocks) true).unwind := by
  cases value with
  | word text identifier =>
    refine ⟨_, run_lastWord (Plain.isWord_of_isIdentifier identifier) inside less starts noMarker
      fuel, fun left => ?_⟩
    exact ready_of_steps checkKeys_outside (skipGaps_spaces starts 0 _) rfl checkKeys_outside
  | escaped capital text =>
    refine ⟨_, run_escaped capital text inside fuel, fun left => ?_⟩
    rw [ready_of_steps checkKeys_outside (skipGaps_line starts spaces left) rfl checkKeys_outside,
      ← Place.advance_append]
    rfl

/-- A value at the end of the text is read there. -/
theorem run_lastValue (value : Spelling) (inside : column ≤ place.column) (fuel : Nat) :
    (outside place (' ' :: value.chars) tokens count (column :: blocks) false).run (fuel + 1) =
      (outside (place.advance (' ' :: value.chars)) [] (value.token :: tokens) (count + 1)
        (column :: blocks) false).run fuel := by
  cases value with
  | word text identifier =>
    exact run_wordAtEnd (Plain.isWord_of_isIdentifier identifier) inside fuel
  | escaped capital text =>
    have reads := @run_escaped place tokens count blocks column [] capital text inside fuel
    rwa [List.append_nil] at reads

/-! ## Lines -/

/-- The rest of a mapping behind a colon is cut into the value there and the tokens of the lines
that follow. -/
theorem run_lines (indented : 0 < column) (closed : Bool) (entries : List Entry) (value : Spelling)
    (inside : column ≤ place.column) (fuel : Nat) :
    (outside place (' ' :: (value.chars ++ Entry.lines column closed entries)) tokens count
        (column :: blocks) false).run (fuel + 3 * entries.length + 3) =
      ⟨tokens.reverse ++ value.token :: entries.flatMap Entry.tokens ++
        List.replicate (blocks.length + 1) .blockEnd ++ [.streamEnd], none⟩ := by
  induction entries generalizing value place tokens count with
  | nil =>
    cases closed with
    | false =>
      rw [Entry.lines]
      simp only [Bool.false_eq_true, if_false, List.append_nil]
      rw [run_lastValue value inside, run_end]
      simp
    | true =>
      obtain ⟨next, reads, reached⟩ := @run_value place tokens count blocks column [] value inside
        0 (Nat.zero_le column) (by simp [Starts]) rfl (fuel + 2)
      refine reads.trans ?_
      rw [run_of_ready_end (reached fuel)]
      simp
  | cons e entries ih =>
    let behind := ' ' :: (e.value.chars ++ Entry.lines column closed entries)
    let atKey := place.advance (' ' :: (value.chars ++ '\n' :: List.replicate column ' '))
    have atColumn : atKey.column = column := by
      change (place.advance (' ' :: value.chars ++ '\n' :: List.replicate column ' ')).column = _
      rw [Place.advance_append, Place.column_advance_line]
    have same : (column :: blocks).head? = some atKey.column := congrArg some atColumn.symm
    have insideKey : column ≤ (atKey.advance (e.key ++ [':'])).column := by
      rw [Place.column_advance_key _ e.isWord, atColumn]
      omega
    have noMarker : atMarker (List.replicate column ' ' ++ (e.key ++ ':' :: behind)) = false := by
      obtain ⟨less, rfl⟩ := Nat.exists_eq_add_one.mpr indented
      rfl
    obtain ⟨next, reads, reached⟩ := @run_value place tokens count blocks column
      (e.key ++ ':' :: behind) value inside column (Nat.le_refl column) (e.isWord.starts _) noMarker
      (fuel + 3 * entries.length + 5)
    have ready (left : Nat) : next.ready (left + 2) = .ok (outside atKey (e.key ++ ':' :: behind)
        (value.token :: tokens) (count + 1) (column :: blocks) true) := by
      rw [reached, unwind_eq_self]
      rintro _ ⟨⟩
      exact Nat.le_of_eq atColumn.symm
    calc
      _ = next.run (fuel + 3 * entries.length + 5) := reads
      _ = (outside (atKey.advance (e.key ++ [':'])) behind (.value ::
            .scalar (CodePoint.ofChars e.key) true :: .key :: value.token :: tokens)
            (count + 1 + 3) (column :: blocks) false).run (fuel + 3 * entries.length + 3) :=
        run_nextKey e.isWord e.short rfl same (ready _)
      _ = _ := ih e.value insideKey
      _ = _ := by simp [Entry.tokens]

end Scan

/-- A mapping with any lines under a single key is cut into the tokens of the lines and of the
structure. -/
theorem Tokens.ofExcerpt_lines {outer : List Char} (isOuter : IsWord outer)
    (shortOuter : outer.length ≤ 1024) {spaces : Nat} (indented : 0 < spaces) (closed : Bool)
    (e : Entry) (entries : List Entry) :
    Tokens.ofExcerpt ⟨outer ++ ':' :: Entry.lines spaces closed (e :: entries), none⟩ =
      ⟨[.blockMappingStart, .key, .scalar (CodePoint.ofChars outer) true, .value,
        .blockMappingStart] ++ (e :: entries).flatMap Entry.tokens ++
        [.blockEnd, .blockEnd, .streamEnd], none⟩ := by
  let behind := ' ' :: (e.value.chars ++ Entry.lines spaces closed entries)
  let text := outer ++ ':' :: '\n' :: (List.replicate spaces ' ' ++ (e.key ++ ':' :: behind))
  let behindOuter := Place.advance ⟨0, 0, 0⟩ (outer ++ [':'])
  let atKey := behindOuter.advance ('\n' :: List.replicate spaces ' ')
  obtain ⟨fuel, length⟩ : ∃ fuel, text.length + 1 = fuel + 3 * entries.length + 7 := by
    have lines := Entry.length_lines indented closed entries
    have nonempty := List.length_pos_iff.mpr isOuter.nonempty
    refine ⟨text.length - 3 * entries.length - 6, ?_⟩
    simp only [text, behind, List.length_append, List.length_cons, List.length_replicate]
    omega
  have noMark : text.head? ≠ some '\ufeff' := by
    obtain ⟨first, more, rfl, letter⟩ := isOuter.exists_cons
    intro mark
    exact ne_of_isWordChar letter rfl (Option.some.inj mark)
  have atColumn : atKey.column = spaces := Place.column_advance_line ..
  have inside : spaces ≤ (atKey.advance (e.key ++ [':'])).column := by
    rw [Place.column_advance_key _ e.isWord, atColumn]
    omega
  have deeper : ∀ outermost ∈ [0].head?, outermost < atKey.column := by
    rintro _ ⟨⟩
    rwa [atColumn]
  have fits : ∀ outermost ∈ [0].head?, outermost ≤ spaces := by
    rintro _ ⟨⟩
    exact Nat.zero_le _
  change (if text.head? = some '\ufeff' then _ else Scan.start ⟨text, none⟩).run
    (text.length + 1) = _
  rw [if_neg noMark, length]
  calc Scan.run _ (Scan.outside ⟨0, 0, 0⟩ text [] 0 [] true)
    _ = _ := Scan.run_firstKey isOuter shortOuter rfl (by simp)
      (Scan.ready_spaces (isOuter.starts _) 0 _ (by simp))
    _ = (Scan.outside (atKey.advance (e.key ++ [':'])) behind
          [.value, .scalar (CodePoint.ofChars e.key) true, .key, .blockMappingStart, .value,
            .scalar (CodePoint.ofChars outer) true, .key, .blockMappingStart]
          8 [atKey.column, 0] false).run (fuel + 3 * entries.length + 3) :=
      Scan.run_firstKey e.isWord e.short rfl deeper
        (Scan.ready_line (e.isWord.starts _) spaces _ fits)
    _ = _ := by
      rw [atColumn, Scan.run_lines indented closed entries e.value inside fuel]
      simp [Entry.tokens]

end DrawingCode.Markup
