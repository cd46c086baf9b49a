import DrawingCode.Markup.Scan
import DrawingCode.Proofs.Markup.PlainWord

/-! # Cutting block mappings into tokens

What a scan does outside brackets with a key, with a colon and with a word behind it is said for
whatever comes before and behind them. A row of such steps cuts a mapping of mappings.
-/

namespace DrawingCode.Markup

open Text (isWordChar CodePoint)

variable {text word rest : List Char}

/-! ## Places -/

namespace Place

variable (p : Place)

theorem advance_append (first second : List Char) :
    p.advance (first ++ second) = (p.advance first).advance second := List.foldl_append ..

private theorem advance_cons (c : Char) (text : List Char) :
    p.advance (c :: text) = (p.next c).advance text := rfl

/-- A text within a line takes as many columns as it has characters. -/
theorem advance_within (line : ∀ c ∈ text, isBreak c = false ∧ c ≠ '\ufeff') :
    p.advance text = ⟨p.index + text.length, p.line, p.column + text.length⟩ := by
  induction text generalizing p with
  | nil => rfl
  | cons c text ih =>
    obtain ⟨noBreak, noMark⟩ := line c (by simp)
    rw [advance_cons, ih _ fun c mem => line c (by simp [mem])]
    simp [next, noBreak, noMark, Nat.add_assoc, Nat.add_comm 1]

private theorem advance_word (isWord : IsWord word) :
    p.advance word = ⟨p.index + word.length, p.line, p.column + word.length⟩ :=
  p.advance_within fun c mem =>
    ⟨isBreak_of_isWordChar (isWord.letters c mem), ne_of_isWordChar (isWord.letters c mem) rfl⟩

private theorem advance_spaces (count : Nat) :
    p.advance (List.replicate count ' ') = ⟨p.index + count, p.line, p.column + count⟩ := by
  have line : ∀ c ∈ List.replicate count ' ', isBreak c = false ∧ c ≠ '\ufeff' := by
    intro c mem
    rw [List.eq_of_mem_replicate mem]
    decide
  rw [p.advance_within line, List.length_replicate]

theorem column_advance_line (count : Nat) :
    (p.advance ('\n' :: List.replicate count ' ')).column = count := by
  rw [advance_cons, advance_spaces]
  simp [next, isBreak]

theorem column_advance_key (isWord : IsWord word) :
    (p.advance (word ++ [':'])).column = p.column + word.length + 1 := by
  rw [advance_append, advance_word _ isWord]
  simp [advance, next, isBreak]

end Place

namespace Scan

/-- The state of a scan that is outside brackets and at no key, in a text without a fault. -/
def outside (place : Place) (rest : List Char) (tokens : List Token) (count : Nat)
    (blocks : List Nat) (keyAllowed : Bool) : Scan :=
  ⟨none, rest, place, tokens, count, blocks, keyAllowed, none, []⟩

variable {place : Place} {tokens : List Token} {count : Nat} {blocks : List Nat} {keyAllowed : Bool}

theorem moveTo_append {s : Scan} (there : s.rest = text ++ rest) :
    s.moveTo rest = { s with rest, place := s.place.advance text } := by
  have taken : s.rest.take (s.rest.length - rest.length) = text := by simp [there]
  rw [moveTo, taken]

/-! ## Gaps -/

private theorem skip_spaces (starts : Starts rest) (spaces : Nat) :
    (outside place (List.replicate spaces ' ' ++ rest) tokens count blocks keyAllowed).skipBlanks =
      outside (place.advance (List.replicate spaces ' ')) rest tokens count blocks keyAllowed := by
  have row : ∀ c ∈ List.replicate spaces ' ', (c == ' ') = true := by simp
  have noSpace : rest.takeWhile (· == ' ') = [] ∧ rest.dropWhile (· == ' ') = rest := by
    cases rest with
    | nil => simp
    | cons c rest => simp [(starts c rfl).1]
  have noComment : rest.head? ≠ some '#' := fun comment => (starts '#' comment).2.1 rfl
  simp only [skipBlanks, skip, outside, List.takeWhile_append_of_pos row, noSpace.1,
    List.append_nil, List.dropWhile_append_of_pos row, noSpace.2, if_neg noComment]

theorem skipGaps_spaces (starts : Starts rest) (spaces fuel : Nat) :
    skipGaps (fuel + 1)
        (outside place (List.replicate spaces ' ' ++ rest) tokens count blocks keyAllowed) =
      outside (place.advance (List.replicate spaces ' ')) rest tokens count blocks keyAllowed := by
  have noBreak : rest.head?.any isBreak = false := by
    cases rest with
    | nil => rfl
    | cons c rest => exact (starts c rfl).2.2
  rw [skipGaps, skip_spaces starts]
  simp [outside, noBreak]

/-- Behind the end of a line a key may start. -/
theorem skipGaps_line (starts : Starts rest) (spaces fuel : Nat) :
    skipGaps (fuel + 2)
        (outside place ('\n' :: (List.replicate spaces ' ' ++ rest)) tokens count blocks
          keyAllowed) =
      outside (place.advance ('\n' :: List.replicate spaces ' ')) rest tokens count blocks
        true := by
  have next : skipGaps (fuel + 2)
        (outside place ('\n' :: (List.replicate spaces ' ' ++ rest)) tokens count blocks
          keyAllowed) =
      skipGaps (fuel + 1) (outside (place.advance ['\n']) (List.replicate spaces ' ' ++ rest) tokens
        count blocks true) := by
    simp [skipGaps, skipBlanks, skip, outside, pass, isBreak, inFlow, Place.advance]
  rw [next, skipGaps_spaces starts]
  rfl

/-- No block ends at a column that the innermost one does not lie behind. -/
theorem unwind_eq_self {s : Scan} (fits : ∀ column ∈ s.blocks.head?, column ≤ s.place.column) :
    s.unwind = s := by
  unfold unwind
  split
  · rfl
  · obtain ⟨breach, rest, place, tokens, count, blocks, keyAllowed, pending, outer⟩ := s
    cases blocks with
    | nil => rfl
    | cons column blocks =>
      have keep := fits column rfl
      simp [closeBlocks, keep]

theorem checkKeys_outside :
    (outside place rest tokens count blocks keyAllowed).checkKeys =
      .ok (outside place rest tokens count blocks keyAllowed) := rfl

theorem ready_of_steps {s checked behind now : Scan} {fuel : Nat}
    (checks : s.checkKeys = .ok checked) (skips : skipGaps fuel checked = behind)
    (unbroken : behind.breach = none) (checksAgain : behind.checkKeys = .ok now) :
    s.ready fuel = .ok now.unwind := by
  have look : look behind.breach 1 behind.rest = .ok () := by rw [unbroken, look_none]
  rw [ready, checks]
  change (do
    Markup.look (skipGaps fuel checked).breach 1 (skipGaps fuel checked).rest
    return (← (skipGaps fuel checked).checkKeys).unwind) = _
  rw [skips, look, checksAgain]
  rfl

/-- What comes behind spaces is read where no block ends. -/
theorem ready_spaces (starts : Starts rest) (spaces fuel : Nat)
    (fits : ∀ column ∈ blocks.head?, column ≤ place.column + spaces) :
    (outside place (List.replicate spaces ' ' ++ rest) tokens count blocks keyAllowed).ready
        (fuel + 1) =
      .ok (outside (place.advance (List.replicate spaces ' ')) rest tokens count blocks
        keyAllowed) := by
  rw [ready_of_steps checkKeys_outside (skipGaps_spaces starts spaces fuel) rfl
    checkKeys_outside, unwind_eq_self]
  rwa [outside, Place.advance_spaces]

/-- What comes on the next line is read where no block ends. -/
theorem ready_line (starts : Starts rest) (spaces fuel : Nat)
    (fits : ∀ column ∈ blocks.head?, column ≤ spaces) :
    (outside place ('\n' :: (List.replicate spaces ' ' ++ rest)) tokens count blocks
        keyAllowed).ready (fuel + 2) =
      .ok (outside (place.advance ('\n' :: List.replicate spaces ' ')) rest tokens count blocks
        true) := by
  rw [ready_of_steps checkKeys_outside (skipGaps_line starts spaces fuel) rfl checkKeys_outside,
    unwind_eq_self]
  rwa [outside, Place.column_advance_line]

/-! ## Words -/

/-- One round of a scan. -/
theorem run_of_ready {s ready next : Scan} {fuel : Nat} {c : Char}
    (reached : s.ready (fuel + 1) = .ok ready) (text : ready.rest = c :: rest)
    (reads : ready.readToken c rest = .ok next) : s.run (fuel + 1) = next.run fuel := by
  rw [run, reached]
  simp only [text, reads]

/-- No mark is a letter, so a word is no other token. -/
theorem readToken_of_isWordChar (s : Scan) {c : Char} (letter : isWordChar c) (rest : List Char) :
    s.readToken c rest = s.plainScalar := by
  have other {mark : Char} (apart : isWordChar mark = false) : c ≠ mark :=
    ne_of_isWordChar letter apart
  have noGap : s.needsGap c = false := by simp (disch := decide) [needsGap, other]
  have starts : isPlainStart c := by
    simp (disch := decide) [isPlainStart, isGap_of_isWordChar letter, other]
  simp (disch := decide) [readToken, readMark, plainToken, noGap, starts, other]

private theorem plainScalar_of_read {s : Scan} (saved : Scan) (text : List Char) {r : Plain.Reading}
    (saves : s.saveKey = .ok saved) (unbroken : saved.breach = none)
    (reads : Plain.read saved.inFlow saved.indent saved.rest = r)
    (there : saved.rest = text ++ r.rest) :
    s.plainScalar = .ok
      ({ saved with
        rest := r.rest
        place := saved.place.advance text
        keyAllowed := r.brokeLine }.emit (.scalar (CodePoint.ofChars r.content) true)) := by
  have looks (overrun : Bool) : within saved.breach overrun = .ok () := by
    rw [unbroken, within_none]
  rw [plainScalar, saves]
  change (do
    within saved.breach (Plain.read saved.inFlow saved.indent saved.rest).overrun
    return _) = _
  rw [looks, reads]
  exact congrArg (fun s => Except.ok (emit s _)) (moveTo_append there)

/-- What stands behind a colon and a space is read in the block of the key. -/
theorem ready_space (starts : Starts text) {column : Nat} (inside : column ≤ place.column)
    (fuel : Nat) :
    (outside place (' ' :: text) tokens count (column :: blocks) keyAllowed).ready (fuel + 1) =
      .ok (outside (place.advance [' ']) text tokens count (column :: blocks) keyAllowed) := by
  refine ready_spaces starts 1 fuel ?_
  rintro _ ⟨⟩
  exact Nat.le_succ_of_le inside

private theorem run_word {behind : List Char} (isWord : IsWord word) {column : Nat}
    (inside : column ≤ place.column) {r : Plain.Reading} (taken : List Char)
    (reads : Plain.read false (column + 1) (word ++ behind) = r)
    (there : word ++ behind = taken ++ r.rest) (fuel : Nat) :
    (outside place (' ' :: (word ++ behind)) tokens count (column :: blocks) false).run (fuel + 1) =
      (outside (place.advance (' ' :: taken)) r.rest
        (.scalar (CodePoint.ofChars r.content) true :: tokens) (count + 1) (column :: blocks)
        r.brokeLine).run fuel := by
  have reached := @ready_space (word ++ behind) place tokens count blocks false
    (isWord.starts behind) column inside fuel
  obtain ⟨first, more, rfl, letter⟩ := isWord.exists_cons
  refine run_of_ready reached rfl ?_
  rw [readToken_of_isWordChar _ letter]
  exact plainScalar_of_read (outside (place.advance [' ']) (first :: more ++ behind) tokens count
    (column :: blocks) false) taken rfl rfl reads there

/-- A word at the end of a line is read with the gap behind it, if the next line begins in the same
block or outside it. -/
theorem run_lastWord (isWord : IsWord word) {column : Nat} (inside : column ≤ place.column)
    {spaces : Nat} (less : spaces ≤ column) (starts : Starts rest)
    (noMarker : atMarker (List.replicate spaces ' ' ++ rest) = false) (fuel : Nat) :
    (outside place (' ' :: (word ++ '\n' :: (List.replicate spaces ' ' ++ rest))) tokens count
        (column :: blocks) false).run (fuel + 1) =
      (outside (place.advance (' ' :: (word ++ '\n' :: List.replicate spaces ' '))) rest
        (.scalar (CodePoint.ofChars word) true :: tokens) (count + 1) (column :: blocks) true).run
        fuel := by
  obtain ⟨_, reads⟩ := Plain.read_lastWord isWord (Nat.lt_succ_of_le less) starts noMarker
  exact run_word isWord inside (word ++ '\n' :: List.replicate spaces ' ') reads (by simp) fuel

/-- A word at the end of the text is read there. -/
theorem run_wordAtEnd (isWord : IsWord word) {column : Nat} (inside : column ≤ place.column)
    (fuel : Nat) :
    (outside place (' ' :: word) tokens count (column :: blocks) false).run (fuel + 1) =
      (outside (place.advance (' ' :: word)) [] (.scalar (CodePoint.ofChars word) true :: tokens)
        (count + 1) (column :: blocks) false).run fuel := by
  have reads : Plain.read false (column + 1) (word ++ []) = ⟨word, [], false, true⟩ := by
    rw [List.append_nil, Plain.read_atEnd isWord]
  have runs := @run_word word place tokens count blocks [] isWord column inside _ word reads rfl
    fuel
  rwa [List.append_nil] at runs

/-! ## Keys -/

/-- The state of a scan that has read a word which may be a key. -/
def behindWord (place : Place) (word rest : List Char) (tokens : List Token) (count : Nat)
    (blocks : List Nat) : Scan :=
  { outside (place.advance word) rest (.scalar (CodePoint.ofChars word) true :: tokens) (count + 1)
      blocks false with
    pending := some ⟨count, blocks.head? == some place.column, place⟩ }

private theorem plainScalar_key (isWord : IsWord word) (gap : atGap rest) :
    (outside place (word ++ ':' :: rest) tokens count blocks true).plainScalar =
      .ok (behindWord place word (':' :: rest) tokens count blocks) :=
  plainScalar_of_read
    { outside place (word ++ ':' :: rest) tokens count blocks true with
      pending := some ⟨count, blocks.head? == some place.column, place⟩ }
    word rfl rfl (Plain.read_key isWord gap _) rfl

/-- A colon on the line of a word that is not too long makes the word a key. -/
theorem ready_behindWord (isWord : IsWord word) (short : word.length ≤ 1024)
    (fits : ∀ column ∈ blocks.head?, column ≤ place.column) (fuel : Nat) :
    (behindWord place word (':' :: rest) tokens count blocks).ready (fuel + 1) =
      .ok (behindWord place word (':' :: rest) tokens count blocks) := by
  have fresh : (behindWord place word (':' :: rest) tokens count blocks).isStale
      ⟨count, blocks.head? == some place.column, place⟩ = false := by
    simp [isStale, behindWord, outside, Place.advance_word _ isWord, short]
  have checks : (behindWord place word (':' :: rest) tokens count blocks).checkKeys =
      .ok (behindWord place word (':' :: rest) tokens count blocks) := by
    rw [checkKeys, checkKey, behindWord, Option.any_some]
    rw [behindWord] at fresh
    rw [fresh]
    rfl
  have noGap : skipGaps (fuel + 1) (behindWord place word (':' :: rest) tokens count blocks) =
      behindWord place word (':' :: rest) tokens count blocks := by
    simp [skipGaps, skipBlanks, skip, behindWord, outside, isBreak, Place.advance]
  rw [ready_of_steps checks noGap rfl checks, unwind_eq_self]
  intro column innermost
  rw [behindWord, outside, Place.advance_word _ isWord]
  exact (fits column innermost).trans (Nat.le_add_right ..)

private theorem readToken_colon (s : Scan) (unbroken : s.breach = none) (notFlow : s.inFlow = false)
    (gap : atGap rest) : s.readToken ':' rest = s.valueMark := by
  have looks : look s.breach 2 s.rest = .ok () := by rw [unbroken, look_none]
  have needs : s.needsGap ':' = true := by simp [needsGap, notFlow]
  rw [readToken, readMark, looks, needs, gap, notFlow]
  rfl

/-- A key that lies behind all blocks opens a mapping. -/
theorem valueMark_behindWord (word : List Char)
    (deeper : ∀ column ∈ blocks.head?, column < place.column) :
    (behindWord place word (':' :: rest) tokens count blocks).valueMark =
      .ok (outside (place.advance (word ++ [':'])) rest
        (.value :: .scalar (CodePoint.ofChars word) true :: .key :: .blockMappingStart :: tokens)
        (count + 4) (place.column :: blocks) false) := by
  have opens : blocks.head?.all (· < place.column) = true := by
    cases blocks with
    | nil => rfl
    | cons column blocks => simpa using deeper column rfl
  have behind : place.advance (word ++ [':']) = (place.advance word).advance [':'] :=
    Place.advance_append ..
  have afterKey : count + 1 + 1 - count = 2 := by omega
  simp [valueMark, behindWord, outside, insert, inFlow, Scan.deeper, opens, take, pass, emit,
    look_none, behind, afterKey]

/-- A key at the column of the innermost block belongs to the mapping there. -/
theorem valueMark_inBlock (word : List Char) (same : blocks.head? = some place.column) :
    (behindWord place word (':' :: rest) tokens count blocks).valueMark =
      .ok (outside (place.advance (word ++ [':'])) rest
        (.value :: .scalar (CodePoint.ofChars word) true :: .key :: tokens)
        (count + 3) blocks false) := by
  have behind : place.advance (word ++ [':']) = (place.advance word).advance [':'] :=
    Place.advance_append ..
  have afterKey : count + 1 - count = 1 := by omega
  simp [valueMark, behindWord, outside, insert, inFlow, Scan.deeper, same, take, pass, emit,
    look_none, behind, afterKey]

/-- A word with a colon behind it is read as a key if it lies inside no block or in the innermost
one, whatever the colon makes of it. -/
theorem run_key (isWord : IsWord word) (short : word.length ≤ 1024) (gap : atGap rest)
    (fits : ∀ column ∈ blocks.head?, column ≤ place.column) {s next : Scan} {fuel : Nat}
    (reached : s.ready (fuel + 2) =
      .ok (outside place (word ++ ':' :: rest) tokens count blocks true))
    (marks : (behindWord place word (':' :: rest) tokens count blocks).valueMark = .ok next) :
    s.run (fuel + 2) = next.run fuel := by
  have key : s.run (fuel + 2) =
      (behindWord place word (':' :: rest) tokens count blocks).run (fuel + 1) := by
    obtain ⟨first, more, rfl, letter⟩ := isWord.exists_cons
    refine run_of_ready reached rfl ?_
    rw [readToken_of_isWordChar _ letter]
    exact plainScalar_key isWord gap
  rw [key]
  refine run_of_ready (ready_behindWord isWord short fits fuel) rfl ?_
  rw [readToken_colon _ rfl rfl gap]
  exact marks

/-- A word with a colon behind it is the first key of a mapping if it lies behind all blocks. -/
theorem run_firstKey (isWord : IsWord word) (short : word.length ≤ 1024) (gap : atGap rest)
    (deeper : ∀ column ∈ blocks.head?, column < place.column) {s : Scan} {fuel : Nat}
    (reached : s.ready (fuel + 2) =
      .ok (outside place (word ++ ':' :: rest) tokens count blocks true)) :
    s.run (fuel + 2) =
      (outside (place.advance (word ++ [':'])) rest
        (.value :: .scalar (CodePoint.ofChars word) true :: .key :: .blockMappingStart :: tokens)
        (count + 4) (place.column :: blocks) false).run fuel :=
  run_key isWord short gap (fun column innermost => Nat.le_of_lt (deeper column innermost)) reached
    (valueMark_behindWord word deeper)

/-- A word with a colon behind it is a further key of the mapping at its column. -/
theorem run_nextKey (isWord : IsWord word) (short : word.length ≤ 1024) (gap : atGap rest)
    (same : blocks.head? = some place.column) {s : Scan} {fuel : Nat}
    (reached : s.ready (fuel + 2) =
      .ok (outside place (word ++ ':' :: rest) tokens count blocks true)) :
    s.run (fuel + 2) =
      (outside (place.advance (word ++ [':'])) rest
        (.value :: .scalar (CodePoint.ofChars word) true :: .key :: tokens)
        (count + 3) blocks false).run fuel := by
  have fits : ∀ column ∈ blocks.head?, column ≤ place.column := by
    rw [same]
    rintro _ ⟨⟩
    exact Nat.le_refl _
  exact run_key isWord short gap fits reached (valueMark_inBlock word same)

/-! ## The end of a text -/

/-- At the end all blocks are closed, first those that lie behind the last column. -/
theorem run_of_ready_end {s : Scan} {fuel : Nat}
    (reached : s.ready (fuel + 1) =
      .ok (outside place [] tokens count blocks keyAllowed).unwind) :
    s.run (fuel + 1) =
      ⟨tokens.reverse ++ List.replicate blocks.length .blockEnd ++ [.streamEnd], none⟩ := by
  let closed := blocks.takeWhile fun column => !decide (column ≤ place.column)
  have total : (blocks.drop closed.length).length + closed.length = blocks.length := by
    have front : closed <+: blocks := List.takeWhile_prefix _
    rw [List.length_drop, Nat.sub_add_cancel front.length_le]
  have all (blocks : List Nat) : blocks.takeWhile (fun _ => !false) = blocks := by simp
  rw [run, reached]
  change Tokens.mk (Token.streamEnd :: (List.replicate ((blocks.drop closed.length).takeWhile
    fun _ => !false).length .blockEnd ++
      (List.replicate closed.length .blockEnd ++ tokens))).reverse none = _
  rw [all, ← List.append_assoc, List.replicate_append_replicate, total]
  simp

theorem run_end (fuel : Nat) :
    (outside place [] tokens count blocks keyAllowed).run (fuel + 1) =
      ⟨tokens.reverse ++ List.replicate blocks.length .blockEnd ++ [.streamEnd], none⟩ :=
  run_of_ready_end (ready_of_steps checkKeys_outside (skipGaps_spaces (by simp [Starts]) 0 fuel)
    rfl checkKeys_outside)

end Scan

end DrawingCode.Markup
