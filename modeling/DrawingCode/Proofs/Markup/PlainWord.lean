import DrawingCode.Markup.Scalar.Plain
import DrawingCode.Markup.Tag
import DrawingCode.Proofs.Text.Words
import Mathlib.Data.List.TakeWhile

/-! # Words without quotes

A word of letters, digits and underscores can be read off a text without quotes, up to what follows
it. An identifier, which begins with no digit, is a text, unless it is one of the words for nothing
or for a truth value: it has the form of no number and of no date.
-/

namespace DrawingCode

open Text

/-- Texts of the form of an identifier. -/
def Text.IsIdentifier (text : List Char) : Prop :=
  ∃ first rest, text = first :: rest ∧ (first.isAlpha ∨ first = '_') ∧
    ∀ c ∈ rest, c.isAlphanum ∨ c = '_'

instance (text : List Char) : Decidable (Text.IsIdentifier text) :=
  match text with
  | [] => isFalse fun ⟨_, _, eq, _⟩ => nomatch eq
  | first :: rest =>
    decidable_of_iff
      ((first.isAlpha || first == '_') && rest.all fun c => c.isAlphanum || c == '_')
      ⟨fun h => ⟨first, rest, rfl, by simpa using h⟩,
        fun ⟨_, _, eq, h⟩ => by cases eq; simpa using h⟩

namespace Markup

/-- A row of letters, digits and underscores. -/
structure IsWord (word : List Char) : Prop where
  nonempty : word ≠ []
  letters : ∀ c ∈ word, isWordChar c

variable {c : Char} {text word rest : List Char}

/-! ## Characters of words -/

theorem ne_of_isWordChar {other : Char} (letter : isWordChar c) (apart : isWordChar other = false) :
    c ≠ other := by
  rintro rfl
  rw [apart] at letter
  cases letter

theorem isBreak_of_isWordChar (letter : isWordChar c) : isBreak c = false := by
  simp (disch := decide) [isBreak, ne_of_isWordChar letter]

theorem isGap_of_isWordChar (letter : isWordChar c) : isGap c = false := by
  simp (disch := decide) [isGap, isSpace, isBreak_of_isWordChar letter, ne_of_isWordChar letter]

private theorem range_of_isAlpha (letter : c.isAlpha) :
    65 ≤ c.toNat ∧ c.toNat ≤ 90 ∨ 97 ≤ c.toNat ∧ c.toNat ≤ 122 := by
  obtain upper | lower := Bool.or_eq_true_iff.mp letter
  · exact .inl (of_decide_eq_true upper)
  · have bounds := Bool.and_eq_true_iff.mp lower
    exact .inr ⟨of_decide_eq_true bounds.1, of_decide_eq_true bounds.2⟩

private theorem range_of_isDigit (digit : c.isDigit) : 48 ≤ c.toNat ∧ c.toNat ≤ 57 := by
  have bounds := Bool.and_eq_true_iff.mp digit
  exact ⟨of_decide_eq_true bounds.1, of_decide_eq_true bounds.2⟩

theorem isAllowed_of_isWordChar (letter : isWordChar c) : isAllowed c := by
  have range : 0x20 ≤ c.toNat ∧ c.toNat ≤ 0x7e := by
    obtain alphanum | underscore := Bool.or_eq_true_iff.mp letter
    · obtain alpha | digit := Bool.or_eq_true_iff.mp alphanum
      · have := range_of_isAlpha alpha
        omega
      · have := range_of_isDigit digit
        omega
    · obtain rfl := beq_iff_eq.mp underscore
      decide
  simp [isAllowed, range]

private theorem isDigit_eq_false_of_isAlpha (letter : c.isAlpha) : c.isDigit = false := by
  refine Bool.eq_false_iff.mpr fun digit => ?_
  have := range_of_isAlpha letter
  have := range_of_isDigit digit
  omega

/-- A text that is not at a gap: no space, no comment and no end of a line comes first. -/
def Starts (text : List Char) : Prop := ∀ c ∈ text.head?, c ≠ ' ' ∧ c ≠ '#' ∧ isBreak c = false

theorem IsWord.exists_cons (isWord : IsWord word) :
    ∃ first more, word = first :: more ∧ isWordChar first := by
  obtain ⟨first, more, rfl⟩ := List.exists_cons_of_ne_nil isWord.nonempty
  exact ⟨first, more, rfl, isWord.letters first (by simp)⟩

theorem IsWord.starts (isWord : IsWord word) (rest : List Char) : Starts (word ++ rest) := by
  obtain ⟨first, more, rfl, letter⟩ := isWord.exists_cons
  rintro _ ⟨⟩
  exact ⟨ne_of_isWordChar letter rfl, ne_of_isWordChar letter rfl, isBreak_of_isWordChar letter⟩

/-! ## The tags of identifiers -/

namespace Plain

theorem isWord_of_isIdentifier (identifier : IsIdentifier text) : IsWord text := by
  obtain ⟨first, rest, rfl, begins, follows⟩ := identifier
  refine ⟨by simp, fun c mem => ?_⟩
  obtain rfl | later := List.mem_cons.mp mem
  · simpa [isWordChar, Char.isAlphanum] using begins.imp .inl id
  · simpa [isWordChar] using follows c later

private theorem begins_of_isIdentifier (identifier : IsIdentifier text) :
    text.head?.any Char.isDigit = false := by
  obtain ⟨first, rest, rfl, letter | rfl, _⟩ := identifier
  · exact isDigit_eq_false_of_isAlpha letter
  · rfl

section Forms

variable (isWord : IsWord word) (begins : word.head?.any Char.isDigit = false)
include isWord

private theorem withoutLastBreak_of_isWord : withoutLastBreak word = word := by
  unfold withoutLastBreak
  rw [if_neg]
  rintro ⟨_, last⟩
  have letter := isWord.letters _ (List.mem_of_getLast? last)
  cases letter

private theorem withoutSign_of_isWord : withoutSign word = word := by
  obtain ⟨first, more, rfl, letter⟩ := isWord.exists_cons
  unfold withoutSign
  split
  · next eq => exact absurd (List.cons.inj eq).1 (ne_of_isWordChar letter rfl)
  · next eq => exact absurd (List.cons.inj eq).1 (ne_of_isWordChar letter rfl)
  · rfl

/-- Only numbers with a point in them are no integers. -/
theorem isFloat_of_isWord : isFloat word = false := by
  have noPoint : ∀ c ∈ word, c ≠ '.' := fun c mem => ne_of_isWordChar (isWord.letters c mem) rfl
  have behind : word.dropWhile (· != '.') = [] :=
    List.dropWhile_eq_nil_iff.mpr fun c mem => by simpa using noPoint c mem
  unfold isFloat
  rw [withoutSign_of_isWord isWord, isSignedFloat]
  simp only [behind, Bool.false_or]
  split
  · exact absurd rfl (noPoint '.' (by simp))
  · rfl

include begins

private theorem isInteger_of_isWord : isInteger word = false := by
  have places : word.splitOn ':' = [word] :=
    List.splitOnP_eq_singleton fun c mem => by
      simpa using ne_of_isWordChar (isWord.letters c mem) (show isWordChar ':' = false from rfl)
  unfold isInteger
  rw [withoutSign_of_isWord isWord]
  unfold isMagnitude
  split
  · cases begins
  · cases begins
  · cases begins
  · cases begins
  · rw [places]
    simp [isPositive, isNumeral, begins]

omit isWord in
private theorem isTimestamp_of_begins : isTimestamp word = false := by
  have digits : word.takeWhile Char.isDigit = [] := by
    cases word with
    | nil => rfl
    | cons first more => exact List.takeWhile_cons_of_neg (by simpa using begins)
  simp [isTimestamp, Timestamp.read?, Timestamp.digits?, digits]

end Forms

/-- An identifier is a text, unless it is one of certain words. -/
theorem tag_of_isIdentifier (identifier : IsIdentifier text) :
    tag text =
      if String.ofList text ∈ nullWords then .null
      else if String.ofList text ∈ booleanWords then .boolean
      else .text := by
  have isWord := isWord_of_isIdentifier identifier
  have begins := begins_of_isIdentifier identifier
  have other (mark : Char) (apart : isWordChar mark = false) (more : List Char) :
      String.ofList text ≠ String.ofList (mark :: more) := by
    intro eq
    obtain rfl := String.ofList_injective eq
    exact ne_of_isWordChar (isWord.letters mark (by simp)) apart rfl
  have noMerge := other '<' rfl ['<']
  have noValue := other '=' rfl []
  have noMark : ¬(String.ofList text = "!" ∨ String.ofList text = "&" ∨
      String.ofList text = "*") := by
    rintro (eq | eq | eq)
    · exact other '!' rfl [] eq
    · exact other '&' rfl [] eq
    · exact other '*' rfl [] eq
  unfold tag
  simp only [withoutLastBreak_of_isWord isWord, isFloat_of_isWord isWord,
    isInteger_of_isWord isWord begins, isTimestamp_of_begins begins, List.contains_eq_mem,
    decide_eq_true_eq, Bool.false_eq_true, if_false]
  rw [if_neg noMerge, if_neg noValue, if_neg noMark]

/-! ## Reading words -/

private theorem word_append (letters : ∀ c ∈ word, isWordChar c) {rest : List Char}
    (ended : isGap c || c == ':' && atGap rest) :
    Plain.word false (word ++ c :: rest) = (word, c :: rest) := by
  induction word with
  | nil => simp [Plain.word, colonEnds, ended]
  | cons first more ih =>
    have letter := letters first (by simp)
    simp (disch := decide) [Plain.word, ih fun c mem => letters c (by simp [mem]),
      isGap_of_isWordChar letter, ne_of_isWordChar letter]

private theorem word_eq_self (letters : ∀ c ∈ word, isWordChar c) :
    Plain.word false word = (word, []) := by
  induction word with
  | nil => rfl
  | cons first more ih =>
    have letter := letters first (by simp)
    simp (disch := decide) [Plain.word, ih fun c mem => letters c (by simp [mem]),
      isGap_of_isWordChar letter, ne_of_isWordChar letter]

/-- A word at the end of the text is read. -/
theorem read_atEnd (isWord : IsWord word) (indent : Nat) :
    read false indent word = ⟨word, [], false, true⟩ := by
  obtain ⟨first, more, rfl, _⟩ := isWord.exists_cons
  rw [read, List.length_cons, readWords, word_eq_self isWord.letters]
  rfl

/-- A word before a colon is read up to the colon. -/
theorem read_key (isWord : IsWord word) (gap : atGap rest) (indent : Nat) :
    read false indent (word ++ ':' :: rest) =
      ⟨word, ':' :: rest, false, wordOverrun (':' :: rest)⟩ := by
  obtain ⟨fuel, length⟩ : ∃ fuel, (word ++ ':' :: rest).length = fuel + 1 := ⟨_, by simp; rfl⟩
  rw [read, length, readWords, word_append isWord.letters (by simp [gap])]
  simp [isWord.nonempty, Plain.gap, skipSpaces, isBreak, Gap.ends]

private theorem breaks_spaces (starts : Starts rest) (column count : Nat) :
    breaks column (List.replicate count ' ' ++ rest) =
      ⟨[], rest, true, column + count, false, rest.isEmpty⟩ := by
  induction count generalizing column with
  | zero =>
    cases rest with
    | nil => rfl
    | cons c rest =>
      obtain ⟨noSpace, _, noBreak⟩ := starts c rfl
      simp [breaks, noSpace, noBreak]
  | succ count ih =>
    simp [List.replicate_succ, breaks, ih, Nat.add_assoc, Nat.add_comm 1]

/-- A word at the end of a line is read with the gap behind it, if the next line is indented too
little to go on with the scalar. -/
theorem read_lastWord (isWord : IsWord word) {indent count : Nat} (less : count < indent)
    (starts : Starts rest)
    (noMarker : atMarker (List.replicate count ' ' ++ rest) = false) :
    ∃ overrun, read false indent (word ++ '\n' :: (List.replicate count ' ' ++ rest)) =
      ⟨word, rest, true, overrun⟩ := by
  obtain ⟨fuel, length⟩ :
      ∃ fuel, (word ++ '\n' :: (List.replicate count ' ' ++ rest)).length = fuel + 1 :=
    ⟨_, by simp; rfl⟩
  rw [read, length, readWords, word_append isWord.letters (by simp [isGap, isBreak])]
  simp [isWord.nonempty, Plain.gap, skipSpaces, isBreak, noMarker, breaks_spaces starts, breakChar,
    Gap.ends, less]

end Plain

end Markup

end DrawingCode
