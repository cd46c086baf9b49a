import DrawingCode.Proofs.Double.Nearest
import DrawingCode.Proofs.Double.Reading
import DrawingCode.Proofs.Text.Lines
import Mathlib.Tactic.FieldSimp

/-! # Decimal literals

A literal is an optional sign, digits with an optional point, and an optional exponent. Single
underscores may stand between two digits. What a literal denotes is said here by its parts and not
by reading it; `Literal.read?_text` says that reading its text rounds just this number.
-/

namespace DrawingCode

/-- A row of digits in groups, between which single underscores stand. -/
structure DigitRow where
  groups : List (List Char)
  filled : ∀ group ∈ groups, group ≠ []
  digits : ∀ group ∈ groups, Double.Digits group

namespace DigitRow

def plain (row : DigitRow) : List Char := row.groups.flatten

def text (row : DigitRow) : List Char := ['_'].intercalate row.groups

/-- The number that the digits of a row denote. -/
def number (row : DigitRow) : Nat := Nat.ofDigitChars 10 row.plain 0

private theorem digits_plain (row : DigitRow) : Double.Digits row.plain := by
  intro c member
  obtain ⟨group, listed, here⟩ := List.mem_flatten.mp member
  exact row.digits group listed c here

private theorem plain_ne_nil {row : DigitRow} (nonempty : row.groups ≠ []) : row.plain ≠ [] := by
  obtain ⟨group, rest, same⟩ := List.exists_cons_of_ne_nil nonempty
  have filled := row.filled group (same ▸ List.mem_cons_self ..)
  simp [plain, same, filled]

end DigitRow

/-- A sign as it is written, or none. -/
inductive WrittenSign where
  | none
  | plus
  | minus

namespace WrittenSign

def text : WrittenSign → List Char
  | none => []
  | plus => ['+']
  | minus => ['-']

def negative : WrittenSign → Bool
  | minus => true
  | _ => false

end WrittenSign

structure WrittenExponent where
  mark : Char
  isMark : mark = 'e' ∨ mark = 'E'
  sign : WrittenSign
  row : DigitRow
  nonempty : row.groups ≠ []

/-- The power of ten that an exponent denotes. -/
def WrittenExponent.number (e : WrittenExponent) : Int :=
  if e.sign.negative then -(e.row.number : Int) else e.row.number

/-- A decimal literal. The digits behind the point are given where there is a point. -/
structure Literal where
  sign : WrittenSign
  whole : DigitRow
  fraction : Option DigitRow
  exponent : Option WrittenExponent
  nonempty : whole.groups ≠ [] ∨ ∃ row ∈ fraction, row.groups ≠ []

namespace Literal

/-- The end of a literal whose rows are spelt in some way: its exponent, if it has one. -/
def ending (spell : DigitRow → List Char) (l : Literal) : List Char :=
  l.exponent.elim [] fun e => e.mark :: (e.sign.text ++ spell e.row)

/-- What follows the whole digits of a literal. -/
def behindWhole (spell : DigitRow → List Char) (l : Literal) : List Char :=
  (l.fraction.elim [] fun row => '.' :: spell row) ++ l.ending spell

def unsigned (spell : DigitRow → List Char) (l : Literal) : List Char :=
  spell l.whole ++ l.behindWhole spell

def chars (l : Literal) : List Char := l.sign.text ++ l.unsigned DigitRow.text

def text (l : Literal) : String := String.ofList l.chars

def fractionDigits (l : Literal) : List Char := l.fraction.elim [] DigitRow.plain

/-- The power of ten of the exponent, which is zero if there is none. -/
def power (l : Literal) : Int := l.exponent.elim 0 WrittenExponent.number

/-- The number that a literal denotes, but for its sign. -/
def size (l : Literal) : ℚ :=
  (l.whole.number + (Nat.ofDigitChars 10 l.fractionDigits 0 : ℚ) / 10 ^ l.fractionDigits.length) *
    10 ^ l.power

/-- The number that a literal denotes. -/
def value (l : Literal) : ℚ := signed l.sign.negative l.size

/-- All digits of a literal but those of the exponent, and the power of ten of the last of them. -/
def decimal (l : Literal) : Decimal :=
  ⟨Nat.ofDigitChars 10 (l.whole.plain ++ l.fractionDigits) 0, l.power - l.fractionDigits.length⟩

theorem value_decimal (l : Literal) : l.decimal.value = l.size := by
  have shifted : (10 : ℚ) ^ (l.power - l.fractionDigits.length) =
      10 ^ l.power / 10 ^ l.fractionDigits.length := by
    rw [zpow_sub₀ (by norm_num), zpow_natCast]
  have positive : (10 : ℚ) ^ l.fractionDigits.length ≠ 0 := by positivity
  rw [decimal, Decimal.value, shifted, Nat.ofDigitChars_append,
    Nat.ofDigitChars_eq_ofDigitChars_zero, size, DigitRow.number]
  push_cast
  field_simp

end Literal

namespace Double

section Separators

variable {rest : List Char}

private theorem dropSeparators?_digits {group : List Char} (digits : Digits group)
    (filled : group ≠ [])
    (afterDigit : Bool) : dropSeparators? afterDigit (group ++ rest) =
      (dropSeparators? true rest).map (group ++ ·) := by
  induction group generalizing afterDigit with
  | nil => exact absurd rfl filled
  | cons c more ih =>
    obtain ⟨digit, others⟩ := List.forall_mem_cons.mp digits
    have solid : c ≠ '_' := by
      rintro rfl
      cases digit
    rw [List.cons_append, dropSeparators?, if_neg solid, digit]
    cases more with
    | nil => rfl
    | cons next more =>
      rw [ih others (List.cons_ne_nil _ _), Option.map_map]
      rfl

/-- Before a character that is no underscore it does not matter what came before. -/
theorem dropSeparators?_of_head (solid : rest.head? ≠ some '_') (afterDigit other : Bool) :
    dropSeparators? afterDigit rest = dropSeparators? other rest := by
  cases rest with
  | nil => rfl
  | cons c more =>
    have plain : c ≠ '_' := by simpa using solid
    rw [dropSeparators?, dropSeparators?, if_neg plain, if_neg plain]

/-- The underscores of a row are dropped, since each of them stands between two digits. -/
theorem dropSeparators?_row (row : DigitRow) (solid : rest.head? ≠ some '_') (afterDigit : Bool) :
    dropSeparators? afterDigit (row.text ++ rest) =
      (dropSeparators? false rest).map (row.plain ++ ·) := by
  obtain ⟨groups, filled, digits⟩ := row
  simp only [DigitRow.text, DigitRow.plain]
  induction groups generalizing afterDigit with
  | nil =>
    rw [dropSeparators?_of_head solid false afterDigit]
    exact Option.map_id'.symm
  | cons group more ih =>
    obtain ⟨here, later⟩ := List.forall_mem_cons.mp filled
    obtain ⟨first, others⟩ := List.forall_mem_cons.mp digits
    cases more with
    | nil =>
      rw [List.intercalate_singleton, dropSeparators?_digits first here,
        dropSeparators?_of_head solid true false]
      simp
    | cons next more =>
      obtain ⟨c, tail, same⟩ := List.exists_cons_of_ne_nil (later next (List.mem_cons_self ..))
      have digit : c.isDigit := others next (List.mem_cons_self ..) c (same ▸ List.mem_cons_self ..)
      have head : (['_'].intercalate (next :: more) ++ rest).head? = some c := by
        cases more <;> simp [List.intercalate_cons_cons, same]
      rw [List.intercalate_cons_cons, List.append_assoc, List.append_assoc,
        dropSeparators?_digits first here, List.singleton_append, dropSeparators?, if_pos rfl, head]
      simp only [Option.any_some, digit, Bool.and_self, if_true]
      rw [ih false later others, Option.map_map]
      simp only [List.flatten_cons, List.append_assoc]
      rfl

end Separators

end Double

namespace Literal

open Double

variable (l : Literal)

private theorem head_ending {spell : DigitRow → List Char} {c : Char}
    (first : (l.ending spell).head? = some c) : c = 'e' ∨ c = 'E' := by
  cases exponent : l.exponent with
  | none => simp [ending, exponent] at first
  | some e =>
    have mark : e.mark = c := by simpa [ending, exponent] using first
    exact mark ▸ e.isMark

private theorem head_behindWhole {spell : DigitRow → List Char} {c : Char}
    (first : (l.behindWhole spell).head? = some c) : c = '.' ∨ c = 'e' ∨ c = 'E' := by
  cases fraction : l.fraction with
  | none =>
    rw [behindWhole, fraction, Option.elim_none, List.nil_append] at first
    exact .inr (l.head_ending first)
  | some row =>
    have point : '.' = c := by simpa [behindWhole, fraction] using first
    exact .inl point.symm

private theorem dropSeparators?_ending (afterDigit : Bool) :
    dropSeparators? afterDigit (l.ending DigitRow.text) = some (l.ending DigitRow.plain) := by
  cases exponent : l.exponent with
  | none => simp [ending, exponent, dropSeparators?]
  | some e =>
    have row (afterDigit : Bool) : dropSeparators? afterDigit e.row.text = some e.row.plain := by
      have read := @dropSeparators?_row [] e.row (by simp) afterDigit
      rw [List.append_nil] at read
      simp [read, dropSeparators?]
    have solid : e.mark ≠ '_' := by rcases e.isMark with mark | mark <;> simp [mark]
    simp only [ending, exponent, Option.elim_some, dropSeparators?, if_neg solid]
    cases e.sign <;> simp [WrittenSign.text, dropSeparators?, row]

private theorem dropSeparators?_behindWhole (afterDigit : Bool) :
    dropSeparators? afterDigit (l.behindWhole DigitRow.text) =
      some (l.behindWhole DigitRow.plain) := by
  have solid : (l.ending DigitRow.text).head? ≠ some '_' := by
    intro first
    rcases l.head_ending first with mark | mark <;> cases mark
  cases fraction : l.fraction with
  | none => simp [behindWhole, fraction, dropSeparators?_ending]
  | some row =>
    simp only [behindWhole, fraction, Option.elim_some, List.cons_append]
    rw [dropSeparators?, if_neg (by decide), dropSeparators?_row row solid, dropSeparators?_ending]
    rfl

/-- A literal loses its underscores and nothing else. -/
theorem dropSeparators?_chars :
    dropSeparators? false l.chars = some (l.sign.text ++ l.unsigned DigitRow.plain) := by
  have solid : (l.behindWhole DigitRow.text).head? ≠ some '_' := by
    intro first
    rcases l.head_behindWhole first with mark | mark | mark <;> cases mark
  have read (afterDigit : Bool) : dropSeparators? afterDigit (l.unsigned DigitRow.text) =
      some (l.unsigned DigitRow.plain) := by
    rw [unsigned, dropSeparators?_row l.whole solid, dropSeparators?_behindWhole]
    rfl
  rw [chars]
  cases l.sign <;> simp [WrittenSign.text, dropSeparators?, read]

private theorem head_unsigned : ∃ c rest, l.unsigned DigitRow.plain = c :: rest ∧
    (c.isDigit ∨ c = '.') := by
  by_cases whole : l.whole.groups = []
  · obtain ⟨row, pointed, _⟩ := l.nonempty.resolve_left (not_not.mpr whole)
    refine ⟨'.', row.plain ++ l.ending DigitRow.plain, ?_, .inr rfl⟩
    simp [unsigned, behindWhole, DigitRow.plain, whole, Option.mem_def.mp pointed]
  · obtain ⟨c, rest, same⟩ := List.exists_cons_of_ne_nil (DigitRow.plain_ne_nil whole)
    have digit : c.isDigit := l.whole.digits_plain c (same ▸ List.mem_cons_self ..)
    exact ⟨c, rest ++ l.behindWhole DigitRow.plain, by simp [unsigned, same], .inl digit⟩

private theorem splitSign_append (sign : WrittenSign) {c : Char} {rest : List Char}
    (unsigned : c.isDigit ∨ c = '.') :
    splitSign (sign.text ++ c :: rest) = (sign.negative, c :: rest) := by
  cases sign with
  | plus | minus => rfl
  | none =>
    rw [WrittenSign.text, List.nil_append, splitSign]
    · rfl
    · rintro _ ⟨rfl, -⟩
      simp at unsigned
    · rintro _ ⟨rfl, -⟩
      simp at unsigned

private theorem readExponent?_ending : readExponent? (l.ending DigitRow.plain) = some l.power := by
  cases exponent : l.exponent with
  | none => simp [ending, power, exponent, readExponent?]
  | some e =>
    have digits := e.row.digits_plain
    obtain ⟨c, rest, same⟩ := List.exists_cons_of_ne_nil (DigitRow.plain_ne_nil e.nonempty)
    have digit : c.isDigit := digits c (same ▸ List.mem_cons_self ..)
    have split : splitSign (e.sign.text ++ c :: rest) = (e.sign.negative, c :: rest) :=
      splitSign_append e.sign (.inl digit)
    rw [← same] at split
    simp only [ending, power, exponent, Option.elim_some]
    exact readExponent?_mark e.isMark split digits (DigitRow.plain_ne_nil e.nonempty)

private theorem readDecimal?_unsigned :
    readDecimal? (l.unsigned DigitRow.plain) = some l.decimal := by
  have ends : (l.ending DigitRow.plain).takeWhile Char.isDigit = [] := by
    cases rest : l.ending DigitRow.plain with
    | nil => rfl
    | cons c tail =>
      have first : (l.ending DigitRow.plain).head? = some c := by rw [rest, List.head?_cons]
      have mark : c = 'e' ∨ c = 'E' := l.head_ending first
      rw [List.takeWhile_cons_of_neg]
      rcases mark with rfl | rfl <;> decide
  cases fraction : l.fraction with
  | none =>
    have noPoint : (l.ending DigitRow.plain).head? ≠ some '.' := by
      intro first
      rcases l.head_ending first with mark | mark <;> cases mark
    have filled : l.whole.plain ≠ [] :=
      DigitRow.plain_ne_nil (l.nonempty.resolve_right (by simp [fraction]))
    have read := readDecimal?_whole l.whole.digits_plain ends noPoint filled
    rw [readExponent?_ending, Option.map_some] at read
    simp [unsigned, behindWhole, decimal, fractionDigits, fraction, read]
  | some row =>
    have filled : l.whole.plain ≠ [] ∨ row.plain ≠ [] := by
      rcases l.nonempty with whole | ⟨other, listed, filled⟩
      · exact .inl (DigitRow.plain_ne_nil whole)
      · rw [fraction, Option.mem_some_iff] at listed
        exact .inr (DigitRow.plain_ne_nil (listed ▸ filled))
    have read := readDecimal?_point l.whole.digits_plain row.digits_plain ends filled
    rw [readExponent?_ending, Option.map_some] at read
    simp [unsigned, behindWhole, decimal, fractionDigits, fraction, read]

private theorem mem_text_row {row : DigitRow} {c : Char} (member : c ∈ row.text) :
    c ∈ literalChars := by
  rcases Text.mem_intercalate member with rfl | ⟨group, listed, here⟩
  · decide
  · exact mem_literalChars_of_isDigit (row.digits group listed c here)

private theorem mem_text_sign {sign : WrittenSign} {c : Char} (member : c ∈ sign.text) :
    c ∈ literalChars := by
  cases sign with
  | none => cases member
  | plus | minus =>
    rw [List.mem_singleton.mp member]
    decide

private theorem mem_ending {c : Char} (member : c ∈ l.ending DigitRow.text) : c ∈ literalChars := by
  cases written : l.exponent with
  | none => simp [ending, written] at member
  | some e =>
    simp only [ending, written, Option.elim_some, List.mem_cons, List.mem_append] at member
    rcases member with rfl | signed | digits
    · rcases e.isMark with mark | mark <;> rw [mark] <;> decide
    · exact mem_text_sign signed
    · exact mem_text_row digits

private theorem mem_chars {c : Char} (member : c ∈ l.chars) : c ∈ literalChars := by
  simp only [chars, unsigned, behindWhole, List.mem_append] at member
  rcases member with signed | digits | pointed | ending
  · exact mem_text_sign signed
  · exact mem_text_row digits
  · cases fraction : l.fraction with
    | none => simp [fraction] at pointed
    | some digits =>
      rw [fraction, Option.elim_some, List.mem_cons] at pointed
      rcases pointed with rfl | inside
      · decide
      · exact mem_text_row inside
  · exact l.mem_ending ending

private theorem plainNumeral_chars : plainNumeral l.chars = l.chars := by
  apply plainNumeral_eq
  · exact fun c member => literalChars_not_blank c (l.mem_chars member)
  · exact fun c member => literalChars_plain c (l.mem_chars member)

/-- The text of a literal is read as the double that its digits and powers of ten are rounded to. -/
theorem read?_text : Double.read? l.text = some (ofDecimal l.sign.negative l.decimal) := by
  obtain ⟨c, rest, same, begins⟩ := l.head_unsigned
  have split : splitSign (l.sign.text ++ l.unsigned DigitRow.plain) =
      (l.sign.negative, l.unsigned DigitRow.plain) := by
    rw [same]
    exact splitSign_append l.sign begins
  have noWord {letter : Char} {word : List Char} (noDigit : letter.isDigit = false)
      (noPoint : letter ≠ '.') :
      (l.unsigned DigitRow.plain).map Char.toLower ≠ letter :: word := by
    intro equal
    rw [same] at equal
    have head := List.head_eq_of_cons_eq equal
    rcases begins with digit | rfl
    · rw [← head, isDigit_toLower digit] at noDigit
      cases noDigit
    · exact noPoint head.symm
  rw [Double.read?, text, String.toList_ofList, plainNumeral_chars, dropSeparators?_chars]
  simp only [Option.bind_eq_bind, Option.bind_some, split]
  rw [if_neg, if_neg (noWord rfl (by decide)), readDecimal?_unsigned, Option.bind_some]
  · rfl
  · exact not_or.mpr ⟨noWord rfl (by decide), noWord rfl (by decide)⟩

end Literal

end DrawingCode
