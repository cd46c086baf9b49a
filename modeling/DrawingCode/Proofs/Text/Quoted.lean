import DrawingCode.Proofs.Text.Hexadecimal
import Mathlib.Tactic.SplitIfs

/-! # Quoted texts can be told apart

A character is read back from its spelling between quotes, whatever follows, and the quote in use
begins no spelling. So a quoted text determines the text, even where more text follows.
-/

namespace DrawingCode.Text

-- Powers of natural numbers are those of the core library, whatever other instances are in scope.
attribute [local instance (2000)] instPowNat

/-- The character of a given number of hexadecimal digits, and what follows them. -/
def unquoteCode? (width : Nat) (text : List Char) : Option (Char × List Char) :=
  (Markup.hexNumber? (text.take width)).map fun code => (Char.ofNat code, text.drop width)

/-- The first character of a text between quotes, and what follows its spelling. -/
def unquoteChar? : List Char → Option (Char × List Char)
  | [] => none
  | '\\' :: 't' :: rest => some ('\t', rest)
  | '\\' :: 'n' :: rest => some ('\n', rest)
  | '\\' :: 'r' :: rest => some ('\r', rest)
  | '\\' :: 'x' :: rest => unquoteCode? 2 rest
  | '\\' :: 'u' :: rest => unquoteCode? 4 rest
  | '\\' :: 'U' :: rest => unquoteCode? 8 rest
  | '\\' :: c :: rest => some (c, rest)
  | c :: rest => some (c, rest)

/-- A quote that may surround a text. -/
def IsQuote (quote : Char) : Prop := quote = '\'' ∨ quote = '"'

theorem isQuote_quoteFor (text : List Char) : IsQuote (quoteFor text) := by
  unfold quoteFor
  split
  · exact .inr rfl
  · exact .inl rfl

private theorem unquoteCode?_hexDigits {width : Nat} {c : Char} (positive : 0 < width)
    (fits : c.toNat < 16 ^ width) (rest : List Char) :
    unquoteCode? width (hexDigits width c.toNat ++ rest) = some (c, rest) := by
  have length := length_hexDigits positive fits
  rw [unquoteCode?, List.take_left' length, List.drop_left' length, hexNumber?_hexDigits,
    Option.map_some, Char.ofNat_toNat]

theorem toNat_lt (c : Char) : c.toNat < 16 ^ (8 : Nat) := by
  have := c.valid
  rw [UInt32.isValidChar, Nat.isValidChar] at this
  have : c.toNat = c.val.toNat := rfl
  omega

/-- A character is read back from its spelling. -/
theorem unquoteChar?_quotedChar {quote : Char} (isQuote : IsQuote quote) (c : Char)
    (rest : List Char) : unquoteChar? (quotedChar quote c ++ rest) = some (c, rest) := by
  unfold quotedChar
  split_ifs with own tab line back printable two four
  · rcases own with rfl | rfl
    · rcases isQuote with rfl | rfl <;> rfl
    · rfl
  · rw [tab]
    rfl
  · rw [line]
    rfl
  · rw [back]
    rfl
  · have plain : c ≠ '\\' := fun same => own (.inr same)
    simp [unquoteChar?, plain]
  · exact unquoteCode?_hexDigits (by decide) two rest
  · exact unquoteCode?_hexDigits (by decide) four rest
  · exact unquoteCode?_hexDigits (by decide) (toNat_lt c) rest

/-- The quote in use begins no spelling. All of them but that of a printable character begin with a
backslash. -/
theorem exists_quotedChar {quote : Char} (isQuote : IsQuote quote) (c : Char) :
    ∃ first more, quotedChar quote c = first :: more ∧ first ≠ quote := by
  have solid : '\\' ≠ quote := by
    rcases isQuote with rfl | rfl <;> decide
  unfold quotedChar
  split_ifs with own
  rotate_left 4
  · exact ⟨_, _, rfl, fun same => own (.inl same)⟩
  all_goals exact ⟨_, _, rfl, solid⟩

private theorem flatMap_quotedChar_append_inj {quote : Char} (isQuote : IsQuote quote)
    {s t rest other : List Char} (same : s.flatMap (quotedChar quote) ++ quote :: rest =
      t.flatMap (quotedChar quote) ++ quote :: other) : s = t ∧ rest = other := by
  have apart (c : Char) (s rest other : List Char) :
      quote :: rest ≠ (c :: s).flatMap (quotedChar quote) ++ other := by
    obtain ⟨first, more, spelled, other⟩ := exists_quotedChar isQuote c
    rw [List.flatMap_cons, spelled]
    exact fun same => other (List.cons.inj same).1.symm
  induction s generalizing t with
  | nil =>
    cases t with
    | nil => exact ⟨rfl, (List.cons.inj same).2⟩
    | cons d t => exact absurd same (apart d t rest _)
  | cons c s ih =>
    cases t with
    | nil => exact absurd same.symm (apart c s other _)
    | cons d t =>
      rw [List.flatMap_cons, List.flatMap_cons, List.append_assoc, List.append_assoc] at same
      have read := congrArg unquoteChar? same
      rw [unquoteChar?_quotedChar isQuote, unquoteChar?_quotedChar isQuote, Option.some.injEq,
        Prod.mk.injEq] at read
      obtain ⟨rfl, behind⟩ := read
      obtain ⟨rfl, rest⟩ := ih behind
      exact ⟨rfl, rest⟩

/-- A quoted text determines the text and what follows. -/
theorem quotedChars_append_inj {s t rest other : List Char}
    (same : quotedChars s ++ rest = quotedChars t ++ other) : s = t ∧ rest = other := by
  simp only [quotedChars, List.cons_append, List.append_assoc, List.nil_append] at same
  obtain ⟨quotes, behind⟩ := List.cons.inj same
  rw [quotes] at behind
  exact flatMap_quotedChar_append_inj (isQuote_quoteFor t) behind

/-- A character that is shown as it is, between single quotes. -/
def IsPlain (c : Char) : Prop := (0x20 ≤ c.toNat ∧ c.toNat ≤ 0x7e) ∧ c ≠ '\'' ∧ c ≠ '\\'

instance (c : Char) : Decidable (IsPlain c) :=
  inferInstanceAs (Decidable ((0x20 ≤ c.toNat ∧ c.toNat ≤ 0x7e) ∧ c ≠ '\'' ∧ c ≠ '\\'))

private theorem quotedChar_of_isPlain {c : Char} (plain : IsPlain c) : quotedChar '\'' c = [c] := by
  obtain ⟨range, quote, backslash⟩ := plain
  have printable : isPrintable c :=
    List.any_eq_true.mpr ⟨(0x20, 0x7e), List.mem_cons_self .., by simp [range]⟩
  have above (d : Char) (low : d.toNat < 0x20) : c ≠ d := by
    rintro rfl
    omega
  rw [quotedChar, if_neg (not_or.mpr ⟨quote, backslash⟩), if_neg (above _ (by decide)),
    if_neg (above _ (by decide)), if_neg (above _ (by decide)), if_pos printable]

theorem quotedChars_of_isPlain {text : List Char} (plain : ∀ c ∈ text, IsPlain c) :
    quotedChars text = '\'' :: (text ++ ['\'']) := by
  have single : quoteFor text = '\'' := by
    have unquoted : text.contains '\'' = false := by
      rw [List.contains_eq_mem, decide_eq_false_iff_not]
      exact fun member => (plain _ member).2.1 rfl
    rw [quoteFor, unquoted, Bool.false_and, if_neg Bool.false_ne_true]
  have chars : text.flatMap (quotedChar '\'') = text := by
    clear single
    induction text with
    | nil => rfl
    | cons c rest ih =>
      obtain ⟨here, later⟩ := List.forall_mem_cons.mp plain
      rw [List.flatMap_cons, quotedChar_of_isPlain here, ih later, List.singleton_append]
  rw [quotedChars, single, chars]

end DrawingCode.Text
