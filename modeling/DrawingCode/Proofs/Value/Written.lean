import DrawingCode.Proofs.Text.Phrase
import DrawingCode.Proofs.Value.Form
import DrawingCode.Proofs.Value.Structure
import DrawingCode.Value.Basic

/-! # The text of a value determines it

The text of a value is that of a phrase, from which the value is read back. Only which
pattern stands for no number is lost: values with the same text are the same value once all these
patterns have been replaced by one of them.
-/

namespace DrawingCode

open Text

namespace Value

mutual

/-- A value with every double that is no number replaced by one of them. -/
def canonical : Value → Value
  | double d => double d.canonical
  | list items => list (canonicalItems items)
  | dict entries => dict (canonicalEntries entries)
  | v => v

def canonicalItems : List Value → List Value
  | [] => []
  | v :: rest => v.canonical :: canonicalItems rest

def canonicalEntries : List (String × Value) → List (String × Value)
  | [] => []
  | (k, v) :: rest => (k, v.canonical) :: canonicalEntries rest

end

private theorem canonicalItems_eq (items : List Value) :
    canonicalItems items = items.map canonical := by
  induction items with
  | nil => rfl
  | cons v rest ih => rw [canonicalItems, ih, List.map_cons]

private theorem canonicalEntries_eq (entries : List (String × Value)) :
    canonicalEntries entries = entries.map fun entry => (entry.1, entry.2.canonical) := by
  induction entries with
  | nil => rfl
  | cons entry rest ih => rw [canonicalEntries, ih, List.map_cons]

/-- A value in which every double is a number is left as it is. -/
theorem canonical_of_isNumbered {v : Value} (numbered : v.isNumbered) : v.canonical = v := by
  induction v using Value.induction with
  | double d =>
    have number : d.isNaN = false := by simpa [isNumbered, every] using numbered
    rw [canonical, Double.canonical, number, if_neg Bool.false_ne_true]
  | list items ih =>
    have numbered := isNumbered_list_iff.mp numbered
    have same : ∀ v ∈ items, v.canonical = id v := fun v here => ih v here (numbered v here)
    rw [canonical, canonicalItems_eq, List.map_congr_left same, List.map_id]
  | dict entries ih =>
    have numbered := isNumbered_dict_iff.mp numbered
    have same : ∀ entry ∈ entries, (entry.1, entry.2.canonical) = id entry := fun entry here =>
      congrArg (Prod.mk entry.1) (ih entry here (numbered entry here))
    rw [canonical, canonicalEntries_eq, List.map_congr_left same, List.map_id]
  | null | bool _ | int _ | text _ => rfl

end Value

/-! ## Words -/

private theorem numeralChars_not_sign : ∀ c ∈ Double.numeralChars, ¬IsSign c :=
  List.forall_iff_forall_mem.mp (by decide)

/-- Whether a character may stand in the text of an integer. -/
def isIntegral (c : Char) : Bool := c.isDigit || c == '-'

private theorem isIntegral_of_mem_toString {i : Int} : ∀ c ∈ (toString i).toList, isIntegral c := by
  intro c member
  rw [Literal.toList_toString] at member
  rcases List.mem_append.mp member with sign | digit
  · split_ifs at sign
    · rw [List.mem_singleton.mp sign]
      rfl
    · cases sign
  · rw [isIntegral, Double.digits_toDigits _ c digit, Bool.true_or]

private theorem mem_numeralChars_of_isIntegral {c : Char} (integral : isIntegral c) :
    c ∈ Double.numeralChars := by
  rcases (Bool.or_eq_true ..).mp integral with digit | minus
  · exact Double.mem_numeralChars_of_isDigit digit
  · rw [beq_iff_eq.mp minus]
    decide

/-- The text of a double has a character that no text of an integer has. -/
theorem Double.exists_not_isIntegral (d : Double) : ∃ c ∈ d.text.toList, isIntegral c = false := by
  rcases Nat.lt_trichotomy d.rank infinityRank with finite | infinite | none
  · rw [toList_text_of_number finite.le]
    rcases magnitudeText_form finite with ⟨-, form⟩ | ⟨-, form⟩
    · exact ⟨'.', List.mem_append_right _ form.point_mem, rfl⟩
    · exact ⟨'e', List.mem_append_right _ form.letter_mem, rfl⟩
  · rw [toList_text_of_number infinite.le]
    refine ⟨'i', List.mem_append_right _ ?_, rfl⟩
    rw [infinite]
    decide
  · rw [text_of_isNaN (decide_eq_true none)]
    exact ⟨'n', by decide, rfl⟩

private theorem Double.text_ne_nil (d : Double) : d.text.toList ≠ [] := by
  obtain ⟨c, member, -⟩ := d.exists_not_isIntegral
  exact List.ne_nil_of_mem member

/-- The number that the text of an integer denotes. -/
def readInteger : List Char → Int
  | '-' :: digits => -(Nat.ofDigitChars 10 digits 0 : Int)
  | digits => Nat.ofDigitChars 10 digits 0

private theorem readInteger_of_digits {digits : List Char} (isDigits : Double.Digits digits) :
    readInteger digits = Nat.ofDigitChars 10 digits 0 := by
  unfold readInteger
  split
  · cases isDigits '-' (List.mem_cons_self ..)
  · rfl

private theorem readInteger_toString (i : Int) : readInteger (toString i).toList = i := by
  rw [Literal.toList_toString]
  split_ifs with negative
  · rw [List.singleton_append, readInteger, Nat.ofDigitChars_ten_toDigits]
    omega
  · rw [List.nil_append, readInteger_of_digits (Double.digits_toDigits _),
      Nat.ofDigitChars_ten_toDigits]
    omega

namespace Text.Word

def ofInteger (i : Int) : Word where
  chars := (toString i).toList
  nonempty := by
    rw [Literal.toList_toString]
    exact List.append_ne_nil_of_right_ne_nil _ Nat.toDigits_ne_nil
  plain c member := numeralChars_not_sign c
    (mem_numeralChars_of_isIntegral (isIntegral_of_mem_toString c member))

def ofDouble (d : Double) : Word where
  chars := d.text.toList
  nonempty := d.text_ne_nil
  plain c member := numeralChars_not_sign c (d.mem_numeralChars_of_mem_text c member)

end Text.Word

namespace Value

mutual

def phrase : Value → Phrase
  | null => .word (.of "None")
  | bool false => .word (.of "False")
  | bool true => .word (.of "True")
  | int i => .word (.ofInteger i)
  | double d => .word (.ofDouble d)
  | text s => .quoted s.toList
  | list items => .row .list (phrases items)
  | dict entries => .row .dict (entryPhrases entries)

def phrases : List Value → List Phrase
  | [] => []
  | v :: rest => v.phrase :: phrases rest

def entryPhrases : List (String × Value) → List Phrase
  | [] => []
  | (k, v) :: rest => .labelled (.key k.toList) v.phrase :: entryPhrases rest

end

private theorem map_toList_writtenItems {items : List Value}
    (same : ∀ v ∈ items, v.written.toList = v.phrase.text) :
    (writtenItems items).map String.toList = Phrase.texts (phrases items) := by
  induction items with
  | nil => rfl
  | cons v rest ih =>
    obtain ⟨here, later⟩ := List.forall_mem_cons.mp same
    rw [writtenItems, phrases, Phrase.texts, List.map_cons, here, ih later]

private theorem map_toList_writtenEntries {entries : List (String × Value)}
    (same : ∀ entry ∈ entries, entry.2.written.toList = entry.2.phrase.text) :
    (writtenEntries entries).map String.toList = Phrase.texts (entryPhrases entries) := by
  induction entries with
  | nil => rfl
  | cons entry rest ih =>
    obtain ⟨here, later⟩ := List.forall_mem_cons.mp same
    rw [writtenEntries, entryPhrases, Phrase.texts, List.map_cons, ih later, Phrase.text, Label.text,
      ← here, String.toList_append, String.toList_append, quoted, String.toList_ofList]
    rfl

/-- The text of a value is that of its phrase. -/
theorem toList_written (v : Value) : v.written.toList = v.phrase.text := by
  induction v using Value.induction with
  | null => rfl
  | bool b => cases b <;> rfl
  | int i => rfl
  | double d => rfl
  | text s =>
    rw [written, quoted, String.toList_ofList]
    rfl
  | list items ih =>
    rw [written, String.toList_append, String.toList_append, String.toList_intercalate,
      map_toList_writtenItems ih, List.append_assoc]
    rfl
  | dict entries ih =>
    rw [written, String.toList_append, String.toList_append, String.toList_intercalate,
      map_toList_writtenEntries ih, List.append_assoc]
    rfl

/-! ## Reading back -/

/-- The value that a word shows. -/
def ofWord (chars : List Char) : Value :=
  if chars = "None".toList then null
  else if chars = "False".toList then bool false
  else if chars = "True".toList then bool true
  else if chars.all isIntegral then int (readInteger chars)
  else ((Double.read? (String.ofList chars)).map double).getD null

mutual

def ofPhrase : Phrase → Value
  | .word w => ofWord w.chars
  | .quoted t => text (String.ofList t)
  | .row .list items => list (ofPhrases items)
  | .row .dict items => dict (ofEntryPhrases items)
  | _ => null

def ofPhrases : List Phrase → List Value
  | [] => []
  | x :: rest => ofPhrase x :: ofPhrases rest

def ofEntryPhrases : List Phrase → List (String × Value)
  | .labelled (.key k) x :: rest => (String.ofList k, ofPhrase x) :: ofEntryPhrases rest
  | _ => []

end

private theorem ofWord_eq {chars : List Char} (numeral : ∀ c ∈ chars, c ∈ Double.numeralChars) :
    ofWord chars = if chars.all isIntegral then int (readInteger chars)
      else ((Double.read? (String.ofList chars)).map double).getD null := by
  have other {c : Char} {s : List Char} (member : c ∈ s) (apart : c ∉ Double.numeralChars) :
      chars ≠ s := by
    rintro rfl
    exact apart (numeral c member)
  have none : chars ≠ "None".toList := @other 'N' _ (by decide) (by decide)
  have false : chars ≠ "False".toList := @other 'F' _ (by decide) (by decide)
  have true : chars ≠ "True".toList := @other 'T' _ (by decide) (by decide)
  rw [ofWord, if_neg none, if_neg false, if_neg true]

private theorem ofWord_ofInteger (i : Int) : ofWord (Word.ofInteger i).chars = int i := by
  have integral : ∀ c ∈ (toString i).toList, isIntegral c := isIntegral_of_mem_toString
  rw [Word.ofInteger, ofWord_eq fun c member => mem_numeralChars_of_isIntegral (integral c member),
    if_pos (List.all_eq_true.mpr integral), readInteger_toString]

private theorem ofWord_ofDouble (d : Double) :
    ofWord (Word.ofDouble d).chars = double d.canonical := by
  obtain ⟨c, member, other⟩ := d.exists_not_isIntegral
  have mixed : ¬d.text.toList.all isIntegral := by
    rw [List.all_eq_true]
    exact fun integral => Bool.false_ne_true (other.symm.trans (integral c member))
  rw [Word.ofDouble, ofWord_eq d.mem_numeralChars_of_mem_text, if_neg mixed,
    String.ofList_toList, Double.read?_text]
  rfl

/-- A value is read back from its phrase, up to the pattern for what is no number. -/
theorem ofPhrase_phrase (v : Value) : ofPhrase v.phrase = v.canonical := by
  induction v using Value.induction with
  | null => rfl
  | bool b => cases b <;> rfl
  | int i => exact ofWord_ofInteger i
  | double d => exact ofWord_ofDouble d
  | text s =>
    rw [phrase, ofPhrase, String.ofList_toList]
    rfl
  | list items ih =>
    rw [phrase, ofPhrase, canonical]
    congr 1
    induction items with
    | nil => rfl
    | cons v rest further =>
      obtain ⟨here, later⟩ := List.forall_mem_cons.mp ih
      rw [phrases, ofPhrases, canonicalItems, here, further later]
  | dict entries ih =>
    rw [phrase, ofPhrase, canonical]
    congr 1
    induction entries with
    | nil => rfl
    | cons entry rest further =>
      obtain ⟨here, later⟩ := List.forall_mem_cons.mp ih
      rw [entryPhrases, ofEntryPhrases, canonicalEntries, here, further later, String.ofList_toList]

private theorem phrase_canonical (v : Value) : v.canonical.phrase = v.phrase := by
  induction v using Value.induction with
  | double d =>
    have same : Word.ofDouble d.canonical = Word.ofDouble d :=
      Word.ext_chars (congrArg String.toList d.text_canonical)
    rw [canonical, phrase, phrase, same]
  | list items ih =>
    rw [canonical, phrase, phrase]
    congr 1
    induction items with
    | nil => rfl
    | cons v rest further =>
      obtain ⟨here, later⟩ := List.forall_mem_cons.mp ih
      rw [canonicalItems, phrases, phrases, here, further later]
  | dict entries ih =>
    rw [canonical, phrase, phrase]
    congr 1
    induction entries with
    | nil => rfl
    | cons entry rest further =>
      obtain ⟨here, later⟩ := List.forall_mem_cons.mp ih
      rw [canonicalEntries, entryPhrases, entryPhrases, here, further later]
  | null | bool _ | int _ | text _ => rfl

theorem phrase_eq_phrase_iff {v w : Value} : v.phrase = w.phrase ↔ v.canonical = w.canonical := by
  constructor
  · intro same
    rw [← ofPhrase_phrase, same, ofPhrase_phrase]
  · intro same
    rw [← phrase_canonical, same, phrase_canonical]

end Value

end DrawingCode
