import DrawingCode.Proofs.Text.Quoted
import Mathlib.Data.List.Basic

/-! # Phrases can be read in one way only

Phrases are words, quoted texts, and rows of phrases in brackets, where phrases may have labels in
front. Words hold none of the signs that end them, so where a phrase stops can be seen from the
phrase itself, and no two phrases have the same text.
-/

namespace DrawingCode.Text

/-- The signs that may follow a phrase. -/
def closers : List Char := [',', ')', ']', '\x7d', '>']

/-- The signs that end a word, other than quotes and the signs that may follow it. -/
def openers : List Char := ['(', '[', '\x7b', '<', '=']

/-- A quote that may surround a text, or another sign that ends a word. -/
def IsSign (c : Char) : Prop := IsQuote c ∨ c ∈ openers ∨ c ∈ closers

instance (c : Char) : Decidable (IsSign c) :=
  inferInstanceAs (Decidable ((c = '\'' ∨ c = '"') ∨ c ∈ openers ∨ c ∈ closers))

/-- One or more characters, none of them a sign. -/
structure Word where
  chars : List Char
  nonempty : chars ≠ []
  plain : ∀ c ∈ chars, ¬IsSign c

/-- A text that is a word. -/
def Word.of (s : String) (nonempty : s.toList ≠ [] := by decide)
    (plain : s.toList.Forall (¬IsSign ·) := by decide) : Word :=
  ⟨s.toList, nonempty, List.forall_iff_forall_mem.mp plain⟩

/-- What stands in front of a value: the name of a field, or the key of an entry. -/
inductive Label where
  | name (word : Word)
  | key (text : List Char)

/-- What stands around a row of things. -/
inductive Brackets where
  | list
  | dict
  | tuple
  | kind
  | record (name : Word)

/-- The shape of what is shown for a value. -/
inductive Phrase where
  | word (w : Word)
  | quoted (text : List Char)
  | labelled (label : Label) (value : Phrase)
  | row (brackets : Brackets) (items : List Phrase)

def Label.text : Label → List Char
  | name word => word.chars ++ ['=']
  | key text => quotedChars text ++ [':', ' ']

namespace Brackets

def opening : Brackets → List Char
  | list => ['[']
  | dict => ['\x7b']
  | tuple => ['(']
  | kind => ['<', 'c', 'l', 'a', 's', 's', ' ']
  | record name => name.chars ++ ['(']

def closer : Brackets → Char
  | list => ']'
  | dict => '\x7d'
  | tuple | record _ => ')'
  | kind => '>'

/-- Whether there is a comma behind the only thing in brackets. -/
def isSpaced : Brackets → Bool
  | tuple => true
  | _ => false

/-- What stands behind a row, which may be a comma and the closing bracket. -/
def ending (brackets : Brackets) (comma : Bool) : List Char :=
  if comma then [',', brackets.closer] else [brackets.closer]

/-- What stands behind a row of some length. -/
def closing (brackets : Brackets) (length : Nat) : List Char :=
  brackets.ending (brackets.isSpaced && length == 1)

end Brackets

namespace Phrase

mutual

def text : Phrase → List Char
  | word w => w.chars
  | quoted t => quotedChars t
  | labelled label value => label.text ++ value.text
  | row brackets items =>
    brackets.opening ++ ([',', ' '].intercalate (texts items) ++ brackets.closing items.length)

def texts : List Phrase → List (List Char)
  | [] => []
  | item :: rest => item.text :: texts rest

end

@[elab_as_elim]
theorem induction {motive : Phrase → Prop} (word : ∀ w, motive (word w))
    (quoted : ∀ t, motive (quoted t))
    (labelled : ∀ label value, motive value → motive (labelled label value))
    (row : ∀ brackets items, (∀ item ∈ items, motive item) → motive (row brackets items))
    (x : Phrase) : motive x :=
  @Phrase.rec motive (fun items => ∀ item ∈ items, motive item) word quoted labelled row
    (List.forall_mem_nil _) (fun _ _ first others => List.forall_mem_cons.mpr ⟨first, others⟩) x

end Phrase

/-! ## Where a word stops -/

/-- Nothing follows, or a sign that may follow a phrase. -/
def IsDelimited (rest : List Char) : Prop := ∀ c ∈ rest.head?, c ∈ closers

/-- What ends the word at the front of a phrase. -/
inductive Mark where
  | done
  | quoted (text : List Char)
  | sign (c : Char)

namespace Mark

def text : Mark → List Char
  | done => []
  | quoted t => quotedChars t
  | sign c => [c]

/-- Whether a text may follow a mark. -/
def Precedes (rest : List Char) : Mark → Prop
  | done => IsDelimited rest
  | quoted _ => True
  | sign c => c ∈ openers

private theorem isSign_of_mem_head? {mark : Mark} {rest : List Char} (may : mark.Precedes rest) :
    ∀ c ∈ (mark.text ++ rest).head?, IsSign c := by
  intro c first
  cases mark with
  | done => exact .inr (.inr (may c first))
  | quoted t =>
    cases first
    exact .inl (isQuote_quoteFor t)
  | sign opener =>
    cases first
    exact .inr (.inl may)

private theorem not_mem_of_isQuote {c : Char} (isQuote : IsQuote c) :
    c ∉ openers ∧ c ∉ closers := by
  rcases isQuote with rfl | rfl <;> decide

private theorem eq_done_of_isDelimited {mark : Mark} {rest : List Char} (may : mark.Precedes rest)
    (delimited : IsDelimited (mark.text ++ rest)) : mark = done := by
  have apart : ∀ c ∈ openers, c ∉ closers := List.forall_iff_forall_mem.mp (by decide)
  cases mark with
  | done => rfl
  | quoted t => exact absurd (delimited _ rfl) (not_mem_of_isQuote (isQuote_quoteFor t)).2
  | sign c => exact absurd (delimited c rfl) (apart c may)

private theorem quotedChars_ne_cons {c : Char} {t rest other : List Char} (opener : c ∈ openers) :
    quotedChars t ++ rest ≠ c :: other := by
  intro same
  obtain ⟨rfl, -⟩ := List.cons.inj same
  exact (not_mem_of_isQuote (isQuote_quoteFor t)).1 opener

/-- Texts with different marks are different, as long as they go on the way they may. -/
theorem text_append_inj {first second : Mark} {rest other : List Char}
    (one : first.Precedes rest) (two : second.Precedes other)
    (same : first.text ++ rest = second.text ++ other) : first = second ∧ rest = other := by
  cases first with
  | done =>
    obtain rfl := eq_done_of_isDelimited two (same ▸ one)
    exact ⟨rfl, same⟩
  | quoted t =>
    cases second with
    | done => cases eq_done_of_isDelimited one (same ▸ two)
    | quoted u =>
      obtain ⟨rfl, rest⟩ := quotedChars_append_inj same
      exact ⟨rfl, rest⟩
    | sign c => exact absurd same (quotedChars_ne_cons two)
  | sign c =>
    cases second with
    | done => cases eq_done_of_isDelimited one (same ▸ two)
    | quoted u => exact absurd same.symm (quotedChars_ne_cons one)
    | sign d =>
      obtain ⟨rfl, rest⟩ := List.cons.inj same
      exact ⟨rfl, rest⟩

end Mark

/-- Where a word stops can be seen from what follows it. -/
theorem append_inj_of_plain {word other rest behind : List Char} (plain : ∀ c ∈ word, ¬IsSign c)
    (plainOther : ∀ c ∈ other, ¬IsSign c) (stops : ∀ c ∈ rest.head?, IsSign c)
    (stopsBehind : ∀ c ∈ behind.head?, IsSign c) (same : word ++ rest = other ++ behind) :
    word = other ∧ rest = behind := by
  induction word generalizing other with
  | nil =>
    cases other with
    | nil => exact ⟨rfl, same⟩
    | cons d other =>
      obtain rfl : rest = d :: (other ++ behind) := same
      exact absurd (stops d rfl) (plainOther d (List.mem_cons_self ..))
  | cons c word ih =>
    obtain ⟨here, later⟩ := List.forall_mem_cons.mp plain
    cases other with
    | nil =>
      obtain rfl : c :: (word ++ rest) = behind := same
      exact absurd (stopsBehind c rfl) here
    | cons d other =>
      obtain ⟨first, others⟩ : c = d ∧ word ++ rest = other ++ behind := List.cons.inj same
      obtain ⟨rfl, rest⟩ := ih later (List.forall_mem_cons.mp plainOther).2 others
      exact ⟨by rw [first], rest⟩

/-! ## Where a phrase stops -/

theorem Word.ext_chars {v w : Word} (same : v.chars = w.chars) : v = w := by
  cases v
  cases w
  cases same
  rfl

namespace Label

def front : Label → List Char
  | name word => word.chars
  | key _ => []

def mark : Label → Mark
  | name _ => .sign '='
  | key text => .quoted text

def behind : Label → List Char
  | name _ => []
  | key _ => [':', ' ']

private theorem text_eq (label : Label) :
    label.text = label.front ++ (label.mark.text ++ label.behind) := by
  cases label <;> rfl

private theorem eq_of_front {label other : Label} (front : label.front = other.front)
    (mark : label.mark = other.mark) : label = other := by
  cases label with
  | name word =>
    cases other with
    | name word' => rw [Word.ext_chars front]
    | key text => cases mark
  | key text =>
    cases other <;> cases mark
    rfl

end Label

namespace Brackets

def front : Brackets → List Char
  | record name => name.chars
  | _ => []

def opener : Brackets → Char
  | list => '['
  | dict => '\x7b'
  | tuple | record _ => '('
  | kind => '<'

def behind : Brackets → List Char
  | kind => ['c', 'l', 'a', 's', 's', ' ']
  | _ => []

private theorem opening_eq (brackets : Brackets) :
    brackets.opening = brackets.front ++ ([brackets.opener] ++ brackets.behind) := by
  cases brackets <;> rfl

private theorem opener_mem (brackets : Brackets) : brackets.opener ∈ openers := by
  cases brackets <;> simp [opener, openers]

private theorem closer_mem (brackets : Brackets) : brackets.closer ∈ closers := by
  cases brackets <;> simp [closer, closers]

private theorem closer_ne_comma (brackets : Brackets) : brackets.closer ≠ ',' := by
  cases brackets <;> simp [closer]

private theorem eq_of_front {brackets other : Brackets} (front : brackets.front = other.front)
    (opener : brackets.opener = other.opener) : brackets = other := by
  cases brackets <;> cases other <;> cases opener
  case tuple.record word => exact absurd front.symm word.nonempty
  case record.tuple word => exact absurd front word.nonempty
  case record.record => rw [Word.ext_chars front]
  all_goals rfl

end Brackets

namespace Phrase

/-- The word at the front of a phrase. -/
def front : Phrase → List Char
  | word w => w.chars
  | quoted _ => []
  | labelled label _ => label.front
  | row brackets _ => brackets.front

/-- What ends the word at the front. -/
def mark : Phrase → Mark
  | word _ => .done
  | quoted t => .quoted t
  | labelled label _ => label.mark
  | row brackets _ => .sign brackets.opener

/-- What a phrase has behind the mark. -/
def behind : Phrase → List Char
  | word _ | quoted _ => []
  | labelled label value => label.behind ++ value.text
  | row brackets items =>
    brackets.behind ++ ([',', ' '].intercalate (texts items) ++ brackets.closing items.length)

variable {x y : Phrase} {rest other : List Char}

private theorem text_eq (x : Phrase) : x.text = x.front ++ (x.mark.text ++ x.behind) := by
  cases x with
  | word w => exact (List.append_nil _).symm
  | quoted t => exact (List.append_nil _).symm
  | labelled label value => simp [text, front, mark, behind, Label.text_eq]
  | row brackets items => simp [text, front, mark, behind, Brackets.opening_eq, Mark.text]

private theorem front_plain (x : Phrase) : ∀ c ∈ x.front, ¬IsSign c := by
  cases x with
  | word w => exact w.plain
  | quoted t => exact List.forall_mem_nil _
  | labelled label value =>
    cases label with
    | name word => exact word.plain
    | key text => exact List.forall_mem_nil _
  | row brackets items =>
    cases brackets with
    | record name => exact name.plain
    | _ => exact List.forall_mem_nil _

private theorem mark_precedes (delimited : x.mark = .done → IsDelimited rest) :
    x.mark.Precedes (x.behind ++ rest) := by
  cases x with
  | word w => exact delimited rfl
  | quoted t => trivial
  | labelled label value =>
    cases label with
    | name word =>
      change '=' ∈ openers
      decide
    | key text => trivial
  | row brackets items => exact brackets.opener_mem

private theorem front_ne_nil (done : x.mark = .done) : x.front ≠ [] := by
  cases x with
  | word w => exact w.nonempty
  | labelled label value => cases label <;> cases done
  | quoted t | row brackets items => cases done

/-- No phrase begins with a sign that may follow a phrase. -/
theorem not_isDelimited (x : Phrase) (rest : List Char) : ¬IsDelimited (x.text ++ rest) := by
  intro delimited
  rw [text_eq, List.append_assoc, List.append_assoc] at delimited
  cases front : x.front with
  | cons c word =>
    rw [front] at delimited
    exact x.front_plain c (front ▸ List.mem_cons_self ..) (.inr (.inr (delimited c rfl)))
  | nil =>
    rw [front, List.nil_append] at delimited
    have more : x.mark ≠ .done := fun done => front_ne_nil done front
    have may : x.mark.Precedes (x.behind ++ rest) := mark_precedes fun done => absurd done more
    exact more (Mark.eq_done_of_isDelimited may delimited)

/-- Texts that agree as far as they go agree in their first words and in what ends these. -/
theorem front_eq_of_text_append (delimited : IsDelimited rest) (delimitedOther : IsDelimited other)
    (same : x.text ++ rest = y.text ++ other) :
    x.front = y.front ∧ x.mark = y.mark ∧ x.behind ++ rest = y.behind ++ other := by
  rw [text_eq, text_eq, List.append_assoc, List.append_assoc, List.append_assoc,
    List.append_assoc] at same
  have may := mark_precedes (x := x) fun _ => delimited
  have mayOther := mark_precedes (x := y) fun _ => delimitedOther
  obtain ⟨front, later⟩ := append_inj_of_plain x.front_plain y.front_plain
    (Mark.isSign_of_mem_head? may) (Mark.isSign_of_mem_head? mayOther) same
  exact ⟨front, Mark.text_append_inj may mayOther later⟩

/-- A text determines the phrase at its front and where it stops. -/
def IsReadOnce (x : Phrase) : Prop := ∀ y rest other, IsDelimited rest → IsDelimited other →
  x.text ++ rest = y.text ++ other → x = y ∧ rest = other

/-! ## Rows -/

/-- The texts of things in a row, each behind a comma. -/
def behindComma (items : List Phrase) : List Char :=
  items.flatMap fun item => ',' :: ' ' :: item.text

private theorem intercalate_texts (x : Phrase) (items : List Phrase) :
    [',', ' '].intercalate (texts (x :: items)) = x.text ++ behindComma items := by
  induction items generalizing x with
  | nil => simp [texts, behindComma]
  | cons y items ih =>
    have rest := ih y
    simp only [texts] at rest ⊢
    rw [List.intercalate_cons_cons, rest, behindComma, behindComma, List.flatMap_cons,
      List.append_assoc]
    rfl

private theorem isDelimited_behindComma {brackets : Brackets} {items : List Phrase} {comma : Bool} :
    IsDelimited (behindComma items ++ (brackets.ending comma ++ rest)) := by
  have isComma : ',' ∈ closers := by decide
  rintro c first
  cases items with
  | nil =>
    cases comma with
    | false =>
      cases first
      exact brackets.closer_mem
    | true =>
      cases first
      exact isComma
  | cons x items =>
    cases first
    exact isComma

private theorem isDelimited_closing {brackets : Brackets} :
    IsDelimited ([',', ' '].intercalate (texts []) ++ (brackets.closing 0 ++ rest)) :=
  @isDelimited_behindComma rest brackets [] (brackets.isSpaced && 0 == 1)

private theorem ending_append_inj {brackets : Brackets} {comma otherComma : Bool}
    (same : brackets.ending comma ++ rest = brackets.ending otherComma ++ other) :
    rest = other := by
  have solid := brackets.closer_ne_comma
  cases comma with
  | false =>
    cases otherComma with
    | false => exact (List.cons.inj same).2
    | true => exact absurd (List.cons.inj same).1 solid
  | true =>
    cases otherComma with
    | false => exact absurd (List.cons.inj same).1.symm solid
    | true => exact (List.cons.inj (List.cons.inj same).2).2

private theorem ending_ne_behindComma {brackets : Brackets} {comma : Bool} {items : List Phrase} :
    brackets.ending comma ++ rest ≠ behindComma (x :: items) ++ other := by
  have noBlank : brackets.closer ≠ ' ' := fun blank =>
    absurd (blank ▸ brackets.closer_mem) (by decide)
  intro same
  cases comma with
  | false => exact brackets.closer_ne_comma (List.cons.inj same).1
  | true => exact noBlank (List.cons.inj (List.cons.inj same).2).1

private theorem behindComma_append_inj {brackets : Brackets} {items others : List Phrase}
    {comma otherComma : Bool} (once : ∀ x ∈ items, x.IsReadOnce)
    (same : behindComma items ++ (brackets.ending comma ++ rest) =
      behindComma others ++ (brackets.ending otherComma ++ other)) :
    items = others ∧ rest = other := by
  induction items generalizing others with
  | nil =>
    cases others with
    | nil => exact ⟨rfl, ending_append_inj same⟩
    | cons y others => exact absurd same ending_ne_behindComma
  | cons x items ih =>
    obtain ⟨here, later⟩ := List.forall_mem_cons.mp once
    cases others with
    | nil => exact absurd same.symm ending_ne_behindComma
    | cons y others =>
      simp only [behindComma, List.flatMap_cons, List.cons_append, List.append_assoc] at same
      have texts := (List.cons.inj (List.cons.inj same).2).2
      obtain ⟨rfl, behind⟩ := here y _ _ isDelimited_behindComma isDelimited_behindComma texts
      obtain ⟨rfl, rest⟩ := ih later behind
      exact ⟨rfl, rest⟩

/-- A row determines the things in it and where it stops. -/
theorem row_append_inj {brackets : Brackets} {items others : List Phrase}
    (once : ∀ x ∈ items, x.IsReadOnce)
    (same : [',', ' '].intercalate (texts items) ++ (brackets.closing items.length ++ rest) =
      [',', ' '].intercalate (texts others) ++ (brackets.closing others.length ++ other)) :
    items = others ∧ rest = other := by
  cases items with
  | nil =>
    cases others with
    | nil => exact ⟨rfl, ending_append_inj same⟩
    | cons y others =>
      rw [intercalate_texts, List.append_assoc] at same
      exact absurd (same ▸ isDelimited_closing) (not_isDelimited y _)
  | cons x items =>
    obtain ⟨here, later⟩ := List.forall_mem_cons.mp once
    cases others with
    | nil =>
      rw [intercalate_texts, List.append_assoc] at same
      exact absurd (same ▸ isDelimited_closing) (not_isDelimited x _)
    | cons y others =>
      rw [intercalate_texts, intercalate_texts, List.append_assoc, List.append_assoc] at same
      obtain ⟨rfl, behind⟩ := here y _ _ isDelimited_behindComma isDelimited_behindComma same
      obtain ⟨rfl, rest⟩ := behindComma_append_inj later behind
      exact ⟨rfl, rest⟩

private theorem behind_labelled_append (label : Label) (value : Phrase) (rest : List Char) :
    (labelled label value).behind ++ rest = label.behind ++ (value.text ++ rest) :=
  List.append_assoc ..

private theorem behind_row_append (brackets : Brackets) (items : List Phrase) (rest : List Char) :
    (row brackets items).behind ++ rest = brackets.behind ++
      ([',', ' '].intercalate (texts items) ++ (brackets.closing items.length ++ rest)) := by
  rw [behind, List.append_assoc, List.append_assoc]

/-- What stands behind a key is no end of a phrase. -/
theorem not_isDelimited_key (t rest : List Char) (value : Phrase) :
    ¬IsDelimited ((labelled (.key t) value).behind ++ rest) :=
  fun delimited => absurd (delimited ':' rfl) (by decide)

/-- Every phrase is determined by its text, as long as nothing but a sign follows. -/
theorem isReadOnce (x : Phrase) : x.IsReadOnce := by
  induction x using induction with
  | word w =>
    intro y rest other delimited delimitedOther same
    obtain ⟨front, mark, behind⟩ := front_eq_of_text_append delimited delimitedOther same
    cases y with
    | word w' => exact ⟨by rw [Word.ext_chars front], behind⟩
    | labelled label value => cases label <;> cases mark
    | quoted t | row brackets items => cases mark
  | quoted t =>
    intro y rest other delimited delimitedOther same
    obtain ⟨front, mark, behind⟩ := front_eq_of_text_append delimited delimitedOther same
    cases y with
    | quoted u =>
      cases mark
      exact ⟨rfl, behind⟩
    | labelled label value =>
      cases label with
      | name word => cases mark
      | key u => exact absurd (behind ▸ delimited) (not_isDelimited_key u other value)
    | word w | row brackets items => cases mark
  | labelled label value ih =>
    intro y rest other delimited delimitedOther same
    obtain ⟨front, mark, behind⟩ := front_eq_of_text_append delimited delimitedOther same
    cases y with
    | labelled label' value' =>
      obtain rfl := Label.eq_of_front front mark
      rw [behind_labelled_append, behind_labelled_append] at behind
      obtain ⟨rfl, rest⟩ :=
        ih value' rest other delimited delimitedOther (List.append_cancel_left behind)
      exact ⟨rfl, rest⟩
    | quoted u =>
      cases label with
      | name word => cases mark
      | key t => exact absurd (behind ▸ delimitedOther) (not_isDelimited_key t rest value)
    | word w => cases label <;> cases mark
    | row brackets items =>
      cases label <;> cases brackets <;> cases mark
  | row brackets items ih =>
    intro y rest other delimited delimitedOther same
    obtain ⟨front, mark, behind⟩ := front_eq_of_text_append delimited delimitedOther same
    cases y with
    | row brackets' items' =>
      obtain rfl := Brackets.eq_of_front front (Mark.sign.inj mark)
      rw [behind_row_append, behind_row_append] at behind
      obtain ⟨rfl, rest⟩ := row_append_inj ih (List.append_cancel_left behind)
      exact ⟨rfl, rest⟩
    | labelled label value => cases label <;> cases brackets <;> cases mark
    | word w | quoted u => cases mark

/-- A phrase is determined by its text. -/
theorem text_injective : Function.Injective text := by
  intro x y same
  have delimited : IsDelimited [] := fun c none => nomatch none
  exact (isReadOnce x y [] [] delimited delimited (by rw [same])).1

end Phrase

end DrawingCode.Text
