/-! # Words of a text

A word is a longest stretch of characters that may stand in an identifier. A character of any other
kind ends a word and belongs to none, so a text has the words of what stands before such a character
and the words of what stands behind it.
-/

namespace DrawingCode.Text

/-- Whether a character may stand in an identifier. -/
def isWordChar (c : Char) : Bool := c.isAlphanum || c == '_'

def words (text : List Char) : List (List Char) :=
  (text.splitOnP fun c => !isWordChar c).filter fun word => !word.isEmpty

private theorem words_nil : words [] = [] := rfl

theorem words_append_cons {separator : Char} (apart : isWordChar separator = false)
    (first second : List Char) :
    words (first ++ separator :: second) = words first ++ words second := by
  rw [words, List.splitOnP_append_cons _ _ (by simp [apart]), List.filter_append]
  rfl

theorem words_cons {separator : Char} (apart : isWordChar separator = false) (text : List Char) :
    words (separator :: text) = words text := words_append_cons apart [] text

theorem words_append_singleton {separator : Char} (apart : isWordChar separator = false)
    (text : List Char) : words (text ++ [separator]) = words text := by
  rw [words_append_cons apart, words_nil, List.append_nil]

/-- A text of characters of identifiers is one word. -/
theorem words_eq_singleton {text : List Char} (nonempty : text ≠ [])
    (letters : ∀ c ∈ text, isWordChar c) : words text = [text] := by
  rw [words, List.splitOnP_eq_singleton fun c member => by simp [letters c member]]
  simp [nonempty]

private theorem mem_of_mem_splitOnP {α : Type} {p : α → Bool} {text piece : List α} {c : α}
    (present : piece ∈ text.splitOnP p) (member : c ∈ piece) : c ∈ text := by
  induction text generalizing piece with
  | nil =>
    rw [List.splitOnP_nil, List.mem_singleton] at present
    rwa [present] at member
  | cons first rest ih =>
    obtain ⟨piece', pieces, split⟩ :=
      List.exists_cons_of_ne_nil (List.splitOnP_ne_nil p rest)
    rw [List.splitOnP_cons_eq_if_modifyHead] at present
    split at present
    · rcases List.mem_cons.mp present with rfl | later
      · cases member
      · exact List.mem_cons_of_mem _ (ih later member)
    · rw [split, List.modifyHead_cons] at present
      rcases List.mem_cons.mp present with rfl | later
      · rcases List.mem_cons.mp member with rfl | inside
        · exact List.mem_cons_self ..
        · exact List.mem_cons_of_mem _ (ih (split ▸ List.mem_cons_self ..) inside)
      · exact List.mem_cons_of_mem _ (ih (split ▸ List.mem_cons_of_mem _ later) member)

theorem mem_of_mem_words {text word : List Char} {c : Char} (present : word ∈ words text)
    (member : c ∈ word) : c ∈ text :=
  mem_of_mem_splitOnP (List.mem_filter.mp present).1 member

end DrawingCode.Text
