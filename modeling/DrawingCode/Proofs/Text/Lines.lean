/-! # Lines and blocks of a text

A text is put together from lines with line ends between them, and from blocks of lines with an
empty line between them. As long as no line holds a line end or is empty, the lines and the blocks
can be told from the text.
-/

namespace DrawingCode.Text

/-- The lines of a text, without the line ends. -/
def lines (text : String) : List String := (text.toList.splitOn '\n').map String.ofList

/-- Blocks of lines with an empty line between them. -/
def joined (blocks : List (List String)) : String :=
  "\n\n".intercalate (blocks.map ("\n".intercalate ·))

/-- Lines with the line before each of them; another line stands before the first. -/
def behind (before : String) (rows : List String) : List (String × String) :=
  (before :: rows).zip rows

/-- The blocks of a text that is put together from blocks. -/
def blocks (text : String) : List (List String) :=
  if text = "" then [] else (lines text).splitOn ""

/-- Lines that can be told apart in a text. -/
structure IsBlock (block : List String) : Prop where
  nonempty : block ≠ []
  unbroken : ∀ line ∈ block, '\n' ∉ line.toList
  filled : ∀ line ∈ block, line ≠ ""

private theorem lines_intercalate {rows : List String} (nonempty : rows ≠ [])
    (unbroken : ∀ row ∈ rows, '\n' ∉ row.toList) : lines ("\n".intercalate rows) = rows := by
  have split : ("\n".intercalate rows).toList.splitOn '\n' = rows.map String.toList := by
    rw [String.toList_intercalate]
    apply List.splitOn_intercalate
    · intro row member
      obtain ⟨text, present, rfl⟩ := List.mem_map.mp member
      exact unbroken text present
    · intro none
      exact nonempty (List.map_eq_nil_iff.mp none)
  rw [lines, split, List.map_map]
  exact (List.map_congr_left fun row _ => String.ofList_toList).trans (List.map_id' rows)

theorem lines_of_unbroken {text : String} (unbroken : '\n' ∉ text.toList) :
    lines text = [text] := by
  have single := lines_intercalate (List.cons_ne_nil text [])
    (List.forall_mem_singleton.mpr unbroken)
  rwa [String.intercalate_singleton] at single

theorem lines_append (first second : String) :
    lines (first ++ "\n" ++ second) = lines first ++ lines second := by
  have text : (first ++ "\n" ++ second).toList = first.toList ++ '\n' :: second.toList := by
    simp [String.toList_append]
  rw [lines, text, List.splitOn_append_cons_self, List.map_append]
  rfl

/-- A text has one line more than it has line ends. -/
theorem length_lines (text : String) : (lines text).length = text.toList.count '\n' + 1 := by
  rw [lines, List.length_map, List.splitOn]
  induction text.toList with
  | nil => rfl
  | cons c rest ih =>
    rw [List.splitOnP_cons_eq_if_modifyHead, List.count_cons]
    cases c == '\n' with
    | true => simp [ih]
    | false => simp [ih]

private theorem intercalate_ne_nil {parts : List (List String)} {part : List String}
    (nonempty : part ≠ []) : [""].intercalate (part :: parts) ≠ [] := by
  cases parts with
  | nil => simpa using nonempty
  | cons _ _ => simp

/-- The empty line between two blocks is a line of the text like the others. -/
theorem joined_eq_intercalate {parts : List (List String)} (nonempty : ∀ part ∈ parts, part ≠ []) :
    joined parts = "\n".intercalate ([""].intercalate parts) := by
  induction parts with
  | nil => rfl
  | cons part rest ih =>
    have here : part ≠ [] := nonempty part (List.mem_cons_self ..)
    have tail := ih (fun other member => nonempty other (List.mem_cons_of_mem _ member))
    cases rest with
    | nil => simp [joined]
    | cons next rest =>
      have rows : [""].intercalate (next :: rest) ≠ [] :=
        intercalate_ne_nil (nonempty next (by simp))
      have twice : "\n\n" = "\n" ++ ("" ++ "\n") := rfl
      calc joined (part :: next :: rest)
        _ = "\n".intercalate part ++ "\n\n" ++ joined (next :: rest) := by simp [joined]
        _ = "\n".intercalate part ++ "\n" ++
              ("" ++ "\n" ++ "\n".intercalate ([""].intercalate (next :: rest))) := by
            rw [tail, twice]
            simp only [String.append_assoc]
        _ = "\n".intercalate (part ++ "" :: [""].intercalate (next :: rest)) := by
            rw [String.intercalate_append_of_ne_nil here (by simp),
              String.intercalate_cons_of_ne_nil rows]
        _ = "\n".intercalate ([""].intercalate (part :: next :: rest)) := by
            rw [List.intercalate_cons_cons, List.append_assoc, List.singleton_append]

theorem mem_intercalate {α : Type} {separator a : α} {parts : List (List α)}
    (member : a ∈ [separator].intercalate parts) : a = separator ∨ ∃ part ∈ parts, a ∈ part := by
  induction parts with
  | nil => cases member
  | cons part rest ih =>
    cases rest with
    | nil => exact .inr ⟨part, by simp, by simpa using member⟩
    | cons next rest =>
      rw [List.intercalate_cons_cons, List.append_assoc, List.mem_append, List.singleton_append,
        List.mem_cons] at member
      rcases member with here | rfl | later
      · exact .inr ⟨part, by simp, here⟩
      · exact .inl rfl
      · rcases ih later with empty | ⟨other, present, inside⟩
        · exact .inl empty
        · exact .inr ⟨other, by simp [List.mem_cons.mp present], inside⟩

private theorem lines_joined {parts : List (List String)} (some : parts ≠ [])
    (whole : ∀ part ∈ parts, IsBlock part) : lines (joined parts) = [""].intercalate parts := by
  rw [joined_eq_intercalate fun part member => (whole part member).nonempty]
  obtain ⟨part, rest, rfl⟩ := List.exists_cons_of_ne_nil some
  apply lines_intercalate (intercalate_ne_nil (whole part (by simp)).nonempty)
  intro row member
  rcases mem_intercalate member with rfl | ⟨part, present, inside⟩
  · exact List.not_mem_nil
  · exact (whole part present).unbroken row inside

private theorem intercalate_append_separator {α : Type} {parts : List (List α)} (some : parts ≠ [])
    (separator : List α) :
    separator.intercalate parts ++ separator = parts.flatMap (· ++ separator) := by
  induction parts with
  | nil => exact absurd rfl some
  | cons part rest ih =>
    cases rest with
    | nil => simp
    | cons next rest =>
      rw [List.intercalate_cons_cons, List.append_assoc, ih (List.cons_ne_nil _ _)]
      rfl

/-- An empty line stands behind each block of a file, also behind the last one. -/
theorem lines_joined_newline {parts : List (List String)} (some : parts ≠ [])
    (whole : ∀ part ∈ parts, IsBlock part) :
    lines (joined parts ++ "\n") = parts.flatMap (· ++ [""]) := by
  have split := lines_append (joined parts) ""
  rw [String.append_empty] at split
  rw [split, lines_joined some whole, ← intercalate_append_separator some]
  rfl

private theorem joined_ne_empty {parts : List (List String)} (some : parts ≠ [])
    (whole : ∀ part ∈ parts, IsBlock part) : joined parts ≠ "" := by
  intro empty
  have rows := lines_joined some whole
  rw [empty] at rows
  obtain ⟨part, rest, rfl⟩ := List.exists_cons_of_ne_nil some
  obtain ⟨nonempty, _, filled⟩ := whole part (List.mem_cons_self ..)
  obtain ⟨row, more, rfl⟩ := List.exists_cons_of_ne_nil nonempty
  have first : row = "" := by
    cases rest with
    | nil =>
      rw [List.intercalate_singleton] at rows
      exact (List.head_eq_of_cons_eq rows).symm
    | cons _ _ =>
      rw [List.intercalate_cons_cons, List.cons_append, List.cons_append] at rows
      exact (List.head_eq_of_cons_eq rows).symm
  exact filled row (List.mem_cons_self ..) first

/-- Blocks are told apart by the empty lines between them. -/
theorem blocks_joined {parts : List (List String)} (whole : ∀ part ∈ parts, IsBlock part) :
    blocks (joined parts) = parts := by
  by_cases none : parts = []
  · rw [none]
    rfl
  · rw [blocks, if_neg (joined_ne_empty none whole), lines_joined none whole]
    apply List.splitOn_intercalate
    · intro part member empty
      exact (whole part member).filled "" empty rfl
    · exact none

end DrawingCode.Text
