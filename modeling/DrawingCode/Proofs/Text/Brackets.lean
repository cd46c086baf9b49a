/-! # Brackets

Round, square and curly brackets are nested if each closing bracket closes the one that was opened
last, and closed if none is left open. Reading a text from left to right with the brackets that wait
to be closed tells whether they are, and texts are read one after another.
-/

namespace DrawingCode.Text

/-- The bracket that closes an opening one. -/
def closing? : Char → Option Char
  | '(' => some ')'
  | '[' => some ']'
  | '\x7b' => some '\x7d'
  | _ => none

def isClosing (c : Char) : Bool := c == ')' || c == ']' || c == '\x7d'

def brackets : List Char := ['(', '[', '\x7b', ')', ']', '\x7d']

/-- The closing brackets that are awaited behind a character, innermost first, if it is no closing
bracket out of turn. -/
def awaitedBehind? (awaited : List Char) (c : Char) : Option (List Char) :=
  match closing? c with
  | some d => some (d :: awaited)
  | none =>
    if isClosing c then
      if awaited.head? = some c then some awaited.tail else none
    else some awaited

/-- The closing brackets that are awaited behind a text, innermost first, if no closing bracket in
it is out of turn. -/
def awaited? (awaited : List Char) (text : List Char) : Option (List Char) :=
  text.foldlM awaitedBehind? awaited

/-- The brackets of a text are nested, and all of them are closed in it. -/
def Nested (text : List Char) : Prop := awaited? [] text = some []

instance (text : List Char) : Decidable (Nested text) := decEq (awaited? [] text) (some [])

variable {awaited : List Char}

private theorem awaited?_append (first second : List Char) :
    awaited? awaited (first ++ second) =
      (awaited? awaited first).bind fun middle => awaited? middle second :=
  List.foldlM_append

private theorem awaitedBehind?_of_plain {c : Char} (plain : c ∉ brackets) :
    awaitedBehind? awaited c = some awaited := by
  simp only [brackets, List.mem_cons, List.not_mem_nil, or_false, not_or] at plain
  obtain ⟨round, square, curly, roundEnd, squareEnd, curlyEnd⟩ := plain
  have opens : closing? c = none := by
    unfold closing?
    split <;> simp_all
  have closes : isClosing c = false := by simp [isClosing, roundEnd, squareEnd, curlyEnd]
  rw [awaitedBehind?, opens, closes]
  rfl

/-- A text without brackets changes nothing. -/
theorem awaited?_of_plain {text : List Char} (plain : ∀ c ∈ text, c ∉ brackets) :
    awaited? awaited text = some awaited := by
  induction text with
  | nil => rfl
  | cons c rest ih =>
    obtain ⟨here, later⟩ := List.forall_mem_cons.mp plain
    rw [awaited?, List.foldlM_cons, awaitedBehind?_of_plain here]
    exact ih later

/-- A text closes what it opens, and nothing that was open before, wherever it stands. -/
def Closed (text : String) : Prop := ∀ awaited, awaited? awaited text.toList = some awaited

/-- A text opens a bracket that it does not close. -/
def Opens (bracket : Char) (text : String) : Prop :=
  ∀ awaited, awaited? awaited text.toList = some (bracket :: awaited)

section Composition

variable {first second : String} {bracket : Char}

theorem Closed.append (one : Closed first) (two : Closed second) : Closed (first ++ second) := by
  intro awaited
  rw [String.toList_append, awaited?_append, one, Option.bind_some, two]

theorem Opens.append (one : Opens bracket first) (two : Closed second) :
    Opens bracket (first ++ second) := by
  intro awaited
  rw [String.toList_append, awaited?_append, one, Option.bind_some, two]

theorem Closed.append_opens (one : Closed first) (two : Opens bracket second) :
    Opens bracket (first ++ second) := by
  intro awaited
  rw [String.toList_append, awaited?_append, one, Option.bind_some, two]

theorem Opens.close (one : Opens bracket first)
    (two : ∀ awaited, awaited? (bracket :: awaited) second.toList = some awaited) :
    Closed (first ++ second) := by
  intro awaited
  rw [String.toList_append, awaited?_append, one, Option.bind_some, two]

end Composition

end DrawingCode.Text
