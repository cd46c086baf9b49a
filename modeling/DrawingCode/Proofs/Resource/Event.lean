import DrawingCode.Proofs.Code.Reading
import DrawingCode.Proofs.Text.Words

/-! # What lines do to resources

The lines of a function body are read word by word: a line that begins with a type makes the
variable that it names, from the resources behind the function that makes it; a line that begins
with a releasing function releases the resources behind it; and all other functions use the
resources that they are passed. Lines that are not indented belong to no body.
-/

namespace DrawingCode

/-- What a variable of a function body may hold. -/
inductive Resource where
  | space
  | color (id : Nat)
deriving DecidableEq

/-- Something that happens to a resource. -/
inductive Event where
  | create (resource : Resource)
  | use (resource : Resource) (function : String)
  | release (resource : Resource)
deriving DecidableEq

namespace Resource

def name : Resource → String
  | space => Code.spaceName
  | color id => Code.colorName id

/-- The resource whose variable a word is. -/
def ofWord? (word : List Char) : Option Resource :=
  let id := Nat.ofDigitChars 10 (word.drop 5) 0
  if word = Code.spaceName.toList then some space
  else if word = (Code.colorName id).toList then some (color id)
  else none

/-- The resources whose variables a text mentions. -/
def mentions (text : List Char) : List Resource := (Text.words text).filterMap ofWord?

end Resource

namespace Code

/-- The types of the variables that hold resources. -/
def resourceTypes : List String := ["CGColorSpaceRef", "CGColorRef"]

/-- The functions that release what they are passed. -/
def releasers : List String := ["CGColorSpaceRelease", "CGColorRelease"]

/-- What a declaration does to resources, from the words behind the type on. -/
def eventsOfDeclaration : List (List Char) → List Event
  | made :: maker :: passed =>
    (passed.filterMap Resource.ofWord?).map (.use · (String.ofList maker)) ++
      (Resource.ofWord? made).toList.map .create
  | _ => []

/-- What the statement with the given words does to resources. -/
def eventsOfWords : List (List Char) → List Event
  | [] => []
  | first :: arguments =>
    if String.ofList first ∈ resourceTypes then eventsOfDeclaration arguments
    else if String.ofList first ∈ releasers then
      (arguments.filterMap Resource.ofWord?).map .release
    else (arguments.filterMap Resource.ofWord?).map (.use · (String.ofList first))

def events (line : String) : List Event :=
  match line.toList with
  | ' ' :: ' ' :: statement => eventsOfWords (Text.words statement)
  | _ => []

def Operand.resources : Operand → List Resource
  | color id => [.color id]
  | _ => []

def Statement.events : Statement → List Event
  | call function operand =>
    (operand.map Operand.resources |>.getD []).map (.use · ("CGContext" ++ function))
  | createSpace => [.create .space]
  | releaseSpace => [.release .space]
  | createColor id _ => [.use .space "CGColorCreate", .create (.color id)]
  | releaseColor id => [.release (.color id)]

end Code

namespace Resource

private theorem isWordChar_of_mem_name {r : Resource} : ∀ c ∈ r.name.toList, Text.isWordChar c := by
  cases r with
  | space => exact List.forall_iff_forall_mem.mp (by decide)
  | color id =>
    intro c member
    rcases Code.mem_colorName member with letter | digit
    · have letters : ∀ c ∈ ['c', 'o', 'l', 'o', 'r'], Text.isWordChar c :=
        List.forall_iff_forall_mem.mp (by decide)
      exact letters c letter
    · simp [Text.isWordChar, Char.isAlphanum, digit]

private theorem name_ne_nil (r : Resource) : r.name.toList ≠ [] := by
  cases r with
  | space => decide
  | color id => simp [name, Code.toList_colorName]

private theorem letter_mem_name (r : Resource) : 'o' ∈ r.name.toList := by
  cases r with
  | space => decide
  | color id => simp [name, Code.toList_colorName]

private theorem ofWord?_name (r : Resource) : ofWord? r.name.toList = some r := by
  cases r with
  | space => rfl
  | color id =>
    have read : Nat.ofDigitChars 10 ((color id).name.toList.drop 5) 0 = id := by
      simp [name, Code.toList_colorName]
    have other : (color id).name.toList ≠ Code.spaceName.toList := by
      simp [name, Code.toList_colorName, Code.spaceName]
    simp only [ofWord?, read, if_neg other]
    exact if_pos rfl

private theorem eq_name_of_ofWord? {word : List Char} {r : Resource}
    (read : ofWord? word = some r) :
    word = r.name.toList := by
  simp only [ofWord?] at read
  split at read
  · cases read
    assumption
  · split at read
    · cases read
      assumption
    · cases read

theorem mentions_append_cons {separator : Char} (apart : Text.isWordChar separator = false)
    (first second : List Char) :
    mentions (first ++ separator :: second) = mentions first ++ mentions second := by
  rw [mentions, Text.words_append_cons apart, List.filterMap_append]
  rfl

theorem mentions_cons {separator : Char} (apart : Text.isWordChar separator = false)
    (text : List Char) : mentions (separator :: text) = mentions text := by
  rw [mentions, Text.words_cons apart]
  rfl

private theorem mentions_append_singleton {separator : Char}
    (apart : Text.isWordChar separator = false)
    (text : List Char) : mentions (text ++ [separator]) = mentions text := by
  rw [mentions, Text.words_append_singleton apart]
  rfl

/-- Behind a text that mentions nothing, only the rest counts. -/
theorem mentions_behind {separator : Char} (apart : Text.isWordChar separator = false)
    {first : List Char} (quiet : mentions first = []) (second : List Char) :
    mentions (first ++ separator :: second) = mentions second := by
  rw [mentions_append_cons apart, quiet, List.nil_append]

private theorem words_name (r : Resource) : Text.words r.name.toList = [r.name.toList] :=
  Text.words_eq_singleton r.name_ne_nil isWordChar_of_mem_name

theorem mentions_name (r : Resource) : mentions r.name.toList = [r] := by
  rw [mentions, r.words_name, List.filterMap_cons_some r.ofWord?_name]
  rfl

/-- A text without a certain letter mentions nothing. -/
theorem mentions_eq_nil {text : List Char} (missing : 'o' ∉ text) : mentions text = [] := by
  apply List.filterMap_eq_nil_iff.mpr
  intro word present
  cases read : ofWord? word with
  | none => rfl
  | some r =>
    have letter := r.letter_mem_name
    rw [← eq_name_of_ofWord? read] at letter
    exact absurd (Text.mem_of_mem_words present letter) missing

end Resource

namespace Code

open Resource

theorem comma_apart : Text.isWordChar ',' = false := rfl

theorem blank_apart : Text.isWordChar ' ' = false := rfl

theorem parenthesis_apart : Text.isWordChar '(' = false := rfl

theorem closing_apart : Text.isWordChar ')' = false := rfl

private theorem mentions_text (d : Double) : mentions d.text.toList = [] :=
  mentions_eq_nil (not_mem_text (by decide) d)

private theorem mentions_castText (d : Double) : mentions (castText d).toList = [] := by
  have split : (castText d).toList =
      ('(' :: ['C', 'G', 'F', 'l', 'o', 'a', 't']) ++ ')' :: d.text.toList := by
    simp [castText]
  rw [split, mentions_behind closing_apart (by decide), mentions_text]

/-- A list that is written with commas mentions what its parts mention. -/
theorem mentions_intercalate (parts : List String) :
    mentions (", ".intercalate parts).toList = parts.flatMap fun part => mentions part.toList := by
  induction parts with
  | nil => rfl
  | cons part rest ih =>
    cases rest with
    | nil => simp
    | cons next rest =>
      have split : (", ".intercalate (part :: next :: rest)).toList =
          part.toList ++ ',' :: ' ' :: (", ".intercalate (next :: rest)).toList := by
        simp [String.intercalate_cons_cons]
      rw [split, mentions_append_cons comma_apart, mentions_cons blank_apart, ih]
      rfl

private theorem mentions_closed (text : String) :
    mentions (text ++ ")").toList = mentions text.toList := by
  rw [String.toList_append]
  exact mentions_append_singleton closing_apart _

private theorem mentions_opened {function : String} (quiet : mentions function.toList = [])
    (text : String) : mentions (function ++ "(" ++ text).toList = mentions text.toList := by
  have split : (function ++ "(" ++ text).toList = function.toList ++ '(' :: text.toList := by simp
  rw [split]
  exact mentions_behind parenthesis_apart quiet _

/-- Only colours are resources that an operand mentions. -/
theorem mentions_operand (o : Operand) : mentions o.text.toList = o.resources := by
  rw [o.text_eq_intercalate, mentions_intercalate]
  cases o with
  | points ps =>
    apply List.flatMap_eq_nil_iff.mpr
    intro part member
    obtain ⟨p, _, here⟩ := List.mem_flatMap.mp member
    have both : ∀ part ∈ [castText p.x, castText p.y], mentions part.toList = [] := by
      simp [mentions_castText]
    exact both part here
  | number d =>
    apply List.flatMap_eq_nil_iff.mpr
    exact List.forall_mem_singleton.mpr (mentions_castText d)
  | rect r =>
    have opened := @mentions_opened "CGRectMake" (by decide) (castText r.x)
    apply List.flatMap_eq_nil_iff.mpr
    unfold Operand.parts
    simp only [List.forall_mem_cons, mentions_closed]
    exact ⟨opened.trans (mentions_castText r.x), mentions_castText r.y, mentions_castText r.width,
      mentions_castText r.height, List.forall_mem_nil _⟩
  | transform t =>
    have opened := @mentions_opened "CGAffineTransformMake" (by decide) t.a.text
    apply List.flatMap_eq_nil_iff.mpr
    unfold Operand.parts
    simp only [List.forall_mem_cons, mentions_closed]
    exact ⟨opened.trans (mentions_text t.a), mentions_text t.b, mentions_text t.c,
      mentions_text t.d, mentions_text t.tx, mentions_text t.ty, List.forall_mem_nil _⟩
  | color id =>
    have named := mentions_name (.color id)
    rw [name] at named
    simp [Operand.parts, Operand.resources, named]

/-- The line of a call mentions what it passes. -/
theorem mentions_arguments (operand : Option Operand) :
    mentions ("context" ++ passed operand ++ ");").toList =
      (operand.map Operand.resources).getD [] := by
  cases operand with
  | none => decide
  | some o =>
    have split : ("context" ++ passed (some o) ++ ");").toList =
        ['c', 'o', 'n', 't', 'e', 'x', 't'] ++ ',' :: ' ' :: (o.text.toList ++ ')' :: [';']) := by
      simp [passed]
    rw [split, mentions_behind comma_apart (by decide), mentions_cons blank_apart,
      mentions_append_cons closing_apart, mentions_operand]
    exact List.append_nil _

private theorem eventsOfWords_declaration {type : List Char} {arguments : List (List Char)}
    (listed : String.ofList type ∈ resourceTypes) :
    eventsOfWords (type :: arguments) = eventsOfDeclaration arguments := by
  rw [eventsOfWords, if_pos listed]

private theorem eventsOfWords_release {function : List Char} {passed : List (List Char)}
    (noType : String.ofList function ∉ resourceTypes)
    (listed : String.ofList function ∈ releasers) :
    eventsOfWords (function :: passed) = (passed.filterMap ofWord?).map .release := by
  rw [eventsOfWords, if_neg noType, if_pos listed]

private theorem eventsOfWords_use {function : List Char} {passed : List (List Char)}
    (noType : String.ofList function ∉ resourceTypes)
    (noReleaser : String.ofList function ∉ releasers) :
    eventsOfWords (function :: passed) =
      (passed.filterMap ofWord?).map (.use · (String.ofList function)) := by
  rw [eventsOfWords, if_neg noType, if_neg noReleaser]

private theorem events_call {function : String} (plain : ∀ c ∈ function.toList, c.isAlpha)
    (operand : Option Operand) : events (Statement.call function operand).line =
      (Statement.call function operand).events := by
  have split : (Statement.call function operand).line.toList =
      ' ' :: ' ' :: (("CGContext" ++ function).toList ++
        '(' :: ("context" ++ passed operand ++ ");").toList) := by
    simp [line_call]
  have letters : ∀ c ∈ ("CGContext" ++ function).toList, Text.isWordChar c := by
    rw [String.toList_append]
    refine List.forall_mem_append.mpr ⟨?_, ?_⟩
    · exact List.forall_iff_forall_mem.mp (by decide)
    · intro c member
      simp [Text.isWordChar, Char.isAlphanum, plain c member]
  have words : Text.words ("CGContext" ++ function).toList = [("CGContext" ++ function).toList] :=
    Text.words_eq_singleton (by simp) letters
  have noType : String.ofList ("CGContext" ++ function).toList ∉ resourceTypes := by
    simp [resourceTypes, ← String.toList_inj]
  have noReleaser : String.ofList ("CGContext" ++ function).toList ∉ releasers := by
    simp [releasers, ← String.toList_inj]
  rw [events, split]
  simp only [Text.words_append_cons parenthesis_apart, words, List.singleton_append]
  rw [eventsOfWords_use noType noReleaser, ← mentions, mentions_arguments, String.ofList_toList]
  rfl

theorem mentions_componentsText (c : Color Double) : mentions (componentsText c).toList = [] := by
  have opening : mentions ("(CGFloat [])\x7b" ++ castText c.red).toList = [] := by
    have split : ("(CGFloat [])\x7b" ++ castText c.red).toList =
        "(CGFloat []".toList ++ ')' :: '\x7b' :: (castText c.red).toList := by simp
    rw [split, mentions_behind closing_apart (by decide), mentions_cons (by decide),
      mentions_castText]
  have closing : mentions "1\x7d".toList = [] := by decide
  rw [componentsText_eq_intercalate, mentions_intercalate]
  apply List.flatMap_eq_nil_iff.mpr
  unfold componentParts
  simp only [List.forall_mem_cons, opening, closing, mentions_castText]
  simp

private theorem events_createColor (id : Nat) (color : Color Double) :
    events (Statement.createColor id color).line = (Statement.createColor id color).events := by
  have split : (Statement.createColor id color).line.toList = ' ' :: ' ' ::
      ("CGColorRef".toList ++ ' ' :: ((Resource.color id).name.toList ++ ' ' :: '=' :: ' ' ::
        ("CGColorCreate".toList ++ '(' ::
          ((Resource.space).name.toList ++ ',' :: ' ' ::
            ((componentsText color).toList ++ ')' :: [';']))))) := by
    unfold Statement.line
    simp [name]
  have passed : mentions ((Resource.space).name.toList ++ ',' :: ' ' ::
      ((componentsText color).toList ++ ')' :: [';'])) = [.space] := by
    rw [mentions_append_cons comma_apart, mentions_name, mentions_cons blank_apart,
      mentions_append_cons closing_apart, mentions_componentsText]
    decide
  have type : Text.words "CGColorRef".toList = ["CGColorRef".toList] := by decide
  have maker : Text.words "CGColorCreate".toList = ["CGColorCreate".toList] := by decide
  have listed : String.ofList "CGColorRef".toList ∈ resourceTypes := by decide
  have read := ofWord?_name (.color id)
  rw [events, split]
  simp only [Text.words_append_cons blank_apart, type, words_name]
  rw [Text.words_cons (by decide), Text.words_cons blank_apart,
    Text.words_append_cons parenthesis_apart, maker]
  simp only [List.singleton_append]
  rw [eventsOfWords_declaration listed, eventsOfDeclaration, ← mentions, passed, read]
  rfl

private theorem events_releaseColor (id : Nat) :
    events (Statement.releaseColor id).line = (Statement.releaseColor id).events := by
  have split : (Statement.releaseColor id).line.toList = ' ' :: ' ' ::
      ("CGColorRelease".toList ++ '(' :: ((Resource.color id).name.toList ++ ')' :: [';'])) := by
    unfold Statement.line
    simp [name]
  have passed : mentions ((Resource.color id).name.toList ++ ')' :: [';']) = [.color id] := by
    rw [mentions_append_cons closing_apart, mentions_name]
    rfl
  have releaser : Text.words "CGColorRelease".toList = ["CGColorRelease".toList] := by decide
  have noType : String.ofList "CGColorRelease".toList ∉ resourceTypes := by decide
  have listed : String.ofList "CGColorRelease".toList ∈ releasers := by decide
  rw [events, split]
  simp only [Text.words_append_cons parenthesis_apart, releaser, List.singleton_append]
  rw [eventsOfWords_release noType listed, ← mentions, passed]
  rfl

/-- What the line of a statement does to resources is what the statement does. -/
theorem events_line {s : Statement} (plain : s.Plain) : events s.line = s.events := by
  cases s with
  | call function operand => exact events_call plain operand
  | createSpace | releaseSpace => decide
  | createColor id color => exact events_createColor id color
  | releaseColor id => exact events_releaseColor id

/-- A line that is not indented does nothing. -/
theorem events_of_head {line : String} {c : Char} (first : line.toList.head? = some c)
    (letter : c ≠ ' ') : events line = [] := by
  obtain ⟨rest, chars⟩ := List.head?_eq_some_iff.mp first
  rw [events, chars]
  split
  · rename_i same
    exact absurd (List.cons.inj same).1 letter
  · rfl

end Code

end DrawingCode
