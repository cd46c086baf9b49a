import DrawingCode.Proofs.Code.Functions
import DrawingCode.Proofs.Generation.Declaration
import Mathlib.Data.List.Nodup

/-! # Functions among the lines of a file

In a header and in an implementation the lines that begin with a result type are the heads of the
functions, one for each image, whatever the names are: a preamble begins with a comment, a statement
with a blank, and a constant with its storage class. So the heads can be found in the text of a file
without any knowledge of what it was made from, and so can the names that a header declares.
-/

namespace DrawingCode

namespace Code

/-- Whether a line begins as functions do, with the result type. -/
def startsFunction (line : String) : Bool := "void ".toList.isPrefixOf line.toList

/-- The lines of a text that begin as functions do. -/
def functionStarts (text : String) : List String := (Text.lines text).filter startsFunction

/-- The lines of a text that begin as functions do, each behind the line before it. -/
def functionStartsBehind (text : String) : List (String × String) :=
  ((Text.lines text).zip (Text.lines text).tail).filter fun pair => startsFunction pair.2

private theorem startsFunction_functionHead (functionPrefix imageName rest : String) :
    startsFunction (functionHead functionPrefix imageName ++ rest) := by
  unfold startsFunction functionHead
  simp

private theorem startsFunction_of_head {line : String} {c : Char}
    (first : line.toList.head? = some c)
    (other : c ≠ 'v') : startsFunction line = false := by
  obtain ⟨rest, chars⟩ := List.head?_eq_some_iff.mp first
  unfold startsFunction
  rw [chars]
  simp [List.isPrefixOf, other.symm]

private theorem startsFunction_line (s : Statement) : startsFunction s.line = false := by
  apply startsFunction_of_head (c := ' ')
  · cases s <;> (unfold Statement.line; simp)
  · decide

/-- The lines of a preamble stand before all others. -/
theorem lines_preamble {toolName target : String} (tool : '\n' ∉ toolName.toList)
    (imported : '\n' ∉ target.toList) (rest : String) :
    Text.lines (preamble toolName target ++ rest) =
      ("// Generated by " ++ toolName) :: "" :: ("#import " ++ target) :: "" ::
        Text.lines rest := by
  have text : preamble toolName target ++ rest = ("// Generated by " ++ toolName) ++ "\n" ++
      ("" ++ "\n" ++ (("#import " ++ target) ++ "\n" ++ ("" ++ "\n" ++ rest))) := by
    unfold preamble
    apply String.toList_inj.mp
    simp
  have empty : Text.lines "" = [""] := rfl
  have note : Text.lines ("// Generated by " ++ toolName) = ["// Generated by " ++ toolName] :=
    Text.lines_of_unbroken (by simp [tool])
  have imports : Text.lines ("#import " ++ target) = ["#import " ++ target] :=
    Text.lines_of_unbroken (by simp [imported])
  rw [text, Text.lines_append, Text.lines_append, Text.lines_append, Text.lines_append, empty, note,
    imports]
  rfl

section Files

variable {toolName target : String} {parts : List (List String)}

/-- The functions of a file are those of its blocks. -/
theorem functionStarts_file (tool : '\n' ∉ toolName.toList) (imported : '\n' ∉ target.toList)
    (whole : ∀ part ∈ parts, Text.IsBlock part) :
    functionStarts (preamble toolName target ++ Text.joined parts ++ "\n") =
      parts.flatMap (·.filter startsFunction) := by
  have note : startsFunction ("// Generated by " ++ toolName) = false :=
    startsFunction_of_head (c := '/') (by simp) (by decide)
  have imports : startsFunction ("#import " ++ target) = false :=
    startsFunction_of_head (c := '#') (by simp) (by decide)
  have empty : startsFunction "" = false := rfl
  rw [functionStarts, String.append_assoc, lines_preamble tool imported]
  simp only [List.filter_cons, note, imports, empty, Bool.false_eq_true, ↓reduceIte]
  by_cases none : parts = []
  · rw [none]
    rfl
  · rw [Text.lines_joined_newline none whole, List.filter_flatMap]
    simp [empty]

theorem functionStartsBehind_file (tool : '\n' ∉ toolName.toList)
    (imported : '\n' ∉ target.toList) (whole : ∀ part ∈ parts, Text.IsBlock part) :
    functionStartsBehind (preamble toolName target ++ Text.joined parts ++ "\n") =
      (Text.behind "" (parts.flatMap (· ++ [""]))).filter fun pair => startsFunction pair.2 := by
  have imports : startsFunction ("#import " ++ target) = false :=
    startsFunction_of_head (c := '#') (by simp) (by decide)
  have empty : startsFunction "" = false := rfl
  rw [functionStartsBehind, String.append_assoc, lines_preamble tool imported]
  simp only [List.tail_cons, List.zip_cons_cons, List.filter_cons, imports, empty,
    Bool.false_eq_true, ↓reduceIte]
  by_cases none : parts = []
  · rw [none]
    rfl
  · rw [Text.lines_joined_newline none whole]
    rfl

end Files

/-- The line that defines a size constant. -/
def sizeLine (name : String) (size : Size Double) : String :=
  "static const CGSize " ++ name ++ " = (CGSize)\x7b.width = " ++ size.width.text ++
    ", .height = " ++ size.height.text ++ "\x7d;"

/-- A line defines a size constant of the given name, whatever the size is. -/
def DefinesSize (line name : String) : Prop := ∃ size, line = sizeLine name size

/-- A line declares a drawing function of the given name. -/
def DeclaresFunction (line name : String) : Prop :=
  line = "void " ++ name ++ "(CGContextRef context)" ++ ";"

/-- The names that a header declares for images of the given names. -/
def declaredNames (functionPrefix : String) (names : List String) : List String :=
  names.map sizeConstantName ++ names.map (functionName functionPrefix)

private theorem functionName_injective (functionPrefix : String) :
    Function.Injective (functionName functionPrefix) := by
  intro name other same
  unfold functionName at same
  rwa [String.append_left_inj, String.append_right_inj] at same

private theorem sizeConstantName_injective : Function.Injective sizeConstantName := by
  intro name other same
  unfold sizeConstantName at same
  rwa [String.append_left_inj, String.append_right_inj] at same

/-- Constants and functions end in different letters. -/
theorem sizeConstantName_ne_functionName (name functionPrefix other : String) :
    sizeConstantName name ≠ functionName functionPrefix other := by
  intro same
  have last := congrArg (fun text => text.toList.reverse.head?) same
  unfold sizeConstantName functionName at last
  simp at last

theorem nodup_declaredNames_iff {functionPrefix : String} {names : List String} :
    (declaredNames functionPrefix names).Nodup ↔ names.Nodup := by
  rw [declaredNames, List.nodup_append, List.nodup_map_iff sizeConstantName_injective,
    List.nodup_map_iff (functionName_injective functionPrefix)]
  constructor
  · rintro ⟨distinct, _, _⟩
    exact distinct
  · intro distinct
    refine ⟨distinct, distinct, ?_⟩
    intro constant constants function functions
    obtain ⟨name, _, rfl⟩ := List.mem_map.mp constants
    obtain ⟨other, _, rfl⟩ := List.mem_map.mp functions
    exact sizeConstantName_ne_functionName name functionPrefix other

/-- The name of a constant can be told from its definition, also if it looks like a part of one: the
last two equality signs stand before the numbers, which have none. -/
theorem DefinesSize.unique {line name other : String} (first : DefinesSize line name)
    (second : DefinesSize line other) : name = other := by
  obtain ⟨size, rfl⟩ := first
  obtain ⟨otherSize, same⟩ := second
  have noEquals (d : Double) : '=' ∉ d.text.toList := not_mem_text (by decide) d
  have heights (size : Size Double) : '=' ∉ (" " ++ size.height.text ++ "\x7d;").toList := by
    simp [noEquals]
  have widths (size : Size Double) : '=' ∉ (" " ++ size.width.text ++ ", .height ").toList := by
    simp [noEquals]
  have split (name : String) (size : Size Double) : (sizeLine name size).toList =
      (("static const CGSize " ++ name ++ " = (CGSize)\x7b.width ").toList ++
        '=' :: (" " ++ size.width.text ++ ", .height ").toList) ++
        '=' :: (" " ++ size.height.text ++ "\x7d;").toList := by
    unfold sizeLine
    simp
  have chars := congrArg String.toList same
  rw [split, split] at chars
  have beforeHeight := (Text.split_at_last_separator (heights size) (heights otherSize) chars).1
  have beforeWidth :=
    (Text.split_at_last_separator (widths size) (widths otherSize) beforeHeight).1
  have texts := String.toList_inj.mp beforeWidth
  rwa [String.append_left_inj, String.append_right_inj] at texts

theorem DeclaresFunction.unique {line name other : String} (first : DeclaresFunction line name)
    (second : DeclaresFunction line other) : name = other := by
  have same := first.symm.trans second
  rwa [String.append_left_inj, String.append_left_inj, String.append_right_inj] at same

private theorem startsFunction_sizeLine (name : String) (size : Size Double) :
    startsFunction (sizeLine name size) = false := by
  apply startsFunction_of_head (c := 's')
  · unfold sizeLine
    simp
  · decide

/-- A function has one line that begins as functions do, its head. -/
theorem filter_functionLines (functionPrefix imageName : String) (body : List Statement) :
    (functionLines functionPrefix imageName body).filter startsFunction =
      [functionHead functionPrefix imageName ++ " \x7b"] := by
  have inside : (body.map (·.line)).filter startsFunction = [] := by
    apply List.filter_eq_nil_iff.mpr
    intro line member
    obtain ⟨s, _, rfl⟩ := List.mem_map.mp member
    rw [startsFunction_line]
    exact Bool.false_ne_true
  have closing : startsFunction "\x7d" = false := rfl
  rw [functionLines, List.filter_cons_of_pos (startsFunction_functionHead ..), List.filter_cons,
    List.filter_append, inside]
  simp [startsFunction_line, closing]

theorem filter_functionBlocks (functionPrefix : String) (id : Nat) (drawings : List Drawing) :
    (functionBlocks functionPrefix id drawings).flatMap (·.filter startsFunction) =
      drawings.map fun drawing => functionHead functionPrefix drawing.name ++ " \x7b" := by
  induction drawings generalizing id with
  | nil => rfl
  | cons drawing rest ih =>
    rw [functionBlocks, List.flatMap_cons, filter_functionLines, ih]
    rfl

/-- The lines of a declaration as a pair. -/
def declaredPair (functionPrefix : String) (declaration : Declaration) : String × String :=
  (sizeLine (sizeConstantName declaration.name) declaration.size,
    functionHead functionPrefix declaration.name ++ ";")

private theorem startsFunction_declaredPair (functionPrefix : String) (declaration : Declaration) :
    startsFunction (declaredPair functionPrefix declaration).1 = false ∧
      startsFunction (declaredPair functionPrefix declaration).2 :=
  ⟨startsFunction_sizeLine .., startsFunction_functionHead ..⟩

theorem filter_declarationLines (functionPrefix : String) (declaration : Declaration) :
    (declaration.lines functionPrefix).filter startsFunction =
      [(declaredPair functionPrefix declaration).2] := by
  have lines : declaration.lines functionPrefix =
      [(declaredPair functionPrefix declaration).1, (declaredPair functionPrefix declaration).2] :=
    rfl
  obtain ⟨constant, function⟩ := startsFunction_declaredPair functionPrefix declaration
  rw [lines, List.filter_cons_of_neg (by simp [constant]), List.filter_cons_of_pos function,
    List.filter_nil]

/-- Among the lines of declarations each function stands behind the constant of its image. -/
theorem behind_declarations (functionPrefix before : String) (declarations : List Declaration) :
    (Text.behind before ((declarations.map (·.lines functionPrefix)).flatMap (· ++ [""]))).filter
        (fun pair => startsFunction pair.2) =
      declarations.map (declaredPair functionPrefix) := by
  induction declarations generalizing before with
  | nil => rfl
  | cons declaration rest ih =>
    have empty : startsFunction "" = false := rfl
    obtain ⟨constant, function⟩ := startsFunction_declaredPair functionPrefix declaration
    have pairs : Text.behind before
        (((declaration :: rest).map (·.lines functionPrefix)).flatMap (· ++ [""])) =
          (before, (declaredPair functionPrefix declaration).1) ::
            declaredPair functionPrefix declaration ::
            ((declaredPair functionPrefix declaration).2, "") ::
            Text.behind "" ((rest.map (·.lines functionPrefix)).flatMap (· ++ [""])) := rfl
    rw [pairs]
    simp only [List.filter_cons, constant, function, empty, Bool.false_eq_true, ↓reduceIte]
    rw [ih]
    rfl

end Code

end DrawingCode
