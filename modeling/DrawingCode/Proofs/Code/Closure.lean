import DrawingCode.Proofs.Code.Reading
import DrawingCode.Proofs.Text.Brackets

/-! # Lines are closed statements

The line of a statement is indented, ends with its only semicolon, and closes the brackets that it
opens. Whatever a drawing was made from, only texts of doubles get into its code, and these have no
brackets and no semicolons.
-/

namespace DrawingCode

private theorem Text.not_mem_intercalate {separator : String} {parts : List String} {c : Char}
    (apart : c ∉ separator.toList) (missing : ∀ part ∈ parts, c ∉ part.toList) :
    c ∉ (separator.intercalate parts).toList := by
  induction parts with
  | nil => exact List.not_mem_nil
  | cons part rest ih =>
    obtain ⟨here, later⟩ := List.forall_mem_cons.mp missing
    cases rest with
    | nil => simpa using here
    | cons next rest =>
      rw [String.intercalate_cons_cons, String.toList_append, String.toList_append]
      simp only [List.mem_append, not_or]
      exact ⟨⟨here, apart⟩, ih later⟩

namespace Code

open Text

private theorem numeralChars_not_bracket : ∀ c ∈ Double.numeralChars, c ∉ brackets :=
  List.forall_iff_forall_mem.mp (by decide)

private theorem closed_text (d : Double) : Closed d.text := by
  intro awaited
  apply awaited?_of_plain
  intro c member
  exact numeralChars_not_bracket c (Double.mem_numeralChars_of_mem_text d c member)

private theorem closed_comma : Closed ", " := fun _ => rfl

private theorem closed_intercalate {parts : List String} (closed : ∀ part ∈ parts, Closed part) :
    Closed (", ".intercalate parts) := by
  induction parts with
  | nil => exact fun _ => rfl
  | cons part rest ih =>
    obtain ⟨here, later⟩ := List.forall_mem_cons.mp closed
    cases rest with
    | nil => simpa using here
    | cons next rest =>
      rw [String.intercalate_cons_cons]
      exact (here.append closed_comma).append (ih later)

private theorem closed_castText (d : Double) : Closed (castText d) := by
  have cast : Closed "(CGFloat)" := fun _ => rfl
  exact cast.append (closed_text d)

private theorem closed_colorName (id : Nat) : Closed (colorName id) := by
  intro awaited
  apply awaited?_of_plain
  intro c member
  rcases mem_colorName member with letter | digit
  · have letters : ∀ c ∈ ['c', 'o', 'l', 'o', 'r'], c ∉ brackets :=
      List.forall_iff_forall_mem.mp (by decide)
    exact letters c letter
  · exact numeralChars_not_bracket c (Double.mem_numeralChars_of_isDigit digit)

private theorem closed_pointsText (points : List (Point Double)) : Closed (pointsText points) := by
  apply closed_intercalate
  intro part member
  obtain ⟨p, _, rfl⟩ := List.mem_map.mp member
  exact ((closed_castText p.x).append closed_comma).append (closed_castText p.y)

private theorem closed_rectText (r : Rect Double) : Closed (rectText r) := by
  have call : Opens ')' "CGRectMake(" := fun _ => rfl
  have upToX := (call.append (closed_castText r.x)).append closed_comma
  have upToY := (upToX.append (closed_castText r.y)).append closed_comma
  have upToWidth := (upToY.append (closed_castText r.width)).append closed_comma
  exact (upToWidth.append (closed_castText r.height)).close fun _ => rfl

private theorem closed_transformText (t : Transform Double) : Closed (transformText t) := by
  have call : Opens ')' "CGAffineTransformMake(" := fun _ => rfl
  have upToA := (call.append (closed_text t.a)).append closed_comma
  have upToB := (upToA.append (closed_text t.b)).append closed_comma
  have upToC := (upToB.append (closed_text t.c)).append closed_comma
  have upToD := (upToC.append (closed_text t.d)).append closed_comma
  have upToX := (upToD.append (closed_text t.tx)).append closed_comma
  exact (upToX.append (closed_text t.ty)).close fun _ => rfl

private theorem closed_componentsText (c : Color Double) : Closed (componentsText c) := by
  have list : Opens '\x7d' "(CGFloat [])\x7b" := fun _ => rfl
  have upToRed := (list.append (closed_castText c.red)).append closed_comma
  have upToGreen := (upToRed.append (closed_castText c.green)).append closed_comma
  exact (upToGreen.append (closed_castText c.blue)).close fun _ => rfl

private theorem Operand.closed_text (o : Operand) : Closed o.text := by
  cases o with
  | points ps => exact closed_pointsText ps
  | number d => exact closed_castText d
  | rect r => exact closed_rectText r
  | transform t => exact closed_transformText t
  | color id => exact closed_colorName id

private theorem closed_passed (operand : Option Operand) : Closed (passed operand) := by
  cases operand with
  | none => exact fun _ => rfl
  | some o => exact closed_comma.append o.closed_text

private theorem closed_of_letters {name : String} (letters : ∀ c ∈ name.toList, c.isAlpha) :
    Closed name := by
  intro awaited
  apply awaited?_of_plain
  intro c member bracket
  have noLetter : ∀ c ∈ brackets, c.isAlpha = false := List.forall_iff_forall_mem.mp (by decide)
  have letter := letters c member
  rw [noLetter c bracket] at letter
  cases letter

section Endings

variable {c : Char} (ending : c = '\n' ∨ c = ';')

include ending

theorem ending_not_mem_text (d : Double) : c ∉ d.text.toList := by
  rcases ending with rfl | rfl
  · exact not_mem_text (by decide) d
  · exact not_mem_text (by decide) d

private theorem ending_not_mem_castText (d : Double) : c ∉ (castText d).toList := by
  have text := ending_not_mem_text ending d
  rcases ending with rfl | rfl <;> simp [castText, text]

private theorem ending_not_mem_colorName (id : Nat) : c ∉ (colorName id).toList := by
  rcases ending with rfl | rfl
  · exact not_mem_colorName (by decide) (by decide) id
  · exact not_mem_colorName (by decide) (by decide) id

private theorem ending_not_mem_pointsText (points : List (Point Double)) :
    c ∉ (pointsText points).toList := by
  have castFree := ending_not_mem_castText ending
  apply Text.not_mem_intercalate
  · rcases ending with rfl | rfl <;> decide
  · intro part member
    obtain ⟨p, _, rfl⟩ := List.mem_map.mp member
    rcases ending with rfl | rfl <;> simp [castFree]

theorem Operand.ending_not_mem_text (o : Operand) : c ∉ o.text.toList := by
  have castFree := ending_not_mem_castText ending
  have textFree := Code.ending_not_mem_text ending
  cases o with
  | points ps => exact ending_not_mem_pointsText ending ps
  | number d => exact castFree d
  | rect r =>
    unfold text rectText
    rcases ending with rfl | rfl <;> simp [castFree]
  | transform t =>
    unfold text transformText
    rcases ending with rfl | rfl <;> simp [textFree]
  | color id => exact ending_not_mem_colorName ending id

private theorem ending_not_mem_componentsText (color : Color Double) :
    c ∉ (componentsText color).toList := by
  have castFree := ending_not_mem_castText ending
  unfold componentsText
  rcases ending with rfl | rfl <;> simp [castFree]

private theorem ending_not_mem_passed (operand : Option Operand) : c ∉ (passed operand).toList := by
  cases operand with
  | none => exact List.not_mem_nil
  | some o =>
    have free := o.ending_not_mem_text ending
    rcases ending with rfl | rfl <;> simp [passed, free]

end Endings

/-- A line is a text that closes its brackets and has no end in it, and a semicolon behind it. -/
def EndsOnce (line : String) : Prop :=
  ∃ front : String, line = front ++ ";" ∧ Closed front ∧ ∀ c, c = '\n' ∨ c = ';' → c ∉ front.toList

/-- A line ends once that is the end of a call behind a text in which only this call is open and no
end stands. -/
theorem EndsOnce.of_call {text : String} (opened : Opens ')' text)
    (free : ∀ c, c = '\n' ∨ c = ';' → c ∉ text.toList) : EndsOnce (text ++ ");") := by
  refine ⟨text ++ ")", ?_, opened.close fun _ => rfl, ?_⟩
  · rw [@String.append_assoc text ")" ";"]
    rfl
  · intro c ending
    have missing := free c ending
    rcases ending with rfl | rfl <;> simp [missing]

private theorem endsOnce_call {function : String} (letters : ∀ c ∈ function.toList, c.isAlpha)
    (operand : Option Operand) : EndsOnce (Statement.call function operand).line := by
  rw [line_call]
  apply EndsOnce.of_call
  · have indent : Closed "  CGContext" := fun _ => rfl
    have arguments : Opens ')' "(context" := fun _ => rfl
    have called := (indent.append (closed_of_letters letters)).append_opens arguments
    exact called.append (closed_passed operand)
  · intro c ending
    have free := ending_not_mem_passed ending operand
    have named : c ∉ function.toList := by
      intro member
      have letter := letters c member
      rcases ending with rfl | rfl <;> cases letter
    rcases ending with rfl | rfl <;> simp [free, named]

private theorem endsOnce_createColor (id : Nat) (color : Color Double) :
    EndsOnce (Statement.createColor id color).line := by
  unfold Statement.line
  apply EndsOnce.of_call
  · have indent : Closed "  CGColorRef " := fun _ => rfl
    have create : Opens ')' " = CGColorCreate(" := fun _ => rfl
    have space : Closed spaceName := fun _ => rfl
    have called := (indent.append (closed_colorName id)).append_opens create
    exact ((called.append space).append closed_comma).append (closed_componentsText color)
  · intro c ending
    have name := ending_not_mem_colorName ending id
    have components := ending_not_mem_componentsText ending color
    rcases ending with rfl | rfl <;> simp [spaceName, name, components]

private theorem endsOnce_releaseColor (id : Nat) : EndsOnce (Statement.releaseColor id).line := by
  unfold Statement.line
  apply EndsOnce.of_call
  · have release : Opens ')' "  CGColorRelease(" := fun _ => rfl
    exact release.append (closed_colorName id)
  · intro c ending
    have name := ending_not_mem_colorName ending id
    rcases ending with rfl | rfl <;> simp [name]

theorem Statement.endsOnce {s : Statement} (plain : s.Plain) : EndsOnce s.line := by
  cases s with
  | call function operand => exact endsOnce_call plain operand
  | createSpace =>
    refine ⟨"  CGColorSpaceRef " ++ spaceName ++ " = CGColorSpaceCreateDeviceRGB()", rfl,
      fun _ => rfl, ?_⟩
    rintro c (rfl | rfl) <;> decide
  | releaseSpace =>
    refine ⟨"  CGColorSpaceRelease(" ++ spaceName ++ ")", rfl, fun _ => rfl, ?_⟩
    rintro c (rfl | rfl) <;> decide
  | createColor id color => exact endsOnce_createColor id color
  | releaseColor id => exact endsOnce_releaseColor id

end Code

end DrawingCode
