import DrawingCode.Proofs.Generation.Fidelity

/-! # Bodies are made of statements

Where the implementation generator has lines for an item, each of them is one closed statement, and
how many there are depends on the kind of the step alone. So are all lines of a function but its head
and its end.
-/

namespace DrawingCode

theorem Item.isColor_of_drawable {item : Item} {s : Step Double}
    (drawable : item.drawable? = some s) : item.isColor = s.isColor := by
  obtain ⟨t, rfl, converted⟩ := Item.drawable?_eq_some_iff.mp drawable
  rw [isColor, t.isColor_eq, s.isColor_eq, Step.kind_of_mapM converted]

namespace Code

/-- How many statements a step takes depends on its kind alone. -/
theorem length_statements (id : Nat) (s : Step Double) :
    (statements id s).length = if s.isMarker then 0 else if s.isColor then 3 else 1 := by
  cases s with
  | clip rule | fill rule => cases rule <;> rfl
  | _ => rfl

/-- A line is one closed statement: it is indented by two blanks and goes on with a letter, it is
one line, the only semicolon in it is its end, and its brackets are nested and closed. -/
structure IsStatement (line : String) : Prop where
  indented : ∃ c rest, line.toList = ' ' :: ' ' :: c :: rest ∧ c.isAlpha
  unbroken : '\n' ∉ line.toList
  ended : ∃ front : String, line = front ++ ";" ∧ ';' ∉ front.toList
  nested : Text.Nested line.toList

private theorem Statement.isStatement {s : Statement} (plain : s.Plain) : IsStatement s.line := by
  obtain ⟨front, line, closed, free⟩ := endsOnce plain
  constructor
  · cases s <;> (unfold Statement.line; simp)
  · exact newline_not_mem_line plain
  · exact ⟨front, line, free ';' (.inr rfl)⟩
  · have semicolon : Text.Closed ";" := fun _ => rfl
    rw [line]
    exact (closed.append semicolon) []

end Code

namespace Generator

/-- The lines for an item are closed statements, none for a mark, three for a colour and one for any
other step; and of the lines of a function all but the first and the last are closed statements. -/
theorem lines_are_statements (settings : Settings) :
    (∀ item issued left lines,
      ((implementation settings).command item issued).Returns lines left →
        (∀ line ∈ lines, Code.IsStatement line) ∧
          lines.length = if item.isMarker then 0 else if item.isColor then 3 else 1) ∧
    ∀ image issued left lines,
      ((implementation settings).imageFunction image issued).Returns lines left →
        ∃ first inner last, lines = first :: (inner ++ [last]) ∧
          ∀ line ∈ inner, Code.IsStatement line := by
  constructor
  · intro item issued left lines returns
    obtain ⟨s, drawable, rfl, rfl⟩ := command_returns_iff.mp returns
    constructor
    · intro line member
      obtain ⟨statement, listed, rfl⟩ := List.mem_map.mp member
      exact Code.Statement.isStatement (Code.plain_of_mem_statements statement listed)
    · rw [List.length_map, Code.length_statements, Item.isMarker_of_drawable drawable,
        Item.isColor_of_drawable drawable]
  · intro image issued left lines returns
    obtain ⟨drawing, _, rfl, _⟩ := imageFunction_returns_iff.mp returns
    have statement := fun s member =>
      Code.Statement.isStatement (@Code.plain_of_mem_bodyStatements issued drawing.steps s member)
    refine ⟨Code.functionHead settings.functionPrefix drawing.name ++ " \x7b",
      Code.Statement.createSpace.line :: ((Code.bodyStatements issued drawing.steps).map (·.line) ++
        [Code.Statement.releaseSpace.line]), "\x7d", ?_, ?_⟩
    · simp [Code.functionLines]
    · rw [List.forall_mem_cons, List.forall_mem_append, List.forall_mem_map,
        List.forall_mem_singleton]
      exact ⟨Code.Statement.isStatement trivial, statement, Code.Statement.isStatement trivial⟩

/-- Three points from texts, truth values and an integer that is too long to be written out. -/
def oddCurve : Item :=
  .step (.curve ⟨.text " -1_0e+2 ", .bool true⟩ ⟨.int (10 ^ 40), .text "NaN"⟩
    ⟨.bool false, .text "-0"⟩)

/-- The line for such a curve. -/
def oddCurveLine : String :=
  "  CGContextAddCurveToPoint(context, (CGFloat)-1000.0, (CGFloat)1.0, (CGFloat)1e+40, " ++
    "(CGFloat)nan, (CGFloat)0.0, (CGFloat)-0.0);"

/-- The line for the curve is a closed statement, whatever the texts were. -/
theorem lines_are_statements_curve :
    ((implementation {}).command oddCurve 7).Returns [oddCurveLine] 7 ∧
      Code.IsStatement oddCurveLine := by
  have lines : ((implementation {}).command oddCurve 7).outcome.toOption = some [oddCurveLine] := by
    decide +kernel
  have success : ((implementation {}).command oddCurve 7).outcome = .ok [oddCurveLine] := by
    cases outcome : ((implementation {}).command oddCurve 7).outcome with
    | error e =>
      rw [outcome] at lines
      cases lines
    | ok shown =>
      rw [outcome] at lines
      cases lines
      rfl
  have returns : ((implementation {}).command oddCurve 7).Returns [oddCurveLine] 7 :=
    ⟨success, by decide +kernel⟩
  obtain ⟨closed, _⟩ := (lines_are_statements {}).1 oddCurve 7 7 _ returns
  exact ⟨returns, closed _ (List.mem_singleton_self _)⟩

end Generator

end DrawingCode
