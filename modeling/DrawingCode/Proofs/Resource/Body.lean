import DrawingCode.Proofs.Code.Bodies
import DrawingCode.Proofs.Resource.Event

/-! # What functions do to resources

A step that sets a colour makes it, passes it on once and releases it, and no other step does
anything to a resource. So the body of a function goes through colours one after another, with
consecutive numbers, and the function makes the colour space before and releases it after them.
-/

namespace DrawingCode

namespace Event

/-- The resource that something happens to. -/
def resource : Event → Resource
  | create r | use r _ | release r => r

/-- The number of the colour that is made, if one is. -/
def createdColor? : Event → Option Nat
  | create (.color id) => some id
  | _ => none

end Event

namespace Code

/-- The functions that set a colour. -/
def colorSetters : List String :=
  ["CGContextSetFillColorWithColor", "CGContextSetStrokeColorWithColor"]

/-- What happens from the making of a colour to its release. -/
def colorEvents (id : Nat) (setter : String) : List Event :=
  [.use .space "CGColorCreate", .create (.color id), .use (.color id) setter, .release (.color id)]

/-- What happens to consecutive colours that are set by given functions. -/
def colorRuns : Nat → List String → List Event
  | _, [] => []
  | id, setter :: rest => colorEvents id setter ++ colorRuns (id + 1) rest

/-- The numbers of the colours that lines make, in order. -/
def createdColors (lines : List String) : List Nat :=
  (lines.flatMap events).filterMap Event.createdColor?

/-- A step does nothing to resources, or it goes through the colour that it takes a number for. -/
theorem events_of_statements (id : Nat) (s : Step Double) :
    (idCount s = 0 ∧ (statements id s).flatMap Statement.events = []) ∨
      (idCount s = 1 ∧ ∃ setter ∈ colorSetters,
        (statements id s).flatMap Statement.events = colorEvents id setter) := by
  cases s with
  | nonStrokeColor color => exact .inr ⟨rfl, _, List.mem_cons_self .., rfl⟩
  | strokeColor color => exact .inr ⟨rfl, _, List.mem_cons_of_mem _ (List.mem_cons_self ..), rfl⟩
  | clip rule | fill rule => cases rule <;> exact .inl ⟨rfl, rfl⟩
  | _ => exact .inl ⟨rfl, rfl⟩

/-- A body goes through as many colours as its steps take numbers. -/
theorem events_of_body (id : Nat) (steps : List (Step Double)) :
    ∃ setters : List String, (∀ setter ∈ setters, setter ∈ colorSetters) ∧
      setters.length = idTotal steps ∧
      (bodyStatements id steps).flatMap Statement.events = colorRuns id setters := by
  induction steps generalizing id with
  | nil => exact ⟨[], List.forall_mem_nil _, rfl, rfl⟩
  | cons s rest ih =>
    obtain ⟨setters, known, count, same⟩ := ih (id + idCount s)
    rw [bodyStatements, List.flatMap_append, same, idTotal]
    rcases events_of_statements id s with ⟨none, events⟩ | ⟨one, setter, member, events⟩
    · refine ⟨setters, known, ?_, ?_⟩
      · rw [count, none, Nat.zero_add]
      · rw [events, none, Nat.add_zero, List.nil_append]
    · refine ⟨setter :: setters, List.forall_mem_cons.mpr ⟨member, known⟩, ?_, ?_⟩
      · rw [List.length_cons, count, one, Nat.add_comm]
      · rw [events, one, colorRuns]

private theorem events_of_plain {body : List Statement} (plain : ∀ s ∈ body, s.Plain) :
    (body.map (·.line)).flatMap events = body.flatMap Statement.events := by
  rw [List.flatMap_map]
  exact List.flatMap_congr fun s member => events_line (plain s member)

private theorem events_functionHead (functionPrefix name : String) :
    events (functionHead functionPrefix name ++ " \x7b") = [] := by
  apply events_of_head (c := 'v')
  · unfold functionHead
    simp
  · decide

/-- A function makes the colour space first and releases it last. -/
theorem events_of_function {functionPrefix name : String} {body : List Statement}
    (plain : ∀ s ∈ body, s.Plain) :
    (functionLines functionPrefix name body).flatMap events =
      .create .space :: (body.flatMap Statement.events ++ [.release .space]) := by
  have closing : events "\x7d" = [] := events_of_head rfl (by decide)
  have made : events Statement.createSpace.line = [.create .space] := events_line trivial
  have released : events Statement.releaseSpace.line = [.release .space] := events_line trivial
  simp only [functionLines, List.flatMap_cons, List.flatMap_append, List.flatMap_nil,
    events_functionHead, events_of_plain plain, made, released, closing, List.nil_append,
    List.append_nil, List.singleton_append]

private theorem filterMap_createdColor?_colorRuns (id : Nat) (setters : List String) :
    (colorRuns id setters).filterMap Event.createdColor? = List.range' id setters.length := by
  induction setters generalizing id with
  | nil => rfl
  | cons setter rest ih =>
    rw [colorRuns, List.filterMap_append, ih, List.length_cons, List.range'_succ]
    rfl

/-- A body makes the colours with the numbers that its steps take, in order. -/
theorem createdColors_body (id : Nat) (steps : List (Step Double)) :
    createdColors ((bodyStatements id steps).map (·.line)) = List.range' id (idTotal steps) := by
  obtain ⟨setters, _, count, same⟩ := events_of_body id steps
  rw [createdColors, events_of_plain plain_of_mem_bodyStatements, same,
    filterMap_createdColor?_colorRuns, count]

theorem createdColors_function (functionPrefix name : String) (id : Nat)
    (steps : List (Step Double)) :
    createdColors (functionLines functionPrefix name (bodyStatements id steps)) =
      List.range' id (idTotal steps) := by
  obtain ⟨setters, _, count, same⟩ := events_of_body id steps
  have ends : [Event.release .space].filterMap Event.createdColor? = [] := rfl
  rw [createdColors, events_of_function plain_of_mem_bodyStatements, same,
    List.filterMap_cons_none rfl, List.filterMap_append, filterMap_createdColor?_colorRuns, count,
    ends, List.append_nil]

/-- The functions of a file make the colours with consecutive numbers. -/
theorem createdColors_functionBlocks (functionPrefix : String) (id : Nat)
    (drawings : List Drawing) :
    (functionBlocks functionPrefix id drawings).flatMap createdColors =
      List.range' id (drawingsTotal drawings) := by
  induction drawings generalizing id with
  | nil => rfl
  | cons drawing rest ih =>
    rw [functionBlocks, List.flatMap_cons, createdColors_function, ih, List.range'_append_1,
      drawingsTotal]

end Code

end DrawingCode
