import DrawingCode.Proofs.Resource.Body

/-! # Owned resources

Running through what happens to resources keeps two lists: the resources that are alive and the
variables that have been declared. A run gets stuck where a variable is declared again or a resource
is used or released that is not alive. Every function that code is generated for runs to its end and
leaves nothing alive, and the colours of one file have different variables.
-/

namespace DrawingCode

/-- The variables of a function body. -/
structure Locals where
  live : List Resource
  declared : List Resource

namespace Locals

/-- The variables before the first line. -/
def empty : Locals := ⟨[], []⟩

/-- The variables after an event, unless the event cannot happen. -/
def perform? (locals : Locals) : Event → Option Locals
  | .create r =>
    if r ∈ locals.declared then none else some ⟨r :: locals.live, r :: locals.declared⟩
  | .use r _ => if r ∈ locals.live then some locals else none
  | .release r =>
    if r ∈ locals.live then some ⟨locals.live.erase r, locals.declared⟩ else none

/-- The variables after events, unless one of them cannot happen. -/
def performAll? (locals : Locals) (events : List Event) : Option Locals :=
  events.foldlM perform? locals

/-- Between two steps only the colour space is alive, and the colours that have been declared have
lower numbers than the next one. -/
structure Between (locals : Locals) (id : Nat) : Prop where
  live : locals.live = [.space]
  below : ∀ k, .color k ∈ locals.declared → k < id

private theorem performAll?_append (locals : Locals) (first second : List Event) :
    locals.performAll? (first ++ second) =
      (locals.performAll? first).bind fun between => between.performAll? second :=
  List.foldlM_append ..

private theorem Between.perform_colorEvents {locals : Locals} {id : Nat}
    (between : locals.Between id)
    (setter : String) : ∃ later : Locals,
      locals.performAll? (Code.colorEvents id setter) = some later ∧ later.Between (id + 1) := by
  obtain ⟨live, declared⟩ := locals
  obtain ⟨rfl, below⟩ := between
  have fresh : Resource.color id ∉ declared := by
    intro again
    exact Nat.lt_irrefl id (below id again)
  refine ⟨⟨[.space], .color id :: declared⟩, ?_, rfl, ?_⟩
  · simp [performAll?, Code.colorEvents, perform?, fresh]
  · intro k member
    rcases List.mem_cons.mp member with same | earlier
    · cases same
      exact Nat.lt_succ_self id
    · exact Nat.lt_succ_of_lt (below k earlier)

private theorem Between.perform_colorRuns {locals : Locals} {id : Nat} (between : locals.Between id)
    (setters : List String) : ∃ later : Locals,
      locals.performAll? (Code.colorRuns id setters) = some later ∧
        later.Between (id + setters.length) := by
  induction setters generalizing locals id with
  | nil => exact ⟨locals, rfl, between⟩
  | cons setter rest ih =>
    obtain ⟨middle, first, betweenMiddle⟩ := between.perform_colorEvents setter
    obtain ⟨later, second, betweenLater⟩ := ih betweenMiddle
    refine ⟨later, ?_, ?_⟩
    · rw [Code.colorRuns, performAll?_append, first]
      exact second
    · rwa [List.length_cons, Nat.add_comm rest.length, ← Nat.add_assoc]

end Locals

/-- What happens to the resources of a function that owns them. -/
structure Owned (events : List Event) : Prop where
  /-- All events can happen, one after another, and nothing is alive after the last one. -/
  complete : ∃ declared, Locals.empty.performAll? events = some ⟨[], declared⟩
  /-- A colour that is made is passed once to a function that sets it, and then released. -/
  colors : ∀ id, .create (.color id) ∈ events → ∃ setter ∈ Code.colorSetters,
    events.filter (·.resource = .color id) =
      [.create (.color id), .use (.color id) setter, .release (.color id)]
  /-- The colour space is made before and released after everything else. -/
  space : ∃ inside, events = .create .space :: (inside ++ [.release .space]) ∧
    .create .space ∉ inside ∧ .release .space ∉ inside

namespace Code

private theorem filter_colorEvents (id : Nat) (setter : String) :
    (colorEvents id setter).filter (·.resource = .color id) =
      [.create (.color id), .use (.color id) setter, .release (.color id)] := by
  simp [colorEvents, Event.resource]

private theorem filter_colorEvents_of_ne {id other : Nat} (setter : String) (apart : id ≠ other) :
    (colorEvents id setter).filter (·.resource = .color other) = [] := by
  simp [colorEvents, Event.resource, apart]

private theorem filter_colorRuns_of_lt {id other : Nat} (setters : List String)
    (lower : other < id) :
    (colorRuns id setters).filter (·.resource = .color other) = [] := by
  induction setters generalizing id with
  | nil => rfl
  | cons setter rest ih =>
    rw [colorRuns, List.filter_append, filter_colorEvents_of_ne setter lower.ne', List.nil_append]
    exact ih (Nat.lt_succ_of_lt lower)

/-- Each colour of a body goes from its making over one use to its release. The numbers only grow,
so it is not made a second time further on. -/
theorem filter_colorRuns {id other : Nat} {setters : List String}
    (made : .create (.color other) ∈ colorRuns id setters) :
    ∃ setter ∈ setters, (colorRuns id setters).filter (·.resource = .color other) =
      [.create (.color other), .use (.color other) setter, .release (.color other)] := by
  induction setters generalizing id with
  | nil => cases made
  | cons setter rest ih =>
    rw [colorRuns] at made ⊢
    rw [List.filter_append]
    rcases List.mem_append.mp made with here | later
    · have same : other = id := by simpa [colorEvents] using here
      rw [same, filter_colorEvents, filter_colorRuns_of_lt rest (Nat.lt_succ_self id)]
      exact ⟨setter, List.mem_cons_self .., List.append_nil _⟩
    · by_cases same : id = other
      · have lower : other < id + 1 := same ▸ Nat.lt_succ_self id
        have none := filter_colorRuns_of_lt rest lower
        have dropped := List.filter_eq_nil_iff.mp none _ later
        exact absurd (decide_eq_true rfl) dropped
      · obtain ⟨found, member, filtered⟩ := ih later
        rw [filter_colorEvents_of_ne setter same, List.nil_append, filtered]
        exact ⟨found, List.mem_cons_of_mem _ member, rfl⟩

private theorem space_not_made_in_colorRuns (id : Nat) (setters : List String) :
    .create .space ∉ colorRuns id setters ∧ .release .space ∉ colorRuns id setters := by
  induction setters generalizing id with
  | nil => exact ⟨List.not_mem_nil, List.not_mem_nil⟩
  | cons setter rest ih => simp [colorRuns, colorEvents, ih (id + 1)]

private theorem owned_function (functionPrefix name : String) (id : Nat)
    (steps : List (Step Double)) :
    Owned ((functionLines functionPrefix name (bodyStatements id steps)).flatMap events) := by
  obtain ⟨setters, known, _, same⟩ := events_of_body id steps
  rw [events_of_function plain_of_mem_bodyStatements, same]
  constructor
  · have between : (Locals.mk [.space] [.space]).Between id := by
      refine ⟨rfl, ?_⟩
      intro k member
      cases List.mem_singleton.mp member
    obtain ⟨⟨_, declared⟩, run, rfl, _⟩ := between.perform_colorRuns setters
    refine ⟨declared, ?_⟩
    have first : Locals.empty.perform? (.create .space) = some ⟨[.space], [.space]⟩ := rfl
    rw [Locals.performAll?, List.foldlM_cons, first]
    change (Locals.mk [.space] [.space]).performAll? (colorRuns id setters ++ [_]) = _
    rw [Locals.performAll?_append, run]
    rfl
  · intro other made
    have inside : .create (.color other) ∈ colorRuns id setters := by simpa using made
    obtain ⟨setter, member, filtered⟩ := filter_colorRuns inside
    refine ⟨setter, known setter member, ?_⟩
    simpa [Event.resource] using filtered
  · exact ⟨_, rfl, space_not_made_in_colorRuns id setters⟩

private theorem owned_functionBlocks (functionPrefix : String) (id : Nat)
    (drawings : List Drawing) :
    ∀ lines ∈ functionBlocks functionPrefix id drawings, Owned (lines.flatMap events) := by
  induction drawings generalizing id with
  | nil => exact List.forall_mem_nil _
  | cons drawing rest ih => exact List.forall_mem_cons.mpr ⟨owned_function .., ih _⟩

end Code

/-- Every function that code is generated for owns its resources, and the colours of the functions
of one file have different variables. -/
theorem resources_owned {settings : Settings} {start : Nat} :
    (∀ image lines,
      ((Generator.implementation settings).imageFunction image start).outcome = .ok lines →
        Owned (lines.flatMap Code.events)) ∧
      ∀ images text, ((Generator.implementation settings).file images start).outcome = .ok text →
        ∃ blocks, ((Generator.implementation settings).blocks images start).outcome = .ok blocks ∧
          text = (Generator.implementation settings).fileText blocks ∧
          (∀ lines ∈ blocks, Owned (lines.flatMap Code.events)) ∧
          (blocks.flatMap Code.createdColors).Nodup := by
  constructor
  · intro image lines success
    obtain ⟨drawing, _, rfl, _⟩ :=
      Generator.imageFunction_returns_iff.mp (Run.returns_of_ok success)
    exact Code.owned_function ..
  · intro images text success
    obtain ⟨blocks, returns, rfl⟩ := Generator.file_returns_iff.mp (Run.returns_of_ok success)
    refine ⟨blocks, returns.outcome, rfl, ?_⟩
    obtain ⟨drawings, _, rfl, _⟩ := Generator.blocks_returns_iff.mp returns
    refine ⟨Code.owned_functionBlocks _ _ _, ?_⟩
    rw [Code.createdColors_functionBlocks]
    exact List.nodup_range'

/-- An image that fills in one colour and draws its outline in another one. -/
def outlined : Image :=
  ⟨"Outlined", [.step (.nonStrokeColor ⟨.bool true, .bool false, .bool false⟩),
      .step (.fill .winding), .step (.strokeColor ⟨.bool false, .double .one, .double .nan⟩),
      .step .stroke], ⟨.null, .null, .null, .null⟩⟩

/-- The image alone owns its resources, and so do two copies of it in one file. -/
theorem resources_owned_outlined : ∃ lines text,
    ((Generator.implementation {}).imageFunction outlined 9).outcome = .ok lines ∧
      Owned (lines.flatMap Code.events) ∧
      ((Generator.implementation {}).file [outlined, outlined] 9).outcome = .ok text ∧
      ∃ blocks, text = (Generator.implementation {}).fileText blocks ∧
        (blocks.flatMap Code.createdColors).Nodup := by
  have draws : outlined.Draws ⟨"Outlined", [.nonStrokeColor ⟨.one, .zero false, .zero false⟩,
      .fill .winding, .strokeColor ⟨.zero false, .one, .nan⟩, .stroke]⟩ :=
    ⟨rfl, .cons rfl (.cons rfl (.cons rfl (.cons rfl .nil)))⟩
  have function : ((Generator.implementation {}).imageFunction outlined 9).outcome = .ok _ :=
    (Generator.imageFunction_returns_iff.mpr ⟨_, draws, rfl, rfl⟩).outcome
  have file : ((Generator.implementation {}).file [outlined, outlined] 9).outcome = .ok _ :=
    (Generator.implementation_file_returns_iff.mpr
      ⟨_, .cons draws (.cons draws .nil), rfl, rfl⟩).outcome
  obtain ⟨blocks, _, text, _, apart⟩ := resources_owned.2 _ _ file
  exact ⟨_, _, function, resources_owned.1 _ _ function, file, blocks, text, apart⟩

end DrawingCode
