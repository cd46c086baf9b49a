import DrawingCode.Proofs.Generation.Numbering
import DrawingCode.Proofs.Session.History

/-! # Numbers of a session

Every number that a counter has issued is either shown by a call that succeeds or taken by a call
that fails. The calls that succeed show their numbers in order, each number once, so all the numbers
of a counter that a session shows are strictly increasing.
-/

namespace DrawingCode

/-- Whether the lines of a file, if an operation makes one, can be told from its text. -/
def Operation.Unbroken : Operation → Prop
  | file _ generator images => '\n' ∉ generator.functionPrefix.toList ∧
      ∀ image ∈ images, '\n' ∉ image.name.toList
  | _ => True

namespace Session

/-- The numbers that an answer shows: a number that is handed out, or the numbers of the colours
that lines or the text of a file make. -/
def shownNumbers (operation : Operation) : Answer → List Nat
  | .number id => [id]
  | .lines lines => Code.createdColors lines
  | .file text =>
    match operation with
    | .file _ generator _ => Code.createdColors (generator.bodyLines text)
    | _ => []
  | .created | .shown _ | .sources _ => []

namespace Call

def succeeds (call : Call) : Bool := call.entry.outcome.isOk

/-- The numbers that a call shows, none if it fails. -/
def numbers (call : Call) : List Nat :=
  match call.entry.outcome with
  | .ok answer => shownNumbers call.operation answer
  | .error _ => []

/-- The count of a counter before a call. -/
def start (call : Call) (counter : Nat) : Nat := issued call.before counter

/-- The count of a counter after a call. -/
def stop (call : Call) (counter : Nat) : Nat := issued call.entry.counters counter

/-- A call gives no number back, and shows what it takes if it succeeds. -/
structure Counted (call : Call) (counter : Nat) : Prop where
  le : call.start counter ≤ call.stop counter
  shows : call.succeeds →
    call.numbers = List.range' (call.start counter) (call.stop counter - call.start counter)

end Call

/-- The numbers of a counter that a session shows, in order. -/
def listed (counter : Nat) (operations : List Operation) : List Nat :=
  (callsOn counter (history [] operations)).flatMap Call.numbers

/-- A call that runs on a counter is counted if the run is. -/
theorem counted_onCounter {α : Type} {counters : Counters} {operation : Operation} {counter : Nat}
    {run : Nat → Run α} {answer : α → Answer} (made : counter < counters.length)
    (le : ∀ issued, issued ≤ (run issued).issued)
    (shows : ∀ {issued left a}, (run issued).Returns a left →
      shownNumbers operation (answer a) = List.range' issued (left - issued)) :
    (Call.mk operation counters (onCounter counters counter run answer)).Counted counter := by
  have stop : (Call.mk operation counters (onCounter counters counter run answer)).stop counter =
      (run (issued counters counter)).issued := issued_set_of_lt made _
  constructor
  · rw [stop]
    exact le _
  · intro success
    rw [stop]
    cases result : (run (issued counters counter)).outcome with
    | ok a =>
      simp only [Call.numbers, onCounter, result, Except.map]
      exact shows (Run.returns_of_ok result)
    | error e =>
      simp [Call.succeeds, onCounter, result, Except.map, Except.isOk, Except.toBool] at success

/-- Every call on a counter is counted. -/
theorem counted_perform {counters : Counters} {operation : Operation} {counter : Nat}
    (made : counter < counters.length) (addressed : operation.counter? = some counter)
    (unbroken : operation.Unbroken) :
    (Call.mk operation counters (perform counters operation)).Counted counter := by
  cases operation with
  | create | sources | refused => cases addressed
  | next =>
    cases addressed
    refine @counted_onCounter Nat counters (.next counter) counter
      (fun issued => .done issued (issued + 1)) .number made ?_ ?_
    · intro issued
      exact Nat.le_succ issued
    · intro issued left a returns
      obtain ⟨rfl, rfl⟩ := Run.returns_done_iff.mp returns
      rw [Nat.add_sub_cancel_left]
      rfl
  | inspect =>
    cases addressed
    constructor
    · exact Nat.le_refl _
    · intro success
      simp only [Call.start, Call.stop, perform, Nat.sub_self]
      rfl
  | command _ generator item =>
    cases addressed
    exact counted_onCounter made (generator.le_issued_command item) Generator.command_numbers
  | imageFunction _ generator image =>
    cases addressed
    exact counted_onCounter made (generator.le_issued_imageFunction image)
      Generator.imageFunction_numbers
  | file target generator images =>
    cases target with
    | none => cases addressed
    | some =>
      cases addressed
      exact counted_onCounter made (generator.le_issued_file images)
        (Generator.file_numbers unbroken.1 unbroken.2)

/-- Calls that go through the numbers of a counter from `start` up to `stop`. -/
structure Numbered (counter start stop : Nat) (calls : List Call) : Prop where
  le : start ≤ stop
  counted : ∀ call ∈ calls, call.Counted counter
  inside : ∀ id ∈ calls.flatMap Call.numbers, start ≤ id ∧ id < stop
  increasing : (calls.flatMap Call.numbers).Pairwise (· < ·)
  complete : ∀ id, start ≤ id → id < stop → id ∈ calls.flatMap Call.numbers ∨
    ∃ call ∈ calls, call.succeeds = false ∧ call.start counter ≤ id ∧ id < call.stop counter

private theorem numbers_of_not_succeeds {call : Call} (failed : call.succeeds = false) :
    call.numbers = [] := by
  unfold Call.succeeds at failed
  unfold Call.numbers
  cases result : call.entry.outcome with
  | ok a => simp [result, Except.isOk, Except.toBool] at failed
  | error e => rfl

theorem Numbered.nil (counter start : Nat) : Numbered counter start start [] where
  le := Nat.le_refl start
  counted := List.forall_mem_nil _
  inside := List.forall_mem_nil _
  increasing := .nil
  complete _ above below := absurd (Nat.lt_of_le_of_lt above below) (Nat.lt_irrefl start)

private theorem Call.Counted.mem_numbers_iff {call : Call} {counter id : Nat}
    (counted : call.Counted counter) (success : call.succeeds) :
    id ∈ call.numbers ↔ call.start counter ≤ id ∧ id < call.stop counter := by
  have le := counted.le
  rw [counted.shows success, List.mem_range'_1]
  omega

/-- One more call before calls that go on where it stops. -/
theorem Numbered.cons {counter stop : Nat} {call : Call} {calls : List Call}
    (counted : call.Counted counter) (rest : Numbered counter (call.stop counter) stop calls) :
    Numbered counter (call.start counter) stop (call :: calls) := by
  have here : ∀ id ∈ call.numbers, call.start counter ≤ id ∧ id < call.stop counter := by
    intro id member
    cases success : call.succeeds with
    | true => exact (counted.mem_numbers_iff success).mp member
    | false =>
      rw [numbers_of_not_succeeds success] at member
      cases member
  have forward := counted.le
  have onward := rest.le
  constructor
  · exact forward.trans onward
  · exact List.forall_mem_cons.mpr ⟨counted, rest.counted⟩
  · intro id member
    rcases List.mem_append.mp member with first | later
    · have bounds := here id first
      omega
    · have bounds := rest.inside id later
      omega
  · refine List.pairwise_append.mpr ⟨?_, rest.increasing, ?_⟩
    · cases success : call.succeeds with
      | true =>
        rw [counted.shows success]
        exact List.pairwise_lt_range'
      | false =>
        rw [numbers_of_not_succeeds success]
        exact .nil
    · intro id first other later
      have bounds := here id first
      have otherBounds := rest.inside other later
      omega
  · intro id above below
    by_cases first : id < call.stop counter
    · cases success : call.succeeds with
      | true =>
        have member := (counted.mem_numbers_iff success).mpr ⟨above, first⟩
        exact .inl (List.mem_append_left _ member)
      | false => exact .inr ⟨call, List.mem_cons_self .., success, above, first⟩
    · rcases rest.complete id (Nat.not_lt.mp first) below with shown | ⟨other, member, failed⟩
      · exact .inl (List.mem_append_right _ shown)
      · exact .inr ⟨other, List.mem_cons_of_mem _ member, failed⟩

/-- The calls on a counter go through its numbers, whatever else happens in the session. -/
theorem numbered_history (counters : Counters) {operations : List Operation}
    (addressed : Addressed counters.length operations)
    (unbroken : ∀ operation ∈ operations, operation.Unbroken) (counter : Nat) :
    Numbered counter (issued counters counter) (issued (final counters operations) counter)
      (callsOn counter (history counters operations)) := by
  induction operations generalizing counters with
  | nil => exact Numbered.nil counter _
  | cons operation rest ih =>
    obtain ⟨made, later⟩ := addressed
    obtain ⟨here, others⟩ := List.forall_mem_cons.mp unbroken
    rw [← length_perform] at later
    have tail := ih _ later others
    by_cases target : operation.counter? = some counter
    · rw [history, callsOn, List.filter_cons_of_pos (by simp [target])]
      exact Numbered.cons (counted_perform (made counter target) target here) tail
    · rw [history, callsOn, List.filter_cons_of_neg (by simp [target])]
      rwa [issued_perform_of_ne target] at tail

/-- The numbers of a counter that a session shows are strictly increasing, each call that succeeds
shows all the numbers that it takes, in order, and a number that is not shown has been taken by a
call that failed. -/
theorem listed_increasing {operations : List Operation} (addressed : Addressed 0 operations)
    (unbroken : ∀ operation ∈ operations, operation.Unbroken) (counter : Nat) :
    (listed counter operations).Pairwise (· < ·) ∧
      (∀ call ∈ callsOn counter (history [] operations), call.succeeds →
        call.start counter ≤ call.stop counter ∧ call.numbers =
          List.range' (call.start counter) (call.stop counter - call.start counter)) ∧
      ∀ id < issued (final [] operations) counter, id ∈ listed counter operations ∨
        ∃ call ∈ callsOn counter (history [] operations), call.succeeds = false ∧
          call.start counter ≤ id ∧ id < call.stop counter := by
  have numbered := numbered_history [] addressed unbroken counter
  refine ⟨numbered.increasing, ?_, ?_⟩
  · intro call member success
    have counted := numbered.counted call member
    exact ⟨counted.le, counted.shows success⟩
  · intro id below
    exact numbered.complete id (Nat.zero_le id) below

/-- A session in which the second call takes a number and fails, between two files. -/
def interrupted : List Operation :=
  let color : Step Value := .strokeColor ⟨.bool true, .null, .bool true⟩
  let image : Image :=
    ⟨"Line", [.step (.strokeColor ⟨.bool true, .double .nan, .bool true⟩), .step .stroke],
      ⟨.null, .null, .null, .null⟩⟩
  [.create, .file (some 0) (.implementation {}) [image, image],
    .command 0 (.implementation {}) (.step color), .next 0,
    .file (some 0) (.implementation {}) [image]]

theorem listed_increasing_interrupted : Addressed 0 interrupted ∧
    (∀ operation ∈ interrupted, operation.Unbroken) ∧
      (listed 0 interrupted).Pairwise (· < ·) ∧
      ∀ id < issued (final [] interrupted) 0, id ∈ listed 0 interrupted ∨
        ∃ call ∈ callsOn 0 (history [] interrupted), call.succeeds = false ∧
          call.start 0 ≤ id ∧ id < call.stop 0 := by
  have addressed : Addressed 0 interrupted := by
    simp [interrupted, Addressed, Operation.counter?, Operation.isCreate]
  have unbroken : ∀ operation ∈ interrupted, operation.Unbroken := by
    simp [interrupted, Operation.Unbroken, Generator.functionPrefix]
  obtain ⟨increasing, _, complete⟩ := listed_increasing addressed unbroken 0
  exact ⟨addressed, unbroken, increasing, complete⟩

end Session

end DrawingCode
