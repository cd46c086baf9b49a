import DrawingCode.Proofs.Session.History

/-! # Isolation of counters

What an operation on a counter answers depends on the count of this counter alone. So a session can
be cut down to the operations that concern one counter, and nobody who looks at this counter alone
can tell. Operations that bring a counter of their own answer the same at any place.
-/

namespace DrawingCode

/-- Whether an operation is addressed to a counter or makes one. -/
def Operation.concerns (counter : Nat) (operation : Operation) : Bool :=
  operation.isCreate || operation.counter? = some counter

namespace Session

/-- What a call shows to somebody who looks at one counter. -/
def Call.view (counter : Nat) (call : Call) : Except Failure Answer × List LogEvent × Nat :=
  (call.entry.outcome, call.entry.log, issued call.entry.counters counter)

/-- The views of the calls that concern a counter. -/
def views (counter : Nat) (calls : List Call) :
    List (Except Failure Answer × List LogEvent × Nat) :=
  (calls.filter (·.operation.concerns counter)).map (Call.view counter)

/-- Counters that look the same to somebody who looks at one of them. -/
structure Agree (counter : Nat) (first second : Counters) : Prop where
  length : first.length = second.length
  count : issued first counter = issued second counter

theorem Agree.symm {counter : Nat} {first second : Counters} (agree : Agree counter first second) :
    Agree counter second first :=
  ⟨agree.length.symm, agree.count.symm⟩

theorem Agree.set {counter : Nat} {first second : Counters} (agree : Agree counter first second)
    (count : Nat) : Agree counter (first.set counter count) (second.set counter count) := by
  refine ⟨by rw [List.length_set, List.length_set, agree.length], ?_⟩
  by_cases made : counter < first.length
  · rw [issued_set_of_lt made, issued_set_of_lt (agree.length ▸ made)]
  · rw [List.set_eq_of_length_le (Nat.not_lt.mp made),
      List.set_eq_of_length_le (agree.length ▸ Nat.not_lt.mp made), agree.count]

theorem Agree.onCounter {α : Type} {counter : Nat} {first second : Counters}
    (agree : Agree counter first second) (run : Nat → Run α) (answer : α → Answer) :
    (onCounter first counter run answer).outcome = (onCounter second counter run answer).outcome ∧
      (onCounter first counter run answer).log = (onCounter second counter run answer).log ∧
      Agree counter (onCounter first counter run answer).counters
        (onCounter second counter run answer).counters := by
  simp only [Session.onCounter, agree.count, true_and]
  exact agree.set _

/-- An operation that concerns a counter does the same to counters that look the same. -/
theorem Agree.perform {counter : Nat} {first second : Counters}
    (agree : Agree counter first second) {operation : Operation}
    (concerns : operation.concerns counter) :
    (perform first operation).outcome = (perform second operation).outcome ∧
      (perform first operation).log = (perform second operation).log ∧
      Agree counter (perform first operation).counters (perform second operation).counters := by
  have addressed (other : Nat) (same : decide (some other = some counter) = true) :
      other = counter := Option.some.inj (of_decide_eq_true same)
  cases operation with
  | create =>
    refine ⟨rfl, rfl, ?_, ?_⟩
    · rw [length_perform, length_perform, agree.length]
    · exact (issued_append_zero ..).trans (agree.count.trans (issued_append_zero ..).symm)
  | next other | command other | imageFunction other =>
    obtain rfl := addressed other concerns
    exact agree.onCounter _ _
  | inspect other =>
    obtain rfl := addressed other concerns
    refine ⟨?_, rfl, agree⟩
    simp only [Session.perform, agree.count]
  | file other generator images =>
    cases other with
    | none => cases concerns
    | some other =>
      obtain rfl := addressed other concerns
      exact agree.onCounter _ _
  | sources | refused => cases concerns

/-- An operation that does not concern a counter cannot be seen there. -/
theorem Agree.perform_left {counter : Nat} {first second : Counters}
    (agree : Agree counter first second) {operation : Operation}
    (other : operation.concerns counter = false) :
    Agree counter (Session.perform first operation).counters second := by
  rw [Operation.concerns, Bool.or_eq_false_iff, decide_eq_false_iff_not] at other
  refine ⟨?_, (issued_perform_of_ne other.2).trans agree.count⟩
  rw [length_perform, other.1, if_neg Bool.false_ne_true, agree.length]

private theorem views_cons_of_concerns {counter : Nat} {operation : Operation}
    (concerns : operation.concerns counter) (counters : Counters) (rest : List Operation) :
    views counter (history counters (operation :: rest)) =
      Call.view counter ⟨operation, counters, perform counters operation⟩ ::
        views counter (history (perform counters operation).counters rest) := by
  rw [views, history, List.filter_cons_of_pos (by exact concerns)]
  rfl

private theorem views_cons_of_not_concerns {counter : Nat} {operation : Operation}
    (other : operation.concerns counter = false) (counters : Counters) (rest : List Operation) :
    views counter (history counters (operation :: rest)) =
      views counter (history (perform counters operation).counters rest) := by
  rw [views, history, List.filter_cons_of_neg (by simp [other])]
  rfl

/-- Leaving out operations that do not concern a counter cannot be seen there. -/
theorem views_filter {counter : Nat} {first second : Counters} (agree : Agree counter first second)
    {keep : Operation → Bool} (needed : ∀ operation, operation.concerns counter → keep operation)
    (operations : List Operation) :
    views counter (history second (operations.filter keep)) =
      views counter (history first operations) := by
  induction operations generalizing first second with
  | nil => rfl
  | cons operation rest ih =>
    cases concerns : operation.concerns counter with
    | true =>
      obtain ⟨outcomes, logs, later⟩ := agree.perform concerns
      rw [List.filter_cons_of_pos (needed operation concerns), views_cons_of_concerns concerns,
        views_cons_of_concerns concerns, ih later, Call.view, Call.view, outcomes, logs,
        later.count]
    | false =>
      rw [views_cons_of_not_concerns concerns]
      cases kept : keep operation with
      | true =>
        rw [List.filter_cons_of_pos kept, views_cons_of_not_concerns concerns]
        exact ih ((agree.perform_left concerns).symm.perform_left concerns).symm
      | false =>
        rw [List.filter_cons_of_neg (by simp [kept])]
        exact ih (agree.perform_left concerns)

/-- An operation without a counter answers as it does alone and leaves all counters as they are. -/
theorem perform_detached {operation : Operation} (makesNone : operation.isCreate = false)
    (detached : operation.counter? = none) (counters : Counters) :
    perform counters operation =
      ⟨(perform [] operation).outcome, counters, (perform [] operation).log⟩ := by
  cases operation with
  | create => cases makesNone
  | file other generator images =>
    cases other with
    | none => rfl
    | some other => cases detached
  | next | inspect | command | imageFunction => cases detached
  | sources | refused => rfl

private theorem entry_of_mem_history {counters : Counters} {operations : List Operation}
    {call : Call}
    (member : call ∈ history counters operations) :
    call.entry = perform call.before call.operation := by
  induction operations generalizing counters with
  | nil => cases member
  | cons operation rest ih =>
    rcases List.mem_cons.mp member with rfl | later
    · rfl
    · exact ih later

/-- A session that is cut down without losing an operation that concerns a counter answers these
operations as before, and leaves the same count of the counter after each of them. An operation
without a counter answers as it does alone, and changes no counter. -/
theorem sessions_isolated (operations : List Operation) :
    (∀ (counter : Nat) (keep : Operation → Bool),
      (∀ operation, operation.concerns counter → keep operation) →
        views counter (history [] (operations.filter keep)) =
          views counter (history [] operations)) ∧
      ∀ call ∈ history [] operations,
        call.operation.isCreate = false → call.operation.counter? = none →
          run [] [call.operation] = [⟨call.entry.outcome, [], call.entry.log⟩] ∧
            call.entry.counters = call.before := by
  constructor
  · intro counter keep needed
    exact views_filter ⟨rfl, rfl⟩ needed operations
  · intro call member makesNone detached
    rw [entry_of_mem_history member, perform_detached makesNone detached call.before, run, run,
      perform_detached makesNone detached []]
    exact ⟨rfl, rfl⟩

/-- A session on two counters with a call that fails and a file that brings its own counter. -/
def interleaved : List Operation :=
  [.create, .next 0, .create, .next 1, .command 0 (.implementation {}) .bareStep,
    .file none (.implementation {}) [], .next 0, .next 1]

/-- Without the operations on the other counter and the file, the second counter looks the same. -/
theorem sessions_isolated_interleaved :
    views 1 (history [] (interleaved.filter (·.concerns 1))) = views 1 (history [] interleaved) ∧
      run [] [.file none (.implementation {}) []] =
        [⟨(perform [1, 1] (.file none (.implementation {}) [])).outcome, [],
          (perform [1, 1] (.file none (.implementation {}) [])).log⟩] := by
  have same := (sessions_isolated interleaved).1 1 (·.concerns 1) fun _ concerns => concerns
  have place : (history [] interleaved)[5]? = some ⟨.file none (.implementation {}) [], [1, 1],
      perform [1, 1] (.file none (.implementation {}) [])⟩ := rfl
  have alone := (sessions_isolated interleaved).2 _ (List.mem_of_getElem? place) rfl rfl
  exact ⟨same, alone.1⟩

end Session

end DrawingCode
