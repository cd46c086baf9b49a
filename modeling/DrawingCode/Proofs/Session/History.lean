import DrawingCode.Session

/-! # The history of a session

A history keeps, with the entry of each operation, the operation itself and the counters before it.
An operation is addressed to one counter or to none, and leaves the counts of all others alone.
-/

namespace DrawingCode

namespace Operation

/-- The counter that an operation is addressed to. -/
def counter? : Operation → Option Nat
  | next counter | inspect counter | command counter .. | imageFunction counter ..
  | file (some counter) .. => some counter
  | create | file none .. | sources .. | refused _ => none

def isCreate : Operation → Bool
  | create => true
  | _ => false

end Operation

namespace Session

/-- An operation with the counters before it and the entry that it leaves. -/
structure Call where
  operation : Operation
  before : Counters
  entry : SessionEntry

/-- The calls of a session that starts with given counters. -/
def history (counters : Counters) : List Operation → List Call
  | [] => []
  | operation :: rest =>
    let entry := perform counters operation
    ⟨operation, counters, entry⟩ :: history entry.counters rest

/-- The counters that a session leaves. -/
def final (counters : Counters) : List Operation → Counters
  | [] => counters
  | operation :: rest => final (perform counters operation).counters rest

/-- The calls that are addressed to a counter. -/
def callsOn (counter : Nat) (calls : List Call) : List Call :=
  calls.filter (·.operation.counter? = some counter)

/-- Every operation of a session is addressed to a counter that has been made before it. -/
def Addressed : Nat → List Operation → Prop
  | _, [] => True
  | made, operation :: rest =>
    (∀ counter, operation.counter? = some counter → counter < made) ∧
      Addressed (if operation.isCreate then made + 1 else made) rest

/-- The entries of a history are those of the session. -/
theorem map_entry_history (counters : Counters) (operations : List Operation) :
    (history counters operations).map (·.entry) = run counters operations := by
  induction operations generalizing counters with
  | nil => rfl
  | cons operation rest ih => rw [history, run, List.map_cons, ih]

theorem length_perform (counters : Counters) (operation : Operation) :
    (perform counters operation).counters.length =
      if operation.isCreate then counters.length + 1 else counters.length := by
  cases operation with
  | create => exact List.length_append
  | file counter generator images =>
    cases counter with
    | none => rfl
    | some counter => exact List.length_set
  | next | command | imageFunction => exact List.length_set
  | inspect | sources | refused => rfl

theorem issued_append_zero (counters : Counters) (counter : Nat) :
    issued (counters ++ [0]) counter = issued counters counter := by
  rw [issued, issued, List.getD_eq_getElem?_getD, List.getD_eq_getElem?_getD, List.getElem?_append]
  split
  · rfl
  · rename_i beyond
    rw [List.getElem?_eq_none (Nat.not_lt.mp beyond)]
    cases counter - counters.length <;> rfl

private theorem issued_set_of_ne {counters : Counters} {counter other : Nat}
    (apart : other ≠ counter)
    (count : Nat) : issued (counters.set other count) counter = issued counters counter := by
  rw [issued, issued, List.getD_eq_getElem?_getD, List.getD_eq_getElem?_getD,
    List.getElem?_set_ne apart]

theorem issued_set_of_lt {counters : Counters} {counter : Nat} (made : counter < counters.length)
    (count : Nat) : issued (counters.set counter count) counter = count := by
  rw [issued, List.getD_eq_getElem?_getD, List.getElem?_set_self made]
  rfl

/-- An operation leaves the count of a counter alone that it is not addressed to. -/
theorem issued_perform_of_ne {counters : Counters} {operation : Operation} {counter : Nat}
    (other : operation.counter? ≠ some counter) :
    issued (perform counters operation).counters counter = issued counters counter := by
  cases operation with
  | create => exact issued_append_zero counters counter
  | file target generator images =>
    cases target with
    | none => rfl
    | some target => exact issued_set_of_ne (fun same => other (congrArg some same)) _
  | next | command | imageFunction =>
    exact issued_set_of_ne (fun same => other (congrArg some same)) _
  | inspect | sources | refused => rfl

end Session

end DrawingCode
