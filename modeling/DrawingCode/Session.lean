import DrawingCode.Generation

/-! # Sessions

A session keeps counters of issued numbers, each of which belongs to whoever made it. Operations
address a counter, or bring a fresh one of their own, and leave all other counters alone. An
operation that fails leaves behind the count that it had reached.
-/

namespace DrawingCode

/-- One operation of a session; counters are addressed in the order in which they were made. -/
inductive Operation where
  /-- Makes a counter. -/
  | create
  /-- Takes the next number of a counter. -/
  | next (counter : Nat)
  /-- Shows a counter. -/
  | inspect (counter : Nat)
  | command (counter : Nat) (generator : Generator) (item : Item)
  | imageFunction (counter : Nat) (generator : Generator) (image : Image)
  /-- Generates a file, with a fresh counter if none is given. -/
  | file (counter : Option Nat) (generator : Generator) (images : List Image)
  | sources (settings : Settings) (images : List Image)
  /-- An operation that cannot begin, since one of its steps cannot be made. -/
  | refused (reason : Failure)

/-- What an operation that succeeds answers. -/
inductive Answer where
  | created
  | number (id : Nat)
  | shown (text : String)
  | lines (lines : List String)
  | file (text : String)
  | sources (sources : Sources)

/-- How many numbers each counter has issued. -/
abbrev Counters := List Nat

/-- What is left of one operation of a session. -/
structure SessionEntry where
  outcome : Except Failure Answer
  counters : Counters
  log : List LogEvent

def counterText (issued : Nat) : String := "ResourceIDAllocator(issued=" ++ toString issued ++ ")"

namespace Session

def issued (counters : Counters) (counter : Nat) : Nat := counters.getD counter 0

/-- The entry of a run on a counter. -/
def onCounter {α : Type} (counters : Counters) (counter : Nat) (run : Nat → Run α)
    (answer : α → Answer) : SessionEntry :=
  let result := run (issued counters counter)
  ⟨result.outcome.map answer, counters.set counter result.issued, result.log⟩

/-- The entry of a run that has numbers of its own. -/
def onFresh {α : Type} (counters : Counters) (run : Run α) (answer : α → Answer) : SessionEntry :=
  ⟨run.outcome.map answer, counters, run.log⟩

def perform (counters : Counters) : Operation → SessionEntry
  | .create => ⟨.ok .created, counters ++ [0], []⟩
  | .next counter => onCounter counters counter (fun issued => .done issued (issued + 1)) .number
  | .inspect counter => ⟨.ok (.shown (counterText (issued counters counter))), counters, []⟩
  | .command counter generator item =>
    onCounter counters counter (generator.command item) .lines
  | .imageFunction counter generator image =>
    onCounter counters counter (generator.imageFunction image) .lines
  | .file (some counter) generator images =>
    onCounter counters counter (generator.file images) .file
  | .file none generator images => onFresh counters (generator.file images 0) .file
  | .sources settings images => onFresh counters (settings.sources images) .sources
  | .refused reason => ⟨.error reason, counters, []⟩

def run (counters : Counters) : List Operation → List SessionEntry
  | [] => []
  | operation :: rest =>
    let entry := perform counters operation
    entry :: run entry.counters rest

end Session

end DrawingCode
