import DrawingCode.Drawing.Step
import DrawingCode.Log
import DrawingCode.Value.Basic

/-! # Runs

A run has an outcome, but numbers that it has taken stay taken and records that it has logged stay
logged, also where it fails. Runs are put one after another: the second starts with the count that
the first one ended with, and does not start at all if the first one fails.

A clipping or filling step cannot be made with anything but one of the two fill rules. Code cannot
be generated for numbers that are none and for items that are no steps.
-/

namespace DrawingCode

/-! ## Failures -/

/-- Why a step cannot be made or code cannot be generated. -/
inductive Failure where
  /-- A step of this name was given something else than a fill rule. -/
  | illegalRule (step : String) (rule : Value)
  /-- A number is needed and cannot be had. -/
  | number (e : NumberError)
  /-- An item of this kind is no step that code can be generated for. -/
  | unsupported (typeName : String)

namespace Failure

/-- The message of a failure. -/
def message : Failure → String
  | illegalRule step rule =>
    step ++ " rule must be 'winding' or 'evenOdd', got " ++ rule.written
  | number e => e.message
  | unsupported typeName => "Unsupported draw step: " ++ typeName

end Failure

/-- The fill rule that a value names. -/
def FillRule.ofValue? : Value → Option FillRule
  | .text s =>
    if s = winding.name then some winding
    else if s = evenOdd.name then some evenOdd
    else none
  | _ => none

namespace Step

def makeClip (rule : Value) : Except Failure (Step Value) :=
  match FillRule.ofValue? rule with
  | some r => .ok (clip r)
  | none => .error (.illegalRule StepKind.clip.name rule)

def makeFill (rule : Value) : Except Failure (Step Value) :=
  match FillRule.ofValue? rule with
  | some r => .ok (fill r)
  | none => .error (.illegalRule StepKind.fill.name rule)

end Step

/-! ## Outcomes -/

/-- What is left of a run: its outcome, how many numbers have been issued in all, and its log. -/
structure Run (α : Type) where
  outcome : Except Failure α
  issued : Nat
  log : List LogEvent

namespace Run

variable {α β : Type}

/-- A run that succeeds and logs nothing. -/
def done (a : α) (issued : Nat) : Run α := ⟨.ok a, issued, []⟩

/-- A run that fails and logs nothing. -/
def failed (e : Failure) (issued : Nat) : Run α := ⟨.error e, issued, []⟩

/-- A run that hands back the outcome of a computation. -/
def ofExcept (outcome : Except Failure α) (issued : Nat) : Run α := ⟨outcome, issued, []⟩

/-- One run after another. -/
def andThen (first : Run α) (next : α → Nat → Run β) : Run β :=
  match first.outcome with
  | .ok a =>
    let second := next a first.issued
    ⟨second.outcome, second.issued, first.log ++ second.log⟩
  | .error e => ⟨.error e, first.issued, first.log⟩

def map (f : α → β) (run : Run α) : Run β := ⟨run.outcome.map f, run.issued, run.log⟩

end Run

end DrawingCode
