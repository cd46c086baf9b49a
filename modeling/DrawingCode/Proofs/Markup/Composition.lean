import DrawingCode.Markup.Graph.Composition
import DrawingCode.Proofs.Ending

/-! # Composing a graph ends with the tokens

What stops the reading of tokens breaks a rule or comes where the tokens end. Only nodes that lie
too deep are at fault of themselves. For every collection around a node a token has been read that
can begin one, so that a node that lies too deep has as many such tokens before it.
-/

namespace DrawingCode.Markup

/-- Whether a collection can begin with a token. A dash is one such, as the items of a sequence need
not be indented. -/
def Token.opens : Token → Bool
  | .flowSequenceStart | .flowMappingStart | .blockSequenceStart | .blockMappingStart
  | .blockEntry => true
  | _ => false

namespace Composition

variable (c : Composition)

/-- Why the reading of tokens stops at a fault, where nodes may lie inside `depth` others. -/
inductive Trouble (depth : Nat) : Fault → Prop where
  | malformed : Trouble depth .malformed
  /-- The tokens end with the fault. -/
  | behind {fault : Fault} (there : c.fault = some fault) : Trouble depth fault
  | tooDeep (opened : depth ≤ c.tokens.countP Token.opens) : Trouble depth .tooDeep

/-- A later state of the reading. -/
def Follows (later : Composition) : Prop := later.tokens <:+ c.tokens ∧ later.fault = c.fault

/-- A step that leads to a later state, or fails with a fault that there is a reason for. -/
def Reaches {α : Type} (depth : Nat) : Except Fault (α × Composition) → Prop :=
  Ends (c.Follows ·.2) (c.Trouble depth)

variable {c} {later : Composition} {depth : Nat} {α β : Type}

theorem Follows.refl : c.Follows c := ⟨List.suffix_rfl, rfl⟩

theorem Follows.trans {last : Composition} (first : c.Follows later) (second : later.Follows last) :
    c.Follows last :=
  ⟨second.1.trans first.1, second.2.trans first.2⟩

theorem Trouble.of_follows {fault : Fault} (h : later.Trouble depth fault) (after : c.Follows later) :
    c.Trouble depth fault := by
  cases h with
  | malformed => exact .malformed
  | behind there => exact .behind (after.2 ▸ there)
  | tooDeep opened => exact .tooDeep (Nat.le_trans opened after.1.sublist.countP_le)

theorem Trouble.endFault : c.Trouble depth (c.fault.getD .malformed) := by
  cases there : c.fault with
  | none => exact .malformed
  | some fault => exact .behind there

namespace Reaches

variable {reading : Except Fault (α × Composition)}

theorem ok {a : α} (h : c.Follows later) : c.Reaches depth (.ok (a, later)) := h

theorem malformed : c.Reaches depth (.error .malformed : Except Fault (α × Composition)) :=
  Ends.error .malformed

theorem of_follows (h : later.Reaches depth reading) (after : c.Follows later) :
    c.Reaches depth reading :=
  h.mono (fun _ further => after.trans further) fun _ reason => reason.of_follows after

theorem andThen {f : α × Composition → Except Fault (β × Composition)}
    (h : c.Reaches depth reading)
    (next : ∀ a later, c.Follows later → later.Reaches depth (f (a, later))) :
    c.Reaches depth (reading >>= f) :=
  h.bind fun (a, later) after => (next a later after).of_follows after

end Reaches

variable (c) (depth)

section Collections

variable {depth} {read : NodeReader}
  (reads : ∀ (setting : Setting) (c : Composition), c.Reaches depth (read setting c))
include reads

end Collections

/-- The state before a row of tokens. -/
def start (tokens : Tokens) : Composition := ⟨tokens.list, tokens.fault, #[], [], []⟩

end Composition

end DrawingCode.Markup
