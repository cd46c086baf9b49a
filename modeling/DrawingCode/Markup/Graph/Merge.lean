import DrawingCode.Markup.Fault
import DrawingCode.Markup.Graph

/-! # Mappings that take in others

An entry under the merge key gives a mapping, or a sequence of mappings, whose entries go before the
entries of the mapping that it is in. Of a sequence the last mapping comes first, so that of entries
with equal keys the one of an earlier mapping wins.
-/

namespace DrawingCode.Markup.Graph

def isMerge (g : Graph) (entry : Nat × Nat) : Bool := g.tag entry.1 == .merge

/-- The mappings that the value of a merge key names, if it is a mapping or a sequence. -/
def parents? (g : Graph) (id : Nat) : Option (List Nat) :=
  if (g.entries? id).isSome then some [id] else g.items? id

/-- Turns the default keys of entries into plain texts. -/
def settleKeys (g : Graph) (entries : List (Nat × Nat)) : Graph :=
  entries.foldl (fun g entry => if g.tag entry.1 = .value then g.setTag entry.1 .text else g) g

/-- Takes in the mappings that a mapping names, `merged` being what has been taken in so far. Those
of the mappings are taken in by `inner`. Every round takes a merge key away for good, so `fuel` need
not exceed the number of entries by more than one. -/
def takeIn (inner : Graph → Nat → Except Fault Graph) (id : Nat) :
    Nat → Graph → List (Nat × Nat) → Except Fault Graph
  | 0, _, _ => .error .malformed
  | fuel + 1, g, merged =>
    let entries := (g.entries? id).getD []
    match entries.find? g.isMerge with
    | none =>
      let entries := merged ++ entries
      .ok ((g.setContent id (.mapping entries)).settleKeys entries)
    | some first => do
      let g := g.setContent id (.mapping (entries.eraseP g.isMerge))
      match g.parents? first.2 with
      | none => .error .malformed
      | some parents =>
        let (g, taken) ← parents.foldlM (fun (g, taken) parent => do
          if (g.entries? parent).isNone then .error .malformed
          else
            let g ← inner g parent
            return (g, (g.entries? parent).getD [] ++ taken)) (g, [])
        takeIn inner id fuel g (merged ++ taken)

/-- Takes in the mappings that a mapping names and those that they name, as far as `steps` lead. -/
def mergeWithin : Nat → Graph → Nat → Except Fault Graph
  | 0, _, _ => .error .tooDeep
  | steps + 1, g, id =>
    takeIn (mergeWithin steps) id (((g.entries? id).getD []).length + 1) g []

/-- Takes in all mappings that a mapping names. -/
def merge (g : Graph) (id : Nat) : Except Fault Graph := mergeWithin mostSteps g id

end DrawingCode.Markup.Graph
