import DrawingCode.Markup.Document
import DrawingCode.Proofs.Markup.Merge

/-! # Scalars without a value

Giving values to the nodes of a graph fails because a rule is broken, or because a scalar has a tag
that its text does not fit. The scalar is one that the document was composed with: mappings take in
others while values are given, but that changes no scalar.
-/

namespace DrawingCode.Markup

open Text (CodePoint)

/-- Texts that do not fit a tag, and the fault that they give. -/
inductive Misfit (text : List CodePoint) : Tag → Fault → Prop where
  | boolean {fault : Fault} (fails : Graph.truthOf text = .error fault) : Misfit text .boolean fault
  | integer {fault : Fault} (fails : Number.checkInteger text = .error fault) :
    Misfit text .integer fault
  | float {fault : Fault} (fails : Number.checkFloat text = .error fault) : Misfit text .float fault
  | notDate (unread : Timestamp.read? (Plain.withoutLastBreak (CodePoint.toChars text)) = none) :
    Misfit text .timestamp .notDate
  /-- The text has the form of a date, but there is no such day or no such time of day. -/
  | calendar {date : Timestamp} {fault : CalendarFault}
    (read : Timestamp.read? (Plain.withoutLastBreak (CodePoint.toChars text)) = some date)
    (impossible : date.check = .error fault) : Misfit text .timestamp (.calendar fault)

namespace Graph

/-- The texts that a node can have: its own, or one of a node that stands under a default key. -/
inductive HasText (g : Graph) : Nat → List CodePoint → Prop where
  | own {id : Nat} {tag : Tag} {text : List CodePoint} (there : g[id]? = some ⟨tag, .scalar text⟩) :
    HasText g id text
  | under {id key value : Nat} {text : List CodePoint} (isMapping : (g.entries? id).isSome)
    (isDefault : g.tag key = .value) (has : HasText g value text) : HasText g id text

/-- Why a graph has no values. -/
inductive Unvalued (g : Graph) : Fault → Prop where
  | malformed : Unvalued g .malformed
  | misfit {id : Nat} {text : List CodePoint} {fault : Fault} (has : g.HasText id text)
    (misfit : Misfit text (g.tag id) fault) : Unvalued g fault
  | wrappedDate {id : Nat} (isMapping : (g.entries? id).isSome) (isDate : g.tag id = .timestamp) :
    Unvalued g .wrappedDate
  /-- Keys that merge or keep a default are followed from mapping to mapping. -/
  | tooDeep {key : Nat} (leads : g.tag key = .merge ∨ g.tag key = .value) : Unvalued g .tooDeep

variable {g h : Graph}

end Graph

/-! ## Collections -/

namespace Valuation

variable {g : Graph} {v : Valuation} (merged : g.Merged v.graph)
include merged

theorem merge_ends {id : Nat} (isMapping : (v.graph.entries? id).isSome) :
    Ends g.Merged g.Unvalued (v.graph.merge id) := by
  refine (Graph.mergeWithin_ends Graph.mostSteps v.graph isMapping).mono
    (fun _ further => merged.trans further) ?_
  intro fault reason
  cases reason with
  | malformed => exact .malformed
  | noSteps none => exact absurd none (by decide)
  | tooDeep merges => exact .tooDeep (.inl (merged.tag_eq merges (by decide)))

end Valuation

end DrawingCode.Markup
