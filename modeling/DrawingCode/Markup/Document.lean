import DrawingCode.Markup.Graph.Composition
import DrawingCode.Markup.Graph.Merge
import DrawingCode.Markup.Scalar.Data

/-! # Documents

A document gives every node of its graph a value. The values of scalars are found when a node is
met; collections wait in a queue, in the order in which they are met, until their parts are looked
at. Keys of mappings must not be collections.
-/

namespace DrawingCode.Markup

/-- The value of a node, as far as it matters: texts, and the entries of mappings, whose keys and
values are given by the numbers of their nodes. -/
inductive Datum where
  | null
  | boolean
  | integer
  | float
  | binary
  | date
  | dateTime
  | text (points : List Text.CodePoint)
  | list
  | set
  | dict (entries : List (Nat × Nat))
deriving DecidableEq

namespace Datum

def typeName : Datum → String
  | null => "NoneType"
  | boolean => "bool"
  | integer => "int"
  | float => "float"
  | binary => "bytes"
  | date => "date"
  | dateTime => "datetime"
  | text _ => "str"
  | list => "list"
  | set => "set"
  | dict _ => "dict"

/-- A text without halves of surrogate pairs. -/
def ofString (text : String) : Datum := .text (Text.CodePoint.ofString text)

def isCollection : Datum → Bool
  | list | set | dict _ => true
  | _ => false

end Datum

/-- The values of the nodes of a document, and the node that is all of it. -/
structure Document where
  data : Array (Option Datum)
  root : Nat

namespace Document

def datum? (d : Document) (id : Nat) : Option Datum := d.data[id]?.join

/-- The value under a textual key among entries. The last entry with the key counts. -/
def find? (d : Document) (entries : List (Nat × Nat)) (key : String) : Option Datum :=
  (entries.reverse.find? fun entry => d.datum? entry.1 == some (.ofString key)).bind
    fun entry => d.datum? entry.2

end Document

namespace Graph

/-- The text of a node: that of a scalar, or the text under the default key of a mapping, as far as
`steps` lead. -/
def textWithin (g : Graph) : Nat → Nat → Except Fault (List Text.CodePoint)
  | 0, _ => .error .tooDeep
  | steps + 1, id => match g[id]? with
    | some ⟨_, .scalar text⟩ => .ok text
    | some ⟨_, .mapping entries⟩ =>
      match entries.find? fun entry => g.tag entry.1 == .value with
      | some entry => textWithin g steps entry.2
      | none => .error .malformed
    | _ => .error .malformed

def truthOf (text : List Text.CodePoint) : Except Fault Datum :=
  let word := Text.lower text
  if Plain.booleanWords.contains (String.ofList (Text.CodePoint.toChars word)) then .ok .boolean
  else .error (.notBoolean word)

def binaryOf (text : List Text.CodePoint) : Except Fault Datum :=
  if Binary.isData (Text.CodePoint.toChars text) then .ok .binary else .error .malformed

def dateOf (g : Graph) (id : Nat) (text : List Text.CodePoint) : Except Fault Datum :=
  if (g.entries? id).isSome then .error .wrappedDate
  else match Timestamp.read? (Plain.withoutLastBreak (Text.CodePoint.toChars text)) with
    | none => .error .notDate
    | some t => match t.check with
      | .error e => .error (.calendar e)
      | .ok _ => .ok (if t.clock.isSome then .dateTime else .date)

/-- The value of a node that has the tag of a scalar. -/
def scalarDatum (g : Graph) (id : Nat) : Except Fault Datum :=
  let text := g.textWithin mostSteps id
  match g.tag id with
  | .null => text.map fun _ => .null
  | .boolean => text.bind truthOf
  | .integer => (text.bind Number.checkInteger).map fun _ => .integer
  | .float => (text.bind Number.checkFloat).map fun _ => .float
  | .binary => text.bind binaryOf
  | .timestamp => text.bind (g.dateOf id)
  | .text => text.map .text
  | _ => .error .malformed

end Graph

/-- The state of giving values to the nodes of a graph. -/
structure Valuation where
  graph : Graph
  data : Array (Option Datum)
  /-- The collections that have been met and whose parts have not been looked at. -/
  queue : List Nat

namespace Valuation

def datum? (v : Valuation) (id : Nat) : Option Datum := v.data[id]?.join

def assign (v : Valuation) (id : Nat) (datum : Datum) : Valuation :=
  { v with data := v.data.setIfInBounds id (some datum) }

/-- The value of a collection before its parts have been looked at. -/
def unfilled? : Tag → Option Datum
  | .sequence | .orderedMap | .pairs => some .list
  | .mapping => some (.dict [])
  | .set => some .set
  | _ => none

/-- Meets a node. A node that has been met before keeps its value. -/
def meet (v : Valuation) (id : Nat) : Except Fault Valuation :=
  if (v.datum? id).isSome then .ok v
  else match unfilled? (v.graph.tag id) with
    | some datum => .ok { v.assign id datum with queue := v.queue ++ [id] }
    | none => (v.graph.scalarDatum id).map (v.assign id)

def meetEntry (v : Valuation) (entry : Nat × Nat) : Except Fault Valuation := do
  (← v.meet entry.1).meet entry.2

/-- Meets the key and the value of an entry of a mapping or a set. -/
def meetKeyed (v : Valuation) (entry : Nat × Nat) : Except Fault Valuation := do
  let v ← v.meet entry.1
  if (v.datum? entry.1).any Datum.isCollection then .error .malformed else v.meet entry.2

/-- Meets what is in a mapping of one entry. -/
def meetPair (v : Valuation) (id : Nat) : Except Fault Valuation :=
  match v.graph.entries? id with
  | some [entry] => v.meetEntry entry
  | _ => .error .malformed

def settle (v : Valuation) (id : Nat) : Except Fault Valuation :=
  match v.graph.tag id, v.graph.items? id, v.graph.entries? id with
  | .sequence, some items, _ => items.foldlM meet v
  | .orderedMap, some items, _ | .pairs, some items, _ => items.foldlM meetPair v
  | .set, _, some _ => do
    let graph ← v.graph.merge id
    ((graph.entries? id).getD []).foldlM meetKeyed { v with graph }
  | .mapping, _, some _ => do
    let graph ← v.graph.merge id
    let entries := (graph.entries? id).getD []
    return (← entries.foldlM meetKeyed { v with graph }).assign id (.dict entries)
  | _, _, _ => .error .malformed

/-- Looks at the parts of all collections that wait, first come first served. No node waits twice,
so `fuel` need not exceed the number of nodes. -/
def settleAll : Nat → Valuation → Except Fault Valuation
  | 0, v => .ok v
  | fuel + 1, v => match v.queue with
    | [] => .ok v
    | id :: rest => do settleAll fuel (← { v with queue := rest }.settle id)

end Valuation

namespace Document

def ofRooted (r : Rooted) : Except Fault Document := do
  let start ← Valuation.meet ⟨r.graph, Array.replicate r.graph.size none, []⟩ r.root
  return ⟨(← start.settleAll r.graph.size).data, r.root⟩

/-- The only document in an excerpt, if there is one. -/
def ofExcerpt? (e : Excerpt) : Except Fault (Option Document) := do
  match ← Rooted.ofTokens? (Tokens.ofExcerpt e) with
  | none => return none
  | some rooted => return some (← ofRooted rooted)

end Document

end DrawingCode.Markup
