import DrawingCode.Markup.Tag
import DrawingCode.Text.Character

/-! # Graphs of nodes

A document is a graph: an alias stands for the node that its anchor names, so a node can have
several parents and can even be inside itself. Nodes are numbered in the order in which they begin.
-/

namespace DrawingCode.Markup

/-- What a node holds; other nodes are given by their numbers. -/
inductive Content where
  | scalar (text : List Text.CodePoint)
  | sequence (items : List Nat)
  | mapping (entries : List (Nat × Nat))
deriving DecidableEq

structure Node where
  tag : Tag
  content : Content
deriving DecidableEq

/-- The nodes of a document by their numbers. -/
abbrev Graph := Array Node

namespace Graph

/-- How many steps from node to node are followed. -/
def mostSteps : Nat := 985

def tag (g : Graph) (id : Nat) : Tag := (g[id]?.map (·.tag)).getD .other

def entries? (g : Graph) (id : Nat) : Option (List (Nat × Nat)) :=
  match g[id]? with
  | some ⟨_, .mapping entries⟩ => some entries
  | _ => none

def items? (g : Graph) (id : Nat) : Option (List Nat) :=
  match g[id]? with
  | some ⟨_, .sequence items⟩ => some items
  | _ => none

def setContent (g : Graph) (id : Nat) (content : Content) : Graph :=
  g.modify id fun node => { node with content }

def setTag (g : Graph) (id : Nat) (tag : Tag) : Graph := g.modify id fun node => { node with tag }

end Graph

end DrawingCode.Markup
