import DrawingCode.Markup.Graph
import DrawingCode.Markup.Scan
import DrawingCode.Markup.Tag

/-! # From tokens to a graph

A node is an alias, or a scalar, a sequence or a mapping that an anchor and a tag may come before.
Where a node may be left out, an empty scalar stands for it. Anchors are new names, and aliases name
anchors that come before them. A text holds at most one document.
-/

namespace DrawingCode.Markup

/-- Where a node stands. -/
inductive Setting where
  /-- Inside brackets. -/
  | flow
  /-- Where structure is seen in indentation. -/
  | block
  /-- The same, in an entry of a mapping, where the items of a sequence need not be indented. -/
  | entry
deriving DecidableEq

/-- The state of reading tokens. -/
structure Composition where
  tokens : List Token
  /-- What comes where the tokens end. -/
  fault : Option Fault
  graph : Graph
  /-- The nodes that have been given names. -/
  anchors : List (String × Nat)
  /-- The handles that the document declares. -/
  handles : List (String × String)

/-- What can come before the contents of a node: a name for it, and the name of its tag. -/
structure Properties where
  anchor : Option String
  tag : Option String

namespace Properties

/-- The tag of a scalar. The tag of a plain scalar is read off its text unless it has one, and so is
that of any scalar with the unspecific tag. -/
def scalarTag (p : Properties) (content : List Text.CodePoint) (plain : Bool) : Tag :=
  let evident := Plain.tag (Text.CodePoint.toChars content)
  match p.tag with
  | none => if plain then evident else .text
  | some name => if name = Tag.unspecific then evident else Tag.ofName name

/-- The tag of a collection with a given tag of its own kind. -/
def collectionTag (p : Properties) (kind : Tag) : Tag :=
  match p.tag with
  | none => kind
  | some name => if name = Tag.unspecific then kind else Tag.ofName name

end Properties

namespace Composition

def peek (c : Composition) : Except Fault Token :=
  match c.tokens with
  | t :: _ => .ok t
  | [] => .error (c.fault.getD .malformed)

def next (c : Composition) : Composition := { c with tokens := c.tokens.drop 1 }

/-- Adds a node, under the name of its anchor if it has one, which has to be new. -/
def add (c : Composition) (p : Properties) (tag : Tag) (content : Content) :
    Except Fault (Nat × Composition) :=
  let id := c.graph.size
  let grown := { c with graph := c.graph.push ⟨tag, content⟩ }
  match p.anchor with
  | none => .ok (id, grown)
  | some name =>
    if c.anchors.any (·.1 == name) then .error .malformed
    else .ok (id, { grown with anchors := (name, id) :: c.anchors })

/-- Adds the empty scalar that stands for a node that is left out. -/
def addEmpty (c : Composition) : Except Fault (Nat × Composition) :=
  c.add ⟨none, none⟩ (Plain.tag []) (.scalar [])

/-- Sets the contents of a node whose parts have been read. -/
def fill (c : Composition) (id : Nat) (content : Content) : Composition :=
  { c with graph := c.graph.setContent id content }

/-- The node that an alias stands for. -/
def resolve (c : Composition) (name : String) : Except Fault (Nat × Composition) :=
  match c.anchors.lookup name with
  | some id => .ok (id, c)
  | none => .error .malformed

/-- What a handle stands for. Two handles need not be declared. -/
def expansion? (c : Composition) (handle : String) : Option String :=
  (c.handles ++ [("!", "!"), ("!!", Tag.common)]).lookup handle

def tagName (c : Composition) (handle : Option String) (suffix : String) : Except Fault String :=
  match handle with
  | none => .ok suffix
  | some handle => match c.expansion? handle with
    | some expansion => .ok (expansion ++ suffix)
    | none => .error .malformed

/-- Reads an anchor and a tag, in either order. -/
def properties (c : Composition) : Except Fault (Properties × Composition) := do
  match ← c.peek with
  | .anchor name =>
    match ← c.next.peek with
    | .tag handle suffix => return (⟨name, ← c.tagName handle suffix⟩, c.next.next)
    | _ => return (⟨name, none⟩, c.next)
  | .tag handle suffix =>
    match ← c.next.peek with
    | .anchor name => return (⟨name, ← c.tagName handle suffix⟩, c.next.next)
    | _ => return (⟨none, ← c.tagName handle suffix⟩, c.next)
  | _ => return (⟨none, none⟩, c)

/-- A way to read the node that stands in a setting. -/
abbrev NodeReader := Setting → Composition → Except Fault (Nat × Composition)

/-- Reads a node, or none if one of some tokens comes instead. -/
def orEmpty (read : NodeReader) (setting : Setting) (instead : List Token) (c : Composition) :
    Except Fault (Nat × Composition) := do
  if instead.contains (← c.peek) then c.addEmpty else read setting c

/-- Reads a colon with a node behind it, either of which may be missing. -/
def entryValue (read : NodeReader) (setting : Setting) (instead : List Token) (c : Composition) :
    Except Fault (Nat × Composition) := do
  if (← c.peek) = .value then orEmpty read setting instead c.next else c.addEmpty

/-- Reads a key and the value that belongs to it. Where a node is left out, the token of a value or
one of the tokens `ends` comes instead. -/
def entry (read : NodeReader) (setting : Setting) (ends : List Token) (c : Composition) :
    Except Fault ((Nat × Nat) × Composition) := do
  let (key, c) ← orEmpty read setting (.value :: ends) c
  let (value, c) ← entryValue read setting ends c
  return ((key, value), c)

/-- Reads the items of a block sequence and the token that closes it. A sequence that is not
indented has none and ends before the next token of another kind. -/
def blockItems (read : NodeReader) (indented : Bool) :
    Nat → Composition → Except Fault (List Nat × Composition)
  | 0, _ => .error .malformed
  | fuel + 1, c => do
    let t ← c.peek
    if t = .blockEntry then
      let instead := if indented then [.blockEntry, .blockEnd]
        else [.blockEntry, .key, .value, .blockEnd]
      let (item, c) ← orEmpty read .block instead c.next
      let (items, c) ← blockItems read indented fuel c
      return (item :: items, c)
    else if !indented then return ([], c)
    else if t = .blockEnd then return ([], c.next)
    else .error .malformed

/-- Reads the entries of a block mapping and the token that closes it. -/
def blockEntries (read : NodeReader) :
    Nat → Composition → Except Fault (List (Nat × Nat) × Composition)
  | 0, _ => .error .malformed
  | fuel + 1, c => do
    match ← c.peek with
    | .key =>
      let (first, c) ← entry read .entry [.key, .blockEnd] c.next
      let (entries, c) ← blockEntries read fuel c
      return (first :: entries, c)
    | .blockEnd => return ([], c.next)
    | _ => .error .malformed

/-- Goes on behind the comma that has to stand before all parts in brackets but the first. -/
def separator (isFirst : Bool) (close : Token) (c : Composition) : Except Fault Composition := do
  let t ← c.peek
  if isFirst || t = close then return c
  else if t = .flowEntry then return c.next
  else .error .malformed

/-- Reads the items in square brackets and the closing bracket. An item can be a mapping of one
entry without brackets of its own. -/
def flowItems (read : NodeReader) (isFirst : Bool) :
    Nat → Composition → Except Fault (List Nat × Composition)
  | 0, _ => .error .malformed
  | fuel + 1, c => do
    let c ← c.separator isFirst .flowSequenceEnd
    match ← c.peek with
    | .flowSequenceEnd => return ([], c.next)
    | .key =>
      let (item, c) ← c.next.add ⟨none, none⟩ .mapping (.mapping [])
      let (only, c) ← entry read .flow [.flowEntry, .flowSequenceEnd] c
      let (items, c) ← flowItems read false fuel (c.fill item (.mapping [only]))
      return (item :: items, c)
    | _ =>
      let (item, c) ← read .flow c
      let (items, c) ← flowItems read false fuel c
      return (item :: items, c)

/-- Reads the entries in curly brackets and the closing bracket. An entry can be a key alone. -/
def flowEntries (read : NodeReader) (isFirst : Bool) :
    Nat → Composition → Except Fault (List (Nat × Nat) × Composition)
  | 0, _ => .error .malformed
  | fuel + 1, c => do
    let c ← c.separator isFirst .flowMappingEnd
    match ← c.peek with
    | .flowMappingEnd => return ([], c.next)
    | .key =>
      let (first, c) ← entry read .flow [.flowEntry, .flowMappingEnd] c.next
      let (entries, c) ← flowEntries read false fuel c
      return (first :: entries, c)
    | _ =>
      let (key, c) ← read .flow c
      let (value, c) ← c.addEmpty
      let (entries, c) ← flowEntries read false fuel c
      return ((key, value) :: entries, c)

/-- Reads the parts of a collection whose node has been added before them. -/
def sequence (p : Properties) (c : Composition)
    (items : Nat → Composition → Except Fault (List Nat × Composition)) :
    Except Fault (Nat × Composition) := do
  let (id, c) ← c.add p (p.collectionTag .sequence) (.sequence [])
  let (items, c) ← items (c.tokens.length + 1) c
  return (id, c.fill id (.sequence items))

/-- Reads the parts of a mapping whose node has been added before them. -/
def mapping (p : Properties) (c : Composition)
    (entries : Nat → Composition → Except Fault (List (Nat × Nat) × Composition)) :
    Except Fault (Nat × Composition) := do
  let (id, c) ← c.add p (p.collectionTag .mapping) (.mapping [])
  let (entries, c) ← entries (c.tokens.length + 1) c
  return (id, c.fill id (.mapping entries))

/-- Reads the contents of a node behind its properties. -/
def content (read : NodeReader) (setting : Setting) (p : Properties) (c : Composition) :
    Except Fault (Nat × Composition) := do
  match ← c.peek with
  | .scalar text plain => c.next.add p (p.scalarTag text plain) (.scalar text)
  | .flowSequenceStart => c.next.sequence p (flowItems read true)
  | .flowMappingStart => c.next.mapping p (flowEntries read true)
  | t =>
    if t = .blockEntry ∧ setting = .entry then c.sequence p (blockItems read false)
    else if t = .blockSequenceStart ∧ setting ≠ .flow then
      c.next.sequence p (blockItems read true)
    else if t = .blockMappingStart ∧ setting ≠ .flow then c.next.mapping p (blockEntries read)
    else if p.anchor.isSome ∨ p.tag.isSome then c.add p (p.scalarTag [] true) (.scalar [])
    else .error .malformed

/-- In how many collections a node can be at most. -/
def mostNested : Nat := 490

/-- Reads a node, if it is not too deep: inside it there can be `depth` nodes less one. -/
def node : Nat → NodeReader
  | 0, _, _ => .error .tooDeep
  | depth + 1, setting, c => do
    match ← c.peek with
    | .alias name => c.next.resolve name
    | _ =>
      let (p, c) ← c.properties
      content (node depth) setting p c

/-- Reads directives and the marker that starts a document. The version, which has to be the first,
is given once at most, and so is every handle. -/
def directives (c : Composition) (versioned : Bool) : List Token → Except Fault Composition
  | .directive (.version major _) :: rest =>
    if versioned ∨ major ≠ 1 then .error .malformed else directives c true rest
  | .directive (.tagHandle handle expansion) :: rest =>
    if c.handles.any (·.1 == handle) then .error .malformed
    else directives { c with handles := (handle, expansion) :: c.handles } versioned rest
  | .directive .other :: rest => directives c versioned rest
  | .documentStart :: rest => .ok { c with tokens := rest }
  | _ :: _ => .error .malformed
  | [] => .error (c.fault.getD .malformed)

/-- Reads on to the contents of the next document, if there is one. -/
def start? (c : Composition) : Except Fault (Option Composition) := do
  let c := { c with tokens := c.tokens.dropWhile (· == Token.documentEnd), handles := [] }
  if (← c.peek) = .streamEnd then return none
  else return some (← c.directives false c.tokens)

/-- Reads on to the contents of the first document, which needs no marker. -/
def first? (c : Composition) : Except Fault (Option Composition) := do
  match ← c.peek with
  | .directive _ | .documentStart | .streamEnd => c.start?
  | .documentEnd => .error .malformed
  | _ => return some c

/-- Whether the contents of a document are left out before a token. -/
def isOutside : Token → Bool
  | .directive _ | .documentStart | .documentEnd | .streamEnd => true
  | _ => false

end Composition

/-- The graph of a document, and the node that is all of it. -/
structure Rooted where
  graph : Graph
  root : Nat

/-- Reads the graph of the only document in a row of tokens, if there is one. -/
def Rooted.ofTokens? (tokens : Tokens) : Except Fault (Option Rooted) := do
  match ← (Composition.mk tokens.list tokens.fault #[] [] []).first? with
  | none => return none
  | some c =>
    let (root, c) ← if Composition.isOutside (← c.peek) then c.addEmpty
      else Composition.node (Composition.mostNested + 1) .block c
    match ← c.start? with
    | none => return some ⟨c.graph, root⟩
    | some _ => .error .malformed

end DrawingCode.Markup
