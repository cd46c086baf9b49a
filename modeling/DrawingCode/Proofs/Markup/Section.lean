import DrawingCode.Proofs.Markup.Nested

/-! # Documents of a section

A section is a mapping of three lines under a key. Its keys are identifiers, so they do not merge
and the lines stay in their order; its values are those that the lines spell, without anything being
made of a text that stands between quotes.
-/

namespace DrawingCode.Markup

open Text (CodePoint IsIdentifier)

/-! ## Scalars -/

namespace Spelling

/-- The node that is composed. -/
def node (s : Spelling) : Node :=
  ⟨if s.plain then Plain.tag s.content else .text, .scalar (CodePoint.ofChars s.content)⟩

/-- The value that is meant. -/
def datum : Spelling → Datum
  | word text _ => wordDatum text
  | escaped _ text => .text (CodePoint.ofChars text)

variable {g : Graph} {id : Nat}

private theorem scalarDatum_node (s : Spelling) (there : g[id]? = some s.node) :
    g.scalarDatum id = .ok s.datum := by
  cases s with
  | word text identifier => exact Graph.scalarDatum_word identifier there
  | escaped capital text =>
    have tagged : g.tag id = .text := by rw [Graph.tag, there]; rfl
    have reads : g.textWithin Graph.mostSteps id = .ok (CodePoint.ofChars text) := by
      rw [Graph.mostSteps, Graph.textWithin, there]
      rfl
    rw [Graph.scalarDatum, tagged, reads]
    rfl

private theorem unfilled?_node (s : Spelling) : Valuation.unfilled? s.node.tag = none := by
  cases s with
  | word text identifier => exact unfilled?_of_isIdentifier identifier
  | escaped capital text => rfl

end Spelling

/-! ## Lines -/

private theorem Valuation.isCollection_assign (v : Valuation) (id : Nat) {datum : Datum}
    (single : datum.isCollection = false) :
    ((v.assign id datum).datum? id).any Datum.isCollection = false := by
  rw [assign, datum?, Array.getElem?_setIfInBounds_self]
  split
  · exact single
  · rfl

/-- A line whose key and value are new gives both their values. -/
theorem Valuation.meetKeyed_entry {v : Valuation} {key value : Nat} (e : Entry)
    (newKey : v.datum? key = none) (newValue : (v.assign key (wordDatum e.key)).datum? value = none)
    (keyThere : v.graph[key]? = some (wordNode e.key))
    (valueThere : v.graph[value]? = some e.value.node) :
    v.meetKeyed (key, value) =
      .ok ((v.assign key (wordDatum e.key)).assign value e.value.datum) := by
  have keyTag : v.graph.tag key = Plain.tag e.key := by rw [Graph.tag, keyThere]; rfl
  have valueTag : v.graph.tag value = e.value.node.tag := by rw [Graph.tag, valueThere]; rfl
  refine meetKeyed_of_meet
    (meet_scalar newKey ?_ (Graph.scalarDatum_word e.isIdentifier keyThere))
    (v.isCollection_assign key (isCollection_wordDatum e.key))
    (meet_scalar newValue ?_ (e.value.scalarDatum_node valueThere))
  · rw [keyTag]
    exact unfilled?_of_isIdentifier e.isIdentifier
  · change unfilled? (v.graph.tag value) = none
    rw [valueTag]
    exact e.value.unfilled?_node

/-! ## Three lines under a key -/

/-- The graph of a section. -/
def sectionGraph (outer : List Char) (first second third : Entry) : Graph :=
  #[⟨.mapping, .mapping [(1, 2)]⟩, wordNode outer,
    ⟨.mapping, .mapping [(3, 4), (5, 6), (7, 8)]⟩,
    wordNode first.key, first.value.node, wordNode second.key, second.value.node,
    wordNode third.key, third.value.node]

def sectionDocument (outer : List Char) (first second third : Entry) : Document :=
  ⟨#[some (.dict [(1, 2)]), some (wordDatum outer), some (.dict [(3, 4), (5, 6), (7, 8)]),
    some (wordDatum first.key), some first.value.datum, some (wordDatum second.key),
    some second.value.datum, some (wordDatum third.key), some third.value.datum], 0⟩

variable {outer : List Char} {first second third : Entry}

private theorem Rooted.ofTokens?_section :
    Rooted.ofTokens? ⟨[.blockMappingStart, .key, .scalar (CodePoint.ofChars outer) true, .value,
        .blockMappingStart] ++ [first, second, third].flatMap Entry.tokens ++
        [.blockEnd, .blockEnd, .streamEnd], none⟩ =
      .ok (some ⟨sectionGraph outer first second third, 0⟩) := by
  have node (text : List Char) (plain : Bool) :
      Node.mk (if plain then Plain.tag text else .text) (.scalar (CodePoint.ofChars text)) =
        ⟨Properties.scalarTag ⟨none, none⟩ (CodePoint.ofChars text) plain,
          .scalar (CodePoint.ofChars text)⟩ := by
    simp [Properties.scalarTag, CodePoint.toChars_ofChars]
  have word (text : List Char) : wordNode text =
      ⟨Properties.scalarTag ⟨none, none⟩ (CodePoint.ofChars text) true,
        .scalar (CodePoint.ofChars text)⟩ := node text true
  simp only [sectionGraph, word, Spelling.node, node]
  rfl

private theorem Document.ofRooted_section (isOuter : IsIdentifier outer) :
    ofRooted ⟨sectionGraph outer first second third, 0⟩ =
      .ok (sectionDocument outer first second third) := by
  let g := sectionGraph outer first second third
  let root := some (Datum.dict [(1, 2)])
  let name := some (wordDatum outer)
  let unfilled := some (Datum.dict [])
  let start : Valuation := ⟨g, #[unfilled, none, none, none, none, none, none, none, none], []⟩
  let behindRoot : Valuation :=
    ⟨g, #[root, name, unfilled, none, none, none, none, none, none], []⟩
  let last : Valuation := ⟨g, (sectionDocument outer first second third).data, []⟩
  have mergeRoot : g.merge 0 = .ok g :=
    Graph.merge_eq_self rfl (List.forall_mem_singleton.mpr (plainKey_of_isIdentifier isOuter))
  have mergeLines : g.merge 2 = .ok g := by
    refine Graph.merge_eq_self rfl ?_
    simp only [List.forall_mem_cons]
    exact ⟨plainKey_of_isIdentifier first.isIdentifier,
      plainKey_of_isIdentifier second.isIdentifier, plainKey_of_isIdentifier third.isIdentifier,
      by simp⟩
  have settlesRoot : start.settle 0 = .ok { behindRoot with queue := [2] } := by
    have entry : start.meetKeyed (1, 2) = .ok
        ⟨g, #[unfilled, name, unfilled, none, none, none, none, none, none], [2]⟩ := by
      refine Valuation.meetKeyed_of_meet (Valuation.meet_scalar rfl
        (unfilled?_of_isIdentifier isOuter) (Graph.scalarDatum_word isOuter rfl)) ?_ rfl
      exact isCollection_wordDatum outer
    rw [@Valuation.settle_mapping start 0 _ rfl rfl mergeRoot,
      Valuation.foldlM_meetKeyed_cons entry]
    rfl
  have settlesLines : behindRoot.settle 2 = .ok last := by
    let behindFirst : Valuation := ⟨g, #[root, name, unfilled, some (wordDatum first.key),
      some first.value.datum, none, none, none, none], []⟩
    let behindSecond : Valuation := ⟨g, #[root, name, unfilled, some (wordDatum first.key),
      some first.value.datum, some (wordDatum second.key), some second.value.datum, none, none], []⟩
    let behindThird : Valuation := ⟨g, #[root, name, unfilled, some (wordDatum first.key),
      some first.value.datum, some (wordDatum second.key), some second.value.datum,
      some (wordDatum third.key), some third.value.datum], []⟩
    have meetsFirst : behindRoot.meetKeyed (3, 4) = .ok behindFirst :=
      Valuation.meetKeyed_entry first rfl rfl rfl rfl
    have meetsSecond : behindFirst.meetKeyed (5, 6) = .ok behindSecond :=
      Valuation.meetKeyed_entry second rfl rfl rfl rfl
    have meetsThird : behindSecond.meetKeyed (7, 8) = .ok behindThird :=
      Valuation.meetKeyed_entry third rfl rfl rfl rfl
    rw [@Valuation.settle_mapping behindRoot 2 _ rfl rfl mergeLines,
      Valuation.foldlM_meetKeyed_cons meetsFirst, Valuation.foldlM_meetKeyed_cons meetsSecond,
      Valuation.foldlM_meetKeyed_cons meetsThird]
    rfl
  refine ofRooted_of_settleAll { start with queue := [0] } last rfl ?_
  calc Valuation.settleAll 9 { start with queue := [0] }
    _ = _ := Valuation.settleAll_of_settle rfl settlesRoot 8
    _ = _ := Valuation.settleAll_of_settle rfl settlesLines 7
    _ = _ := Valuation.settleAll_of_nil rfl 7

/-- Three lines under a key are a document with the values that they spell. -/
theorem Document.ofExcerpt?_section (isOuter : IsIdentifier outer)
    (shortOuter : outer.length ≤ 1024) {spaces : Nat} (indented : 0 < spaces) (closed : Bool)
    (first second third : Entry) :
    ofExcerpt? (Excerpt.ofChars
        (outer ++ ':' :: Entry.lines spaces closed [first, second, third])) =
      .ok (some (sectionDocument outer first second third)) :=
  ofExcerpt?_lines isOuter shortOuter indented closed Rooted.ofTokens?_section
    (ofRooted_section isOuter)

end DrawingCode.Markup
