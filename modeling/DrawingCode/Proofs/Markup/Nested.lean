import DrawingCode.Markup.Document
import DrawingCode.Proofs.Markup.Entries
import DrawingCode.Proofs.Markup.Reading

/-! # Documents of words

A mapping of mappings that has identifiers for keys and for a value is a document with just these
values. Keys that are identifiers neither merge nor keep a default, so nothing but the words
themselves decides what the values are.
-/

namespace DrawingCode.Markup

open Text (CodePoint IsIdentifier)

variable {word : List Char}

/-- The value of an identifier without quotes. -/
def wordDatum (word : List Char) : Datum :=
  if String.ofList word ∈ Plain.nullWords then .null
  else if String.ofList word ∈ Plain.booleanWords then .boolean
  else .text (CodePoint.ofChars word)

namespace Graph

variable {g : Graph} {id : Nat} {entries : List (Nat × Nat)}

private theorem truthOf_of_mem (truth : String.ofList word ∈ Plain.booleanWords) :
    truthOf (CodePoint.ofChars word) = .ok .boolean := by
  have all : ∀ text ∈ Plain.booleanWords,
      truthOf (CodePoint.ofChars text.toList) = .ok .boolean := by decide +kernel
  simpa using all _ truth

/-- An identifier has a value whatever stands around it. -/
theorem scalarDatum_word (identifier : IsIdentifier word)
    (there : g[id]? = some ⟨Plain.tag word, .scalar (CodePoint.ofChars word)⟩) :
    g.scalarDatum id = .ok (wordDatum word) := by
  have tagged : g.tag id = Plain.tag word := by rw [tag, there]; rfl
  have text : g.textWithin mostSteps id = .ok (CodePoint.ofChars word) := by
    rw [mostSteps, textWithin, there]
  rw [scalarDatum, tagged, text, Plain.tag_of_isIdentifier identifier, wordDatum]
  by_cases null : String.ofList word ∈ Plain.nullWords
  · rw [if_pos null, if_pos null]
    rfl
  · rw [if_neg null, if_neg null]
    by_cases truth : String.ofList word ∈ Plain.booleanWords
    · rw [if_pos truth, if_pos truth]
      exact truthOf_of_mem truth
    · rw [if_neg truth, if_neg truth]
      rfl

private theorem setContent_eq_self (there : g.entries? id = some entries) :
    g.setContent id (.mapping entries) = g := by
  refine Array.ext_getElem? fun other => ?_
  rw [setContent, Array.getElem?_modify]
  split
  · next same =>
    subst same
    rcases node : g[id]? with _ | ⟨tag, _ | _ | own⟩ <;> simp [entries?, node] at there
    simp [there]
  · rfl

private theorem settleKeys_eq_self (noDefault : ∀ entry ∈ entries, g.tag entry.1 ≠ .value) :
    g.settleKeys entries = g := by
  unfold settleKeys
  induction entries with
  | nil => rfl
  | cons entry entries ih =>
    rw [List.foldl_cons, if_neg (noDefault entry (by simp))]
    exact ih fun entry mem => noDefault entry (by simp [mem])

/-- A mapping stays as it is if no key of it merges or keeps a default. -/
theorem merge_eq_self (there : g.entries? id = some entries)
    (plain : ∀ entry ∈ entries, g.tag entry.1 ≠ .merge ∧ g.tag entry.1 ≠ .value) :
    g.merge id = .ok g := by
  have noMerge : entries.find? g.isMerge = none :=
    List.find?_eq_none.mpr fun entry mem => by simpa [isMerge] using (plain entry mem).1
  rw [merge, mostSteps, mergeWithin, takeIn, there, Option.getD_some]
  simp only [noMerge, List.nil_append, setContent_eq_self there,
    settleKeys_eq_self fun entry mem => (plain entry mem).2]

end Graph

namespace Valuation

variable {v w u : Valuation} {id : Nat}

theorem meet_scalar {datum : Datum} (isNew : v.datum? id = none)
    (single : unfilled? (v.graph.tag id) = none) (reads : v.graph.scalarDatum id = .ok datum) :
    v.meet id = .ok (v.assign id datum) := by
  rw [meet, isNew, single, reads]
  rfl

theorem meetKeyed_of_meet {entry : Nat × Nat} (key : v.meet entry.1 = .ok w)
    (single : (w.datum? entry.1).any Datum.isCollection = false)
    (value : w.meet entry.2 = .ok u) : v.meetKeyed entry = .ok u := by
  rw [meetKeyed, key]
  change (if (w.datum? entry.1).any Datum.isCollection then _ else _) = _
  rw [single]
  exact value

theorem foldlM_meetKeyed_cons {entry : Nat × Nat} {entries : List (Nat × Nat)}
    (meets : v.meetKeyed entry = .ok w) :
    (entry :: entries).foldlM meetKeyed v = entries.foldlM meetKeyed w := by
  rw [List.foldlM_cons, meets]
  rfl

/-- A mapping that stays as it is gets its entries once they have been met. -/
theorem settle_mapping {entries : List (Nat × Nat)} (tagged : v.graph.tag id = .mapping)
    (there : v.graph.entries? id = some entries) (merged : v.graph.merge id = .ok v.graph) :
    v.settle id = (entries.foldlM meetKeyed v).map (·.assign id (.dict entries)) := by
  unfold settle
  rw [tagged, there]
  dsimp only
  rw [merged]
  simp only [bind, Except.bind, there, Option.getD_some, Except.map, pure, Except.pure]

theorem settleAll_of_settle {rest : List Nat} (queue : v.queue = id :: rest)
    (settles : { v with queue := rest }.settle id = .ok w) (fuel : Nat) :
    v.settleAll (fuel + 1) = w.settleAll fuel := by
  rw [settleAll, queue]
  dsimp only
  rw [settles]
  rfl

theorem settleAll_of_nil (queue : v.queue = []) (fuel : Nat) : v.settleAll fuel = .ok v := by
  cases fuel with
  | zero => rfl
  | succ fuel => rw [settleAll, queue]

end Valuation

theorem Document.ofRooted_of_settleAll {r : Rooted} (start last : Valuation)
    (meets : Valuation.meet ⟨r.graph, Array.replicate r.graph.size none, []⟩ r.root = .ok start)
    (settles : start.settleAll r.graph.size = .ok last) :
    ofRooted r = .ok ⟨last.data, r.root⟩ := by
  rw [ofRooted, meets]
  change (do return Document.mk (← start.settleAll r.graph.size).data r.root) = _
  rw [settles]
  rfl

/-! ## A mapping in a mapping -/

/-- The text of a mapping with one entry, whose value is a mapping with one entry between two
words. -/
def nested (outer : List Char) (spaces : Nat) (inner value : List Char) : List Char :=
  outer ++ ':' :: '\n' :: (List.replicate spaces ' ' ++ (inner ++ ':' :: ' ' :: (value ++ ['\n'])))

def wordNode (word : List Char) : Node := ⟨Plain.tag word, .scalar (CodePoint.ofChars word)⟩

def nestedGraph (outer inner value : List Char) : Graph :=
  #[⟨.mapping, .mapping [(1, 2)]⟩, wordNode outer, ⟨.mapping, .mapping [(3, 4)]⟩, wordNode inner,
    wordNode value]

def nestedDocument (outer inner value : List Char) : Document :=
  ⟨#[some (.dict [(1, 2)]), some (wordDatum outer), some (.dict [(3, 4)]), some (wordDatum inner),
    some (wordDatum value)], 0⟩

variable {outer inner value : List Char}

private theorem Rooted.ofTokens?_nested :
    Rooted.ofTokens?
        ⟨[.blockMappingStart, .key, .scalar (CodePoint.ofChars outer) true, .value,
          .blockMappingStart, .key, .scalar (CodePoint.ofChars inner) true, .value,
          .scalar (CodePoint.ofChars value) true, .blockEnd, .blockEnd, .streamEnd], none⟩ =
      .ok (some ⟨nestedGraph outer inner value, 0⟩) := by
  have node (word : List Char) : wordNode word =
      ⟨Properties.scalarTag ⟨none, none⟩ (CodePoint.ofChars word) true,
        .scalar (CodePoint.ofChars word)⟩ := by
    simp [wordNode, Properties.scalarTag, CodePoint.toChars_ofChars]
  rw [nestedGraph, node outer, node inner, node value]
  rfl

theorem unfilled?_of_isIdentifier (identifier : IsIdentifier word) :
    Valuation.unfilled? (Plain.tag word) = none := by
  rw [Plain.tag_of_isIdentifier identifier]
  split
  · rfl
  · split <;> rfl

theorem plainKey_of_isIdentifier (identifier : IsIdentifier word) :
    Plain.tag word ≠ .merge ∧ Plain.tag word ≠ .value := by
  rw [Plain.tag_of_isIdentifier identifier]
  split
  · decide
  · split <;> decide

theorem isCollection_wordDatum (word : List Char) : (wordDatum word).isCollection = false := by
  unfold wordDatum
  split
  · rfl
  · split <;> rfl

private theorem Document.ofRooted_nested (isOuter : IsIdentifier outer)
    (isInner : IsIdentifier inner)
    (isValue : IsIdentifier value) :
    ofRooted ⟨nestedGraph outer inner value, 0⟩ = .ok (nestedDocument outer inner value) := by
  let g := nestedGraph outer inner value
  let root := some (Datum.dict [(1, 2)])
  let start : Valuation := ⟨g, #[some (.dict []), none, none, none, none], []⟩
  let behindRoot : Valuation :=
    ⟨g, #[root, some (wordDatum outer), some (.dict []), none, none], []⟩
  let last : Valuation := ⟨g, (nestedDocument outer inner value).data, []⟩
  have mergeOuter : g.merge 0 = .ok g :=
    Graph.merge_eq_self rfl (List.forall_mem_singleton.mpr (plainKey_of_isIdentifier isOuter))
  have mergeInner : g.merge 2 = .ok g :=
    Graph.merge_eq_self rfl (List.forall_mem_singleton.mpr (plainKey_of_isIdentifier isInner))
  have first : start.settle 0 = .ok { behindRoot with queue := [2] } := by
    have entry : start.meetKeyed (1, 2) = .ok
        ⟨g, #[some (.dict []), some (wordDatum outer), some (.dict []), none, none], [2]⟩ := by
      refine Valuation.meetKeyed_of_meet (Valuation.meet_scalar rfl
        (unfilled?_of_isIdentifier isOuter) (Graph.scalarDatum_word isOuter rfl)) ?_ rfl
      exact isCollection_wordDatum outer
    rw [@Valuation.settle_mapping start 0 _ rfl rfl mergeOuter,
      Valuation.foldlM_meetKeyed_cons entry]
    rfl
  have second : behindRoot.settle 2 = .ok last := by
    have entry : behindRoot.meetKeyed (3, 4) = .ok
        ⟨g, #[root, some (wordDatum outer), some (.dict []), some (wordDatum inner),
          some (wordDatum value)], []⟩ := by
      refine Valuation.meetKeyed_of_meet (Valuation.meet_scalar rfl
        (unfilled?_of_isIdentifier isInner) (Graph.scalarDatum_word isInner rfl)) ?_
        (Valuation.meet_scalar rfl (unfilled?_of_isIdentifier isValue)
          (Graph.scalarDatum_word isValue rfl))
      exact isCollection_wordDatum inner
    rw [@Valuation.settle_mapping behindRoot 2 _ rfl rfl mergeInner,
      Valuation.foldlM_meetKeyed_cons entry]
    rfl
  refine ofRooted_of_settleAll { start with queue := [0] } last rfl ?_
  calc Valuation.settleAll 5 { start with queue := [0] }
    _ = _ := Valuation.settleAll_of_settle rfl first 4
    _ = _ := Valuation.settleAll_of_settle rfl second 3
    _ = _ := Valuation.settleAll_of_nil rfl 3

/-- A mapping with any lines under a single key is a document if its tokens can be composed and its
nodes have values. -/
theorem Document.ofExcerpt?_lines (isOuter : IsIdentifier outer) (shortOuter : outer.length ≤ 1024)
    {spaces : Nat} (indented : 0 < spaces) (closed : Bool) {e : Entry} {entries : List Entry}
    {r : Rooted} {d : Document}
    (composes : Rooted.ofTokens? ⟨[.blockMappingStart, .key, .scalar (CodePoint.ofChars outer) true,
      .value, .blockMappingStart] ++ (e :: entries).flatMap Entry.tokens ++
      [.blockEnd, .blockEnd, .streamEnd], none⟩ = .ok (some r))
    (values : ofRooted r = .ok d) :
    ofExcerpt? (Excerpt.ofChars (outer ++ ':' :: Entry.lines spaces closed (e :: entries))) =
      .ok (some d) := by
  have allowed : ∀ c ∈ outer ++ ':' :: Entry.lines spaces closed (e :: entries),
      isAllowed c ∧ c ≠ '\r' := by
    simp only [List.forall_mem_append, List.forall_mem_cons]
    exact ⟨(Spelling.word outer isOuter).allowed_chars, by decide,
      Entry.allowed_lines spaces closed _⟩
  rw [Excerpt.ofChars_eq_self (fun c mem => (allowed c mem).1) fun mem => (allowed _ mem).2 rfl,
    ofExcerpt?, Tokens.ofExcerpt_lines (Plain.isWord_of_isIdentifier isOuter) shortOuter indented,
    composes]
  change (do return some (← ofRooted r)) = _
  rw [values]
  rfl

/-- A mapping in a mapping that is written with identifiers is a document with their values. -/
theorem Document.ofExcerpt?_nested (isOuter : IsIdentifier outer) (isInner : IsIdentifier inner)
    (isValue : IsIdentifier value) (shortOuter : outer.length ≤ 1024)
    (shortInner : inner.length ≤ 1024) {spaces : Nat} (indented : 0 < spaces) :
    ofExcerpt? (Excerpt.ofChars (nested outer spaces inner value)) =
      .ok (some (nestedDocument outer inner value)) :=
  @ofExcerpt?_lines outer isOuter shortOuter spaces indented true
    ⟨inner, .word value isValue, isInner, shortInner⟩ [] _ _ Rooted.ofTokens?_nested
    (ofRooted_nested isOuter isInner isValue)

end DrawingCode.Markup
