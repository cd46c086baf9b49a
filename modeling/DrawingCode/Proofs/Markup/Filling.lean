import DrawingCode.Proofs.Markup.Valuation

/-! # Every part of a document has a value

A mapping gets its entries only after their keys and values have been met, and a node that has been
met keeps a value. So in a document no entry leads to a node without a value, whatever entries it
has taken in from other mappings.
-/

namespace DrawingCode.Markup

namespace Graph

private theorem scalarDatum_of_other {g : Graph} {id : Nat} (other : g.tag id = .other) :
    g.scalarDatum id = .error .malformed := by
  unfold scalarDatum
  rw [other]

/-- The value of a scalar has no entries. -/
theorem scalarDatum_ends_scalar (g : Graph) (id : Nat) :
    Ends (fun datum => ∀ entries, datum ≠ .dict entries) (fun _ => True) (g.scalarDatum id) := by
  have any {α : Type} (x : Except Fault α) : Ends (fun _ => True) (fun _ => True) x :=
    Ends.iff_outcomes.mpr ⟨fun _ _ => trivial, fun _ _ => trivial⟩
  unfold scalarDatum
  dsimp only
  split
  · exact (any _).map fun _ _ _ => nofun
  · refine (any _).bind fun text _ => ?_
    unfold truthOf
    dsimp only
    split
    · exact fun _ => nofun
    · trivial
  · exact (any _).map fun _ _ _ => nofun
  · exact (any _).map fun _ _ _ => nofun
  · refine (any _).bind fun text _ => ?_
    unfold binaryOf
    split
    · exact fun _ => nofun
    · trivial
  · refine (any _).bind fun text _ => ?_
    unfold dateOf
    split
    · trivial
    · split
      · trivial
      · next date _ =>
        split
        · trivial
        · cases date.clock <;> exact fun _ => nofun
  · exact (any _).map fun _ _ _ => nofun
  · trivial

end Graph

namespace Valuation

/-- Every node of the graph can be given a value, and the entries of mappings lead to nodes that
have one. -/
structure Filled (v : Valuation) : Prop where
  fits (id : Nat) (there : v.graph.tag id ≠ .other) : id < v.data.size
  entries (id : Nat) (entries : List (Nat × Nat)) (dict : v.datum? id = some (.dict entries)) :
    ∀ entry ∈ entries, (v.datum? entry.2).isSome

/-- What comes after some steps in which certain nodes are met. -/
structure Fills (v : Valuation) (met : List Nat) (w : Valuation) : Prop where
  filled : w.Filled
  keeps (id : Nat) (valued : (v.datum? id).isSome) : (w.datum? id).isSome
  meets : ∀ id ∈ met, (w.datum? id).isSome

/-- A step that meets certain nodes, if it does not fail. -/
def Meets (v : Valuation) (met : List Nat) : Except Fault Valuation → Prop :=
  Ends (v.Fills met) fun _ => True

variable {v w u : Valuation} {met later : List Nat}

namespace Fills

theorem refl (filled : v.Filled) : v.Fills [] v := ⟨filled, fun _ h => h, by simp⟩

theorem trans (first : v.Fills met w) (second : w.Fills later u) : v.Fills (met ++ later) u where
  filled := second.filled
  keeps id valued := second.keeps id (first.keeps id valued)
  meets id mem := by
    obtain mem | mem := List.mem_append.mp mem
    · exact second.keeps id (first.meets id mem)
    · exact second.meets id mem

theorem mono (h : v.Fills met w) (fewer : later ⊆ met) : v.Fills later w :=
  ⟨h.filled, h.keeps, fun id mem => h.meets id (fewer mem)⟩

end Fills

/-- Steps along a list meet what every one of them meets. -/
theorem foldlM_meets {β : Type} {step : Valuation → β → Except Fault Valuation}
    {reached : β → List Nat} (each : ∀ v b, v.Filled → Meets v (reached b) (step v b)) (l : List β)
    (filled : v.Filled) : Meets v (l.flatMap reached) (l.foldlM step v) := by
  induction l generalizing v with
  | nil => exact Fills.refl filled
  | cons b l ih =>
    rw [List.foldlM_cons, List.flatMap_cons]
    refine (each v b filled).bind fun w first => ?_
    exact (ih first.filled).mono (fun _ second => first.trans second) fun _ h => h

/-! ## Giving one node a value -/

private theorem datum?_assign (v : Valuation) (id other : Nat) (datum : Datum) :
    (v.assign id datum).datum? other =
      if id = other ∧ id < v.data.size then some datum else v.datum? other := by
  unfold assign datum?
  rw [Array.getElem?_setIfInBounds]
  by_cases same : id = other
  · subst same
    by_cases inside : id < v.data.size <;> simp [inside]
  · simp [same]

private theorem isSome_datum?_assign (v : Valuation) (id other : Nat) (datum : Datum)
    (valued : (v.datum? other).isSome) : ((v.assign id datum).datum? other).isSome := by
  rw [datum?_assign]
  split
  · rfl
  · exact valued

/-- A node can be given any value whose parts have values. -/
theorem Filled.assign (filled : v.Filled) (id : Nat) (datum : Datum)
    (parts : ∀ entries, datum = .dict entries → ∀ entry ∈ entries, (v.datum? entry.2).isSome) :
    (v.assign id datum).Filled where
  fits other there := by
    rw [Valuation.assign, Array.size_setIfInBounds]
    exact filled.fits other there
  entries other entries dict entry mem := by
    rw [datum?_assign] at dict
    refine isSome_datum?_assign v id entry.2 datum ?_
    split at dict
    · exact parts entries (Option.some.inj dict) entry mem
    · exact filled.entries other entries dict entry mem

private theorem Filled.fills_assign (filled : v.Filled) {id : Nat} {datum : Datum}
    (there : v.graph.tag id ≠ .other)
    (parts : ∀ entries, datum = .dict entries → ∀ entry ∈ entries, (v.datum? entry.2).isSome) :
    v.Fills [id] (v.assign id datum) where
  filled := filled.assign id datum parts
  keeps other valued := isSome_datum?_assign v id other datum valued
  meets other mem := by
    obtain rfl := List.mem_singleton.mp mem
    rw [datum?_assign, if_pos ⟨rfl, filled.fits other there⟩]
    rfl

/-- The graph and the queue do not matter to the values, as long as no node is new. -/
theorem Fills.of_graph (h : v.Fills met w) (graph : Graph) (queue : List Nat)
    (same : ∀ id, graph.tag id ≠ .other → w.graph.tag id ≠ .other) :
    v.Fills met ⟨graph, w.data, queue⟩ :=
  ⟨⟨fun id there => h.filled.fits id (same id there), h.filled.entries⟩, h.keeps, h.meets⟩

/-! ## Meeting nodes -/

private theorem meet_meets (filled : v.Filled) (id : Nat) : Meets v [id] (v.meet id) := by
  unfold meet
  split
  · next valued => exact ⟨filled, fun _ h => h, by simpa using valued⟩
  · split
    · next datum unfilled =>
      have there : v.graph.tag id ≠ .other := by
        intro other
        rw [other] at unfilled
        cases unfilled
      refine Fills.of_graph (filled.fills_assign there ?_) _ _ fun _ h => h
      intro entries dict entry mem
      cases tag : v.graph.tag id <;> rw [tag] at unfilled <;> cases unfilled <;> cases dict
      cases mem
    · by_cases other : v.graph.tag id = .other
      · rw [Graph.scalarDatum_of_other other]
        trivial
      · exact (v.graph.scalarDatum_ends_scalar id).map fun datum scalar =>
          filled.fills_assign other fun entries dict => absurd dict (scalar entries)

private theorem meetEntry_meets (filled : v.Filled) (entry : Nat × Nat) :
    Meets v [entry.2] (v.meetEntry entry) :=
  (meet_meets filled entry.1).bind fun _ first => (meet_meets first.filled entry.2).mono
    (fun _ second => (first.trans second).mono (by simp)) fun _ h => h

private theorem meetKeyed_meets (filled : v.Filled) (entry : Nat × Nat) :
    Meets v [entry.2] (v.meetKeyed entry) := by
  refine (meet_meets filled entry.1).bind fun _ first => ?_
  split
  · trivial
  · exact (meet_meets first.filled entry.2).mono
      (fun _ second => (first.trans second).mono (by simp)) fun _ h => h

private theorem meetPair_meets (filled : v.Filled) (id : Nat) : Meets v [] (v.meetPair id) := by
  unfold meetPair
  split
  · exact (meetEntry_meets filled _).mono (fun _ h => h.mono (by simp)) fun _ h => h
  · trivial

/-! ## Looking at the parts of collections -/

/-- What a mapping has after merging is met like any other entries. -/
theorem meetMerged_meets (filled : v.Filled) {id : Nat} (isMapping : (v.graph.entries? id).isSome) :
    Ends (fun graph => ∀ entries : List (Nat × Nat),
      Meets v (entries.map (·.2)) (entries.foldlM meetKeyed { v with graph })) (fun _ => True)
      (v.graph.merge id) := by
  refine (merge_ends .refl isMapping).mono (fun graph merged entries => ?_) fun _ _ => trivial
  have start : v.Fills [] { v with graph } := by
    refine (Fills.refl filled).of_graph _ _ fun id there => ?_
    obtain same | ⟨value, _⟩ := merged.tag id
    · exact same ▸ there
    · rw [value]
      decide
  refine (foldlM_meets (fun _ entry filled => meetKeyed_meets filled entry) entries
    start.filled).mono (fun _ met => (start.trans met).mono ?_) fun _ h => h
  rw [List.nil_append, ← List.map_eq_flatMap]
  exact List.Subset.refl _

private theorem settle_meets (filled : v.Filled) (id : Nat) : Meets v [] (v.settle id) := by
  have fewer {ids : List Nat} (x : Except Fault Valuation) (h : Meets v ids x) : Meets v [] x :=
    h.mono (fun _ h => h.mono (by simp)) fun _ h => h
  unfold settle
  split
  · exact fewer _ (foldlM_meets (fun _ id filled => meet_meets filled id) _ filled)
  · exact fewer _ (foldlM_meets (fun _ id filled => meetPair_meets filled id) _ filled)
  · exact fewer _ (foldlM_meets (fun _ id filled => meetPair_meets filled id) _ filled)
  · next isMapping =>
    refine (meetMerged_meets filled (by rw [isMapping]; rfl)).bind fun _ meets => ?_
    exact fewer _ (meets _)
  · next tag isMapping =>
    refine (meetMerged_meets filled (by rw [isMapping]; rfl)).bind fun graph meets => ?_
    refine Ends.bind (meets _) fun w met => ?_
    refine ⟨met.filled.assign id _ ?_, fun other valued => ?_, by simp⟩
    · rintro entries ⟨⟩ entry mem
      exact met.meets entry.2 (List.mem_map_of_mem mem)
    · exact isSome_datum?_assign w id other _ (met.keeps other valued)
  · trivial

private theorem settleAll_meets (filled : v.Filled) (fuel : Nat) :
    Meets v [] (v.settleAll fuel) := by
  induction fuel generalizing v with
  | zero => exact Fills.refl filled
  | succ fuel ih =>
    unfold settleAll
    split
    · exact Fills.refl filled
    · next id rest _ =>
      have start : v.Fills [] { v with queue := rest } :=
        (Fills.refl filled).of_graph _ _ fun _ h => h
      refine (settle_meets start.filled id).bind fun w first => ?_
      exact (ih first.filled).mono (fun _ second => start.trans (first.trans second)) fun _ h => h

end Valuation

namespace Document

/-- A document has a value, and so has every part of a mapping in it. -/
structure Filled (d : Document) : Prop where
  root : (d.datum? d.root).isSome
  entries (id : Nat) (entries : List (Nat × Nat)) (dict : d.datum? id = some (.dict entries)) :
    ∀ entry ∈ entries, (d.datum? entry.2).isSome

private theorem ofRooted_filled (r : Rooted) : Ends Filled (fun _ => True) (ofRooted r) := by
  have start : Valuation.Filled ⟨r.graph, Array.replicate r.graph.size none, []⟩ := by
    refine ⟨fun id there => ?_, fun id entries dict => ?_⟩
    · refine Nat.lt_of_not_le fun outside => there ?_
      rw [Array.size_replicate] at outside
      rw [Graph.tag, Array.getElem?_eq_none outside]
      rfl
    · rw [Valuation.datum?, Array.getElem?_replicate] at dict
      split at dict <;> cases dict
  refine (Valuation.meet_meets start r.root).bind fun v first => ?_
  refine Ends.bind (Valuation.settleAll_meets first.filled r.graph.size) fun w second => ?_
  exact ⟨second.keeps _ (first.meets _ (by simp)), second.filled.entries⟩

/-- No part of a document that is read lacks a value. -/
theorem ofExcerpt?_filled {e : Excerpt} {d : Document} (reads : ofExcerpt? e = .ok (some d)) :
    d.Filled := by
  unfold ofExcerpt? at reads
  cases composes : Rooted.ofTokens? (Tokens.ofExcerpt e) with
  | error fault =>
    rw [composes] at reads
    cases reads
  | ok rooted? =>
    rw [composes] at reads
    cases rooted? with
    | none => cases reads
    | some rooted =>
      have filled := ofRooted_filled rooted
      change (ofRooted rooted >>= fun d => .ok (some d)) = _ at reads
      cases values : ofRooted rooted with
      | error fault =>
        rw [values] at reads
        cases reads
      | ok document =>
        rw [values] at reads filled
        cases reads
        exact filled

end Document

end DrawingCode.Markup
