import DrawingCode.Markup.Graph.Merge
import DrawingCode.Proofs.Ending

/-! # What merging leaves of a graph

Merging changes nothing but the entries of mappings and the tags of default keys. So what is said of
the scalars of a merged graph holds of those that the document was composed with.
-/

namespace DrawingCode.Markup.Graph

variable {g h k : Graph}

/-! ## Changing one node -/

private theorem tag_setContent (g : Graph) (id other : Nat) (content : Content) :
    (g.setContent id content).tag other = g.tag other := by
  simp only [tag, setContent, Array.getElem?_modify]
  split <;> simp [Function.comp_def]

private theorem isSome_entries?_setContent {id : Nat} (isMapping : (g.entries? id).isSome)
    (entries : List (Nat × Nat)) (other : Nat) :
    ((g.setContent id (.mapping entries)).entries? other).isSome = (g.entries? other).isSome := by
  by_cases same : id = other
  · subst same
    rw [isMapping]
    cases node : g[id]? with
    | none => simp [entries?, node] at isMapping
    | some node => simp [entries?, setContent, Array.getElem?_modify, node]
  · simp only [entries?, setContent, Array.getElem?_modify, if_neg same]

private theorem entries?_setTag (g : Graph) (id other : Nat) (tag : Tag) :
    (g.setTag id tag).entries? other = g.entries? other := by
  by_cases same : id = other
  · simp only [entries?, setTag, Array.getElem?_modify, if_pos same]
    rcases g[other]? with _ | ⟨_, _ | _ | _⟩ <;> rfl
  · simp only [entries?, setTag, Array.getElem?_modify, if_neg same]

private theorem tag_setTag {id : Nat} (there : g.tag id ≠ .other) (tag : Tag) :
    (g.setTag id tag).tag id = tag := by
  cases node : g[id]? with
  | none => simp [Graph.tag, node] at there
  | some node => simp [Graph.tag, setTag, Array.getElem?_modify, node]

private theorem tag_setTag_of_ne {id other : Nat} (different : id ≠ other) (tag : Tag) :
    (g.setTag id tag).tag other = g.tag other := by
  simp only [Graph.tag, setTag, Array.getElem?_modify, if_neg different]

/-! ## Merged graphs -/

/-- A graph in which mappings may have taken in others. -/
structure Merged (g h : Graph) : Prop where
  tag (id : Nat) : h.tag id = g.tag id ∨ g.tag id = .value ∧ h.tag id = .text
  scalar {id : Nat} {tag : Tag} {text : List Text.CodePoint}
    (there : h[id]? = some ⟨tag, .scalar text⟩) : ∃ tag, g[id]? = some ⟨tag, .scalar text⟩
  mapping (id : Nat) : (h.entries? id).isSome = (g.entries? id).isSome

namespace Merged

theorem refl : Merged g g := ⟨fun _ => .inl rfl, fun there => ⟨_, there⟩, fun _ => rfl⟩

theorem trans (first : Merged g h) (second : Merged h k) : Merged g k where
  tag id := by
    obtain same | ⟨value, text⟩ := second.tag id
    · exact same ▸ first.tag id
    · obtain same | ⟨_, already⟩ := first.tag id
      · exact .inr ⟨same ▸ value, text⟩
      · rw [already] at value
        cases value
  scalar there := by
    obtain ⟨tag, there⟩ := second.scalar there
    exact first.scalar there
  mapping id := (second.mapping id).trans (first.mapping id)

/-- Only texts can have had another tag before. -/
theorem tag_eq (merged : Merged g h) {id : Nat} {tag : Tag} (there : h.tag id = tag)
    (other : tag ≠ .text) : g.tag id = tag := by
  obtain same | ⟨_, text⟩ := merged.tag id
  · exact same ▸ there
  · exact absurd (there.symm.trans text) other

end Merged

private theorem merged_setContent {id : Nat} (isMapping : (g.entries? id).isSome)
    (entries : List (Nat × Nat)) : Merged g (g.setContent id (.mapping entries)) where
  tag other := .inl (tag_setContent ..)
  scalar there := by
    simp only [setContent, Array.getElem?_modify] at there
    split at there
    · obtain ⟨node, _, eq⟩ := Option.map_eq_some_iff.mp there
      cases eq
    · exact ⟨_, there⟩
  mapping := isSome_entries?_setContent isMapping entries

private theorem merged_setTag {id : Nat} (isDefault : g.tag id = .value) :
    Merged g (g.setTag id .text) where
  tag other := by
    by_cases same : id = other
    · subst same
      exact .inr ⟨isDefault, tag_setTag (by rw [isDefault]; decide) _⟩
    · exact .inl (tag_setTag_of_ne same _)
  scalar there := by
    simp only [setTag, Array.getElem?_modify] at there
    split at there
    · obtain ⟨⟨tag, content⟩, there, eq⟩ := Option.map_eq_some_iff.mp there
      cases eq
      exact ⟨_, there⟩
    · exact ⟨_, there⟩
  mapping other := by rw [entries?_setTag]

private theorem merged_settleKeys (entries : List (Nat × Nat)) :
    Merged g (g.settleKeys entries) := by
  unfold settleKeys
  induction entries generalizing g with
  | nil => exact .refl
  | cons entry entries ih =>
    rw [List.foldl_cons]
    refine Merged.trans ?_ ih
    split
    · next isDefault => exact merged_setTag isDefault
    · exact .refl

/-- Why merging stops at a fault, where `steps` may be followed. -/
inductive Unmergeable (g : Graph) (steps : Nat) : Fault → Prop where
  | malformed : Unmergeable g steps .malformed
  | noSteps (none : steps = 0) : Unmergeable g steps .tooDeep
  /-- There is a key that merges. -/
  | tooDeep {key : Nat} (merges : g.tag key = .merge) : Unmergeable g steps .tooDeep

private theorem takeIn_ends {inner : Graph → Nat → Except Fault Graph} {steps : Nat}
    (merges : ∀ g id, (g.entries? id).isSome → Ends (Merged g) (Unmergeable g steps) (inner g id))
    {id : Nat} (fuel : Nat) (g : Graph) (isMapping : (g.entries? id).isSome)
    (merged : List (Nat × Nat)) :
    Ends (Merged g) (Unmergeable g (steps + 1)) (takeIn inner id fuel g merged) := by
  induction fuel generalizing g merged with
  | zero => exact Ends.error .malformed
  | succ fuel ih =>
    unfold takeIn
    dsimp only
    split
    · exact (merged_setContent isMapping _).trans (merged_settleKeys _)
    · next first found =>
      have merge : g.tag first.1 = .merge := by simpa [isMerge] using List.find?_some found
      have without := merged_setContent isMapping (((g.entries? id).getD []).eraseP g.isMerge)
      have here {h : Graph} {n : Nat} {fault : Fault} (reason : Unmergeable h n fault) :
          Unmergeable g (steps + 1) fault := by
        cases reason with
        | malformed => exact .malformed
        | noSteps | tooDeep => exact .tooDeep merge
      split
      · exact Ends.error .malformed
      · next parents _ =>
        refine Ends.bind (show Ends (fun r : Graph × _ => Merged g r.1) _ _ from ?_)
          fun (h, taken) kept => ?_
        · refine Ends.foldlM parents _ without fun (h, taken) kept parent _ => ?_
          split
          · exact Ends.error .malformed
          · next there =>
            have there : (h.entries? parent).isSome := by simpa [Option.isSome_iff_ne_none] using there
            exact ((merges h parent there).weaken fun _ => here).bind
              fun k further => kept.trans further
        · have still : (h.entries? id).isSome := by rw [kept.mapping, isMapping]
          exact (ih h still _).mono (fun _ further => kept.trans further) fun _ => here

theorem mergeWithin_ends (steps : Nat) (g : Graph) {id : Nat} (isMapping : (g.entries? id).isSome) :
    Ends (Merged g) (Unmergeable g steps) (mergeWithin steps g id) := by
  induction steps generalizing g id with
  | zero => exact Ends.error (.noSteps rfl)
  | succ steps ih =>
    exact takeIn_ends (fun g id isMapping => ih g isMapping) _ g isMapping []

end DrawingCode.Markup.Graph
