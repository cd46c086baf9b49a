import DrawingCode.Proofs.Generation.Equality
import DrawingCode.Proofs.Item.Structure
import DrawingCode.Proofs.Value.Same

/-! # Equality of items is an equivalence

Items are equal if they have the same frame and equal values in the same fields, at any depth of
routes within routes. So equality of items is symmetric and transitive because that of values is,
and an item is equal to a copy of itself unless a double in it is no number.
-/

namespace DrawingCode

theorem Point.equal_iff {p q : Point Value} :
    p.equal q ↔ List.Forall₂ (fun v w => v.equal w) p.coordinates q.coordinates := by
  simp [equal, coordinates]

theorem Rect.equal_iff {r s : Rect Value} :
    r.equal s ↔ List.Forall₂ (fun v w => v.equal w) r.coordinates s.coordinates := by
  simp [equal, coordinates, and_assoc]

private theorem Step.map_null_of_equal {s t : Step Value} (same : s.equal t) :
    (s.map fun _ => Value.null) = t.map fun _ => Value.null := by
  fun_cases equal s t with
  | case4 | case5 => simp_all [equal]
  | case19 => simp_all [equal]
  | _ => rfl

/-- Steps are equal if they have the same frame and equal coordinates, pair by pair. -/
theorem Step.equal_iff {s t : Step Value} :
    s.equal t ↔ (s.map fun _ => Value.null) = (t.map fun _ => Value.null) ∧
      List.Forall₂ (fun v w => v.equal w) s.coordinates t.coordinates := by
  refine ⟨fun same => ⟨map_null_of_equal same, coordinates_of_equal same⟩, ?_⟩
  rintro ⟨frame, same⟩
  cases s <;> cases t <;> cases frame <;>
    simp_all [equal, coordinates, Point.coordinates, Point.equal, Rect.equal, Color.equal,
      Transform.equal]

namespace Item

variable {a b c : Item}

private theorem equalAll_iff {items others : List Item} :
    equalAll items others ↔ List.Forall₂ (fun item other => item.equal other) items others := by
  refine ⟨forall₂_of_equalAll, fun same => ?_⟩
  induction same with
  | nil => rfl
  | cons here _ ih => simp [equalAll, here, ih]

/-- Items are equal if they have the same frame, equal values in the same fields and equal items in
the same places. -/
theorem equal_iff : a.equal b ↔ a.frame = b.frame ∧
    List.Forall₂ (fun v w => v.equal w) a.values b.values ∧
      List.Forall₂ (fun item other => item.equal other) a.parts b.parts := by
  cases a <;> cases b <;>
    simp [equal, frame, values, parts, Step.equal_iff, equalAll_iff, Point.equal_iff,
      Rect.equal_iff, Size.equal, Color.equal, Transform.equal, Point.map, Size.map, Rect.map,
      Color.map, Transform.map, and_assoc]
  case route.route => exact and_comm
  case image.image => exact fun _ => and_comm

private theorem equal_iff_related : a.equal b ↔ Related (fun v w => v.equal w) a b := by
  induction a using induction generalizing b with
  | item a ih =>
    rw [equal_iff, related_iff]
    refine and_congr_right fun _ => and_congr_right fun _ => ?_
    exact ⟨fun parts => forall₂_imp_of_mem parts fun part here _ _ => (ih part here).mp,
      fun parts => forall₂_imp_of_mem parts fun part here _ _ => (ih part here).mpr⟩

/-- Items are equal exactly if they are the same but for the kinds of numbers and the order in
dictionaries. -/
theorem equal_iff_same (properFirst : a.isProper) (properSecond : b.isProper) :
    a.equal b ↔ Related Value.Same a b := by
  rw [equal_iff_related]
  constructor
  · exact Related.imp_of_every properFirst properSecond fun v w proper properOther =>
      (Value.equal_iff_same proper properOther).mp
  · exact Related.imp_of_every properFirst properSecond fun v w proper properOther =>
      (Value.equal_iff_same proper properOther).mpr

/-- An item is equal to its copy exactly if every double in it is a number. -/
theorem equal_self_iff (proper : a.isProper) : a.equal a ↔ a.isNumbered :=
  (equal_iff_same proper proper).trans (related_self_iff proper fun _ => Value.same_self_iff)

/-- Whether an item is a record, so neither a bare value nor a kind of steps. -/
def isRecord : Item → Bool
  | raw _ | stepClass _ => false
  | _ => true

private theorem typeName_frame (record : a.isRecord) : a.frame.typeName = a.typeName := by
  cases a with
  | step s => cases s <;> rfl
  | raw v => cases record
  | _ => rfl

private theorem isRecord_frame (a : Item) : a.frame.isRecord = a.isRecord := by
  cases a <;> rfl

private theorem typeName_eq_of_frame (record : a.isRecord) (frame : a.frame = b.frame) :
    a.typeName = b.typeName := by
  have recordOther : b.isRecord := by rw [← isRecord_frame, ← frame, isRecord_frame, record]
  rw [← typeName_frame record, frame, typeName_frame recordOther]

/-- Equality of items is symmetric and transitive, and it holds of an item and its copy exactly if
every double in the item is a number. Numbers are equal if they stand for the same rational number
or infinity, whatever their kinds. A record is equal only to records of its kind. -/
theorem equal_equivalence (a b c : Item) (properFirst : a.isProper) (properSecond : b.isProper)
    (properThird : c.isProper) :
    (a.equal b → b.equal a) ∧ (a.equal b → b.equal c → a.equal c) ∧
      (a.equal a ↔ a.isNumbered) ∧ (a.equal b ↔ Related Value.Same a b) ∧
      (∀ (v w : Value) (q : Quantity), v.quantity? = some q → (v.equal w ↔ w.quantity? = some q)) ∧
      (a.isRecord → a.typeName ≠ b.typeName → a.equal b = false) := by
  have first := equal_iff_same properFirst properSecond
  have second := equal_iff_same properSecond properThird
  have back := equal_iff_same properSecond properFirst
  have across := equal_iff_same properFirst properThird
  refine ⟨fun same => ?_, fun same other => ?_, equal_self_iff properFirst, first,
    fun v w q number => ?_, fun record different => ?_⟩
  · exact back.mpr ((first.mp same).symm fun _ _ => Value.Same.symm)
  · exact across.mpr ((first.mp same).trans (fun _ _ _ => Value.Same.trans) (second.mp other))
  · obtain ⟨amount, counts, -⟩ := Value.exists_amount_of_quantity number
    rw [Value.equal_number_iff counts, number]
    simp
  · rw [Bool.eq_false_iff]
    intro same
    exact different (typeName_eq_of_frame record (equal_iff.mp same).1)

/-- A route in a route, with a dictionary in place of a step. -/
def nestedRoute (edge zero : Value) (entries : List (String × Value)) : Item :=
  .route [.step (.moveTo ⟨edge, .bool true⟩), .raw (.list [.dict entries]),
    .route [.step (.lineWidth edge)] ⟨zero, zero, edge, edge⟩] ⟨zero, zero, .null, .text "64"⟩

/-- The same numbers as integers, doubles and truth values are equal in either order, and so is a
copy; the next integer, which is no double, makes a difference. -/
theorem equal_equivalence_nestedRoute :
    let whole := nestedRoute (.int (2 ^ 53)) (.bool false) [("x", .int 1), ("y", .null)]
    let mixed := nestedRoute (.double (.ofRank false (1076 * 2 ^ 52))) (.double (.zero true))
      [("y", .null), ("x", .bool true)]
    let next := nestedRoute (.int (2 ^ 53 + 1)) (.int 0) [("x", .double .one), ("y", .null)]
    (whole.isProper ∧ mixed.isProper ∧ next.isProper) ∧
      (whole.equal mixed ∧ mixed.equal whole ∧ whole.equal whole) ∧
      ¬mixed.equal next ∧ ¬whole.equal next := by
  intro whole mixed next
  have proper : whole.isProper ∧ mixed.isProper ∧ next.isProper := by decide +kernel
  have equal : whole.equal mixed ∧ ¬mixed.equal next := by decide +kernel
  obtain ⟨properWhole, properMixed, properNext⟩ := proper
  obtain ⟨symm, -, itself, -⟩ :=
    equal_equivalence whole mixed next properWhole properMixed properNext
  obtain ⟨-, trans, -⟩ := equal_equivalence mixed whole next properMixed properWhole properNext
  refine ⟨⟨properWhole, properMixed, properNext⟩, ⟨equal.1, symm equal.1, ?_⟩, equal.2, ?_⟩
  · exact itself.mpr (by decide +kernel)
  · exact fun same => equal.2 (trans (symm equal.1) same)

end Item

end DrawingCode
