import DrawingCode.Drawing.Item
import DrawingCode.Proofs.Code.Canonical
import DrawingCode.Proofs.Generation.Faults
import DrawingCode.Proofs.Value.Structure

/-! # What items are made of

An item holds values in its fields and, if it is a route or an image, further items. What is left of
an item when these are taken away is its frame. So two items are related as their values are if they
have the same frame, related values in the same fields, and related items in the same places.
-/

namespace DrawingCode

def Size.map {α β : Type} (f : α → β) (s : Size α) : Size β := ⟨f s.width, f s.height⟩

/-- The coordinates of a rectangle, the origin before the size. -/
def Rect.coordinates {α : Type} (r : Rect α) : List α := [r.x, r.y, r.width, r.height]

namespace Item

/-- The values in the fields of an item, other than those of the items in it. -/
def values : Item → List Value
  | step s => s.coordinates
  | raw v => [v]
  | point p => p.coordinates
  | size s => [s.width, s.height]
  | rect r | route _ r | image _ _ r => r.coordinates
  | color c => [c.red, c.green, c.blue]
  | transform t => [t.a, t.b, t.c, t.d, t.tx, t.ty]
  | bareStep | stepClass _ | generator _ | settings _ => []

/-- The items that are directly in an item. -/
def parts : Item → List Item
  | route items _ | image _ items _ => items
  | _ => []

/-- An item with nothing in its fields and without the items in it. -/
def frame : Item → Item
  | step s => step (s.map fun _ => .null)
  | raw _ => raw .null
  | point p => point (p.map fun _ => .null)
  | size s => size (s.map fun _ => .null)
  | rect r => rect (r.map fun _ => .null)
  | color c => color (c.map fun _ => .null)
  | transform t => transform (t.map fun _ => .null)
  | route _ bounds => route [] (bounds.map fun _ => .null)
  | image name _ bounds => image name [] (bounds.map fun _ => .null)
  | item => item

/-- Whatever holds of an item if it holds of the items directly in it holds of all items. -/
@[elab_as_elim]
theorem induction {motive : Item → Prop}
    (item : ∀ item : Item, (∀ part ∈ item.parts, motive part) → motive item) (a : Item) :
    motive a :=
  have leaf (a : Item) (none : a.parts = []) : motive a :=
    item a fun _ member => absurd (none ▸ member) List.not_mem_nil
  @Item.rec motive (fun items => ∀ part ∈ items, motive part) (fun _ => leaf _ rfl) (leaf _ rfl)
    (fun _ => leaf _ rfl) (fun _ => leaf _ rfl) (fun _ => leaf _ rfl) (fun _ => leaf _ rfl)
    (fun _ => leaf _ rfl) (fun _ => leaf _ rfl) (fun _ => leaf _ rfl)
    (fun _ _ parts => item _ parts) (fun _ _ _ parts => item _ parts) (fun _ => leaf _ rfl)
    (fun _ => leaf _ rfl) (List.forall_mem_nil _)
    (fun _ _ first others => List.forall_mem_cons.mpr ⟨first, others⟩) a

mutual

/-- Whether a condition holds for all values in an item and in the items in it. -/
def every (p : Value → Bool) : Item → Bool
  | route items bounds => bounds.coordinates.all p && everyPart p items
  | image _ items bounds => bounds.coordinates.all p && everyPart p items
  | item => item.values.all p

/-- Whether a condition holds for all values in a row of items. -/
def everyPart (p : Value → Bool) : List Item → Bool
  | [] => true
  | item :: rest => item.every p && everyPart p rest

end

/-- Whether every dictionary in an item lists each key once. -/
def isProper (a : Item) : Bool := a.every Value.isProper

/-- Whether every double in an item is a number. -/
def isNumbered (a : Item) : Bool := a.every Value.isNumbered

private theorem everyPart_iff {p : Value → Bool} {items : List Item} :
    everyPart p items ↔ ∀ part ∈ items, part.every p := by
  induction items with
  | nil => simp [everyPart]
  | cons item rest ih => simp [everyPart, ih]

theorem every_iff {p : Value → Bool} {a : Item} :
    a.every p ↔ (∀ v ∈ a.values, p v) ∧ ∀ part ∈ a.parts, part.every p := by
  cases a with
  | route items bounds | image name items bounds =>
    rw [every, Bool.and_eq_true, List.all_eq_true, everyPart_iff]
    rfl
  | _ =>
    rw [every, List.all_eq_true]
    · exact (and_iff_left (List.forall_mem_nil _)).symm
    all_goals simp

/-- Items of the same frame whose values are related in all fields. -/
inductive Related (r : Value → Value → Prop) : Item → Item → Prop where
  | intro {a b : Item} (frame : a.frame = b.frame) (values : List.Forall₂ r a.values b.values)
    (parts : List.Forall₂ (Related r) a.parts b.parts) : Related r a b

section Related

variable {r s t : Value → Value → Prop} {a b c : Item}

theorem related_iff : Related r a b ↔ a.frame = b.frame ∧ List.Forall₂ r a.values b.values ∧
    List.Forall₂ (Related r) a.parts b.parts :=
  ⟨fun ⟨frame, values, parts⟩ => ⟨frame, values, parts⟩,
    fun ⟨frame, values, parts⟩ => ⟨frame, values, parts⟩⟩

theorem Related.imp_of_every {p : Value → Bool} (first : a.every p) (second : b.every p)
    (imp : ∀ v w, p v → p w → r v w → s v w) (related : Related r a b) : Related s a b := by
  induction a using induction generalizing b with
  | item a ih =>
    obtain ⟨frame, values, parts⟩ := related
    obtain ⟨holds, within⟩ := every_iff.mp first
    obtain ⟨holdsOther, withinOther⟩ := every_iff.mp second
    refine ⟨frame, ?_, ?_⟩
    · exact forall₂_imp_of_mem values fun v here w there =>
        imp v w (holds v here) (holdsOther w there)
    · exact forall₂_imp_of_mem parts fun part here other there =>
        ih part here (within part here) (withinOther other there)

theorem Related.symm (symm : ∀ v w, r v w → r w v) (related : Related r a b) : Related r b a := by
  induction a using induction generalizing b with
  | item a ih =>
    obtain ⟨frame, values, parts⟩ := related
    refine ⟨frame.symm, (values.imp symm).flip, ?_⟩
    exact (forall₂_imp_of_mem parts fun part here _ _ => ih part here).flip

theorem Related.trans (trans : ∀ u v w, r u v → r v w → r u w) (first : Related r a b)
    (second : Related r b c) : Related r a c := by
  induction a using induction generalizing b c with
  | item a ih =>
    obtain ⟨frame, values, parts⟩ := first
    obtain ⟨frameOther, valuesOther, partsOther⟩ := second
    refine ⟨frame.trans frameOther, ?_, ?_⟩
    · exact forall₂_trans_of_mem values valuesOther fun u _ v w => trans u v w
    · exact forall₂_trans_of_mem parts partsOther fun part here _ _ => ih part here

/-- An item is related to itself exactly if all values in it are. -/
theorem related_self_iff {p q : Value → Bool} (holds : a.every q)
    (self : ∀ v, q v → (r v v ↔ p v)) : Related r a a ↔ a.every p := by
  induction a using induction with
  | item a ih =>
    obtain ⟨holds, within⟩ := every_iff.mp holds
    rw [related_iff, every_iff, List.forall₂_same, List.forall₂_same]
    constructor
    · rintro ⟨-, values, parts⟩
      exact ⟨fun v here => (self v (holds v here)).mp (values v here),
        fun part here => (ih part here (within part here)).mp (parts part here)⟩
    · rintro ⟨values, parts⟩
      exact ⟨rfl, fun v here => (self v (holds v here)).mpr (values v here),
        fun part here => (ih part here (within part here)).mpr (parts part here)⟩

end Related

end Item

end DrawingCode
