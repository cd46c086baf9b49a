import DrawingCode.Value.Basic
import Mathlib.Data.List.Forall2
import Mathlib.Data.List.Nodup

/-! # What values are made of

Values contain the items of their lists and the values of their dictionaries, at any depth. Whatever
holds of a value if it holds of those directly in it holds of all values. A value is proper if none
of the dictionaries in it has two entries with the same key.
-/

namespace DrawingCode

section Relations

variable {α β : Type} {r s : α → β → Prop} {l : List α} {m : List β}

theorem forall₂_imp_of_mem (related : List.Forall₂ r l m)
    (imp : ∀ a ∈ l, ∀ b ∈ m, r a b → s a b) : List.Forall₂ s l m := by
  induction related with
  | nil => exact .nil
  | cons here _ ih =>
    refine .cons (imp _ (by simp) _ (by simp) here) (ih fun a mem b other => ?_)
    exact imp a (List.mem_cons_of_mem _ mem) b (List.mem_cons_of_mem _ other)

theorem forall₂_trans_of_mem {γ : Type} {t : β → γ → Prop} {u : α → γ → Prop} {n : List γ}
    (first : List.Forall₂ r l m) (second : List.Forall₂ t m n)
    (trans : ∀ a ∈ l, ∀ b c, r a b → t b c → u a c) : List.Forall₂ u l n := by
  induction first generalizing n with
  | nil =>
    cases second
    exact .nil
  | cons here _ ih =>
    cases second with
    | cons there later =>
      obtain ⟨head, others⟩ := List.forall_mem_cons.mp trans
      exact .cons (head _ _ here there) (ih later others)

end Relations

namespace Value

@[elab_as_elim]
theorem induction {motive : Value → Prop} (null : motive null) (bool : ∀ b, motive (bool b))
    (int : ∀ i, motive (int i)) (double : ∀ d, motive (double d)) (text : ∀ s, motive (text s))
    (list : ∀ items, (∀ v ∈ items, motive v) → motive (list items))
    (dict : ∀ entries, (∀ entry ∈ entries, motive entry.2) → motive (dict entries))
    (v : Value) : motive v :=
  @Value.rec motive (fun items => ∀ v ∈ items, motive v)
    (fun entries => ∀ entry ∈ entries, motive entry.2) (fun entry => motive entry.2)
    null bool int double text list dict (List.forall_mem_nil _)
    (fun _ _ first others => List.forall_mem_cons.mpr ⟨first, others⟩) (List.forall_mem_nil _)
    (fun _ _ first others => List.forall_mem_cons.mpr ⟨first, others⟩) (fun _ _ value => value) v

mutual

/-- Whether a condition holds for a value and for all values in it. -/
def every (p : Value → Bool) : Value → Bool
  | list items => p (list items) && everyItem p items
  | dict entries => p (dict entries) && everyEntry p entries
  | v => p v

/-- Whether a condition holds for all items of a list and for all values in them. -/
def everyItem (p : Value → Bool) : List Value → Bool
  | [] => true
  | v :: rest => v.every p && everyItem p rest

/-- Whether a condition holds for all values of a dictionary and for all values in them. -/
def everyEntry (p : Value → Bool) : List (String × Value) → Bool
  | [] => true
  | (_, v) :: rest => v.every p && everyEntry p rest

end

section Every

variable {p : Value → Bool}

private theorem everyItem_iff {items : List Value} :
    everyItem p items ↔ ∀ v ∈ items, v.every p := by
  induction items with
  | nil => simp [everyItem]
  | cons v rest ih => simp [everyItem, ih]

private theorem everyEntry_iff {entries : List (String × Value)} :
    everyEntry p entries ↔ ∀ entry ∈ entries, entry.2.every p := by
  induction entries with
  | nil => simp [everyEntry]
  | cons entry rest ih => simp [everyEntry, ih]

private theorem every_list_iff {items : List Value} :
    (list items).every p ↔ p (list items) ∧ ∀ v ∈ items, v.every p := by
  rw [every, Bool.and_eq_true, everyItem_iff]

private theorem every_dict_iff {entries : List (String × Value)} :
    (dict entries).every p ↔ p (dict entries) ∧ ∀ entry ∈ entries, entry.2.every p := by
  rw [every, Bool.and_eq_true, everyEntry_iff]

end Every

/-- Whether every dictionary in a value lists each key once. -/
def isProper (v : Value) : Bool :=
  v.every fun
    | dict entries => (entries.map Prod.fst).Nodup
    | _ => true

/-- Whether every double in a value is a number. -/
def isNumbered (v : Value) : Bool :=
  v.every fun
    | double d => !d.isNaN
    | _ => true

theorem isProper_list_iff {items : List Value} :
    (list items).isProper ↔ ∀ v ∈ items, v.isProper := by
  rw [isProper, every_list_iff]
  exact and_iff_right rfl

theorem isProper_dict_iff {entries : List (String × Value)} : (dict entries).isProper ↔
    (entries.map Prod.fst).Nodup ∧ ∀ entry ∈ entries, entry.2.isProper := by
  rw [isProper, every_dict_iff, decide_eq_true_iff]
  rfl

theorem isNumbered_list_iff {items : List Value} :
    (list items).isNumbered ↔ ∀ v ∈ items, v.isNumbered := by
  rw [isNumbered, every_list_iff]
  exact and_iff_right rfl

theorem isNumbered_dict_iff {entries : List (String × Value)} :
    (dict entries).isNumbered ↔ ∀ entry ∈ entries, entry.2.isNumbered := by
  rw [isNumbered, every_dict_iff]
  exact and_iff_right rfl

end Value

end DrawingCode
