import DrawingCode.Proofs.Value.Equality
import DrawingCode.Proofs.Value.Structure
import Mathlib.Data.List.Perm.Subperm

/-! # Equality of values is an equivalence

Values are compared as what they stand for. Numbers stand for rational numbers or infinities,
whatever kind of number they are, and of a dictionary the order of its entries does not count. So
equality is symmetric and transitive, and only what is no number keeps a value from being equal to
itself.
-/

namespace DrawingCode

/-- What a number is: a rational number, or infinite. -/
inductive Quantity where
  | rational (q : ℚ)
  | infinite (negative : Bool)

namespace Value

/-- The number that a value stands for, if it is one. -/
def quantity? : Value → Option Quantity
  | bool b => some (.rational (if b then 1 else 0))
  | int i => some (.rational i)
  | double d =>
    if d.isNaN then none
    else if d.isFinite then some (.rational d.value)
    else some (.infinite d.negative)
  | null | text _ | list _ | dict _ => none

/-- Values that are the same but for the kinds of their numbers and the order in dictionaries. -/
inductive Same : Value → Value → Prop where
  | null : Same null null
  | text (s : String) : Same (text s) (text s)
  | number {v w : Value} {q : Quantity} (first : v.quantity? = some q)
    (second : w.quantity? = some q) : Same v w
  | list {items others : List Value} (same : List.Forall₂ Same items others) :
    Same (list items) (list others)
  | dict {entries others : List (String × Value)}
    (keys : (entries.map Prod.fst).Perm (others.map Prod.fst))
    (same : ∀ k v w, (k, v) ∈ entries → (k, w) ∈ others → Same v w) :
    Same (dict entries) (dict others)

variable {u v w : Value}

end Value

/-! ## Numbers -/

/-- The number that an amount of units stands for. -/
def Amount.quantity? : Amount → Option Quantity
  | units count => some (.rational (count / Double.unitsPerOne))
  | infinite negative => some (.infinite negative)
  | nan => none

private theorem Amount.quantity?_inj {a b : Amount} {q : Quantity} (first : a.quantity? = some q)
    (second : b.quantity? = some q) : a = b := by
  have positive : (Double.unitsPerOne : ℚ) ≠ 0 := Double.unitsPerOne_cast_pos.ne'
  cases a with
  | nan => cases first
  | infinite negative =>
    cases first
    cases b <;> cases second
    rfl
  | units count =>
    cases first
    cases b with
    | units other =>
      have same := Quantity.rational.inj (Option.some.inj second)
      rw [div_left_inj' positive, Int.cast_inj] at same
      rw [same]
    | _ => cases second

private theorem Amount.exists_quantity {a : Amount} (number : a ≠ .nan) :
    ∃ q, a.quantity? = some q := by
  cases a with
  | nan => exact absurd rfl number
  | _ => exact ⟨_, rfl⟩

private theorem Double.quantity?_amount (d : Double) :
    d.amount.quantity? = (Value.double d).quantity? := by
  rw [amount, Value.quantity?]
  split_ifs <;> rfl

namespace Value

variable {u v w : Value}

private theorem quantity?_eq (v : Value) : v.quantity? = v.amount?.bind Amount.quantity? := by
  have whole (i : Int) : ((i * Double.unitsPerOne : Int) : ℚ) / Double.unitsPerOne = i := by
    rw [Int.cast_mul, Int.cast_natCast, mul_div_cancel_right₀ _ Double.unitsPerOne_cast_pos.ne']
  cases v with
  | int i => exact (congrArg (some ∘ Quantity.rational) (whole i)).symm
  | bool b =>
    cases b with
    | false =>
      have zero := whole 0
      rw [Int.zero_mul] at zero
      exact (congrArg (some ∘ Quantity.rational) (zero.trans Int.cast_zero)).symm
    | true =>
      have one := whole 1
      rw [Int.one_mul] at one
      exact (congrArg (some ∘ Quantity.rational) (one.trans Int.cast_one)).symm
  | double d => exact d.quantity?_amount.symm
  | _ => rfl

theorem exists_amount_of_quantity {q : Quantity} (number : v.quantity? = some q) :
    ∃ a, v.amount? = some a ∧ a.quantity? = some q := by
  rw [quantity?_eq] at number
  exact Option.bind_eq_some_iff.mp number

/-- A number is equal to what stands for the same number, and only to that. -/
theorem equal_number_iff {a : Amount} (number : v.amount? = some a) :
    v.equal w ↔ ∃ q, v.quantity? = some q ∧ w.quantity? = some q := by
  have any : v.equal w = w.amount?.any (a.equal ·) := by
    cases v with
    | bool _ | int _ | double _ => rw [equal, ← Option.some.inj number]
    | _ => cases number
  rw [any, Option.any_eq_true]
  constructor
  · rintro ⟨b, other, same⟩
    obtain ⟨rfl, counts⟩ := Amount.equal_iff.mp same
    obtain ⟨q, quantity⟩ := Amount.exists_quantity counts
    refine ⟨q, ?_, ?_⟩
    · rw [quantity?_eq, number, Option.bind_some, quantity]
    · rw [quantity?_eq, other, Option.bind_some, quantity]
  · rintro ⟨q, first, second⟩
    obtain ⟨b, other, quantity⟩ := exists_amount_of_quantity second
    rw [quantity?_eq, number, Option.bind_some] at first
    obtain rfl := Amount.quantity?_inj first quantity
    refine ⟨a, other, Amount.equal_iff.mpr ⟨rfl, ?_⟩⟩
    rintro rfl
    cases first

/-! ## Lists and dictionaries -/

private theorem equalItems_iff {items others : List Value} :
    equalItems items others ↔ List.Forall₂ (fun v w => v.equal w) items others := by
  induction items generalizing others with
  | nil => cases others <;> simp [equalItems]
  | cons v rest ih => cases others <;> simp [equalItems, ih]

private theorem equal_list_iff {items : List Value} : (list items).equal w ↔
    ∃ others, w = list others ∧ List.Forall₂ (fun v w => v.equal w) items others := by
  cases w with
  | list others => simp [equal, equalItems_iff]
  | _ => simp [equal]

private theorem equalEntries_iff {entries others : List (String × Value)} :
    equalEntries entries others ↔
    ∀ entry ∈ entries, ∃ w, others.lookup entry.1 = some w ∧ entry.2.equal w := by
  induction entries with
  | nil => simp [equalEntries]
  | cons entry rest ih => simp [equalEntries, ih, Option.any_eq_true]

private theorem equal_dict_iff {entries : List (String × Value)} : (dict entries).equal w ↔
    ∃ others, w = dict others ∧ entries.length = others.length ∧
      ∀ entry ∈ entries, ∃ w, others.lookup entry.1 = some w ∧ entry.2.equal w := by
  cases w with
  | dict others => simp [equal, equalEntries_iff]
  | _ => simp [equal]

section Keys

variable {α : Type} {entries others : List (String × α)} {key : String} {a b : α}

private theorem mem_of_lookup (found : entries.lookup key = some a) : (key, a) ∈ entries := by
  obtain ⟨before, behind, rfl, -⟩ := List.lookup_eq_some_iff.mp found
  simp

private theorem eq_of_nodup_keys (once : (entries.map Prod.fst).Nodup) (first : (key, a) ∈ entries)
    (second : (key, b) ∈ entries) : a = b :=
  congrArg Prod.snd (List.inj_on_of_nodup_map once first second rfl)

private theorem exists_of_mem_keys (member : key ∈ entries.map Prod.fst) :
    ∃ a, (key, a) ∈ entries := by
  obtain ⟨⟨_, a⟩, there, rfl⟩ := List.mem_map.mp member
  exact ⟨a, there⟩

private theorem mem_keys (member : (key, a) ∈ entries) : key ∈ entries.map Prod.fst :=
  List.mem_map_of_mem member

private theorem lookup_of_mem (once : (entries.map Prod.fst).Nodup) (member : (key, a) ∈ entries) :
    entries.lookup key = some a := by
  have found : (entries.lookup key).isSome := by
    rw [List.lookup_isSome_iff]
    exact ⟨_, member, beq_self_eq_true key⟩
  obtain ⟨b, there⟩ := Option.isSome_iff_exists.mp found
  rw [there, eq_of_nodup_keys once (mem_of_lookup there) member]

/-- Keys that occur once each are the same in any order if there are as many, and all of the ones
are among the others. -/
theorem keys_perm (once : (entries.map Prod.fst).Nodup) (length : entries.length = others.length)
    (among : ∀ entry ∈ entries, entry.1 ∈ others.map Prod.fst) :
    (entries.map Prod.fst).Perm (others.map Prod.fst) := by
  have subset : entries.map Prod.fst ⊆ others.map Prod.fst := by
    intro key member
    obtain ⟨a, there⟩ := exists_of_mem_keys member
    exact among _ there
  refine (List.subperm_of_subset once subset).perm_of_length_le ?_
  rw [List.length_map, List.length_map, length]

end Keys

/-! ## Equal values are the same -/

private theorem same_null_iff : Same null w ↔ w = null := by
  constructor
  · intro same
    cases same with
    | null => rfl
    | number first => cases first
  · rintro rfl
    exact .null

private theorem same_text_iff {s : String} : Same (text s) w ↔ w = text s := by
  constructor
  · intro same
    cases same with
    | text => rfl
    | number first => cases first
  · rintro rfl
    exact .text s

private theorem same_number_iff {a : Amount} (number : v.amount? = some a) :
    Same v w ↔ ∃ q, v.quantity? = some q ∧ w.quantity? = some q := by
  constructor
  · intro same
    cases same with
    | number first second => exact ⟨_, first, second⟩
    | _ => cases number
  · rintro ⟨q, first, second⟩
    exact .number first second

private theorem same_list_iff {items : List Value} :
    Same (list items) w ↔ ∃ others, w = list others ∧ List.Forall₂ Same items others := by
  constructor
  · intro same
    cases same with
    | list same => exact ⟨_, rfl, same⟩
    | number first => cases first
  · rintro ⟨others, rfl, same⟩
    exact .list same

private theorem same_dict_iff {entries : List (String × Value)} : Same (dict entries) w ↔
    ∃ others, w = dict others ∧ (entries.map Prod.fst).Perm (others.map Prod.fst) ∧
      ∀ k v w, (k, v) ∈ entries → (k, w) ∈ others → Same v w := by
  constructor
  · intro same
    cases same with
    | dict keys same => exact ⟨_, rfl, keys, same⟩
    | number first => cases first
  · rintro ⟨others, rfl, keys, same⟩
    exact .dict keys same

private theorem equal_null_iff : null.equal w ↔ w = null := by
  cases w <;> simp [equal]

private theorem equal_text_iff {s : String} : (text s).equal w ↔ w = text s := by
  cases w with
  | text t => rw [equal, beq_iff_eq, Value.text.injEq, eq_comm]
  | _ => simp [equal]

/-- Values are equal exactly if they are the same. -/
theorem equal_iff_same (properFirst : v.isProper) (properSecond : w.isProper) :
    v.equal w ↔ Same v w := by
  induction v using Value.induction generalizing w with
  | null => rw [equal_null_iff, same_null_iff]
  | text s => rw [equal_text_iff, same_text_iff]
  | bool b => rw [equal_number_iff rfl, same_number_iff rfl]
  | int i => rw [equal_number_iff rfl, same_number_iff rfl]
  | double d => rw [equal_number_iff rfl, same_number_iff rfl]
  | list items ih =>
    have proper := isProper_list_iff.mp properFirst
    rw [equal_list_iff, same_list_iff]
    refine exists_congr fun others => and_congr_right ?_
    rintro rfl
    have properOthers := isProper_list_iff.mp properSecond
    have each : ∀ v ∈ items, ∀ w ∈ others, v.equal w ↔ Same v w := fun v member w other =>
      ih v member (proper v member) (properOthers w other)
    exact ⟨fun equal => forall₂_imp_of_mem equal fun v member w other => (each v member w other).mp,
      fun same => forall₂_imp_of_mem same fun v member w other => (each v member w other).mpr⟩
  | dict entries ih =>
    obtain ⟨once, proper⟩ := isProper_dict_iff.mp properFirst
    rw [equal_dict_iff, same_dict_iff]
    refine exists_congr fun others => and_congr_right ?_
    rintro rfl
    obtain ⟨onceOther, properOther⟩ := isProper_dict_iff.mp properSecond
    constructor
    · rintro ⟨length, partners⟩
      refine ⟨keys_perm once length fun entry member => ?_, fun k v w here there => ?_⟩
      · obtain ⟨w, found, -⟩ := partners entry member
        exact mem_keys (mem_of_lookup found)
      · obtain ⟨partner, found, same⟩ := partners _ here
        obtain rfl := eq_of_nodup_keys onceOther there (mem_of_lookup found)
        exact (ih _ here (proper _ here) (properOther _ there)).mp same
    · rintro ⟨keys, same⟩
      refine ⟨by simpa using keys.length_eq, fun entry here => ?_⟩
      obtain ⟨w, there⟩ := exists_of_mem_keys (keys.mem_iff.mp (mem_keys here))
      exact ⟨w, lookup_of_mem onceOther there,
        (ih _ here (proper _ here) (properOther _ there)).mpr (same _ _ _ here there)⟩

namespace Same

theorem symm (same : Same v w) : Same w v := by
  induction v using Value.induction generalizing w with
  | list items ih =>
    obtain ⟨others, rfl, items⟩ := same_list_iff.mp same
    exact .list (forall₂_imp_of_mem items fun _ member _ _ => ih _ member).flip
  | dict entries ih =>
    obtain ⟨others, rfl, keys, values⟩ := same_dict_iff.mp same
    exact .dict keys.symm fun k w v there here => ih _ here (values k v w here there)
  | null =>
    cases same with
    | null => exact .null
    | number first => cases first
  | text s =>
    cases same with
    | text => exact .text s
    | number first => cases first
  | bool _ | int _ | double _ =>
    cases same with
    | number first second => exact .number second first

theorem trans (first : Same u v) (second : Same v w) : Same u w := by
  induction u using Value.induction generalizing v w with
  | list items ih =>
    obtain ⟨others, rfl, items⟩ := same_list_iff.mp first
    obtain ⟨further, rfl, others⟩ := same_list_iff.mp second
    exact .list (forall₂_trans_of_mem items others fun _ member _ _ => ih _ member)
  | dict entries ih =>
    obtain ⟨others, rfl, keys, values⟩ := same_dict_iff.mp first
    obtain ⟨further, rfl, otherKeys, otherValues⟩ := same_dict_iff.mp second
    refine .dict (keys.trans otherKeys) fun k u w here there => ?_
    obtain ⟨v, between⟩ := exists_of_mem_keys (keys.mem_iff.mp (mem_keys here))
    exact ih _ here (values k u v here between) (otherValues k v w between there)
  | null =>
    obtain rfl := same_null_iff.mp first
    exact second
  | text s =>
    obtain rfl := same_text_iff.mp first
    exact second
  | bool _ | int _ | double _ =>
    cases first with
    | number here between =>
      obtain ⟨_, amount, -⟩ := exists_amount_of_quantity between
      obtain ⟨_, again, there⟩ := (same_number_iff amount).mp second
      cases between.symm.trans again
      exact .number here there

end Same

/-- A value is the same as itself if every double in it is a number. -/
theorem same_self_iff (proper : v.isProper) : Same v v ↔ v.isNumbered := by
  induction v using Value.induction with
  | null => exact iff_of_true .null rfl
  | text s => exact iff_of_true (.text s) rfl
  | bool _ | int _ => exact iff_of_true (.number rfl rfl) rfl
  | double d =>
    have numbered : (double d).isNumbered = !d.isNaN := rfl
    rw [same_number_iff rfl, numbered, quantity?]
    cases none : d.isNaN with
    | true => simp
    | false =>
      simp only [Bool.false_eq_true, if_false, and_self, Bool.not_false, iff_true]
      split_ifs <;> exact ⟨_, rfl⟩
  | list items ih =>
    have proper := isProper_list_iff.mp proper
    rw [same_list_iff, isNumbered_list_iff]
    constructor
    · rintro ⟨_, ⟨⟩, same⟩
      intro v member
      exact (ih v member (proper v member)).mp (List.forall₂_same.mp same v member)
    · intro numbered
      exact ⟨_, rfl, List.forall₂_same.mpr fun v member =>
        (ih v member (proper v member)).mpr (numbered v member)⟩
  | dict entries ih =>
    obtain ⟨once, proper⟩ := isProper_dict_iff.mp proper
    rw [same_dict_iff, isNumbered_dict_iff]
    constructor
    · rintro ⟨_, ⟨⟩, -, same⟩
      intro entry member
      exact (ih entry member (proper entry member)).mp (same _ _ _ member member)
    · intro numbered
      refine ⟨_, rfl, .refl _, fun k v w here there => ?_⟩
      obtain rfl := eq_of_nodup_keys once here there
      exact (ih _ here (proper _ here)).mpr (numbered _ here)

end Value

end DrawingCode
