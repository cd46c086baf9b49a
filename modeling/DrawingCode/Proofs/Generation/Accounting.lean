import DrawingCode.Proofs.Generation.Faults

/-! # How many numbers a run takes

A run of the implementation generator takes a number for every colour up to where it ends. If it
succeeds these are the colours of all items. If it fails they are the colours before the item that
it fails at, and one more if this item sets a colour itself, since the number is taken before the
components are looked at. A run of the header generator takes no number.
-/

namespace DrawingCode

variable {α β : Type}

/-- How many of some items set a colour. -/
def colorCount (items : List Item) : Nat := items.countP Item.isColor

theorem colorCount_append (items more : List Item) :
    colorCount (items ++ more) = colorCount items + colorCount more := List.countP_append

private theorem colorCount_singleton (item : Item) :
    colorCount [item] = if item.isColor then 1 else 0 := by
  rw [colorCount, List.countP_singleton]

/-- Among some items the first that cannot be drawn, with those before it and the reason. -/
structure FirstUndrawable (items earlier : List Item) (item : Item) (e : Failure) : Prop where
  split : ∃ later, items = earlier ++ item :: later
  drawable : ∀ other ∈ earlier, ¬ other.Undrawable
  fault : item.drawingFault? = some e

/-- A run that draws items and starts with a count accounts for its numbers: it succeeds with one
for every colour, or fails at the first item that cannot be drawn, with one for every colour before
this item and for the item itself. -/
structure Run.Accounts (run : Run α) (items : List Item) (start : Nat) : Prop where
  returns : ∀ {a left}, run.Returns a left →
    (∀ item ∈ items, ¬ item.Undrawable) ∧ left = start + colorCount items
  fails : ∀ {e left}, run.Fails e left → ∃ earlier item, FirstUndrawable items earlier item e ∧
    left = start + colorCount earlier + if item.isColor then 1 else 0

namespace Run

private theorem Accounts.of_ok {run : Run α} {a : α} (success : run.outcome = .ok a) :
    run.Accounts [] run.issued := by
  constructor
  · intro _ _ returns
    exact ⟨List.forall_mem_nil _, returns.count.symm⟩
  · intro _ _ fails
    cases success.symm.trans fails.outcome

theorem Accounts.map {run : Run α} {items : List Item} {start : Nat} (f : α → β)
    (accounts : run.Accounts items start) : (run.map f).Accounts items start := by
  constructor
  · intro _ _ returns
    obtain ⟨_, returns, _⟩ := returns_map_iff.mp returns
    exact accounts.returns returns
  · intro _ _ fails
    exact accounts.fails (fails_map_iff.mp fails)

/-- Of two runs one after another the second accounts for its numbers from where the first ends. -/
theorem Accounts.andThen {first : Run α} {next : α → Nat → Run β} {items more : List Item}
    {start : Nat} (here : first.Accounts items start)
    (later : ∀ a middle, (next a middle).Accounts more middle) :
    (first.andThen next).Accounts (items ++ more) start := by
  constructor
  · intro b left returns
    obtain ⟨a, middle, before, behind⟩ := returns_andThen_iff.mp returns
    obtain ⟨drawable, rfl⟩ := here.returns before
    obtain ⟨others, rfl⟩ := (later a _).returns behind
    refine ⟨List.forall_mem_append.mpr ⟨drawable, others⟩, ?_⟩
    rw [colorCount_append, Nat.add_assoc]
  · intro e left fails
    rcases fails_andThen_iff.mp fails with before | ⟨a, middle, before, behind⟩
    · obtain ⟨earlier, item, ⟨⟨rest, rfl⟩, drawable, fault⟩, count⟩ := here.fails before
      exact ⟨earlier, item, ⟨⟨rest ++ more, by simp⟩, drawable, fault⟩, count⟩
    · obtain ⟨drawable, rfl⟩ := here.returns before
      obtain ⟨earlier, item, ⟨⟨rest, rfl⟩, others, fault⟩, rfl⟩ := (later a _).fails behind
      refine ⟨items ++ earlier, item, ⟨⟨rest, by simp⟩, ?_, fault⟩, ?_⟩
      · exact List.forall_mem_append.mpr ⟨drawable, others⟩
      · rw [colorCount_append, Nat.add_assoc start]

private theorem issued_andThen_eq {first : Run α} {next : α → Nat → Run β} {start : Nat}
    (here : first.issued = start) (later : ∀ a, (next a start).issued = start) :
    (first.andThen next).issued = start := by
  subst here
  unfold Run.andThen
  cases first.outcome with
  | ok a => exact later a
  | error e => rfl

end Run

namespace Generator

section Implementation

variable (settings : Settings)

/-- A step that sets a colour takes a number, whether its components are numbers or not. -/
theorem issued_command (item : Item) (issued : Nat) :
    ((implementation settings).command item issued).issued = issued + colorCount [item] := by
  rw [colorCount_singleton]
  cases item with
  | step s =>
    have taken : (if s.isColor then issued + 1 else issued) =
        issued + if s.isColor then 1 else 0 := by
      split_ifs <;> rfl
    simp only [command, Item.isColor]
    cases s.mapM Value.toDouble <;> exact taken
  | _ => rfl

private theorem command_accounts (item : Item) (issued : Nat) :
    ((implementation settings).command item issued).Accounts [item] issued := by
  have fault : ((implementation settings).command item issued).fault? = item.drawingFault? :=
    command_fault? item issued
  have count := issued_command settings item issued
  constructor
  · intro lines left returns
    refine ⟨List.forall_mem_singleton.mpr ?_, returns.count ▸ count⟩
    rw [← Item.isSome_drawingFault?_iff, ← fault, ← Run.exists_error_iff]
    rintro ⟨e, failed⟩
    cases returns.outcome.symm.trans failed
  · intro e left fails
    refine ⟨[], item, ⟨⟨[], rfl⟩, List.forall_mem_nil _, ?_⟩, ?_⟩
    · rw [← fault, Run.fault?_eq_some_iff]
      exact fails.outcome
    · rw [← fails.count, count, colorCount_singleton]
      rfl

private theorem body_accounts (items : List Item) (issued : Nat) :
    ((implementation settings).body items issued).Accounts items issued := by
  induction items generalizing issued with
  | nil => exact .of_ok rfl
  | cons item rest ih =>
    exact (command_accounts settings item issued).andThen fun _ afterItem => (ih afterItem).map _

theorem imageFunction_accounts (image : Image) (issued : Nat) :
    ((implementation settings).imageFunction image issued).Accounts image.route.items issued := by
  have opening : (Run.ofExcept ((implementation settings).opening image.name
      image.route.bounds.size) issued).Accounts [] issued := .of_ok rfl
  exact opening.andThen fun _ afterOpening => (body_accounts settings _ afterOpening).map _

private theorem blocks_accounts (images : List Image) (issued : Nat) :
    ((implementation settings).blocks images issued).Accounts
      (images.flatMap (·.route.items)) issued := by
  induction images generalizing issued with
  | nil => exact .of_ok rfl
  | cons image rest ih =>
    rw [List.flatMap_cons]
    apply (imageFunction_accounts settings image issued).andThen
    intro lines afterImage
    have record : (Run.mk (.ok ()) afterImage [.imageEmitted image.name image.route.items.length
        lines.length (afterImage - issued)]).Accounts [] afterImage := .of_ok rfl
    have recorded := record.andThen fun _ middle => (ih middle).map (lines :: ·)
    exact recorded

private theorem file_accounts (images : List Image) (issued : Nat) :
    ((implementation settings).file images issued).Accounts
      (images.flatMap (·.route.items)) issued := by
  rw [← List.append_nil (images.flatMap _)]
  exact (blocks_accounts settings images issued).andThen fun _ afterImages => .of_ok rfl

end Implementation

section Header

variable (functionPrefix toolName : String)

private theorem header_issued_command (item : Item) (issued : Nat) :
    ((header functionPrefix toolName).command item issued).issued = issued := by
  simp only [command]
  split_ifs <;> rfl

private theorem header_issued_imageFunction (image : Image) (issued : Nat) :
    ((header functionPrefix toolName).imageFunction image issued).issued = issued := by
  have body (items : List Item) :
      ((header functionPrefix toolName).body items issued).issued = issued := by
    induction items with
    | nil => rfl
    | cons item rest ih =>
      exact Run.issued_andThen_eq (header_issued_command functionPrefix toolName item issued)
        fun _ => ih
  exact Run.issued_andThen_eq rfl fun _ => body _

private theorem header_issued_file (images : List Image) (issued : Nat) :
    ((header functionPrefix toolName).file images issued).issued = issued := by
  have blocks : ((header functionPrefix toolName).blocks images issued).issued = issued := by
    induction images with
    | nil => rfl
    | cons image rest ih =>
      exact Run.issued_andThen_eq (header_issued_imageFunction functionPrefix toolName image issued)
        fun _ => Run.issued_andThen_eq rfl fun _ => ih
  exact Run.issued_andThen_eq blocks fun _ => rfl

end Header

/-- A run of the implementation generator, for an item, an image or a list of images, takes a number
for every colour, if it fails up to and including the item that it fails at. A run of the header
generator takes none, whether it succeeds or fails. -/
theorem numbers_accounted_for :
    (∀ settings start,
      (∀ item, ((implementation settings).command item start).Accounts [item] start) ∧
      (∀ image,
        ((implementation settings).imageFunction image start).Accounts image.route.items start) ∧
      ∀ images, ((implementation settings).file images start).Accounts
        (images.flatMap (·.route.items)) start) ∧
    ∀ functionPrefix toolName start,
      (∀ item, ((header functionPrefix toolName).command item start).issued = start) ∧
      (∀ image, ((header functionPrefix toolName).imageFunction image start).issued = start) ∧
      ∀ images, ((header functionPrefix toolName).file images start).issued = start := by
  constructor
  · intro settings start
    exact ⟨fun item => command_accounts settings item start,
      fun image => imageFunction_accounts settings image start,
      fun images => file_accounts settings images start⟩
  · intro functionPrefix toolName start
    exact ⟨fun item => header_issued_command functionPrefix toolName item start,
      fun image => header_issued_imageFunction functionPrefix toolName image start,
      fun images => header_issued_file functionPrefix toolName images start⟩

end Generator

end DrawingCode
