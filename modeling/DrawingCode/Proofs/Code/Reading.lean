import DrawingCode.Proofs.Code.Canonical

/-! # Reading statements back

The parts of an operand have no commas in them, so they can be told from the text that lists them.
From the parts the numbers can be told up to what is no number, and from the line of a statement the
statement, as long as the name of its function has no parenthesis.
-/

namespace DrawingCode

namespace Text

/-- What stands before the first separator, and what stands behind it. -/
theorem split_at_separator {first second rest more : List Char} {separator : Char}
    (one : separator ∉ first) (two : separator ∉ second)
    (same : first ++ separator :: rest = second ++ separator :: more) :
    first = second ∧ rest = more := by
  have split := congrArg (List.splitOn separator) same
  rw [List.splitOn_append_cons_self_of_not_mem one,
    List.splitOn_append_cons_self_of_not_mem two] at split
  obtain rfl := List.head_eq_of_cons_eq split
  exact ⟨rfl, (List.cons.inj (List.append_cancel_left same)).2⟩

/-- What stands before the last separator, and what stands behind it. -/
theorem split_at_last_separator {first second rest more : List Char} {separator : Char}
    (one : separator ∉ rest) (two : separator ∉ more)
    (same : first ++ separator :: rest = second ++ separator :: more) :
    first = second ∧ rest = more := by
  have reversed := congrArg List.reverse same
  simp only [List.reverse_append, List.reverse_cons, List.append_assoc, List.singleton_append]
    at reversed
  obtain ⟨rests, firsts⟩ := split_at_separator (List.mem_reverse.not.mpr one)
    (List.mem_reverse.not.mpr two) reversed
  exact ⟨List.reverse_injective firsts, List.reverse_injective rests⟩

/-- A part of a list that is written with commas. -/
structure IsPart (part : String) : Prop where
  nonempty : part ≠ ""
  noComma : ',' ∉ part.toList

theorem IsPart.behind {part before : String} (whole : IsPart part)
    (noComma : ',' ∉ before.toList) : IsPart (before ++ part) := by
  constructor
  · intro empty
    exact whole.nonempty (String.append_eq_empty_iff.mp empty).2
  · simp [noComma, whole.noComma]

theorem IsPart.before {part after : String} (whole : IsPart part)
    (noComma : ',' ∉ after.toList) : IsPart (part ++ after) := by
  constructor
  · intro empty
    exact whole.nonempty (String.append_eq_empty_iff.mp empty).1
  · simp [noComma, whole.noComma]

private theorem intercalate_cons_ne_nil {part : String} (whole : IsPart part) (rest : List String) :
    ", ".intercalate (part :: rest) ≠ "" := by
  intro empty
  cases rest with
  | nil => exact whole.nonempty (String.intercalate_singleton.symm.trans empty)
  | cons next rest =>
    rw [String.intercalate_cons_cons] at empty
    have chars := congrArg String.toList empty
    simp at chars

private theorem intercalate_cons_ne_singleton {part next other : String} (whole : IsPart other)
    (rest : List String) : ", ".intercalate (part :: next :: rest) ≠ other := by
  rintro rfl
  apply whole.noComma
  simp [String.intercalate_cons_cons]

/-- The parts can be told from the text that lists them. -/
theorem intercalate_comma_inj {first second : List String} (one : ∀ a ∈ first, IsPart a)
    (two : ∀ a ∈ second, IsPart a)
    (same : ", ".intercalate first = ", ".intercalate second) : first = second := by
  induction first generalizing second with
  | nil =>
    cases second with
    | nil => rfl
    | cons b more => exact absurd same.symm (intercalate_cons_ne_nil (two b (by simp)) more)
  | cons a rest ih =>
    have here : IsPart a := one a (List.mem_cons_self ..)
    cases second with
    | nil => exact absurd same (intercalate_cons_ne_nil here rest)
    | cons b more =>
      have there : IsPart b := two b (List.mem_cons_self ..)
      cases rest with
      | nil =>
        cases more with
        | nil => simpa using same
        | cons other more =>
          exact absurd (same.symm.trans String.intercalate_singleton)
            (intercalate_cons_ne_singleton here more)
      | cons next rest =>
        cases more with
        | nil =>
          exact absurd (same.trans String.intercalate_singleton)
            (intercalate_cons_ne_singleton there rest)
        | cons other more =>
          rw [String.intercalate_cons_cons, String.intercalate_cons_cons] at same
          have chars := congrArg String.toList same
          simp only [String.toList_append, List.append_assoc] at chars
          obtain ⟨equal, tail⟩ := split_at_separator here.noComma there.noComma chars
          have later : next :: rest = other :: more := by
            apply ih
            · exact (List.forall_mem_cons.mp one).2
            · exact (List.forall_mem_cons.mp two).2
            · exact String.toList_inj.mp (List.cons.inj tail).2
          rw [String.toList_inj.mp equal, later]

end Text

namespace Code

open Text

/-- The texts between the commas of an operand. -/
def Operand.parts : Operand → List String
  | points ps => ps.flatMap fun p => [castText p.x, castText p.y]
  | number d => [castText d]
  | rect r => ["CGRectMake(" ++ castText r.x, castText r.y, castText r.width,
      castText r.height ++ ")"]
  | transform t => ["CGAffineTransformMake(" ++ t.a.text, t.b.text, t.c.text, t.d.text,
      t.tx.text, t.ty.text ++ ")"]
  | color id => [colorName id]

private theorem pointsText_cons (p : Point Double) (rest : List (Point Double)) (some : rest ≠ []) :
    pointsText (p :: rest) = castText p.x ++ ", " ++ castText p.y ++ ", " ++ pointsText rest := by
  rw [pointsText, pointsText, List.map_cons, String.intercalate_cons_of_ne_nil]
  intro none
  exact some (List.map_eq_nil_iff.mp none)

private theorem pointsText_eq_intercalate (points : List (Point Double)) :
    pointsText points = ", ".intercalate (Operand.points points).parts := by
  induction points with
  | nil => rfl
  | cons p rest ih =>
    cases rest with
    | nil =>
      unfold pointsText Operand.parts
      simp
    | cons next rest =>
      rw [pointsText_cons p (next :: rest) (by simp), ih]
      unfold Operand.parts
      simp [String.append_assoc]

theorem Operand.text_eq_intercalate (o : Operand) : o.text = ", ".intercalate o.parts := by
  cases o with
  | points ps => exact pointsText_eq_intercalate ps
  | number | color => exact String.intercalate_singleton.symm
  | rect r =>
    unfold text rectText parts
    simp [String.append_assoc]
  | transform t =>
    unfold text transformText parts
    simp [String.append_assoc]

theorem not_mem_text {c : Char} (other : c ∉ Double.numeralChars) (d : Double) :
    c ∉ d.text.toList := by
  intro member
  exact other (Double.mem_numeralChars_of_mem_text d c member)

private theorem text_ne_empty (d : Double) : d.text ≠ "" := by
  intro empty
  have read := d.read?_text
  rw [empty] at read
  cases read

private theorem isPart_text (d : Double) :
    IsPart d.text := ⟨text_ne_empty d, not_mem_text (by decide) d⟩

private theorem isPart_castText (d : Double) :
    IsPart (castText d) := (isPart_text d).behind (by decide)

private theorem colorName_inj {id other : Nat} (same : colorName id = colorName other) :
    id = other := by
  have numerals := (String.append_right_inj "color").mp same
  rw [Nat.toString_eq_ofList_toDigits, Nat.toString_eq_ofList_toDigits] at numerals
  have digits := congrArg (Nat.ofDigitChars 10 · 0) (String.ofList_injective numerals)
  simpa using digits

theorem toList_colorName (id : Nat) :
    (colorName id).toList = ['c', 'o', 'l', 'o', 'r'] ++ Nat.toDigits 10 id := by
  simp [colorName]

theorem mem_colorName {id : Nat} {c : Char} (member : c ∈ (colorName id).toList) :
    c ∈ ['c', 'o', 'l', 'o', 'r'] ∨ c.isDigit := by
  rw [toList_colorName, List.mem_append] at member
  exact member.imp_right fun digit => Nat.isDigit_of_mem_toDigits (by decide) (by decide) digit

theorem not_mem_colorName {c : Char} (noLetter : c ∉ ['c', 'o', 'l', 'o', 'r'])
    (noDigit : ¬ c.isDigit) (id : Nat) : c ∉ (colorName id).toList := by
  intro member
  rcases mem_colorName member with letter | digit
  · exact noLetter letter
  · exact noDigit digit

private theorem isPart_colorName (id : Nat) : IsPart (colorName id) := by
  constructor
  · simp [colorName]
  · apply not_mem_colorName
    · decide
    · decide

private theorem Operand.isPart_of_mem (o : Operand) : ∀ part ∈ o.parts, IsPart part := by
  have castPart := isPart_castText
  have textPart := isPart_text
  cases o with
  | points ps =>
    intro part member
    obtain ⟨p, _, here⟩ := List.mem_flatMap.mp member
    have both := List.forall_mem_cons.mpr
      ⟨castPart p.x, List.forall_mem_singleton.mpr (castPart p.y)⟩
    exact both part here
  | number d => exact List.forall_mem_singleton.mpr (castPart d)
  | rect r =>
    unfold parts
    simp only [List.forall_mem_cons]
    exact ⟨(castPart r.x).behind (by decide), castPart r.y, castPart r.width,
      (castPart r.height).before (by decide), List.forall_mem_nil _⟩
  | transform t =>
    unfold parts
    simp only [List.forall_mem_cons]
    exact ⟨(textPart t.a).behind (by decide), textPart t.b, textPart t.c, textPart t.d,
      textPart t.tx, (textPart t.ty).before (by decide), List.forall_mem_nil _⟩
  | color id => exact List.forall_mem_singleton.mpr (isPart_colorName id)

private theorem canonical_eq_of_castText {a b : Double} (same : castText a = castText b) :
    a.canonical = b.canonical :=
  (Double.text_eq_text_iff a b).mp ((String.append_right_inj _).mp same)

/-- A mark that each kind of operand has to itself. -/
def Operand.mark : Operand → Nat × List Char
  | points _ => (0, ['(', 'C', 'G'])
  | number _ => (1, ['(', 'C', 'G'])
  | rect _ => (0, ['C', 'G', 'R'])
  | transform _ => (0, ['C', 'G', 'A'])
  | color _ => (1, ['c', 'o', 'l'])

/-- The mark is told from whether there is an odd number of parts and from how the first begins. -/
def markOfParts (parts : List String) : Nat × List Char :=
  (parts.length % 2, (parts.headD "(CG").toList.take 3)

private theorem toList_castText (d : Double) :
    (castText d).toList = ['(', 'C', 'G', 'F', 'l', 'o', 'a', 't', ')'] ++ d.text.toList := by
  simp [castText]

private theorem length_points_parts (ps : List (Point Double)) :
    (Operand.points ps).parts.length = 2 * ps.length := by
  induction ps with
  | nil => rfl
  | cons p rest ih =>
    have parts : (Operand.points (p :: rest)).parts =
        castText p.x :: castText p.y :: (Operand.points rest).parts := rfl
    rw [parts, List.length_cons, List.length_cons, ih, List.length_cons]
    rfl

private theorem markOfParts_parts (o : Operand) : markOfParts o.parts = o.mark := by
  cases o with
  | points ps =>
    rw [markOfParts, length_points_parts, Nat.mul_mod_right]
    cases ps with
    | nil => rfl
    | cons p rest =>
      have first : (Operand.points (p :: rest)).parts.headD "(CG" = castText p.x := rfl
      rw [first, toList_castText]
      rfl
  | number d =>
    have first : (Operand.number d).parts.headD "(CG" = castText d := rfl
    rw [markOfParts, first, toList_castText]
    rfl
  | rect r =>
    unfold markOfParts Operand.parts
    simp [Operand.mark]
  | transform t =>
    unfold markOfParts Operand.parts
    simp [Operand.mark]
  | color id =>
    have first : (Operand.color id).parts.headD "(CG" = colorName id := rfl
    rw [markOfParts, first, toList_colorName]
    rfl

private theorem points_of_parts {ps qs : List (Point Double)}
    (same : (Operand.points ps).parts = (Operand.points qs).parts) :
    ps.map (Point.map Double.canonical) = qs.map (Point.map Double.canonical) := by
  induction ps generalizing qs with
  | nil =>
    cases qs with
    | nil => rfl
    | cons q more => cases same
  | cons p rest ih =>
    cases qs with
    | nil => cases same
    | cons q more =>
      obtain ⟨x, afterX⟩ := List.cons.inj same
      obtain ⟨y, afterY⟩ := List.cons.inj afterX
      rw [List.map_cons, List.map_cons, ih afterY, Point.map, Point.map,
        canonical_eq_of_castText x, canonical_eq_of_castText y]

private theorem rect_of_parts {r q : Rect Double}
    (same : (Operand.rect r).parts = (Operand.rect q).parts) :
    r.map Double.canonical = q.map Double.canonical := by
  unfold Operand.parts at same
  simp only [List.cons.injEq, String.append_right_inj, String.append_left_inj] at same
  obtain ⟨x, y, width, height, _⟩ := same
  unfold Rect.map
  rw [canonical_eq_of_castText x, canonical_eq_of_castText y, canonical_eq_of_castText width,
    canonical_eq_of_castText height]

private theorem transform_of_parts {t u : Transform Double}
    (same : (Operand.transform t).parts = (Operand.transform u).parts) :
    t.map Double.canonical = u.map Double.canonical := by
  unfold Operand.parts at same
  simp only [List.cons.injEq, String.append_right_inj, String.append_left_inj,
    Double.text_eq_text_iff] at same
  obtain ⟨a, b, c, d, tx, ty, _⟩ := same
  unfold Transform.map
  rw [a, b, c, d, tx, ty]

private theorem Operand.canonical_eq_of_parts {a b : Operand} (same : a.parts = b.parts) :
    a.canonical = b.canonical := by
  have marks : a.mark = b.mark := by rw [← markOfParts_parts, same, markOfParts_parts]
  cases a <;> cases b
  case points.points => exact congrArg points (points_of_parts same)
  case number.number =>
    exact congrArg number (canonical_eq_of_castText (List.head_eq_of_cons_eq same))
  case rect.rect => exact congrArg rect (rect_of_parts same)
  case transform.transform => exact congrArg transform (transform_of_parts same)
  case color.color => exact congrArg color (colorName_inj (List.head_eq_of_cons_eq same))
  all_goals simp [mark] at marks

/-- Operands have the same text exactly if they are the same up to what is no number. -/
theorem Operand.text_eq_text_iff {a b : Operand} : a.text = b.text ↔ a.canonical = b.canonical := by
  constructor
  · intro same
    rw [a.text_eq_intercalate, b.text_eq_intercalate] at same
    exact canonical_eq_of_parts (intercalate_comma_inj a.isPart_of_mem b.isPart_of_mem same)
  · intro same
    rw [← a.text_canonical, same, b.text_canonical]

/-- The part of a line that passes an operand. -/
def passed : Option Operand → String
  | some o => ", " ++ o.text
  | none => ""

theorem line_call (function : String) (operand : Option Operand) :
    (Statement.call function operand).line =
      "  CGContext" ++ function ++ "(context" ++ passed operand ++ ");" := by
  unfold Statement.line passed
  rfl

private theorem canonical_eq_of_passed {a b : Option Operand} (same : passed a = passed b) :
    a.map Operand.canonical = b.map Operand.canonical := by
  cases a with
  | none =>
    cases b with
    | none => rfl
    | some o => exact absurd (congrArg String.toList same) (by simp [passed])
  | some o =>
    cases b with
    | none => exact absurd (congrArg String.toList same) (by simp [passed])
    | some p =>
      have texts := (String.append_right_inj ", ").mp same
      exact congrArg some (Operand.text_eq_text_iff.mp texts)

/-- The texts between the commas of a list of components. -/
def componentParts (c : Color Double) : List String :=
  ["(CGFloat [])\x7b" ++ castText c.red, castText c.green, castText c.blue, "1\x7d"]

theorem componentsText_eq_intercalate (c : Color Double) :
    componentsText c = ", ".intercalate (componentParts c) := by
  unfold componentsText componentParts
  simp [String.append_assoc]

private theorem isPart_of_mem_componentParts (c : Color Double) :
    ∀ part ∈ componentParts c, IsPart part := by
  unfold componentParts
  simp only [List.forall_mem_cons]
  exact ⟨(isPart_castText c.red).behind (by decide), isPart_castText c.green,
    isPart_castText c.blue, ⟨by decide, by decide⟩, List.forall_mem_nil _⟩

private theorem canonical_eq_of_componentsText {c e : Color Double}
    (same : componentsText c = componentsText e) :
    c.map Double.canonical = e.map Double.canonical := by
  rw [componentsText_eq_intercalate, componentsText_eq_intercalate] at same
  have parts := intercalate_comma_inj (isPart_of_mem_componentParts c)
    (isPart_of_mem_componentParts e) same
  unfold componentParts at parts
  simp only [List.cons.injEq, String.append_right_inj] at parts
  obtain ⟨red, green, blue, _⟩ := parts
  unfold Color.map
  rw [canonical_eq_of_castText red, canonical_eq_of_castText green, canonical_eq_of_castText blue]

/-- Whether the function that a statement calls, if it calls one, has a name of letters. -/
def Statement.Plain : Statement → Prop
  | call function _ => ∀ c ∈ function.toList, c.isAlpha
  | _ => True

private theorem canonical_eq_of_call {function other : String} {a b : Option Operand}
    (plain : ∀ c ∈ function.toList, c.isAlpha) (otherPlain : ∀ c ∈ other.toList, c.isAlpha)
    (same : (Statement.call function a).line = (Statement.call other b).line) :
    (Statement.call function a).canonical = (Statement.call other b).canonical := by
  have chars : function.toList ++ '(' :: ("context" ++ passed a ++ ");").toList =
      other.toList ++ '(' :: ("context" ++ passed b ++ ");").toList := by
    simpa [line_call] using congrArg String.toList same
  have noParenthesis {name : String} (letters : ∀ c ∈ name.toList, c.isAlpha) :
      '(' ∉ name.toList := by
    intro member
    exact absurd (letters '(' member) (by decide)
  obtain ⟨functions, rest⟩ :=
    split_at_separator (noParenthesis plain) (noParenthesis otherPlain) chars
  have operands := String.toList_inj.mp rest
  rw [String.append_left_inj, String.append_right_inj] at operands
  have call (f : String) (o : Option Operand) :
      (Statement.call f o).canonical = .call f (o.map Operand.canonical) := rfl
  rw [call, call, String.toList_inj.mp functions, canonical_eq_of_passed operands]

private theorem canonical_eq_of_createColor {id other : Nat} {c e : Color Double}
    (same : (Statement.createColor id c).line = (Statement.createColor other e).line) :
    (Statement.createColor id c).canonical = (Statement.createColor other e).canonical := by
  have chars : (colorName id).toList ++ ' ' ::
        ("= CGColorCreate(rgbColorSpace, " ++ componentsText c ++ ");").toList =
      (colorName other).toList ++ ' ' ::
        ("= CGColorCreate(rgbColorSpace, " ++ componentsText e ++ ");").toList := by
    have texts := congrArg String.toList same
    unfold Statement.line spaceName at texts
    simpa using texts
  have noBlank := @not_mem_colorName ' ' (by decide) (by decide)
  obtain ⟨names, rest⟩ := split_at_separator (noBlank id) (noBlank other) chars
  have components := String.toList_inj.mp rest
  rw [String.append_left_inj, String.append_right_inj] at components
  have create (id : Nat) (c : Color Double) :
      (Statement.createColor id c).canonical = .createColor id (c.map Double.canonical) := rfl
  rw [create, create, colorName_inj (String.toList_inj.mp names),
    canonical_eq_of_componentsText components]

private theorem eq_of_releaseColor {id other : Nat}
    (same : (Statement.releaseColor id).line = (Statement.releaseColor other).line) :
    id = other := by
  unfold Statement.line at same
  simp only [String.append_left_inj, String.append_right_inj] at same
  exact colorName_inj same

/-- Statements have the same line exactly if they are the same up to what is no number. -/
theorem Statement.line_eq_line_iff {a b : Statement} (plain : a.Plain) (otherPlain : b.Plain) :
    a.line = b.line ↔ a.canonical = b.canonical := by
  constructor
  · intro same
    have chars := congrArg String.toList same
    cases a <;> cases b
    case call.call => exact canonical_eq_of_call plain otherPlain same
    case createSpace.createSpace | releaseSpace.releaseSpace => rfl
    case createColor.createColor => exact canonical_eq_of_createColor same
    case releaseColor.releaseColor => rw [eq_of_releaseColor same]
    all_goals
      unfold line at chars
      simp at chars
  · intro same
    rw [← a.line_canonical, same, b.line_canonical]

end Code

end DrawingCode
