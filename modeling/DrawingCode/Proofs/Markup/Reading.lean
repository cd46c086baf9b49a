import Mathlib.Data.List.Infix
import DrawingCode.Markup.Name
import DrawingCode.Markup.Scalar.Quoted
import DrawingCode.Proofs.Ending

/-! # What readers leave and why they stop

A reader leaves an end of its text, so that what it finds at fault stands in the text that the
reading began with. Apart from a breach of the rules that is an escape with a code above all
characters, or a row of digits that is too long; or the fault lies behind the excerpt.
-/

namespace DrawingCode.Markup

variable {α β : Type} {breach : Option Fault} {text rest : List Char} {fault : Fault}

/-- A text that has an escape of eight hexadecimal digits for a code. -/
def Escapes (text : List Char) (code : Nat) : Prop :=
  ∃ digits, digits.length = 8 ∧ '\\' :: 'U' :: digits <:+: text ∧ hexNumber? digits = some code

/-- Why a reader stops at a fault in a text. -/
inductive Unreadable (breach : Option Fault) (text : List Char) : Fault → Prop where
  | malformed : Unreadable breach text .malformed
  /-- The fault is behind the text. -/
  | behind {fault : Fault} (there : breach = some fault) : Unreadable breach text fault
  | noCharacter {code : Nat} (escapes : Escapes text code) (above : 0x110000 ≤ code) :
    Unreadable breach text .noCharacter
  | hugeCode {code : Nat} (escapes : Escapes text code) (above : 0x80000000 ≤ code) :
    Unreadable breach text .hugeCode
  | tooManyDigits (row : List Char) (within : row <:+: text) (digits : ∀ c ∈ row, c.isDigit)
    (long : mostDigits < row.length) : Unreadable breach text (.tooManyDigits row.length)

theorem Escapes.of_part {code : Nat} (h : Escapes rest code) (part : rest <:+: text) :
    Escapes text code := by
  obtain ⟨digits, count, within, value⟩ := h
  exact ⟨digits, count, within.trans part, value⟩

namespace Unreadable

/-- What is unreadable in one text is so in another if what can be at fault is there as well. -/
theorem imp {other : Option Fault} (h : Unreadable breach rest fault)
    (behind : ∀ fault, breach = some fault → Unreadable other text fault)
    (escapes : ∀ code, Escapes rest code → Escapes text code)
    (rows : ∀ row, row <:+: rest → (∀ c ∈ row, c.isDigit) → row <:+: text) :
    Unreadable other text fault := by
  cases h with
  | malformed => exact .malformed
  | behind there => exact behind _ there
  | noCharacter there above => exact .noCharacter (escapes _ there) above
  | hugeCode there above => exact .hugeCode (escapes _ there) above
  | tooManyDigits row within digits long =>
    exact .tooManyDigits row (rows row within digits) digits long

theorem of_part (h : Unreadable breach rest fault) (part : rest <:+: text) :
    Unreadable breach text fault :=
  h.imp (fun _ => .behind) (fun _ there => there.of_part part) fun _ within _ => within.trans part

theorem endFault : Unreadable breach text (endFault breach) := by
  cases breach with
  | none => exact .malformed
  | some fault => exact .behind rfl

end Unreadable

/-- A check that fails only with a fault that there is a reason for. -/
def Checks (breach : Option Fault) (text : List Char) : Except Fault Unit → Prop :=
  Ends (fun _ => True) (Unreadable breach text)

/-- A reading that leaves an end of the text, or fails with a fault that there is a reason for. -/
def Reads (breach : Option Fault) (text : List Char) : Except Fault (α × List Char) → Prop :=
  Ends (·.2 <:+ text) (Unreadable breach text)

namespace Reads

variable {reading : Except Fault (α × List Char)}

theorem ok {a : α} (left : rest <:+ text) : Reads breach text (.ok (a, rest)) := left

theorem malformed : Reads breach text (.error .malformed : Except Fault (α × List Char)) :=
  Ends.error .malformed

/-- What is read off an end of a text is read off the text. -/
theorem of_suffix (h : Reads breach rest reading) (left : rest <:+ text) :
    Reads breach text reading :=
  h.mono (fun _ further => further.trans left) fun _ reason => reason.of_part left.isInfix

/-- Reading goes on with what the reading before has left. -/
theorem andThen {f : α × List Char → Except Fault (β × List Char)} (h : Reads breach text reading)
    (next : ∀ a rest, rest <:+ text → Reads breach rest (f (a, rest))) :
    Reads breach text (reading >>= f) :=
  h.bind fun (a, rest) left => (next a rest left).of_suffix left

theorem map (f : α → β) (h : Reads breach text reading) :
    Reads breach text (reading.map fun r => (f r.1, r.2)) :=
  Ends.map h fun _ left => left

end Reads

/-- Reading goes on behind a check. -/
theorem Checks.andThen {check : Except Fault Unit} {f : Unit → Except Fault (β × List Char)}
    (h : Checks breach text check) (next : Reads breach text (f ())) :
    Reads breach text (check >>= f) :=
  h.bind fun _ _ => next

/-! ## Line ends in one form

Bringing line ends into one form changes nothing within a line, so a row of characters that has no
line feed stands in the text as it was. -/

private theorem normalizeBreaks_eq_self (noReturn : '\r' ∉ text) : normalizeBreaks text = text := by
  induction text using normalizeBreaks.induct with
  | case1 => rfl
  | case2 | case3 => simp at noReturn
  | case4 c rest notPair notReturn ih =>
    rw [normalizeBreaks, ih fun mem => noReturn (by simp [mem])]
    · exact notPair
    · exact notReturn

theorem isSome_hexValue?_of_mem {digits : List Char} {code : Nat}
    (h : hexNumber? digits = some code) : ∀ c ∈ digits, (hexValue? c).isSome := by
  suffices ∀ start, digits.foldlM (fun n c => (hexValue? c).map (16 * n + ·)) start = some code →
      ∀ c ∈ digits, (hexValue? c).isSome from this 0 h
  clear h
  induction digits with
  | nil => simp
  | cons c digits ih =>
    intro start h
    rw [List.foldlM_cons] at h
    obtain ⟨next, first, rest⟩ := Option.bind_eq_some_iff.mp h
    exact List.forall_mem_cons.mpr ⟨by simpa using Option.isSome_of_mem first, ih next rest⟩

namespace Excerpt

/-- A text of which all characters may stand in one can be read as it is. -/
theorem ofChars_eq_self (allowed : ∀ c ∈ text, isAllowed c) (noReturn : '\r' ∉ text) :
    ofChars text = ⟨text, none⟩ := by
  have none : forbiddenPage? text = .none := by
    simpa [forbiddenPage?, List.findIdx?_eq_none_iff] using allowed
  rw [ofChars, normalizeBreaks_eq_self noReturn]
  simp only [none]

end Excerpt

end DrawingCode.Markup
