/-! # Bytes of a text

A character is one byte, or a leading byte and up to three trailing ones. The leading byte says how
many trail it, and with some of them the first trailing byte has narrower bounds than the others, so
that no character has two spellings and halves of surrogate pairs have none.
-/

namespace DrawingCode.Text.Utf8

/-- The trailing bytes that are missing to complete a character. -/
structure Trail where
  count : Nat
  /-- The least value of the next one. -/
  low : Nat
  /-- The greatest value of the next one. -/
  high : Nat

/-- What trails a byte that begins a character. -/
def trail? (lead : Nat) : Option Trail :=
  if lead < 0x80 then some ⟨0, 0, 0⟩
  else if lead < 0xc2 then none
  else if lead < 0xe0 then some ⟨1, 0x80, 0xbf⟩
  else if lead = 0xe0 then some ⟨2, 0xa0, 0xbf⟩
  else if lead = 0xed then some ⟨2, 0x80, 0x9f⟩
  else if lead < 0xf0 then some ⟨2, 0x80, 0xbf⟩
  else if lead = 0xf0 then some ⟨3, 0x90, 0xbf⟩
  else if lead < 0xf4 then some ⟨3, 0x80, 0xbf⟩
  else if lead = 0xf4 then some ⟨3, 0x80, 0x8f⟩
  else none

/-- How many bytes at the front of a row can be those of a text, the character at hand included. -/
def soundBytes (missing : Trail) : List UInt8 → Nat
  | [] => 0
  | b :: rest =>
    if missing.count = 0 then
      match trail? b.toNat with
      | some missing => soundBytes missing rest + 1
      | none => 0
    else if missing.low ≤ b.toNat ∧ b.toNat ≤ missing.high then
      soundBytes ⟨missing.count - 1, 0x80, 0xbf⟩ rest + 1
    else 0

/-- The place of the first byte that cannot belong to a text, or the end of the bytes. -/
def firstUnsound (bytes : ByteArray) : Nat := soundBytes ⟨0, 0, 0⟩ bytes.data.toList

/-- The characters before the first byte that cannot belong to a text. At most three bytes before it
are those of a character that is not complete. -/
def soundChars (bytes : ByteArray) : List Char :=
  let stop := firstUnsound bytes
  ([0, 1, 2, 3].findSome? fun count => String.fromUTF8? (bytes.extract 0 (stop - count))).elim []
    String.toList

end DrawingCode.Text.Utf8
