/-!
# UTF-8

Bytes of texts, and texts of bytes where each ill-formed part becomes one replacement character.
-/

namespace PagedQuery.Text

/-- The replacement character. -/
def replacement : Char := '\uFFFD'

/-- A character whose first bytes have been read: how many are missing, the range of the next
one, and the bits read so far. -/
structure Pending where
  missing : Nat
  low : Nat
  high : Nat
  bits : Nat

/-- What the first byte of a character announces: a character, a pending one, or nothing valid. -/
def leadByte (b : Nat) : List Char × Option Pending :=
  if b < 0x80 then ([Char.ofNat b], none)
  else if b < 0xC2 then ([replacement], none)
  else if b < 0xE0 then ([], some ⟨1, 0x80, 0xBF, b - 0xC0⟩)
  else if b = 0xE0 then ([], some ⟨2, 0xA0, 0xBF, 0⟩)
  else if b = 0xED then ([], some ⟨2, 0x80, 0x9F, 0xD⟩)
  else if b < 0xF0 then ([], some ⟨2, 0x80, 0xBF, b - 0xE0⟩)
  else if b = 0xF0 then ([], some ⟨3, 0x90, 0xBF, 0⟩)
  else if b < 0xF4 then ([], some ⟨3, 0x80, 0xBF, b - 0xF0⟩)
  else if b = 0xF4 then ([], some ⟨3, 0x80, 0x8F, 4⟩)
  else ([replacement], none)

/-- The characters completed by one more byte, and what is pending after it. -/
def decodeByte (pending : Option Pending) (b : Nat) : List Char × Option Pending :=
  match pending with
  | none => leadByte b
  | some p =>
    if p.low ≤ b ∧ b ≤ p.high then
      let bits := p.bits * 64 + (b - 0x80)
      if p.missing ≤ 1 then ([Char.ofNat bits], none)
      else ([], some ⟨p.missing - 1, 0x80, 0xBF, bits⟩)
    else
      let (chars, next) := leadByte b
      (replacement :: chars, next)

def decodeFrom (pending : Option Pending) : List UInt8 → List Char
  | [] => if pending.isSome then [replacement] else []
  | b :: rest =>
    let (chars, next) := decodeByte pending b.toNat
    chars ++ decodeFrom next rest

/-- The text of a list of bytes, ill-formed parts replaced. -/
def decodeUtf8 (bytes : List UInt8) : List Char := decodeFrom none bytes

/-- The text of bytes in an encoding of a name: Latin-1 has one byte for each character, all others
are read as UTF-8. -/
def ofBytes (encoding : String) (bytes : List UInt8) : String :=
  let name := encoding.toList.filterMap fun c => if c.isAlphanum then some c.toLower else none
  if ["latin1", "iso88591", "latin", "l1"].contains (String.ofList name) then
    String.ofList (bytes.map fun b => Char.ofNat b.toNat)
  else String.ofList (decodeUtf8 bytes)

def encodeUtf8 (cs : List Char) : List UInt8 := cs.flatMap String.utf8EncodeChar

end PagedQuery.Text
