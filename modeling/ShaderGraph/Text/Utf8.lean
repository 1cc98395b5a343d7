/-!
# Bytes as text

Bytes are text when they are well-formed UTF-8. Otherwise the fault tells where the first bad
sequence starts, and how many of its bytes could still have begun a character; the count is absent
when the bytes merely end inside a character.
-/

set_option autoImplicit false

namespace ShaderGraph.Text.Utf8

/-- Why bytes are not text. -/
structure Fault where
  /-- Index of the first byte of the bad sequence. -/
  start : Nat
  /-- Bytes of the bad sequence; `none` when the input ends inside it. -/
  length : Option Nat
deriving DecidableEq, Repr

/-- The fault in words. -/
def Fault.message (fault : Fault) : String :=
  match fault.length with
  | some n => s!"invalid utf-8 sequence of {n} bytes from index {fault.start}"
  | none => s!"incomplete utf-8 byte sequence from index {fault.start}"

/-- A character begun but not finished: bytes read and owed, and the range of the next one. -/
structure Pending where
  read : Nat
  owed : Nat
  least : Nat
  greatest : Nat

/-- What a first byte promises: the character it begins, or `none` if it begins no longer one. -/
def begin? (byte : Nat) : Option Pending :=
  if 0xc2 ≤ byte ∧ byte ≤ 0xdf then some ⟨1, 1, 0x80, 0xbf⟩
  else if byte = 0xe0 then some ⟨1, 2, 0xa0, 0xbf⟩
  else if byte = 0xed then some ⟨1, 2, 0x80, 0x9f⟩
  else if 0xe1 ≤ byte ∧ byte ≤ 0xef then some ⟨1, 2, 0x80, 0xbf⟩
  else if byte = 0xf0 then some ⟨1, 3, 0x90, 0xbf⟩
  else if byte = 0xf4 then some ⟨1, 3, 0x80, 0x8f⟩
  else if 0xf1 ≤ byte ∧ byte ≤ 0xf3 then some ⟨1, 3, 0x80, 0xbf⟩
  else none

/-- The first fault of the bytes from `index` on, inside the character `pending` if there is one. -/
def faultFrom (index : Nat) : Option Pending → List UInt8 → Option Fault
  | none, [] => none
  | some pending, [] => some ⟨index - pending.read, none⟩
  | none, byte :: rest =>
    if byte.toNat < 0x80 then faultFrom (index + 1) none rest
    else match begin? byte.toNat with
      | none => some ⟨index, some 1⟩
      | some pending => faultFrom (index + 1) (some pending) rest
  | some pending, byte :: rest =>
    if pending.least ≤ byte.toNat ∧ byte.toNat ≤ pending.greatest then
      faultFrom (index + 1)
        (if pending.owed ≤ 1 then none
          else some ⟨pending.read + 1, pending.owed - 1, 0x80, 0xbf⟩) rest
    else some ⟨index - pending.read, some pending.read⟩

/-- The text that the bytes encode, or the first place where they encode none. -/
def decode (bytes : ByteArray) : Except Fault String :=
  match String.fromUTF8? bytes with
  | some text => .ok text
  | none => .error ((faultFrom 0 none bytes.toList).getD ⟨0, none⟩)

/-- The bytes that encode a text. -/
def encode (text : String) : ByteArray := text.toUTF8

end ShaderGraph.Text.Utf8
