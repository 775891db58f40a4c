/-
This file reads bytes as UTF-8. Reading either gives the characters or tells the
first fault: how many bytes before it are well formed, which characters they
hold, and whether the sequence at the fault is wrong after one, two or three
bytes or only cut off by the end of the input.
-/

namespace SqlImage.Text.Utf8

/-- What the first byte of a sequence fixes: how many bytes follow, its own share of the code
point, and the range of the second byte, which shuts out overlong forms, surrogates and code
points past the last one. -/
structure Lead where
  following : Nat
  payload : Nat
  low : Nat
  high : Nat

/-- The lead that a byte stands for. Continuation bytes and bytes of no sequence stand for
none. -/
def Lead.ofByte (byte : Nat) : Option Lead :=
  if byte < 0x80 then some ⟨0, byte, 0, 0⟩
  else if byte < 0xC2 then none
  else if byte < 0xE0 then some ⟨1, byte - 0xC0, 0x80, 0xBF⟩
  else if byte = 0xE0 then some ⟨2, 0, 0xA0, 0xBF⟩
  else if byte = 0xED then some ⟨2, 0xD, 0x80, 0x9F⟩
  else if byte < 0xF0 then some ⟨2, byte - 0xE0, 0x80, 0xBF⟩
  else if byte = 0xF0 then some ⟨3, 0, 0x90, 0xBF⟩
  else if byte < 0xF4 then some ⟨3, byte - 0xF0, 0x80, 0xBF⟩
  else if byte = 0xF4 then some ⟨3, 4, 0x80, 0x8F⟩
  else none

/-- Why no character could be read: the sequence is wrong after so many bytes, or the input
ends inside it. -/
inductive Flaw where
  | invalid (length : Nat)
  | incomplete
deriving DecidableEq, Repr

/-- The rest of a sequence of which `read` bytes are read: `following` more bytes, the next of
them in the given range and the later ones any continuation byte. -/
def continuation : (following read payload low high : Nat) → List Nat →
    Except Flaw (Nat × List Nat)
  | 0, _, payload, _, _, bytes => .ok (payload, bytes)
  | _ + 1, _, _, _, _, [] => .error .incomplete
  | following + 1, read, payload, low, high, byte :: rest =>
    if low ≤ byte ∧ byte ≤ high then
      continuation following (read + 1) (payload * 64 + byte % 64) 0x80 0xBF rest
    else .error (.invalid read)

/-- One character from the front of a non-empty input. -/
def character (byte : Nat) (rest : List Nat) : Except Flaw (Char × List Nat) :=
  match Lead.ofByte byte with
  | none => .error (.invalid 1)
  | some lead =>
    match continuation lead.following 1 lead.payload lead.low lead.high rest with
    | .error flaw => .error flaw
    | .ok (codePoint, rest) => .ok (Char.ofNat codePoint, rest)

/-- The first fault of an input: the characters before it, the number of bytes they take, and
what is wrong there. -/
structure Fault where
  before : List Char
  offset : Nat
  flaw : Flaw

/-- The words for a fault. -/
def Fault.message (fault : Fault) : String :=
  match fault.flaw with
  | .invalid length =>
    "invalid utf-8 sequence of " ++ toString length ++ " bytes from index " ++
      toString fault.offset
  | .incomplete => "incomplete utf-8 byte sequence from index " ++ toString fault.offset

/-- Reads characters until the input ends or a fault shows. Every character takes a byte, so
`fuel` steps are enough for `fuel` bytes; `before` holds the characters read, last one first. -/
def decodeFrom : (fuel : Nat) → (before : List Char) → (offset : Nat) → List Nat →
    Except Fault (List Char)
  | _, before, _, [] => .ok before.reverse
  | 0, before, _, _ => .ok before.reverse
  | fuel + 1, before, offset, byte :: rest =>
    match character byte rest with
    | .error flaw => .error ⟨before.reverse, offset, flaw⟩
    | .ok (next, rest) => decodeFrom fuel (next :: before) (offset + next.utf8Size) rest

/-- The characters of well-formed bytes, or the first fault. -/
def decode (bytes : List Nat) : Except Fault (List Char) :=
  decodeFrom bytes.length [] 0 bytes

end SqlImage.Text.Utf8
