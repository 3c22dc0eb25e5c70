/-! Bytes and text. Bytes that are no text are read piece by piece: each piece is a character or a
broken part, which reaches as far as a character could still have begun there. -/

namespace HeaderBindings.Text

abbrev Bytes := List UInt8

def Bytes.ofString (s : String) : Bytes :=
  s.toUTF8.data.toList

/-- What the first byte of a longer character says: how many bytes follow, the range of the next
one, and the bits it gives. -/
structure Lead where
  following : Nat
  least : Nat
  most : Nat
  bits : Nat

def lead? (b : Nat) : Option Lead :=
  if 0xC2 ≤ b && b ≤ 0xDF then some ⟨1, 0x80, 0xBF, b - 0xC0⟩
  else if b = 0xE0 then some ⟨2, 0xA0, 0xBF, 0⟩
  else if b = 0xED then some ⟨2, 0x80, 0x9F, 0xD⟩
  else if 0xE1 ≤ b && b ≤ 0xEF then some ⟨2, 0x80, 0xBF, b - 0xE0⟩
  else if b = 0xF0 then some ⟨3, 0x90, 0xBF, 0⟩
  else if 0xF1 ≤ b && b ≤ 0xF3 then some ⟨3, 0x80, 0xBF, b - 0xF0⟩
  else if b = 0xF4 then some ⟨3, 0x80, 0x8F, 4⟩
  else none

/-- Reads the bytes that follow the first one: the code point, if all are there, and how many bytes
belong to the piece. -/
def following (count least most bits : Nat) : Bytes → Option Nat × Nat
  | [] => (if count = 0 then some bits else none, 0)
  | b :: rest =>
    match count with
    | 0 => (some bits, 0)
    | count + 1 =>
      if least ≤ b.toNat && b.toNat ≤ most then
        let (point, taken) := following count 0x80 0xBF (bits * 64 + (b.toNat - 0x80)) rest
        (point, taken + 1)
      else (none, 0)

/-- The piece that starts with the byte `b`, and how many bytes after `b` belong to it. -/
def piece (b : UInt8) (rest : Bytes) : Option Char × Nat :=
  if b.toNat < 0x80 then (some (Char.ofNat b.toNat), 0)
  else match lead? b.toNat with
    | none => (none, 0)
    | some l =>
      let (point, taken) := following l.following l.least l.most l.bits rest
      (point.map Char.ofNat, taken)

/-- All pieces, without the first `skip` bytes. -/
def piecesFrom : Nat → Bytes → List (Option Char)
  | _, [] => []
  | skip + 1, _ :: rest => piecesFrom skip rest
  | 0, b :: rest =>
    let (char, taken) := piece b rest
    char :: piecesFrom taken rest

def pieces (bytes : Bytes) : List (Option Char) :=
  piecesFrom 0 bytes

/-- The text that the bytes are, if no piece is broken. -/
def decode? (bytes : Bytes) : Option String :=
  ((pieces bytes).mapM id).map String.ofList

/-- The text with U+FFFD for each broken piece. -/
def decodeLossy (bytes : Bytes) : String :=
  String.ofList ((pieces bytes).map (·.getD '\uFFFD'))

end HeaderBindings.Text
