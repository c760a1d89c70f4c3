/-!
# UTF-8 text in bytes

Bytes that come from the engine or from a file need not be text. `Utf8.decode?` reads them
strictly, `Utf8.fault?` says where and how they stop being text, and `Utf8.decodeLossy`
reads them with one replacement character for each maximal broken piece: the longest run of
bytes that still starts some character, or a single byte that starts none.
-/

namespace GuardedSql.Utf8

/-- Where bytes stop being UTF-8: the length of the text before, and the length of the broken
piece, which is absent when the bytes end inside a character. -/
structure Fault where
  /-- Bytes of text before the broken piece. -/
  validUpTo : Nat
  /-- Bytes of the broken piece; none when more bytes could have completed it. -/
  length? : Option Nat
  deriving DecidableEq, Repr

/-- The fault in words. -/
def Fault.message (f : Fault) : String :=
  match f.length? with
  | some n => s!"invalid utf-8 sequence of {n} bytes from index {f.validUpTo}"
  | none => s!"incomplete utf-8 byte sequence from index {f.validUpTo}"

/-- The ranges that the bytes after a leading byte have to lie in; none for a byte that starts
no character. -/
def tails? (b : UInt8) : Option (List (UInt8 × UInt8)) :=
  if b < 0x80 then some []
  else if 0xC2 ≤ b && b ≤ 0xDF then some [(0x80, 0xBF)]
  else if b == 0xE0 then some [(0xA0, 0xBF), (0x80, 0xBF)]
  else if b == 0xED then some [(0x80, 0x9F), (0x80, 0xBF)]
  else if 0xE1 ≤ b && b ≤ 0xEF then some [(0x80, 0xBF), (0x80, 0xBF)]
  else if b == 0xF0 then some [(0x90, 0xBF), (0x80, 0xBF), (0x80, 0xBF)]
  else if 0xF1 ≤ b && b ≤ 0xF3 then some [(0x80, 0xBF), (0x80, 0xBF), (0x80, 0xBF)]
  else if b == 0xF4 then some [(0x80, 0x8F), (0x80, 0xBF), (0x80, 0xBF)]
  else none

/-- What the front of a byte sequence is. -/
inductive Piece where
  /-- A character of `length` bytes. -/
  | character (length : Nat)
  /-- A broken piece of `length` bytes that no bytes after it can mend. -/
  | broken (length : Nat)
  /-- The sequence ends inside a character. -/
  | cut
  deriving DecidableEq, Repr

/-- Follows the ranges of a character whose first `seen` bytes are read. -/
def follow (seen : Nat) : List (UInt8 × UInt8) → List UInt8 → Piece
  | [], _ => .character seen
  | _ :: _, [] => .cut
  | (lo, hi) :: ranges, b :: rest =>
    if lo ≤ b && b ≤ hi then follow (seen + 1) ranges rest else .broken seen

/-- The piece that starts with byte `b`. -/
def piece (b : UInt8) (rest : List UInt8) : Piece :=
  match tails? b with
  | some ranges => follow 1 ranges rest
  | none => .broken 1

/-- The first fault of a sequence of which `position` bytes were read before; `skip` bytes in
front belong to a character that is read already. -/
def faultFrom (position skip : Nat) : List UInt8 → Option Fault
  | [] => none
  | b :: rest =>
    match skip with
    | skip + 1 => faultFrom (position + 1) skip rest
    | 0 =>
      match piece b rest with
      | .character n => faultFrom (position + 1) (n - 1) rest
      | .broken n => some ⟨position, some n⟩
      | .cut => some ⟨position, none⟩

/-- The first place where bytes stop being UTF-8. -/
def fault? (bytes : ByteArray) : Option Fault := faultFrom 0 0 bytes.toList

/-- The number a character of `n` bytes encodes: the leading byte without its length mark, then six
bits from each byte after it. -/
def scalar (n : Nat) (b : UInt8) (rest : List UInt8) : Nat :=
  let lead := if n ≤ 1 then b.toNat else b.toNat % Nat.pow 2 (7 - n)
  (rest.take (n - 1)).foldl (fun v t => v * 64 + t.toNat % 64) lead

/-- The character that stands for a broken piece. -/
def replacement : Char := '\uFFFD'

/-- The characters of a sequence, with one replacement character for each broken piece; `skip`
bytes in front are accounted for. -/
def lossyChars (skip : Nat) : List UInt8 → List Char
  | [] => []
  | b :: rest =>
    match skip with
    | skip + 1 => lossyChars skip rest
    | 0 =>
      match piece b rest with
      | .character n => Char.ofNat (scalar n b rest) :: lossyChars (n - 1) rest
      | .broken n => replacement :: lossyChars (n - 1) rest
      | .cut => [replacement]

/-- Strict reading: the text, when every byte belongs to a character. -/
def decode? (bytes : ByteArray) : Option String := String.fromUTF8? bytes

/-- Lossy reading: the text, or the text with its broken pieces replaced. -/
def decodeLossy (bytes : ByteArray) : String :=
  match decode? bytes with
  | some s => s
  | none => String.ofList (lossyChars 0 bytes.toList)

/-- The part of a sequence before its first zero byte, which is all that a reader of
zero-terminated text sees. -/
def beforeNul (bytes : ByteArray) : ByteArray :=
  match bytes.toList.findIdx? (· == 0) with
  | some n => bytes.extract 0 n
  | none => bytes

/-- Text reads back strictly from its own bytes. -/
theorem decode?_toUTF8 (s : String) : decode? s.toUTF8 = some s := by
  simp only [decode?, String.fromUTF8?, String.toUTF8_eq_toByteArray, dif_pos s.isValidUTF8]
  rfl

/-- Text reads back from its own bytes when broken pieces are allowed. -/
theorem decodeLossy_toUTF8 (s : String) : decodeLossy s.toUTF8 = s := by
  rw [decodeLossy, decode?_toUTF8]

end GuardedSql.Utf8
