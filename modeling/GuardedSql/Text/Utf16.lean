/-!
# Text in UTF-16

The engine keeps text in UTF-8 and turns it into UTF-16 on demand. Both directions are
forgiving: bytes that are no text become some character or other, by the rules below, and
never fail.
-/

namespace GuardedSql.Utf16

/-- The payload bits of a leading byte of a character of several bytes. -/
def leadBits (b : UInt8) : Nat :=
  if b < 0xE0 then b.toNat - 0xC0
  else if b < 0xF0 then b.toNat - 0xE0
  else if b < 0xF8 then b.toNat - 0xF0
  else if b < 0xFC then b.toNat - 0xF8
  else if b < 0xFE then b.toNat - 0xFC
  else 0

/-- Whether a number may not be encoded: a lone surrogate, one of the two last numbers of the
first plane, or one that a single byte would have held. -/
def isRefused (n : Nat) : Bool :=
  n < 0x80 || (0xD800 ≤ n && n < 0xE000) || n == 0xFFFE || n == 0xFFFF

/-- The numbers that a byte sequence encodes. `open?` is the number of the character being read;
a byte that continues no character stands for itself. -/
def scalars (open? : Option Nat) : List UInt8 → List Nat
  | [] => (open?.map settle).toList
  | b :: rest =>
    match open? with
    | some n =>
      if 0x80 ≤ b && b < 0xC0 then scalars (some ((n * 64 + (b.toNat - 0x80)) % 0x100000000)) rest
      else if 0xC0 ≤ b then settle n :: scalars (some (leadBits b)) rest
      else settle n :: b.toNat :: scalars none rest
    | none =>
      if 0xC0 ≤ b then scalars (some (leadBits b)) rest
      else b.toNat :: scalars none rest
where
  /-- The number of a finished character of several bytes. -/
  settle (n : Nat) : Nat := if isRefused n then 0xFFFD else n

/-- The two bytes of a unit, low byte first. -/
def unitBytes (n : Nat) : List UInt8 := [n.toUInt8, (n / 256).toUInt8]

/-- The units of a number, as bytes. -/
def encodeScalar (n : Nat) : List UInt8 :=
  if n ≤ 0xFFFF then unitBytes n
  else
    let m := n - 0x10000
    unitBytes (0xD800 + m / 1024 % 1024) ++ unitBytes (0xDC00 + m % 1024)

/-- UTF-8 bytes as UTF-16 bytes. -/
def ofUtf8 (bytes : ByteArray) : ByteArray :=
  ⟨((scalars none bytes.toList).flatMap encodeScalar).toArray⟩

/-- The UTF-8 bytes of a number, whether or not it is that of a character. -/
def utf8Bytes (n : Nat) : List UInt8 :=
  if n < 0x80 then [n.toUInt8]
  else if n < 0x800 then [(0xC0 + n / 64 % 32).toUInt8, (0x80 + n % 64).toUInt8]
  else if n < 0x10000 then
    [(0xE0 + n / 4096 % 16).toUInt8, (0x80 + n / 64 % 64).toUInt8, (0x80 + n % 64).toUInt8]
  else
    [(0xF0 + n / 262144 % 8).toUInt8, (0x80 + n / 4096 % 64).toUInt8,
     (0x80 + n / 64 % 64).toUInt8, (0x80 + n % 64).toUInt8]

/-- The units of a byte sequence; an odd byte at the end is dropped. -/
def units : List UInt8 → List Nat
  | a :: b :: rest => (a.toNat + 256 * b.toNat) :: units rest
  | _ => []

/-- The numbers that units encode: a unit of the surrogate range takes the unit after it along. -/
def joinUnits (high? : Option Nat) : List Nat → List Nat
  | [] => high?.toList
  | u :: rest =>
    match high? with
    | some h => ((u % 1024) + (h % 64) * 1024 + (h / 64 % 16 + 1) * 65536) :: joinUnits none rest
    | none => if 0xD800 ≤ u && u < 0xE000 then joinUnits (some u) rest else u :: joinUnits none rest

/-- UTF-16 bytes as UTF-8 bytes. -/
def toUtf8 (bytes : ByteArray) : ByteArray :=
  ⟨((joinUnits none (units bytes.toList)).flatMap utf8Bytes).toArray⟩

end GuardedSql.Utf16
