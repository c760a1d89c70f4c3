import GuardedSql.Cell
import GuardedSql.Decimal.Layout

/-!
# Numbers in text

How the engine reads numbers out of bytes and writes them as text. A number may have blanks on
both sides; what follows its longest readable front is ignored, though remembered.
-/

namespace GuardedSql.Sql.Number

/-- Whether a byte is a blank. -/
def isSpace (b : UInt8) : Bool := b == 0x20 || (0x09 ≤ b && b ≤ 0x0D)

/-- Whether a byte is a decimal digit. -/
def isDigit (b : UInt8) : Bool := 0x30 ≤ b && b ≤ 0x39

/-- The value of digits. -/
def digitsValue (ds : List UInt8) : Nat := ds.foldl (fun n d => n * 10 + (d.toNat - 0x30)) 0

/-- A sign in front of a number. -/
def takeSign : List UInt8 → Bool × List UInt8
  | 0x2D :: rest => (true, rest)
  | 0x2B :: rest => (false, rest)
  | rest => (false, rest)

/-- How well bytes read as a number. -/
inductive Shape where
  /-- Not at all, or an integer with something behind it. -/
  | none
  /-- A number with a point or a power that something follows. -/
  | realFront
  /-- An integer. -/
  | integer
  /-- A number with a point or a power. -/
  | real
  deriving DecidableEq, Repr

/-- The number at the front of bytes, read as a real, and how well it reads. -/
def scanReal (bytes : List UInt8) : Float × Shape :=
  let (negative, rest) := takeSign (bytes.dropWhile isSpace)
  let whole := rest.takeWhile isDigit
  let rest := rest.drop whole.length
  let (hasPoint, fraction, rest) := match rest with
    | 0x2E :: more => (true, more.takeWhile isDigit, more.dropWhile isDigit)
    | _ => (false, [], rest)
  let (hasPower, power, isPowerValid, rest) := match rest with
    | e :: more =>
      if e == 0x65 || e == 0x45 then
        let (minus, more) := takeSign more
        let ds := more.takeWhile isDigit
        let n : Int := min (digitsValue ds) 10000
        (true, if minus then -n else n, !ds.isEmpty, more.drop ds.length)
      else (false, 0, true, rest)
    | [] => (false, (0 : Int), true, rest)
  let hasDigits := !(whole.isEmpty && fraction.isEmpty)
  let x := Decimal.read negative (digitsValue (whole ++ fraction)) (power - fraction.length)
  let isReal := hasPoint || hasPower
  let shape :=
    if (rest.dropWhile isSpace).isEmpty && hasDigits && isPowerValid then
      if isReal then Shape.real else .integer
    else if isReal && ((hasPoint && hasPower) || isPowerValid) && hasDigits then .realFront
    else .none
  (x, shape)

/-- The largest 64-bit integer. -/
def maxInt64 : Int := 9223372036854775807

/-- The smallest 64-bit integer. -/
def minInt64 : Int := -9223372036854775808

/-- The integer at the front of bytes, kept within 64 bits, and whether it was within them with
nothing but blanks behind it. -/
def scanInt (bytes : List UInt8) : Int64 × Bool :=
  let (negative, rest) := takeSign (bytes.dropWhile isSpace)
  let ds := rest.takeWhile isDigit
  let n : Int := digitsValue ds
  let n := if negative then -n else n
  let clean := !ds.isEmpty && ((rest.drop ds.length).dropWhile isSpace).isEmpty
  if n < minInt64 then (Int64.minValue, false)
  else if maxInt64 < n then (Int64.maxValue, false)
  else (Int64.ofInt n, clean)

/-- A real as an integer: the part before the point, kept within 64 bits. -/
def realToInt (x : Float) : Int64 :=
  if x < -9223372036854774784.0 then Int64.minValue
  else if 9223372036854774784.0 < x then Int64.maxValue
  else x.toInt64

/-- The integer that a real is, if it is one strictly within 64 bits. -/
def exactInt? (x : Float) : Option Int64 :=
  let n := realToInt x
  if n.toFloat == x && Int64.minValue < n && n < Int64.maxValue then some n else none

/-- An integer as text. -/
def intText (n : Int64) : ByteArray := (toString n.toInt).toUTF8

/-- A real as text. -/
def realText (x : Float) : ByteArray := (Decimal.general x).toUTF8

end GuardedSql.Sql.Number

namespace GuardedSql.Cell

open Sql

/-- A cell as an integer: text and blobs by the number at their front. -/
def toInt64 : Cell → Int64
  | .null => 0
  | .integer n => n
  | .real x => Number.realToInt x
  | .text b => (Number.scanInt b.toList).1
  | .blob b => (Number.scanInt b.toList).1

/-- A cell as a real: text and blobs by the number at their front. -/
def toFloat : Cell → Float
  | .null => 0.0
  | .integer n => n.toFloat
  | .real x => x
  | .text b => (Number.scanReal b.toList).1
  | .blob b => (Number.scanReal b.toList).1

/-- The bytes of a cell as text; none for NULL. -/
def toText? : Cell → Option ByteArray
  | .null => none
  | .integer n => some (Number.intText n)
  | .real x => some (Number.realText x)
  | .text b => some b
  | .blob b => some b

/-- The number that an operation on numbers sees. -/
def toNumber : Cell → Cell
  | .text b => ofBytes b
  | .blob b => ofBytes b
  | c => c
where
  /-- The number at the front of bytes: an integer if it reads as one. -/
  ofBytes (b : ByteArray) : Cell :=
    let bytes := b.toList
    match Number.scanReal bytes with
    | (_, .none) => .integer (Number.scanInt bytes).1
    | (x, .integer) =>
      let (n, clean) := Number.scanInt bytes
      if clean then .integer n else .ofFloat x
    | (x, _) => .ofFloat x

/-- Whether a condition holds: a number other than zero. -/
def isTrue? : Cell → Option Bool
  | .null => none
  | .integer n => some (n != 0)
  | c => some (c.toFloat != 0.0)

end GuardedSql.Cell
