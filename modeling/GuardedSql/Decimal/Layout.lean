import GuardedSql.Decimal.Digits

/-!
# Layouts of real numbers

The digits of a real are laid out either with a point among them or as a power of ten. The
two layouts of this library are `plain`, which always writes all places, and `general`, which
changes to a power of ten for very large and very small numbers.
-/

namespace GuardedSql.Decimal

/-- Digits as text. -/
def digitText (ds : List Nat) : String := String.ofList (ds.map fun d => Char.ofNat ('0'.toNat + d))

/-- Digits with all their places and at least one digit on either side of the point. -/
def Digits.positional (d : Digits) : String :=
  let n := d.digits.length
  if d.point ≤ 0 then "0." ++ digitText (List.replicate (-d.point).toNat 0 ++ d.digits)
  else
    let k := d.point.toNat
    if n ≤ k then digitText (d.digits ++ List.replicate (k - n) 0) ++ ".0"
    else digitText (d.digits.take k) ++ "." ++ digitText (d.digits.drop k)

/-- A power of ten with its sign and at least two digits. -/
def powerText (e : Int) : String :=
  let digits := digitText (natDigits e.natAbs)
  (if e < 0 then "e-" else "e+") ++ (if digits.length < 2 then "0" ++ digits else digits)

/-- One digit before the point, at least one after it, and a power of ten. -/
def Digits.scientific (d : Digits) : String :=
  digitText (d.digits.take 1) ++ "." ++
    (if d.digits.length ≤ 1 then "0" else digitText (d.digits.drop 1)) ++ powerText (d.point - 1)

/-- How many digits the general layout keeps. -/
def generalDigits : Nat := 15

/-- A real with fifteen digits: all places written when its power of ten is from -4 to 14, a power
of ten otherwise; a zero has no sign. -/
def general (x : Float) : String :=
  if x.isNaN then "NaN"
  else
    let mark := if isNegative x && x != 0 then "-" else ""
    if x.isInf then mark ++ "Inf"
    else
      let d := rounded x generalDigits
      let e := d.point - 1
      mark ++ (if e < -4 || (generalDigits : Int) ≤ e then d.scientific else d.positional)

/-- A real with the fewest digits that read back and all its places written. -/
def plain (x : Float) : String :=
  if x.isNaN then "NaN"
  else
    let mark := if isNegative x then "-" else ""
    if x.isInf then mark ++ "inf" else mark ++ (shortest x).positional

end GuardedSql.Decimal
