/-!
# Decimal digits of real numbers

A finite real is `m · 2 ^ q`. From these two numbers its decimal digits are found exactly:
the fewest that read back as the same real, or a given number of them, rounded. Reading a
decimal gives the real that is nearest to it.
-/

namespace GuardedSql.Decimal

/-- A non-negative finite real taken apart: `mantissa · 2 ^ exponent`. -/
structure Binary where
  /-- The integer factor. -/
  mantissa : Nat
  /-- The power of two. -/
  exponent : Int
  deriving DecidableEq, Repr

/-- Digits with a point: `0.d₁d₂… · 10 ^ point`. -/
structure Digits where
  /-- The digits, the first of them not zero unless the number is. -/
  digits : List Nat
  /-- Where the point stands, counted from before the first digit. -/
  point : Int
  deriving DecidableEq, Repr

/-- The number of different fractions of reals with one exponent. -/
def fractionUnit : Nat := 0x10000000000000

/-- The mantissa and exponent of the size of a real. -/
def binary (x : Float) : Binary :=
  let bits := x.toBits.toNat % 0x8000000000000000
  let e : Nat := bits / fractionUnit
  let f : Nat := bits % fractionUnit
  if e = 0 then ⟨f, -1074⟩ else ⟨f + fractionUnit, (e : Int) - 1075⟩

/-- Whether a real carries a minus sign. -/
def isNegative (x : Float) : Bool := decide (0x8000000000000000 ≤ x.toBits.toNat)

/-- A fraction equal to `m · 2 ^ q`. -/
def fraction (m : Nat) (q : Int) : Nat × Nat :=
  if 0 ≤ q then (m * Nat.pow 2 q.toNat, 1) else (m, Nat.pow 2 (-q).toNat)

/-- The digits of a number in base ten, without leading zeros. -/
def natDigits (n : Nat) : List Nat := (Nat.toDigits 10 n).map fun c => c.toNat - '0'.toNat

/-- How often ten divides the largest power of it that is at most `num / den`, plus one: the number
of digits before the point. -/
def pointOf (num den : Nat) : Int :=
  if den ≤ num then (natDigits (num / den)).length
  else
    -- The first `k` with `num · 10 ^ k ≥ den`; the number then has its first digit at place `k`.
    let k := (natDigits (den / num)).length
    let k := if den ≤ num * Nat.pow 10 (k - 1) then k - 1 else k
    1 - (k : Int)

/-- `num / den` on the grid of `n` digits after `point`, rounded down, with the remainder and its
unit. -/
def onGrid (num den : Nat) (point : Int) (n : Nat) : Nat × Nat × Nat :=
  let shift := (n : Int) - point
  let (num, den) := if 0 ≤ shift then (num * Nat.pow 10 shift.toNat, den) else (num, den * Nat.pow 10 (-shift).toNat)
  (num / den, num % den, den)

/-- Digits of a number on a grid of `n` places; a carry past the front moves the point. -/
def ofGrid (v : Nat) (point : Int) (n : Nat) : Digits :=
  let ds := natDigits v
  ⟨ds, point + (ds.length : Int) - (n : Int)⟩

/-- Leaves out zeros at the end, keeping one digit. -/
def trimmed (d : Digits) : Digits :=
  let kept := (d.digits.reverse.dropWhile (· == 0)).reverse
  ⟨if kept.isEmpty then [0] else kept, d.point⟩

/-- The size of a finite real to `n` digits, a half going up. -/
def rounded (x : Float) (n : Nat) : Digits :=
  let b := binary x
  if b.mantissa = 0 then ⟨[0], 1⟩
  else
    let (num, den) := fraction b.mantissa b.exponent
    let point := pointOf num den
    let (v, r, unit) := onGrid num den point n
    trimmed (ofGrid (if unit ≤ 2 * r then v + 1 else v) point n)

/-- Whether `v` on the grid of `n` digits after `point` reads back as the real with mantissa `m`
and exponent `q`: it lies within half a step of that real, the ends included for an even mantissa,
and the step below a power of two is half as wide. -/
def readsBack (m : Nat) (q : Int) (v : Nat) (point : Int) (n : Nat) : Bool :=
  -- Everything is scaled by four: the neighbours' midpoints are at 4m ± 2, or 4m - 1 below a power of two.
  let low := if m = fractionUnit && -1074 < q then 4 * m - 1 else 4 * m - 2
  let high := 4 * m + 2
  let (scale, unit) := fraction 1 q
  let shift := point - (n : Int)
  let (num, den) := if 0 ≤ shift then (v * Nat.pow 10 shift.toNat, 1) else (v, Nat.pow 10 (-shift).toNat)
  let left := 4 * num * unit
  if m % 2 = 0 then low * scale * den ≤ left && left ≤ high * scale * den
  else low * scale * den < left && left < high * scale * den

/-- The digits on the first grid, from `n` places on, one of whose two points next to the number
reads back; the nearer wins, and the lower of two that are as near. -/
def search (m : Nat) (q : Int) (num den : Nat) (point : Int) : Nat → Nat → Digits
  | 0, n =>
    let (v, _, _) := onGrid num den point n
    ofGrid v point n
  | fuel + 1, n =>
    let (v, r, unit) := onGrid num den point n
    let down := readsBack m q v point n
    let up := readsBack m q (v + 1) point n
    if down && (!up || 2 * r ≤ unit) then ofGrid v point n
    else if up then ofGrid (v + 1) point n
    else search m q num den point fuel (n + 1)

/-- The fewest digits that read back as the size of a finite real. -/
def shortest (x : Float) : Digits :=
  let b := binary x
  if b.mantissa = 0 then ⟨[0], 1⟩
  else
    let (num, den) := fraction b.mantissa b.exponent
    trimmed (search b.mantissa b.exponent num den (pointOf num den) 17 1)

/-- The real nearest to `mantissa · 10 ^ exponent`; beyond the range of reals that is infinity or
zero. -/
def read (negative : Bool) (mantissa : Nat) (exponent : Int) : Float :=
  let size : Int := exponent + (natDigits mantissa).length
  let x :=
    if mantissa = 0 ∨ size < -330 then 0.0
    else if 310 < size then 1.0 / 0.0
    else if 0 ≤ exponent then Float.ofScientific mantissa false exponent.toNat
    else Float.ofScientific mantissa true (-exponent).toNat
  if negative then -x else x

end GuardedSql.Decimal
