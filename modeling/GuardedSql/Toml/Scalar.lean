import GuardedSql.Decimal.Digits
import GuardedSql.Toml.Document
import GuardedSql.Toml.Quoted

/-!
# TOML numbers, truth values and dates

Each reader takes the characters from the front of a text that make up one item and leaves
the rest; an item that starts like one of its kind and is not is no item.
-/

namespace GuardedSql.Toml

/-- Whether a character is a decimal digit. -/
def isDigit (c : Char) : Bool := '0' ≤ c && c ≤ '9'

/-- The value of a decimal digit. -/
def digitValue (c : Char) : Nat := c.toNat - '0'.toNat

/-- The value of decimal digits. -/
def decimalValue (ds : List Char) : Nat := ds.foldl (fun v d => v * 10 + digitValue d) 0

/-- Digits of a kind, single underscores between them left out; the first character has to be a
digit, and so has each one behind an underscore. -/
def readDigits (accept : Char → Bool) : List Char → Option (List Char × List Char)
  | [] => none
  | c :: rest =>
    if !accept c then none
    else
      match rest with
      | '_' :: more => Read.cons c (readDigits accept more)
      | [] => some ([c], [])
      | d :: more => if accept d then Read.cons c (readDigits accept (d :: more)) else some ([c], d :: more)

/-- A sign in front of a number; whether it is a minus. -/
def readSign : List Char → Option Bool × List Char
  | '+' :: rest => (some false, rest)
  | '-' :: rest => (some true, rest)
  | rest => (none, rest)

/-- The digits of a decimal integer: no zero in front of others. -/
def readInteger : List Char → Option (List Char × List Char)
  | '0' :: rest =>
    match rest with
    | c :: _ => if isDigit c || c == '_' then none else some (['0'], rest)
    | [] => some (['0'], [])
  | cs => readDigits isDigit cs

/-- The part of a number behind its point. -/
def readFraction : List Char → Option (Option (List Char) × List Char)
  | '.' :: rest => (readDigits isDigit rest).map fun (ds, rest) => (some ds, rest)
  | rest => some (none, rest)

/-- The power of ten of a number. -/
def readPower : List Char → Option (Option Int × List Char)
  | c :: rest =>
    if c == 'e' || c == 'E' then
      let (sign, rest) := readSign rest
      (readDigits isDigit rest).map fun (ds, rest) =>
        let n : Int := decimalValue ds
        (some (if sign = some true then -n else n), rest)
    else some (none, c :: rest)
  | [] => some (none, [])

/-- A 64-bit integer, if it fits. -/
def integer? (negative : Bool) (n : Nat) : Option Datum :=
  if negative then if n ≤ 0x8000000000000000 then some (.integer (Int64.ofInt (-n))) else none
  else if n < 0x8000000000000000 then some (.integer (Int64.ofNat n)) else none

/-- A whole number in another base than ten. -/
def readBased (base : Nat) (cs : List Char) : Option (Datum × List Char) := do
  let accept := fun c => match hexDigit? c with
    | some d => decide (d < base)
    | none => false
  let (ds, rest) ← readDigits accept cs
  let n := ds.foldl (fun v d => v * base + (hexDigit? d).getD 0) 0
  let datum ← integer? false n
  some (datum, rest)

/-- A number in base ten: with a point or a power it is a real. -/
def readDecimal (cs : List Char) : Option (Datum × List Char) := do
  let (sign, digits) := readSign cs
  let negative := sign = some true
  match digits with
  | 'i' :: 'n' :: 'f' :: rest => some (.float (if negative then -(1.0 / 0.0) else 1.0 / 0.0), rest)
  | 'n' :: 'a' :: 'n' :: rest => some (.float (0.0 / 0.0), rest)
  | _ =>
    let (whole, rest) ← readInteger digits
    let (fraction?, rest) ← readFraction rest
    let (power?, rest) ← readPower rest
    match fraction?, power? with
    | none, none => (integer? negative (decimalValue whole)).map (·, rest)
    | _, _ =>
      let fraction := fraction?.getD []
      let exponent : Int := power?.getD 0 - fraction.length
      let x := Decimal.read negative (decimalValue (whole ++ fraction)) exponent
      if x.isInf && !negative then none else some (.float x, rest)

/-- A fixed count of digits with a value in a range. -/
def readField (count low high : Nat) (cs : List Char) : Option (Nat × List Char) :=
  let ds := cs.take count
  let v := decimalValue ds
  if ds.length = count ∧ ds.all isDigit ∧ low ≤ v ∧ v ≤ high then some (v, cs.drop count) else none

/-- A given character. -/
def readChar (accept : Char → Bool) : List Char → Option (Unit × List Char)
  | c :: rest => if accept c then some ((), rest) else none
  | [] => none

/-- The days of a month. -/
def monthDays (year month : Nat) : Nat :=
  if month = 2 then
    if year % 4 = 0 ∧ (year % 100 ≠ 0 ∨ year % 400 = 0) then 29 else 28
  else if month ∈ [4, 6, 9, 11] then 30
  else 31

/-- A date: year, month and day. -/
def readDate (cs : List Char) : Option (Unit × List Char) := do
  let (year, rest) ← readField 4 0 9999 cs
  let ((), rest) ← readChar (· == '-') rest
  let (month, rest) ← readField 2 1 12 rest
  let ((), rest) ← readChar (· == '-') rest
  let (_, rest) ← readField 2 1 (monthDays year month) rest
  some ((), rest)

/-- A time of day, with parts of a second if there are any. -/
def readTime (cs : List Char) : Option (Unit × List Char) := do
  let (_, rest) ← readField 2 0 23 cs
  let ((), rest) ← readChar (· == ':') rest
  let (_, rest) ← readField 2 0 59 rest
  let ((), rest) ← readChar (· == ':') rest
  let (_, rest) ← readField 2 0 60 rest
  match rest with
  | '.' :: more =>
    match more with
    | c :: _ => if isDigit c then some ((), more.dropWhile isDigit) else none
    | [] => none
  | _ => some ((), rest)

/-- A distance from universal time; none when there is none, and a failure when it is no good. -/
def readOffset (cs : List Char) : Option (Unit × List Char) :=
  match cs with
  | c :: rest =>
    if c == 'Z' || c == 'z' then some ((), rest)
    else if c == '+' || c == '-' then do
      let (_, rest) ← readField 2 0 23 rest
      let ((), rest) ← readChar (· == ':') rest
      let (_, rest) ← readField 2 0 59 rest
      some ((), rest)
    else some ((), cs)
  | [] => some ((), cs)

/-- Whether a text starts like a date: four digits and a dash. -/
def startsDate (cs : List Char) : Bool :=
  (cs.take 4).length == 4 && (cs.take 4).all isDigit && cs[4]? == some '-'

/-- Whether a text starts like a time: two digits and a colon. -/
def startsTime (cs : List Char) : Bool :=
  (cs.take 2).length == 2 && (cs.take 2).all isDigit && cs[2]? == some ':'

/-- A date, a time or both. -/
def readMoment (cs : List Char) : Option (Datum × List Char) :=
  if startsTime cs then (readTime cs).map fun (_, rest) => (.moment, rest)
  else do
    let ((), rest) ← readDate cs
    match rest with
    | c :: more =>
      if c == 'T' || c == 't' || (c == ' ' && startsTime more) then do
        let ((), rest) ← readTime more
        let ((), rest) ← readOffset rest
        some (.moment, rest)
      else some (.moment, rest)
    | [] => some (.moment, rest)

/-- A truth value, a number or a moment. -/
def readScalar (cs : List Char) : Option (Datum × List Char) :=
  match cs with
  | 't' :: 'r' :: 'u' :: 'e' :: rest => some (.boolean true, rest)
  | 'f' :: 'a' :: 'l' :: 's' :: 'e' :: rest => some (.boolean false, rest)
  | '0' :: 'x' :: rest => readBased 16 rest
  | '0' :: 'o' :: rest => readBased 8 rest
  | '0' :: 'b' :: rest => readBased 2 rest
  | _ => if startsDate cs || startsTime cs then readMoment cs else readDecimal cs

end GuardedSql.Toml
