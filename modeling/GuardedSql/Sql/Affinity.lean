import GuardedSql.Sql.Number

/-!
# Affinities and comparisons

A column prefers values of a type, its affinity, which follows from the declared type. Values
that are stored or compared are converted towards it when nothing is lost.
-/

namespace GuardedSql.Sql

/-- The type that a column or expression prefers. -/
inductive Affinity where
  | blob
  | text
  | numeric
  | integer
  | real
  deriving DecidableEq, Repr, Inhabited

namespace Affinity

/-- Whether one text occurs in another. -/
def occurs (part : List Char) : List Char → Bool
  | [] => part.isEmpty
  | c :: rest => part.isPrefixOf (c :: rest) || occurs part rest

/-- The affinity of a declared type: by the words that occur in it, in this order. -/
def ofType (type : Option String) : Affinity :=
  match type with
  | none => .blob
  | some t =>
    let cs := t.toUpper.toList
    let has := fun (s : String) => occurs s.toList cs
    if has "INT" then .integer
    else if has "CHAR" || has "CLOB" || has "TEXT" then .text
    else if has "BLOB" then .blob
    else if has "REAL" || has "FLOA" || has "DOUB" then .real
    else if t.isEmpty then .blob
    else .numeric

/-- Whether numbers are preferred. -/
def isNumeric : Affinity → Bool
  | numeric => true
  | integer => true
  | real => true
  | _ => false

/-- The number that a text is, if it is one with nothing behind it. -/
def textToNumber (b : ByteArray) : Cell :=
  let bytes := b.toList
  match Number.scanReal bytes with
  | (x, .integer) =>
    let (n, clean) := Number.scanInt bytes
    if clean then .integer n else shrink x
  | (x, .real) => shrink x
  | _ => .text b
where
  /-- A real that is an integer as one. -/
  shrink (x : Float) : Cell :=
    match Number.exactInt? x with
    | some n => .integer n
    | none => .ofFloat x

/-- A value converted towards an affinity. -/
def apply (a : Affinity) (c : Cell) : Cell :=
  match a, c with
  | .text, .integer n => .text (Number.intText n)
  | .text, .real x => .text (Number.realText x)
  | .real, c => toReal c
  | .numeric, c => toNumeric c
  | .integer, c => toNumeric c
  | _, c => c
where
  /-- A value as an integer or a real if it is one. -/
  toNumeric : Cell → Cell
    | .text b => textToNumber b
    | .real x =>
      match Number.exactInt? x with
      | some n => .integer n
      | none => .real x
    | c => c
  /-- A value as a real if it is a number. -/
  toReal (c : Cell) : Cell :=
    match toNumeric c with
    | .integer n => .real n.toFloat
    | c => c

end Affinity

namespace Compare

/-- The rank of a type in the order of values. -/
def rank : Cell → Nat
  | .null => 0
  | .integer _ => 1
  | .real _ => 1
  | .text _ => 2
  | .blob _ => 3

/-- The order of byte sequences. -/
def bytes : List UInt8 → List UInt8 → Ordering
  | [], [] => .eq
  | [], _ :: _ => .lt
  | _ :: _, [] => .gt
  | a :: as, b :: bs => if a < b then .lt else if b < a then .gt else bytes as bs

/-- The order of an integer and a real, without rounding the integer. -/
def intReal (n : Int64) (x : Float) : Ordering :=
  if x < -9223372036854775808.0 then .gt
  else if 9223372036854775808.0 ≤ x then .lt
  else
    let m := x.toInt64
    if n < m then .lt
    else if m < n then .gt
    else
      let y := m.toFloat
      if y < x then .lt else if x < y then .gt else .eq

/-- The order of values: NULL, numbers, texts, blobs. -/
def cells (a b : Cell) : Ordering :=
  match a, b with
  | .integer m, .integer n => if m < n then .lt else if n < m then .gt else .eq
  | .real x, .real y => if x < y then .lt else if y < x then .gt else .eq
  | .integer n, .real x => intReal n x
  | .real x, .integer n => (intReal n x).swap
  | .text s, .text t => bytes s.toList t.toList
  | .blob s, .blob t => bytes s.toList t.toList
  | a, b => compare (rank a) (rank b)

/-- The operands of a comparison, converted by their affinities: a number's side draws a text to a
number, and a text's side draws a number without affinity to a text. -/
def converted (x y : Option Affinity) (a b : Cell) : Cell × Cell :=
  let numericX := (x.map Affinity.isNumeric).getD false
  let numericY := (y.map Affinity.isNumeric).getD false
  if numericX || numericY then (toNumber a, toNumber b)
  else if x == some .text && y.isNone then (a, Affinity.apply .text b)
  else if y == some .text && x.isNone then (Affinity.apply .text a, b)
  else (a, b)
where
  /-- A text as a number if it is one. -/
  toNumber : Cell → Cell
    | .text s => Affinity.textToNumber s
    | c => c

end Compare

end GuardedSql.Sql
