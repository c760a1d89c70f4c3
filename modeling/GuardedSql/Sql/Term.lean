import GuardedSql.Sql.Affinity
import GuardedSql.Sql.Fault
import GuardedSql.Sql.Register

/-!
# Terms

A term is an expression with its names resolved: columns are positions in a row, functions are
closures. Its value depends on a row, the parameters and the results of the aggregates of a
group.
-/

namespace GuardedSql.Sql

/-- The functions of the engine. -/
inductive Builtin where
  | abs
  | length
  | typeof
  | zeroblob
  | coalesce
  | lower
  | upper
  | hex
  deriving DecidableEq, Repr

/-- An expression with its names resolved. -/
inductive Term where
  | const (c : Cell)
  /-- A parameter by its number, counted from 1. -/
  | param (index : Nat)
  /-- A column of the row with its affinity. -/
  | column (index : Nat) (affinity : Affinity)
  | rowid
  | unary (op : UnaryOp) (t : Term)
  | binary (op : BinaryOp) (a b : Term)
  | isNull (t : Term)
  | notNull (t : Term)
  | between (t low high : Term)
  | inList (t : Term) (items : List Term)
  | cast (t : Term) (a : Affinity)
  | builtin (f : Builtin) (args : List Term)
  | user (call : List Argument → CallContext → CallContext) (args : List Term)
  /-- The result of an aggregate of the group. -/
  | aggregate (index : Nat)
  | case (operand : Option Term) (branches : List (Term × Term)) (otherwise : Option Term)

instance : Inhabited Term := ⟨.const .null⟩

/-- What the value of a term depends on. -/
structure Env where
  /-- The values of the parameters. -/
  params : List Cell
  /-- The row. -/
  row : List Cell := []
  /-- The row id of the row. -/
  rowid : Cell := .null
  /-- The results of the aggregates. -/
  aggregates : List Cell := []

/-- A computation that can stop a statement. -/
abbrev Eval := Except Fault

namespace Term

/-- The affinity of a term, if it has one. -/
def affinity? : Term → Option Affinity
  | column _ a => some a
  | rowid => some .integer
  | cast _ a => some a
  | _ => none

mutual

/-- Whether a term needs the result of an aggregate. -/
def hasAggregate : Term → Bool
  | aggregate _ => true
  | const _ => false
  | param _ => false
  | column .. => false
  | rowid => false
  | unary _ t => hasAggregate t
  | binary _ a b => hasAggregate a || hasAggregate b
  | isNull t => hasAggregate t
  | notNull t => hasAggregate t
  | between t low high => hasAggregate t || hasAggregate low || hasAggregate high
  | inList t items => hasAggregate t || anyAggregate items
  | cast t _ => hasAggregate t
  | builtin _ args => anyAggregate args
  | user _ args => anyAggregate args
  | case none branches none => branchAggregate branches
  | case (some t) branches none => hasAggregate t || branchAggregate branches
  | case none branches (some t) => hasAggregate t || branchAggregate branches
  | case (some t) branches (some u) => hasAggregate t || hasAggregate u || branchAggregate branches

/-- Whether one of several terms needs the result of an aggregate. -/
def anyAggregate : List Term → Bool
  | [] => false
  | t :: ts => hasAggregate t || anyAggregate ts

/-- Whether one of the branches of a case needs the result of an aggregate. -/
def branchAggregate : List (Term × Term) → Bool
  | [] => false
  | (t, u) :: rest => hasAggregate t || hasAggregate u || branchAggregate rest

end

/-- The truth value of a condition as a cell. -/
def ofTruth : Option Bool → Cell
  | none => .null
  | some b => .integer (if b then 1 else 0)

/-- A whole-number result, or the real one if it leaves 64 bits. -/
def wholeOr (n : Int) (x : Float) : Cell :=
  if Number.minInt64 ≤ n ∧ n ≤ Number.maxInt64 then .integer (Int64.ofInt n) else .ofFloat x

/-- The real result of an operation on numbers. -/
def realResult (op : BinaryOp) (x y : Float) : Cell :=
  match op with
  | .add => .ofFloat (x + y)
  | .subtract => .ofFloat (x - y)
  | .multiply => .ofFloat (x * y)
  | .divide => if y == 0.0 then .null else .ofFloat (x / y)
  | .remainder =>
    let m := (Number.realToInt x).toInt
    let n := (Number.realToInt y).toInt
    if n = 0 then .null else .ofFloat (Float.ofInt (m.tmod n))
  | _ => .null

/-- The result of an arithmetic operation. -/
def arithmetic (op : BinaryOp) (a b : Cell) : Cell :=
  match a.toNumber, b.toNumber with
  | .null, _ => .null
  | _, .null => .null
  | .integer m, .integer n =>
    let x := m.toFloat
    let y := n.toFloat
    match op with
    | .add => wholeOr (m.toInt + n.toInt) (x + y)
    | .subtract => wholeOr (m.toInt - n.toInt) (x - y)
    | .multiply => wholeOr (m.toInt * n.toInt) (x * y)
    | .divide => if n = 0 then .null else wholeOr (m.toInt.tdiv n.toInt) (x / y)
    | .remainder => if n = 0 then .null else .integer (Int64.ofInt (m.toInt.tmod n.toInt))
    | _ => .null
  | c, d => realResult op c.toFloat d.toFloat

/-- A shift to the left; a negative amount shifts to the right. -/
def shift (n k : Int64) : Int64 :=
  let left (k : Int) : Int64 :=
    if k ≥ 64 then 0 else Int64.ofInt (n.toInt * Int.ofNat (Nat.pow 2 k.toNat))
  let right (k : Int) : Int64 :=
    if k ≥ 64 then (if n < 0 then -1 else 0) else Int64.ofInt (n.toInt / Int.ofNat (Nat.pow 2 k.toNat))
  if 0 ≤ k then left k.toInt else right (-k.toInt)

/-- The result of an operation on bits. -/
def bitwise (op : BinaryOp) (a b : Cell) : Cell :=
  match a, b with
  | .null, _ => .null
  | _, .null => .null
  | a, b =>
    let m := a.toInt64
    let n := b.toInt64
    match op with
    | .bitAnd => .integer (m &&& n)
    | .bitOr => .integer (m ||| n)
    | .shiftLeft => .integer (shift m n)
    | _ => .integer (if n = Int64.minValue then shift m Int64.maxValue else shift m (-n))

/-- Whether an order is what a comparison asks for. -/
def holds (op : BinaryOp) (o : Ordering) : Bool :=
  match op with
  | .equal => o == .eq
  | .notEqual => o != .eq
  | .is => o == .eq
  | .isNot => o != .eq
  | .less => o == .lt
  | .lessEqual => o != .gt
  | .greater => o == .gt
  | _ => o != .lt

/-- The result of a comparison. NULL compares with nothing, but is what it is. -/
def comparison (op : BinaryOp) (x y : Option Affinity) (a b : Cell) : Cell :=
  let (a, b) := Compare.converted x y a b
  match op, a, b with
  | .is, a, b => ofTruth (some (holds op (Compare.cells a b)))
  | .isNot, a, b => ofTruth (some (holds op (Compare.cells a b)))
  | _, .null, _ => .null
  | _, _, .null => .null
  | op, a, b => ofTruth (some (holds op (Compare.cells a b)))

/-- The conjunction of two truth values. -/
def conj : Option Bool → Option Bool → Option Bool
  | some false, _ => some false
  | _, some false => some false
  | some true, some true => some true
  | _, _ => none

/-- The disjunction of two truth values. -/
def disj (a b : Option Bool) : Option Bool := (conj (a.map (!·)) (b.map (!·))).map (!·)

/-- The result of an operation on two values. -/
def binaryResult (op : BinaryOp) (x y : Option Affinity) (a b : Cell) : Cell :=
  match op with
  | .or => ofTruth (disj a.isTrue? b.isTrue?)
  | .and => ofTruth (conj a.isTrue? b.isTrue?)
  | .add | .subtract | .multiply | .divide | .remainder => arithmetic op a b
  | .bitAnd | .bitOr | .shiftLeft | .shiftRight => bitwise op a b
  | .concat =>
    match a.toText?, b.toText? with
    | some s, some t => .text (s ++ t)
    | _, _ => .null
  | op => comparison op x y a b

/-- The result of an operation on one value. -/
def unaryResult (op : UnaryOp) (c : Cell) : Cell :=
  match op with
  | .plus => c
  | .negate => arithmetic .subtract (.integer 0) c
  | .not => ofTruth (c.isTrue?.map (!·))
  | .bitNot =>
    match c with
    | .null => .null
    | c => .integer (-(c.toInt64) - 1)

/-- A value converted to a type, whether or not something is lost. -/
def castResult (a : Affinity) (c : Cell) : Cell :=
  match a, c with
  | _, .null => .null
  | .blob, c =>
    match c with
    | .blob b => .blob b
    | c => .blob ((c.toText?).getD ByteArray.empty)
  | .text, c => .text ((c.toText?).getD ByteArray.empty)
  | .integer, c => .integer c.toInt64
  | .real, c => .ofFloat c.toFloat
  | .numeric, c =>
    match c with
    | .text _ => Affinity.apply .numeric c.toNumber
    | .blob _ => Affinity.apply .numeric c.toNumber
    | c => c

/-- The number of characters before the first zero byte. -/
def characterCount : List UInt8 → Nat
  | [] => 0
  | b :: rest =>
    if b == 0 then 0
    else if b ≥ 0xC0 then 1 + characterCount (rest.dropWhile fun t => 0x80 ≤ t && t < 0xC0)
    else 1 + characterCount rest
termination_by bs => bs.length
decreasing_by
  · have := (List.dropWhile_sublist (fun t : UInt8 => 0x80 ≤ t && t < 0xC0) (l := rest)).length_le
    simp only [List.length_cons]; omega
  · simp

/-- The name of a value's type in lower case. -/
def typeName : Cell → String
  | .null => "null"
  | .integer _ => "integer"
  | .real _ => "real"
  | .text _ => "text"
  | .blob _ => "blob"

/-- The result of a function of the engine. -/
def builtinResult (f : Builtin) (args : List Cell) : Eval Cell :=
  match f, args with
  | .abs, [.integer n] =>
    if n = Int64.minValue then .error (.error "integer overflow")
    else .ok (.integer (if n < 0 then -n else n))
  | .abs, [.null] => .ok .null
  | .abs, [c] =>
    let x := c.toFloat
    .ok (.ofFloat (if x < 0.0 then -x else x))
  | .length, [.null] => .ok .null
  | .length, [.text b] => .ok (.integer (Int64.ofNat (characterCount b.toList)))
  | .length, [c] => .ok (.integer (Int64.ofNat ((c.toText?).getD ByteArray.empty).size))
  | .typeof, [c] => .ok (.text (typeName c).toUTF8)
  | .zeroblob, [c] =>
    let n := c.toInt64.toInt
    if (Cell.maxBytes : Int) < n then .error (.ofCode Code.tooBig)
    else .ok (.blob ⟨Array.replicate n.toNat 0⟩)
  | .coalesce, args =>
    .ok ((args.find? fun
      | .null => false
      | _ => true).getD .null)
  | .lower, [c] => .ok (mapBytes (fun b => if 0x41 ≤ b && b ≤ 0x5A then b + 0x20 else b) c)
  | .upper, [c] => .ok (mapBytes (fun b => if 0x61 ≤ b && b ≤ 0x7A then b - 0x20 else b) c)
  | .hex, [c] => .ok (.text (String.join (((c.toText?).getD ByteArray.empty).toList.map hexByte)).toUTF8)
  | _, _ => .ok .null
where
  /-- A text with each byte replaced. -/
  mapBytes (f : UInt8 → UInt8) (c : Cell) : Cell :=
    match c.toText? with
    | some b => .text ⟨(b.toList.map f).toArray⟩
    | none => .null
  /-- A byte in upper-case hexadecimal. -/
  hexByte (b : UInt8) : String :=
    String.ofList ((Nat.toDigits 16 (b.toNat / 16) ++ Nat.toDigits 16 (b.toNat % 16)).map Char.toUpper)

/-- The result of a registered function, or the fault it reports. -/
def userResult (call : List Argument → CallContext → CallContext) (args : List Cell) : Eval Cell :=
  let c := call (args.map fun x => (Register.ofCell x).argument) {}
  match c.failure? with
  | some (code, text) => .error { code, message := some (Utf8.decodeLossy text) }
  | none => .ok c.result

mutual

/-- The value of a term. -/
def eval (env : Env) : Term → Eval Cell
  | .const c => .ok c
  | .param n => .ok (env.params.getD (n - 1) .null)
  | .column i _ => .ok (env.row.getD i .null)
  | .rowid => .ok env.rowid
  | .unary op t => do return unaryResult op (← eval env t)
  | .binary op a b => do
    let x ← eval env a
    let y ← eval env b
    return binaryResult op a.affinity? b.affinity? x y
  | .isNull t => do
    match ← eval env t with
    | .null => return .integer 1
    | _ => return .integer 0
  | .notNull t => do
    match ← eval env t with
    | .null => return .integer 0
    | _ => return .integer 1
  | .between t low high => do
    let x ← eval env t
    let l ← eval env low
    let h ← eval env high
    let above := binaryResult .greaterEqual t.affinity? low.affinity? x l
    let below := binaryResult .lessEqual t.affinity? high.affinity? x h
    return ofTruth (conj above.isTrue? below.isTrue?)
  | .inList t items => do
    let x ← eval env t
    let ys ← evalList env items
    let hits := ys.map fun y => (comparison .equal t.affinity? none x y).isTrue?
    return ofTruth (hits.foldl disj (some false))
  | .cast t a => do return castResult a (← eval env t)
  | .builtin f args => do builtinResult f (← evalList env args)
  | .user call args => do userResult call (← evalList env args)
  | .aggregate i => .ok (env.aggregates.getD i .null)
  | .case operand branches otherwise => do
    let x ← match operand with
      | some t => do pure (some (← eval env t))
      | none => pure none
    match ← evalBranches env x branches with
    | some c => return c
    | none =>
      match otherwise with
      | some t => eval env t
      | none => return .null

/-- The values of terms. -/
def evalList (env : Env) : List Term → Eval (List Cell)
  | [] => .ok []
  | t :: ts => do
    let c ← eval env t
    return c :: (← evalList env ts)

/-- The value of the first branch whose test holds. -/
def evalBranches (env : Env) (operand : Option Cell) : List (Term × Term) → Eval (Option Cell)
  | [] => .ok none
  | (test, result) :: rest => do
    let c ← eval env test
    let truth := match operand with
      | some x => (comparison .equal none none x c).isTrue?
      | none => c.isTrue?
    if truth = some true then return some (← eval env result)
    evalBranches env operand rest

end

/-- Whether a condition holds for a row; none always does. -/
def passes (env : Env) : Option Term → Eval Bool
  | none => .ok true
  | some t => do return (← t.eval env).isTrue? = some true

end Term

end GuardedSql.Sql
