import GuardedSql.Decimal.Layout
import GuardedSql.Sql.State
import GuardedSql.Sql.Token

/-!
# Filled-in statements

The text of a statement with the values of its parameters in their places, as literals.
-/

namespace GuardedSql.Sql

namespace Prepared

/-- The number of a parameter as it is written; one without a number follows the one before. -/
def parameterNumber (p : Parameters) (next : Nat) (text : String) : Nat :=
  match text.toList with
  | '?' :: [] => next
  | '?' :: digits => digits.foldl (fun n d => n * 10 + (d.toNat - '0'.toNat)) 0
  | _ => ((p.names.find? fun n => n.1 == text).map (·.2)).getD 0

/-- A byte in lower-case hexadecimal. -/
def hexByte (b : UInt8) : List UInt8 :=
  (String.ofList (Nat.toDigits 16 (b.toNat / 16) ++ Nat.toDigits 16 (b.toNat % 16))).toUTF8.toList

/-- A text between apostrophes, up to its first zero byte; apostrophes in it are doubled. -/
def textLiteral (b : ByteArray) : List UInt8 :=
  let inner := (Utf8.beforeNul b).toList.flatMap fun c => if c = 0x27 then [c, c] else [c]
  [0x27] ++ inner ++ [0x27]

/-- A value as a literal. -/
def literal : Cell → List UInt8
  | .null => "NULL".toUTF8.toList
  | .integer n => (toString n.toInt).toUTF8.toList
  | .real x => (Number.realText x).toList
  | .text b => textLiteral b
  | .blob b =>
    if b.isEmpty then "zeroblob(0)".toUTF8.toList
    else "x'".toUTF8.toList ++ b.toList.flatMap hexByte ++ [0x27]

/-- Replaces the parameters among tokens; `position` is where the text that is left starts. -/
def fill (s : Prepared) : Nat → Nat → List Char → List Token → List UInt8
  | _, _, cs, [] => (String.ofList cs).toUTF8.toList
  | next, position, cs, t :: rest =>
    if t.kind == .variable then
      let n := parameterNumber s.program.parameters next t.text
      let before := cs.take (t.start - position)
      (String.ofList before).toUTF8.toList ++ literal (s.bindings.getD (n - 1) .null) ++
        fill s (max (n + 1) next) t.stop (cs.drop (t.stop - position)) rest
    else fill s next position cs rest

/-- The text with the values of the parameters. -/
def expanded (s : Prepared) : ByteArray :=
  if s.program.parameters.count = 0 then s.sql.toUTF8
  else
    let cs := s.sql.toList
    ⟨(s.fill 1 0 cs (Token.scan cs)).toArray⟩

end Prepared

end GuardedSql.Sql
