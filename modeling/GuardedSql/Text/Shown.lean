/-!
# Text shown in diagnostics

A text is shown between double quotes, with every character that a reader could not see or
could mistake written as an escape: quotes and backslashes, the usual control characters by
letter, and the rest as a hexadecimal number in braces.
-/

namespace GuardedSql.Shown

/-- The ranges of characters that are written as numbers: controls, spaces other than the common
one, format characters, combining marks and private use, in the blocks of general use. -/
def hiddenRanges : List (Nat × Nat) :=
  [(0x00, 0x1F), (0x7F, 0xA0), (0xAD, 0xAD), (0x300, 0x36F), (0x378, 0x379), (0x483, 0x489),
   (0x591, 0x5BD), (0x5BF, 0x5BF), (0x5C1, 0x5C2), (0x5C4, 0x5C5), (0x5C7, 0x5C7), (0x600, 0x605),
   (0x610, 0x61A), (0x61C, 0x61C), (0x64B, 0x65F), (0x670, 0x670), (0x6D6, 0x6DD), (0x70F, 0x70F),
   (0x93C, 0x93C), (0x941, 0x948), (0x94D, 0x94D), (0xE31, 0xE31), (0xE34, 0xE3A), (0xE47, 0xE4E),
   (0x1680, 0x1680), (0x180B, 0x180F), (0x1AB0, 0x1AFF), (0x1DC0, 0x1DFF), (0x2000, 0x200F),
   (0x2028, 0x202F), (0x205F, 0x206F), (0x20D0, 0x20FF), (0x3000, 0x3000), (0x302A, 0x302F),
   (0x3099, 0x309A), (0xD800, 0xF8FF), (0xFE00, 0xFE0F), (0xFE20, 0xFE2F), (0xFEFF, 0xFEFF),
   (0xFF9E, 0xFF9F), (0xFFF0, 0xFFFB), (0xFFFE, 0xFFFF), (0x1D165, 0x1D169), (0x1D16D, 0x1D182),
   (0xE0000, 0x10FFFF)]

/-- Whether a character is written as a number. -/
def isHidden (c : Char) : Bool := hiddenRanges.any fun r => r.1 ≤ c.toNat && c.toNat ≤ r.2

/-- The lower-case hexadecimal digits of a number, without leading zeros. -/
def hex (n : Nat) : String := String.ofList (Nat.toDigits 16 n)

/-- A character as it is shown between double quotes. -/
def character (c : Char) : String :=
  match c with
  | '"' => "\\\""
  | '\\' => "\\\\"
  | '\n' => "\\n"
  | '\r' => "\\r"
  | '\t' => "\\t"
  | '\x00' => "\\0"
  | c => if isHidden c then "\\u\x7b" ++ hex c.toNat ++ "\x7d" else c.toString

/-- A text between double quotes. -/
def text (s : String) : String := "\"" ++ String.join (s.toList.map character) ++ "\""

/-- A truth value in words. -/
def flag (b : Bool) : String := if b then "true" else "false"

/-- A record with all its fields. -/
def record (name : String) (fields : List (String × String)) : String :=
  name ++ " \x7b " ++ ", ".intercalate (fields.map fun f => f.1 ++ ": " ++ f.2) ++ " \x7d"

/-- A record of which only some fields are shown. -/
def partialRecord (name : String) (fields : List (String × String)) : String :=
  name ++ " \x7b " ++ String.join (fields.map fun f => f.1 ++ ": " ++ f.2 ++ ", ") ++ ".. \x7d"

end GuardedSql.Shown
