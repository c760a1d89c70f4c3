/-!
# TOML strings

A string is written on one line between double quotes, over several lines between triple
double quotes when it holds a newline, and raw between apostrophes when it holds a backslash
and nothing that would need an escape. Reading takes all four forms. The character lists
here are what stands behind the opening quotes.
-/

namespace GuardedSql.Toml

/-- Whether a character may stand in a comment or a one-line string: a tab or a character that is
no control character. -/
def isPlain (c : Char) : Bool := c == '\t' || (c.toNat ≥ 0x20 && c.toNat != 0x7F)

/-- Whether a character is a blank within a line. -/
def isBlank (c : Char) : Bool := c == ' ' || c == '\t'

/-- The value of a hexadecimal digit. -/
def hexDigit? (c : Char) : Option Nat :=
  if '0' ≤ c ∧ c ≤ '9' then some (c.toNat - '0'.toNat)
  else if 'a' ≤ c ∧ c ≤ 'f' then some (c.toNat - 'a'.toNat + 10)
  else if 'A' ≤ c ∧ c ≤ 'F' then some (c.toNat - 'A'.toNat + 10)
  else none

/-- The character whose number has the given hexadecimal digits. -/
def hexChar? (ds : List Char) : Option Char := do
  let n ← ds.foldlM (fun v d => (hexDigit? d).map (v * 16 + ·)) 0
  if Nat.isValidChar n then some (Char.ofNat n) else none

/-- The character of a one-letter escape. -/
def letterEscape? : Char → Option Char
  | 'b' => some '\x08'
  | 't' => some '\t'
  | 'n' => some '\n'
  | 'f' => some '\x0C'
  | 'r' => some '\r'
  | '"' => some '"'
  | '\\' => some '\\'
  | _ => none

/-- What was read and what is left. -/
abbrev Read (α : Type) := Option (α × List Char)

/-- Puts a character in front of what is read later. -/
def Read.cons (c : Char) (r : Read (List Char)) : Read (List Char) :=
  r.map fun (cs, rest) => (c :: cs, rest)

/-- The rest of a one-line string between double quotes. -/
def readBasic : List Char → Read (List Char)
  | [] => none
  | '"' :: rest => some ([], rest)
  | '\\' :: 'u' :: a :: b :: c :: d :: rest =>
    match hexChar? [a, b, c, d] with
    | some x => Read.cons x (readBasic rest)
    | none => none
  | '\\' :: 'U' :: a :: b :: c :: d :: e :: f :: g :: h :: rest =>
    match hexChar? [a, b, c, d, e, f, g, h] with
    | some x => Read.cons x (readBasic rest)
    | none => none
  | '\\' :: e :: rest =>
    match letterEscape? e with
    | some x => Read.cons x (readBasic rest)
    | none => none
  | c :: rest => if c != '\\' && isPlain c then Read.cons c (readBasic rest) else none

/-- The rest of a one-line string between apostrophes. -/
def readLiteral : List Char → Read (List Char)
  | [] => none
  | c :: rest =>
    if c == '\'' then some ([], rest)
    else if isPlain c then Read.cons c (readLiteral rest)
    else none

/-- Whether the blanks after a backslash lead to a line end, which joins the lines. -/
def joinsLines : List Char → Bool
  | '\n' :: _ => true
  | '\r' :: '\n' :: _ => true
  | c :: rest => isBlank c && joinsLines rest
  | [] => false

/-- The rest of a string between triple double quotes; `joining` while the blanks and line ends
after a joining backslash are skipped. Up to two quotes may stand before the closing three. -/
def readLongBasic (joining : Bool) : List Char → Read (List Char)
  | '"' :: '"' :: '"' :: '"' :: '"' :: rest => some (['"', '"'], rest)
  | '"' :: '"' :: '"' :: '"' :: rest => some (['"'], rest)
  | '"' :: '"' :: '"' :: rest => some ([], rest)
  | '\\' :: 'u' :: a :: b :: c :: d :: rest =>
    match hexChar? [a, b, c, d] with
    | some x => Read.cons x (readLongBasic false rest)
    | none => none
  | '\\' :: 'U' :: a :: b :: c :: d :: e :: f :: g :: h :: rest =>
    match hexChar? [a, b, c, d, e, f, g, h] with
    | some x => Read.cons x (readLongBasic false rest)
    | none => none
  | '\\' :: e :: rest =>
    match letterEscape? e with
    | some x => Read.cons x (readLongBasic false rest)
    | none => if joinsLines (e :: rest) then readLongBasic true (e :: rest) else none
  | '\r' :: '\n' :: rest =>
    if joining then readLongBasic true rest else Read.cons '\n' (readLongBasic false rest)
  | '\n' :: rest =>
    if joining then readLongBasic true rest else Read.cons '\n' (readLongBasic false rest)
  | c :: rest =>
    if joining && isBlank c then readLongBasic true rest
    else if c != '\\' && isPlain c then Read.cons c (readLongBasic false rest)
    else none
  | [] => none

/-- The rest of a string between triple apostrophes. -/
def readLongLiteral : List Char → Read (List Char)
  | '\'' :: '\'' :: '\'' :: '\'' :: '\'' :: rest => some (['\'', '\''], rest)
  | '\'' :: '\'' :: '\'' :: '\'' :: rest => some (['\''], rest)
  | '\'' :: '\'' :: '\'' :: rest => some ([], rest)
  | '\r' :: '\n' :: rest => Read.cons '\n' (readLongLiteral rest)
  | '\n' :: rest => Read.cons '\n' (readLongLiteral rest)
  | c :: rest => if isPlain c then Read.cons c (readLongLiteral rest) else none
  | [] => none

/-- What follows a line end directly behind opening triple quotes. -/
def afterOpeningLine : List Char → List Char
  | '\r' :: '\n' :: rest => rest
  | '\n' :: rest => rest
  | rest => rest

/-- Reads a string in any of its forms. -/
def readString : List Char → Read (List Char)
  | '"' :: '"' :: '"' :: rest => readLongBasic false (afterOpeningLine rest)
  | '\'' :: '\'' :: '\'' :: rest => readLongLiteral (afterOpeningLine rest)
  | '"' :: rest => readBasic rest
  | '\'' :: rest => readLiteral rest
  | _ => none

/-- A number in upper-case hexadecimal with four places. -/
def hex4 (n : Nat) : List Char :=
  let ds := (Nat.toDigits 16 n).map Char.toUpper
  List.replicate (4 - ds.length) '0' ++ ds

/-- A character of a string between double quotes; a newline stands for itself when the string
runs over several lines. -/
def escaped (long : Bool) (c : Char) : List Char :=
  match c with
  | '\x08' => ['\\', 'b']
  | '\t' => ['\\', 't']
  | '\n' => if long then ['\n'] else ['\\', 'n']
  | '\x0C' => ['\\', 'f']
  | '\r' => ['\\', 'r']
  | '"' => ['\\', '"']
  | '\\' => ['\\', '\\']
  | c => if isPlain c then [c] else '\\' :: 'u' :: hex4 c.toNat

/-- The longest run of apostrophes, `run` of them having just been read. -/
def apostrophes (run : Nat) : List Char → Nat
  | [] => run
  | c :: rest => if c == '\'' then apostrophes (run + 1) rest else max run (apostrophes 0 rest)

/-- Whether a string is written raw: it holds a backslash, no control character other than tabs and
newlines, no three apostrophes in a row and none at its end. -/
def isRaw (cs : List Char) : Bool :=
  cs.any (· == '\\') && cs.all (fun c => isPlain c || c == '\n') && apostrophes 0 cs < 3 &&
    cs.getLast? != some '\''

/-- A string as it is written. -/
def writeString (cs : List Char) : List Char :=
  let long := cs.any (· == '\n')
  if isRaw cs then
    if long then "'''\n".toList ++ cs ++ "'''".toList
    else if cs.any (· == '\'') then "'''".toList ++ cs ++ "'''".toList
    else '\'' :: cs ++ ['\'']
  else if long then "\"\"\"\n".toList ++ cs.flatMap (escaped true) ++ "\"\"\"".toList
  else '"' :: cs.flatMap (escaped false) ++ ['"']

end GuardedSql.Toml
