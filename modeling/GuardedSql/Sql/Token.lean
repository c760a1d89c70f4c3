/-!
# Tokens of SQL text

A text is cut into words, quoted names, literals, parameters and symbols; blanks and comments
between them are left out. A piece that is none of these is an illegal token, which the
reader of statements reports only when it gets there. Text ends at its first zero character.
-/

namespace GuardedSql.Sql

/-- The kinds of tokens. -/
inductive TokenKind where
  /-- A keyword or an unquoted name. -/
  | word
  /-- A name between double quotes, back quotes or brackets. -/
  | quotedName
  /-- A text between apostrophes. -/
  | string
  /-- Bytes in hexadecimal. -/
  | blob
  | integer
  | float
  /-- A parameter. -/
  | variable
  | symbol
  | illegal
  deriving DecidableEq, Repr, Inhabited

/-- A piece of SQL text. -/
structure Token where
  /-- What it is. -/
  kind : TokenKind
  /-- The piece as it was written. -/
  text : String
  /-- Its first character in the text. -/
  start : Nat
  /-- The character after its last. -/
  stop : Nat
  deriving Repr, Inhabited

namespace Token

/-- Whether a character is a blank. -/
def isSpace (c : Char) : Bool := c == ' ' || c == '\t' || c == '\n' || c == '\x0C' || c == '\r'

/-- Whether a character may stand in a name. -/
def isName (c : Char) : Bool := c.isAlphanum || c == '_' || c == '$' || c.toNat ≥ 0x80

/-- Whether a character may begin a name. -/
def startsName (c : Char) : Bool := c.isAlpha || c == '_' || c.toNat ≥ 0x80

/-- Whether a character is a hexadecimal digit. -/
def isHex (c : Char) : Bool := c.isDigit || ('a' ≤ c && c ≤ 'f') || ('A' ≤ c && c ≤ 'F')

/-- The length of a comment in slashes and stars, of which `n` characters are read. -/
def blockComment (n : Nat) : List Char → Nat
  | '*' :: '/' :: _ => n + 2
  | _ :: rest => blockComment (n + 1) rest
  | [] => n

/-- The length of a quoted piece behind its opening quote, `n` characters being read; none if it is
not closed. A doubled quote stands for one. -/
def quotedLength (q : Char) (n : Nat) : List Char → Option Nat
  | [] => none
  | c :: rest =>
    if c == q then
      match rest with
      | d :: more => if d == q then quotedLength q (n + 2) more else some (n + 1)
      | [] => some (n + 1)
    else quotedLength q (n + 1) rest

/-- How many characters from the front a predicate holds for. -/
def spanLength (p : Char → Bool) (cs : List Char) : Nat := (cs.takeWhile p).length

/-- The length of the fraction and the power of a number whose whole part is read, and whether there
is any. -/
def fractionLength (cs : List Char) : Nat × Bool :=
  let (n, real) := match cs with
    | '.' :: rest => (1 + spanLength Char.isDigit rest, true)
    | _ => (0, false)
  let power := match cs.drop n with
    | e :: rest =>
      if e == 'e' || e == 'E' then
        match rest with
        | d :: more =>
          if d.isDigit then 1 + spanLength Char.isDigit rest
          else if (d == '+' || d == '-') && (more.head?.map Char.isDigit).getD false then
            2 + spanLength Char.isDigit more
          else 0
        | [] => 0
      else 0
    | [] => 0
  (n + power, real || power != 0)

/-- A number: its kind and length. One that a name character follows is illegal. -/
def number (cs : List Char) : TokenKind × Nat :=
  let (kind, n) := match cs with
    | '0' :: x :: rest =>
      if (x == 'x' || x == 'X') && (rest.head?.map isHex).getD false then
        (TokenKind.integer, 2 + spanLength isHex rest)
      else decimal
    | _ => decimal
  let more := spanLength isName (cs.drop n)
  if more = 0 then (kind, n) else (.illegal, n + more)
where
  /-- A number in base ten. -/
  decimal : TokenKind × Nat :=
    let whole := spanLength Char.isDigit cs
    let (fraction, real) := fractionLength (cs.drop whole)
    (if real then .float else .integer, whole + fraction)

/-- Bytes in hexadecimal, behind the opening apostrophe: an even number of digits and a closing
apostrophe. -/
def blobLiteral (rest : List Char) : TokenKind × Nat :=
  let n := spanLength isHex rest
  let after := rest.drop n
  if n % 2 = 0 && after.head? == some '\'' then (.blob, 2 + n + 1)
  else
    let junk := spanLength (· != '\'') after
    let closing := if (after.drop junk).isEmpty then 0 else 1
    (.illegal, 2 + n + junk + closing)

/-- A quoted piece of a kind; what is not closed is illegal to the end. -/
def quoted (kind : TokenKind) (q : Char) (rest : List Char) : TokenKind × Nat :=
  match quotedLength q 1 rest with
  | some n => (kind, n)
  | none => (.illegal, rest.length + 1)

/-- What stands in front of a text: a token's kind and length, or a blank's length. -/
def front : Char → List Char → Option TokenKind × Nat
  | c, rest =>
    let some_ := fun (t : TokenKind × Nat) => (some t.1, t.2)
    let symbol := fun (n : Nat) => (some TokenKind.symbol, n)
    if isSpace c then (none, 1 + spanLength isSpace rest)
    else if c == '\uFEFF' then (none, 1)
    else if c.isDigit then some_ (number (c :: rest))
    else
      match c, rest with
      | '-', '-' :: more => (none, 2 + spanLength (· != '\n') more)
      | '-', '>' :: '>' :: _ => symbol 3
      | '-', '>' :: _ => symbol 2
      | '/', '*' :: d :: more => (none, 2 + blockComment 0 (d :: more))
      | '=', '=' :: _ => symbol 2
      | '<', '=' :: _ => symbol 2
      | '<', '>' :: _ => symbol 2
      | '<', '<' :: _ => symbol 2
      | '>', '=' :: _ => symbol 2
      | '>', '>' :: _ => symbol 2
      | '!', '=' :: _ => symbol 2
      | '!', _ => (some .illegal, 1)
      | '|', '|' :: _ => symbol 2
      | '\'', _ => some_ (quoted .string '\'' rest)
      | '"', _ => some_ (quoted .quotedName '"' rest)
      | '\x60', _ => some_ (quoted .quotedName '\x60' rest)
      | '[', _ =>
        let n := spanLength (· != ']') rest
        if n < rest.length then (some .quotedName, n + 2) else (some .illegal, n + 1)
      | '?', _ => (some .variable, 1 + spanLength Char.isDigit rest)
      | '.', d :: _ =>
        if d.isDigit then some_ (number (c :: rest)) else symbol 1
      | _, _ =>
        if c == '$' || c == '@' || c == ':' || c == '#' then
          let n := spanLength isName rest
          if n = 0 then (some .illegal, 1) else (some .variable, 1 + n)
        else if (c == 'x' || c == 'X') && rest.head? == some '\'' then some_ (blobLiteral (rest.drop 1))
        else if startsName c then (some .word, 1 + spanLength isName rest)
        else if "-();+*/%=<>|,&~.".toList.contains c then symbol 1
        else (some .illegal, 1)

/-- The tokens of a text whose first character has the given position. -/
def scanFrom (position : Nat) : Nat → List Char → List Token
  | 0, _ => []
  | _ + 1, [] => []
  | fuel + 1, c :: rest =>
    let (kind?, n) := front c rest
    let n := max n 1
    let tokens := scanFrom (position + n) fuel ((c :: rest).drop n)
    match kind? with
    | none => tokens
    | some kind =>
      ⟨kind, String.ofList ((c :: rest).take n), position, position + n⟩ :: tokens

/-- The characters of a text before its first zero character. -/
def visibleChars (s : String) : List Char := s.toList.takeWhile (· != '\x00')

/-- The tokens of a text. -/
def scan (cs : List Char) : List Token := scanFrom 0 (cs.length + 1) cs

/-- The token in capital letters, for comparing keywords. -/
def upper (t : Token) : String := t.text.toUpper

/-- Whether a token is a keyword. -/
def isKeyword (t : Token) (word : String) : Bool := t.kind == .word && t.upper == word

/-- Whether a token is a symbol. -/
def isSymbol (t : Token) (s : String) : Bool := t.kind == .symbol && t.text == s

/-- A piece without its quotes; a doubled quote inside stands for one. -/
def unquote (s : String) : String :=
  match s.toList with
  | '[' :: rest => String.ofList rest.dropLast
  | q :: rest => if q == '"' || q == '\'' || q == '\x60' then String.ofList (halve q rest.dropLast) else s
  | [] => s
where
  /-- Takes one of each two quotes. -/
  halve (q : Char) : List Char → List Char
    | [] => []
    | c :: rest =>
      if c == q then
        match rest with
        | _ :: more => c :: halve q more
        | [] => [c]
      else c :: halve q rest

end Token

/-- The words that are never names. -/
def reservedWords : List String :=
  ["ADD", "ALL", "ALTER", "AND", "AS", "AUTOINCREMENT", "BETWEEN", "CASE", "CHECK", "COLLATE",
   "COMMIT", "CONSTRAINT", "CREATE", "DEFAULT", "DEFERRABLE", "DELETE", "DISTINCT", "DROP", "ELSE",
   "ESCAPE", "EXCEPT", "EXISTS", "FOREIGN", "FROM", "GROUP", "HAVING", "IN", "INDEX", "INSERT",
   "INTERSECT", "INTO", "IS", "ISNULL", "JOIN", "LIMIT", "NOT", "NOTHING", "NOTNULL", "NULL", "ON",
   "OR", "ORDER", "PRIMARY", "REFERENCES", "RETURNING", "SELECT", "SET", "TABLE", "THEN", "TO",
   "TRANSACTION", "UNION", "UNIQUE", "UPDATE", "USING", "VALUES", "WHEN", "WHERE"]

end GuardedSql.Sql
