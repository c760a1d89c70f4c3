import GuardedSql.Decimal.Digits
import GuardedSql.Sql.Syntax
import GuardedSql.Sql.Token

/-!
# Reading SQL statements

One statement is read from the front of a text. The first token that cannot continue it is
reported; so is the end of the text when more was expected, and a token that is none.
-/

namespace GuardedSql.Sql

/-- Why a statement could not be read. -/
inductive SyntaxFault where
  /-- A token that cannot stand where it is. -/
  | near (text : String)
  /-- The text ends too early. -/
  | incomplete
  /-- A piece that is no token. -/
  | unrecognized (text : String)
  /-- Anything else, in words. -/
  | other (message : String)
  deriving Repr

/-- A fault in words. -/
def SyntaxFault.message : SyntaxFault → String
  | near text => "near \"" ++ text ++ "\": syntax error"
  | incomplete => "incomplete input"
  | unrecognized text => "unrecognized token: \"" ++ text ++ "\""
  | other message => message

/-- The parameters of a statement. -/
structure Parameters where
  /-- The highest number. -/
  count : Nat := 0
  /-- The names with their numbers, in the order of their first use. -/
  names : List (String × Nat) := []
  deriving Repr

/-- The highest number that a parameter may have. -/
def maxParameter : Nat := 32766

/-- The parameters with one more, under a name if it has one, and its number. -/
def Parameters.next (p : Parameters) (name : Option String) : Except SyntaxFault (Nat × Parameters) :=
  let n := p.count + 1
  if maxParameter < n then .error (.other "too many SQL variables")
  else .ok (n, { count := n, names := p.names ++ name.toList.map fun text => (text, n) })

/-- The number of a parameter as it is written, and the parameters with it. Each number has the
name under which it comes first. -/
def Parameters.assign (p : Parameters) (text : String) : Except SyntaxFault (Nat × Parameters) :=
  match text.toList with
  | '?' :: [] => p.next none
  | '?' :: digits =>
    let n := digits.foldl (fun n d => n * 10 + (d.toNat - '0'.toNat)) 0
    if n < 1 ∨ maxParameter < n then
      .error (.other s!"variable number must be between ?1 and ?{maxParameter}")
    else
      let names := if p.names.any (·.2 == n) then p.names else p.names ++ [(text, n)]
      .ok (n, { count := max p.count n, names })
  | _ =>
    match p.names.find? (·.1 == text) with
    | some (_, n) => .ok (n, p)
    | none => p.next (some text)

/-- What is left to read. -/
structure ParserState where
  /-- The tokens ahead. -/
  tokens : List Token
  /-- The parameters so far. -/
  parameters : Parameters := {}
  /-- The characters of the text. -/
  source : Array Char
  /-- The end of the last token taken. -/
  position : Nat := 0

/-- Reading that can fail. -/
abbrev Parser := StateT ParserState (Except SyntaxFault)

namespace Parser

/-- The token ahead. -/
def peek : Parser (Option Token) := do return (← get).tokens.head?

/-- The fault of the token ahead. -/
def unexpected {α : Type} : Parser α := do
  match ← peek with
  | none => throw .incomplete
  | some t => if t.kind == .illegal then throw (.unrecognized t.text) else throw (.near t.text)

/-- Takes the token ahead. -/
def advance : Parser Unit :=
  modify fun s => { s with tokens := s.tokens.tail, position := (s.tokens.head?.map Token.stop).getD s.position }

/-- Whether the token ahead passes a test. -/
def sees (p : Token → Bool) : Parser Bool := do return ((← peek).map p).getD false

/-- Takes the token ahead if it passes a test. -/
def accept (p : Token → Bool) : Parser Bool := do
  if ← sees p then
    advance
    return true
  return false

/-- Whether a keyword is ahead. -/
def seesKeyword (word : String) : Parser Bool := sees (·.isKeyword word)

/-- Takes a keyword if it is ahead. -/
def keyword? (word : String) : Parser Bool := accept (·.isKeyword word)

/-- Takes a symbol if it is ahead. -/
def symbol? (s : String) : Parser Bool := accept (·.isSymbol s)

/-- Takes a keyword that has to be ahead. -/
def keyword (word : String) : Parser Unit := do
  if !(← keyword? word) then unexpected

/-- Takes a symbol that has to be ahead. -/
def symbol (s : String) : Parser Unit := do
  if !(← symbol? s) then unexpected

/-- Whether a token can be an unquoted name. -/
def isNameWord (t : Token) : Bool := t.kind == .word && !reservedWords.contains t.upper

/-- Whether a token can be a name. -/
def isName (t : Token) : Bool := isNameWord t || t.kind == .quotedName || t.kind == .string

/-- The name that a token is. -/
def nameOf (t : Token) : String := if t.kind == .word then t.text else Token.unquote t.text

/-- Takes a name. -/
def name : Parser String := do
  match ← peek with
  | some t =>
    if isName t then
      advance
      return nameOf t
    else unexpected
  | none => unexpected

/-- Takes a name with an optional schema. -/
def tableName : Parser TableName := do
  let first ← name
  if ← symbol? "." then return ⟨some first, ← name⟩
  return ⟨none, first⟩

/-- Takes a name with an optional schema; also tells where the name itself starts. -/
def placedName (here : Parser Nat) : Parser (TableName × Nat) := do
  let start ← here
  let first ← name
  if ← symbol? "." then
    let start ← here
    return (⟨some first, ← name⟩, start)
  return (⟨none, first⟩, start)

/-- The text from a position to the end of the last token taken. -/
def textFrom (start : Nat) : Parser String := do
  let s ← get
  return String.ofList (s.source.extract start s.position).toList

/-- The position of the token ahead. -/
def here : Parser Nat := do
  let s ← get
  return (s.tokens.head?.map Token.start).getD s.position

/-- One or more of something, with commas between them; `fuel` bounds their number. -/
def separated {α : Type} (p : Parser α) : Nat → Parser (List α)
  | 0 => unexpected
  | fuel + 1 => do
    let a ← p
    if ← symbol? "," then return a :: (← separated p fuel)
    return [a]

/-- How many tokens are ahead. -/
def fuel : Parser Nat := do return (← get).tokens.length + 1

/-- A list of names between parentheses, whose opening one is taken. -/
def namesInParens : Parser (List String) := do
  let names ← separated name (← fuel)
  symbol ")"
  return names

/-! ### Literals -/

/-- The value of digits. -/
def digitsValue (base : Nat) (ds : List Char) : Nat :=
  ds.foldl (fun n d =>
    n * base + (if d.isDigit then d.toNat - '0'.toNat else d.toLower.toNat - 'a'.toNat + 10)) 0

/-- The parts of a decimal number: its digits as a number and the power of ten. -/
def decimalParts (cs : List Char) : Nat × Int :=
  let whole := cs.takeWhile Char.isDigit
  let rest := cs.drop whole.length
  let (fraction, rest) := match rest with
    | '.' :: more => (more.takeWhile Char.isDigit, more.dropWhile Char.isDigit)
    | _ => ([], rest)
  let power : Int := match rest with
    | _ :: '-' :: ds => -((digitsValue 10 ds : Nat) : Int)
    | _ :: '+' :: ds => (digitsValue 10 ds : Nat)
    | _ :: ds => (digitsValue 10 ds : Nat)
    | [] => 0
  (digitsValue 10 (whole ++ fraction), power - (fraction.length : Int))

/-- The expression of a number as it is written; a decimal integer beyond 64 bits is a real, a
hexadecimal one is refused. -/
def numberExpr (negative : Bool) (t : Token) : Except SyntaxFault Expr :=
  let cs := t.text.toList
  match cs with
  | '0' :: x :: digits =>
    if x == 'x' || x == 'X' then
      let n := digitsValue 16 digits
      if 0x10000000000000000 ≤ n || (negative && n == 0x8000000000000000) then
        .error (.other ("hex literal too big: " ++ (if negative then "-" else "") ++ t.text))
      else .ok (.integer (if negative then -Int64.ofNat n else Int64.ofNat n))
    else .ok (decimal cs)
  | _ => .ok (decimal cs)
where
  /-- A number in base ten. -/
  decimal (cs : List Char) : Expr :=
    let (m, e) := decimalParts cs
    if t.kind == .integer && (m < 0x8000000000000000 || (negative && m == 0x8000000000000000)) then
      .integer (Int64.ofInt (if negative then -(m : Int) else m))
    else .real (Decimal.read negative m e)

/-- The bytes of a literal as it is written. -/
def blobBytes (text : String) : ByteArray :=
  ⟨(pairs ((text.toList.drop 2).dropLast)).toArray⟩
where
  /-- Takes two digits for a byte. -/
  pairs : List Char → List UInt8
    | a :: b :: rest => (digitsValue 16 [a, b]).toUInt8 :: pairs rest
    | _ => []

/-! ### Expressions -/

/-- Takes the text of a type: names, and numbers between parentheses. -/
def typeName : Parser (Option String) := do
  let start ← here
  let n ← fuel
  if !(← sees isName) then return none
  go n
  if ← symbol? "(" then
    inParens n
    symbol ")"
  return some (← textFrom start)
where
  /-- Takes the names. -/
  go : Nat → Parser Unit
    | 0 => return ()
    | k + 1 => do
      if ← accept isName then go k
  /-- Takes the numbers. -/
  inParens : Nat → Parser Unit
    | 0 => return ()
    | k + 1 => do
      let _ ← accept fun t => t.isSymbol "+" || t.isSymbol "-"
      if !(← accept fun t => t.kind == .integer || t.kind == .float) then unexpected
      if ← symbol? "," then inParens k

/-- The operators between two operands by their level; the weakest bind first. -/
def operatorAt (level : Nat) (t : Token) : Option BinaryOp :=
  if t.kind == .word then
    match level, t.upper with
    | 0, "OR" => some .or
    | 1, "AND" => some .and
    | _, _ => none
  else if t.kind == .symbol then
    match level, t.text with
    | 3, "=" => some .equal
    | 3, "==" => some .equal
    | 3, "<>" => some .notEqual
    | 3, "!=" => some .notEqual
    | 4, "<" => some .less
    | 4, "<=" => some .lessEqual
    | 4, ">" => some .greater
    | 4, ">=" => some .greaterEqual
    | 5, "&" => some .bitAnd
    | 5, "|" => some .bitOr
    | 5, "<<" => some .shiftLeft
    | 5, ">>" => some .shiftRight
    | 6, "+" => some .add
    | 6, "-" => some .subtract
    | 7, "*" => some .multiply
    | 7, "/" => some .divide
    | 7, "%" => some .remainder
    | 8, "||" => some .concat
    | _, _ => none
  else none

/-- The level of operators on one operand, which bind strongest. -/
def prefixLevel : Nat := 9

mutual

/-- An expression of operators of a level and stronger ones. -/
def exprAt : Nat → Nat → Parser Expr
  | 0, _ => unexpected
  | fuel + 1, level => do
    if level ≥ prefixLevel then prefixExpr fuel
    else if level == 2 then
      if ← keyword? "NOT" then return .unary .not (← exprAt fuel 2)
      exprAt fuel 3
    else
      let first ← exprAt fuel (level + 1)
      moreAt fuel level first

/-- The operators of a level behind a first operand. -/
def moreAt : Nat → Nat → Expr → Parser Expr
  | 0, _, _ => unexpected
  | fuel + 1, level, first => do
    match ← peek with
    | none => return first
    | some t =>
      match operatorAt level t with
      | some op =>
        advance
        let second ← exprAt fuel (level + 1)
        moreAt fuel level (.binary op first second)
      | none =>
        if level == 3 && t.kind == .word then
          match ← suffix fuel t first with
          | some e => moreAt fuel level e
          | none => return first
        else return first

/-- The tests behind an operand that are words. -/
def suffix : Nat → Token → Expr → Parser (Option Expr)
  | 0, _, _ => unexpected
  | fuel + 1, t, first => do
    match t.upper with
    | "ISNULL" =>
      advance
      return some (.isNull first)
    | "NOTNULL" =>
      advance
      return some (.notNull first)
    | "IS" =>
      advance
      let negated ← keyword? "NOT"
      let second ← exprAt fuel 4
      return some (match negated, second with
        | false, .null => .isNull first
        | true, .null => .notNull first
        | false, _ => .binary .is first second
        | true, _ => .binary .isNot first second)
    | "BETWEEN" =>
      advance
      return some (← betweenRest fuel first)
    | "IN" =>
      advance
      return some (← inRest fuel first)
    | "NOT" =>
      advance
      if ← keyword? "NULL" then return some (.notNull first)
      if ← keyword? "BETWEEN" then return some (.unary .not (← betweenRest fuel first))
      if ← keyword? "IN" then return some (.unary .not (← inRest fuel first))
      unexpected
    | _ => return none

/-- The bounds of a range. -/
def betweenRest : Nat → Expr → Parser Expr
  | 0, _ => unexpected
  | fuel + 1, e => do
    let low ← exprAt fuel 4
    keyword "AND"
    let high ← exprAt fuel 4
    return .between e low high

/-- The items of a membership test. -/
def inRest : Nat → Expr → Parser Expr
  | 0, _ => unexpected
  | fuel + 1, e => do
    symbol "("
    if ← symbol? ")" then return .inList e []
    let items ← exprList fuel
    symbol ")"
    return .inList e items

/-- Expressions with commas between them. -/
def exprList : Nat → Parser (List Expr)
  | 0 => unexpected
  | fuel + 1 => do
    let e ← exprAt fuel 0
    if ← symbol? "," then return e :: (← exprList fuel)
    return [e]

/-- An operand with the operators in front of it. -/
def prefixExpr : Nat → Parser Expr
  | 0 => unexpected
  | fuel + 1 => do
    if ← symbol? "-" then
      match ← peek with
      | some t =>
        if t.kind == .integer || t.kind == .float then
          advance
          liftM (numberExpr true t)
        else return .unary .negate (← prefixExpr fuel)
      | none => unexpected
    else if ← symbol? "+" then return .unary .plus (← prefixExpr fuel)
    else if ← symbol? "~" then return .unary .bitNot (← prefixExpr fuel)
    else operand fuel

/-- An operand. -/
def operand : Nat → Parser Expr
  | 0 => unexpected
  | fuel + 1 => do
    match ← peek with
    | none => unexpected
    | some t =>
      match t.kind with
      | .integer =>
        advance
        liftM (numberExpr false t)
      | .float =>
        advance
        liftM (numberExpr false t)
      | .string =>
        advance
        if ← sees (·.isSymbol ".") then columnRest (nameOf t)
        else return .text (nameOf t)
      | .blob =>
        advance
        return .blob (blobBytes t.text)
      | .variable =>
        if t.text.startsWith "#" then unexpected
        advance
        match (← get).parameters.assign t.text with
        | .ok (n, p) =>
          modify fun s => { s with parameters := p }
          return .param n
        | .error e => throw e
      | .symbol =>
        if ← symbol? "(" then
          let e ← exprAt fuel 0
          symbol ")"
          return e
        else unexpected
      | .quotedName =>
        advance
        nameRest fuel t
      | .word =>
        match t.upper with
        | "NULL" =>
          advance
          return .null
        | "CAST" =>
          advance
          symbol "("
          let e ← exprAt fuel 0
          keyword "AS"
          let type ← typeName
          symbol ")"
          return .cast e (type.getD "")
        | "CASE" =>
          advance
          let operand? ← if ← seesKeyword "WHEN" then pure none else some <$> exprAt fuel 0
          let branches ← caseBranches fuel
          let otherwise ← if ← keyword? "ELSE" then some <$> exprAt fuel 0 else pure none
          keyword "END"
          return .case operand? branches otherwise
        | _ =>
          if isNameWord t then
            advance
            nameRest fuel t
          else unexpected
      | .illegal => unexpected

/-- The branches of a case. -/
def caseBranches : Nat → Parser (List (Expr × Expr))
  | 0 => unexpected
  | fuel + 1 => do
    keyword "WHEN"
    let test ← exprAt fuel 0
    keyword "THEN"
    let result ← exprAt fuel 0
    if ← seesKeyword "WHEN" then return (test, result) :: (← caseBranches fuel)
    return [(test, result)]

/-- What a name is the beginning of: a call or a column. -/
def nameRest : Nat → Token → Parser Expr
  | 0, _ => unexpected
  | fuel + 1, t => do
    if ← symbol? "(" then
      if ← symbol? "*" then
        symbol ")"
        return .call (nameOf t) [] true
      if ← symbol? ")" then return .call (nameOf t) [] false
      let _ ← keyword? "ALL"
      let args ← exprList fuel
      symbol ")"
      return .call (nameOf t) args false
    if ← sees (·.isSymbol ".") then columnRest (nameOf t)
    else return .column none none (nameOf t) (t.kind == .quotedName)

/-- The rest of a column name with a point. -/
def columnRest (first : String) : Parser Expr := do
  symbol "."
  let second ← name
  if ← symbol? "." then return .column (some first) (some second) (← name) false
  return .column none (some first) second false

end

/-- An expression. -/
def expr : Parser Expr := do exprAt ((← fuel) * 16) 0

/-- An expression behind a keyword, if the keyword is ahead. -/
def clause (word : String) : Parser (Option Expr) := do
  if ← keyword? word then return some (← expr)
  return none

/-! ### Queries -/

/-- The words that follow a table without being its other name. -/
def joinWords : List String := ["CROSS", "FULL", "INNER", "LEFT", "NATURAL", "OUTER", "RIGHT", "INDEXED"]

/-- A second name, with or without a word in front. -/
def title? (refused : List String) : Parser (Option String) := do
  if ← keyword? "AS" then return some (← name)
  if ← sees fun t => isName t && !(t.kind == .word && refused.contains t.upper) then return some (← name)
  return none

/-- One entry of a result list. -/
def resultTerm : Parser ResultTerm := do
  if ← symbol? "*" then return .star
  let s ← get
  match s.tokens with
  | t :: dot :: star :: _ =>
    if isName t && dot.isSymbol "." && star.isSymbol "*" then
      advance
      advance
      advance
      return .tableStar (nameOf t)
  | _ => pure ()
  let start ← here
  let e ← expr
  let text ← textFrom start
  return .expr e (← title? []) text

/-- One entry of an order. -/
def orderTerm : Parser OrderTerm := do
  let e ← expr
  let descending ← keyword? "DESC"
  if !descending then let _ ← keyword? "ASC"
  return ⟨e, descending⟩

mutual

/-- One arm of a query. -/
def arm : Nat → Parser (Arm Query)
  | 0 => unexpected
  | n + 1 => do
    keyword "SELECT"
    let _ ← keyword? "ALL"
    let columns ← separated resultTerm (← fuel)
    let source ← if ← keyword? "FROM" then fromClause n else pure .nothing
    let condition ← clause "WHERE"
    let groupBy ← if ← keyword? "GROUP" then do
        keyword "BY"
        separated expr (← fuel)
      else pure []
    return { columns, source, condition, groupBy }

/-- What rows are taken from. -/
def fromClause : Nat → Parser (From Query)
  | 0 => unexpected
  | n + 1 => do
    if ← symbol? "(" then
      let q ← queryAt n
      symbol ")"
      return .query q (← title? joinWords)
    let table ← tableName
    return .table table (← title? joinWords)

/-- The arms of a query. -/
def arms : Nat → Parser (List (Arm Query))
  | 0 => unexpected
  | n + 1 => do
    let a ← arm n
    if ← keyword? "UNION" then
      keyword "ALL"
      return a :: (← arms n)
    return [a]

/-- A query. -/
def queryAt : Nat → Parser Query
  | 0 => unexpected
  | n + 1 => do
    let as ← arms n
    let order ← if ← keyword? "ORDER" then do
        keyword "BY"
        separated orderTerm (← fuel)
      else pure []
    return .mk as order

end

/-- A query. -/
def query : Parser Query := do queryAt ((← fuel) * 4)

/-! ### Changes -/

/-- What is to happen at a violated constraint. -/
def conflict : Parser Conflict := do
  if ← keyword? "OR" then
    if ← keyword? "ABORT" then return .abort
    if ← keyword? "FAIL" then return .fail
    if ← keyword? "IGNORE" then return .ignore
    if ← keyword? "REPLACE" then return .replace
    if ← keyword? "ROLLBACK" then return .rollback
    unexpected
  return .abort

/-- One row of values. -/
def valuesRow : Parser (List Expr) := do
  symbol "("
  let row ← separated expr (← fuel)
  symbol ")"
  return row

/-- The rest of an insertion. -/
def insertRest (c : Conflict) : Parser Statement := do
  keyword "INTO"
  let table ← tableName
  let columns ← if ← symbol? "(" then namesInParens else pure []
  if ← keyword? "DEFAULT" then
    keyword "VALUES"
    return .insert c table columns []
  keyword "VALUES"
  let rows ← separated valuesRow (← fuel)
  return .insert c table columns rows

/-- One assignment. -/
def assignment : Parser (String × Expr) := do
  let column ← name
  symbol "="
  return (column, ← expr)

/-- The rest of an update. -/
def updateRest : Parser Statement := do
  let c ← conflict
  let table ← tableName
  keyword "SET"
  let sets ← separated assignment (← fuel)
  return .update c table sets (← clause "WHERE")

/-- The rest of a deletion. -/
def deleteRest : Parser Statement := do
  keyword "FROM"
  let table ← tableName
  return .delete table (← clause "WHERE")

/-! ### Definitions -/

/-- The condition of a check, with its text. -/
def checkRest : Parser (Expr × String) := do
  symbol "("
  let start ← here
  let e ← expr
  let text ← textFrom start
  symbol ")"
  return (e, text)

/-- What is skipped behind a constraint. -/
def onConflict : Parser Unit := do
  if ← keyword? "ON" then
    keyword "CONFLICT"
    let _ ← name

/-- The rest of a reference to a parent table. -/
def referenceRest (columns : List String) : Parser ForeignKey := do
  let parent ← name
  let parentColumns ← if ← symbol? "(" then namesInParens else pure []
  actions (← fuel)
  let isDeferred ← deferral
  return { columns, parent, parentColumns, isDeferred }
where
  /-- Takes what happens to the children of a changed parent; nothing does. -/
  actions : Nat → Parser Unit
    | 0 => return ()
    | n + 1 => do
      if ← keyword? "ON" then
        if !(← keyword? "DELETE") then keyword "UPDATE"
        if ← keyword? "SET" then
          if !(← keyword? "NULL") then keyword "DEFAULT"
        else if ← keyword? "NO" then keyword "ACTION"
        else if !(← keyword? "CASCADE") then keyword "RESTRICT"
        actions n
  /-- Takes when it is checked. -/
  deferral : Parser Bool := do
    let s ← get
    let negated := match s.tokens with
      | a :: b :: _ => a.isKeyword "NOT" && b.isKeyword "DEFERRABLE"
      | _ => false
    if negated then advance
    if ← keyword? "DEFERRABLE" then
      if ← keyword? "INITIALLY" then
        if ← keyword? "DEFERRED" then return !negated
        keyword "IMMEDIATE"
      return false
    return false

/-- One constraint of a column, if there is one. -/
def columnConstraint (c : ColumnSyntax) : Parser (Option ColumnSyntax) := do
  let label ← if ← keyword? "CONSTRAINT" then some <$> name else pure none
  if ← keyword? "PRIMARY" then
    keyword "KEY"
    if !(← keyword? "ASC") then let _ ← keyword? "DESC"
    onConflict
    let _ ← keyword? "AUTOINCREMENT"
    return some { c with isPrimaryKey := true }
  if ← keyword? "NOT" then
    keyword "NULL"
    onConflict
    return some { c with isNotNull := true }
  if ← keyword? "NULL" then
    onConflict
    return some c
  if ← keyword? "UNIQUE" then
    onConflict
    return some { c with constraints := c.constraints ++ [.unique [c.name]] }
  if ← keyword? "CHECK" then
    let (e, text) ← checkRest
    return some { c with constraints := c.constraints ++ [.check e (label.getD text)] }
  if ← keyword? "DEFAULT" then
    let e ← if ← sees (·.isSymbol "(") then expr else prefixExpr (← fuel)
    return some { c with default := some e }
  if ← keyword? "REFERENCES" then
    let k ← referenceRest [c.name]
    return some { c with constraints := c.constraints ++ [.foreignKey k] }
  if ← keyword? "COLLATE" then
    let _ ← name
    return some c
  if label.isSome then unexpected
  return none

/-- The constraints of a column. -/
def columnConstraints : Nat → ColumnSyntax → Parser ColumnSyntax
  | 0, c => return c
  | n + 1, c => do
    match ← columnConstraint c with
    | some c => columnConstraints n c
    | none => return c

/-- The definition of a column. -/
def columnDef : Parser ColumnSyntax := do
  let columnName ← name
  let type ← typeName
  columnConstraints (← fuel) { name := columnName, type }

/-- One constraint of a table. -/
def tableConstraint : Parser TableConstraint := do
  let label ← if ← keyword? "CONSTRAINT" then some <$> name else pure none
  if ← keyword? "PRIMARY" then
    keyword "KEY"
    symbol "("
    let columns ← namesInParens
    onConflict
    return .primaryKey columns
  if ← keyword? "UNIQUE" then
    symbol "("
    let columns ← namesInParens
    onConflict
    return .unique columns
  if ← keyword? "CHECK" then
    let (e, text) ← checkRest
    return .check e (label.getD text)
  keyword "FOREIGN"
  keyword "KEY"
  symbol "("
  let columns ← namesInParens
  keyword "REFERENCES"
  return .foreignKey (← referenceRest columns)

/-- Whether a table constraint is ahead. -/
def seesTableConstraint : Parser Bool :=
  sees fun t => ["CONSTRAINT", "PRIMARY", "UNIQUE", "CHECK", "FOREIGN"].any t.isKeyword

/-- The columns and constraints of a table. -/
def tableBody : Nat → Parser (List ColumnSyntax × List TableConstraint)
  | 0 => unexpected
  | n + 1 => do
    if ← seesTableConstraint then
      let c ← tableConstraint
      if ← symbol? "," then
        let (columns, constraints) ← tableBody n
        return (columns, c :: constraints)
      return ([], [c])
    let column ← columnDef
    if ← symbol? "," then
      let (columns, constraints) ← tableBody n
      return (column :: columns, constraints)
    return ([column], [])

/-- Whether an object that exists already is no error. -/
def ifNotExists : Parser Bool := do
  if ← keyword? "IF" then
    keyword "NOT"
    keyword "EXISTS"
    return true
  return false

/-- Whether an object that is missing is no error. -/
def ifExists : Parser Bool := do
  if ← keyword? "IF" then
    keyword "EXISTS"
    return true
  return false

/-- The rest of a definition. Its text starts anew at the name of the object. -/
def createRest : Parser Statement := do
  let temp ← accept fun t => t.isKeyword "TEMP" || t.isKeyword "TEMPORARY"
  if ← keyword? "TABLE" then
    let quiet ← ifNotExists
    let (table, start) ← placedName here
    symbol "("
    let (columns, constraints) ← tableBody (← fuel)
    symbol ")"
    return .createTable temp quiet table columns constraints ("CREATE TABLE " ++ (← textFrom start))
  if ← keyword? "VIEW" then
    let quiet ← ifNotExists
    let (view, start) ← placedName here
    keyword "AS"
    let q ← query
    return .createView temp quiet view q ("CREATE VIEW " ++ (← textFrom start))
  if temp then unexpected
  let unique ← keyword? "UNIQUE"
  keyword "INDEX"
  let quiet ← ifNotExists
  let (index, start) ← placedName here
  keyword "ON"
  let table ← name
  symbol "("
  let columns ← namesInParens
  let head := if unique then "CREATE UNIQUE INDEX " else "CREATE INDEX "
  return .createIndex unique quiet index table columns (head ++ (← textFrom start))

/-- The rest of a removal. -/
def dropRest : Parser Statement := do
  let kind ← if ← keyword? "TABLE" then pure ObjectKind.table
    else if ← keyword? "INDEX" then pure ObjectKind.index
    else do
      keyword "VIEW"
      pure ObjectKind.view
  let quiet ← ifExists
  return .drop kind quiet (← tableName)

/-- The rest of a change of a table. -/
def alterRest : Parser Statement := do
  keyword "TABLE"
  let table ← tableName
  keyword "ADD"
  let _ ← keyword? "COLUMN"
  let start ← here
  let column ← columnDef
  return .addColumn table column (← textFrom start)

/-! ### Control -/

/-- The rest of a beginning. -/
def beginRest : Parser Statement := do
  let mode ← if ← keyword? "IMMEDIATE" then pure BeginMode.immediate
    else if ← keyword? "EXCLUSIVE" then pure BeginMode.exclusive
    else do
      let _ ← keyword? "DEFERRED"
      pure BeginMode.deferred
  if ← keyword? "TRANSACTION" then
    if ← sees isName then let _ ← name
  return .begin mode

/-- The word and the name behind a commit. -/
def transactionName : Parser Unit := do
  if ← keyword? "TRANSACTION" then
    if ← sees isName then let _ ← name

/-- The rest of a rollback. -/
def rollbackRest : Parser Statement := do
  transactionName
  if ← keyword? "TO" then
    let _ ← keyword? "SAVEPOINT"
    return .rollbackTo (← name)
  return .rollback

/-- The value of a setting, as it is written without quotes. -/
def pragmaValue : Parser String := do
  let sign ← if ← symbol? "-" then pure "-" else do
    let _ ← symbol? "+"
    pure ""
  match ← peek with
  | some t =>
    if t.kind == .integer || t.kind == .float || t.kind == .word || isName t then
      advance
      return sign ++ nameOf t
    else unexpected
  | none => unexpected

/-- The rest of a setting. -/
def pragmaRest : Parser Statement := do
  let p ← tableName
  if ← symbol? "=" then return .pragma p.schema p.name (some (← pragmaValue))
  if ← symbol? "(" then
    let value ← pragmaValue
    symbol ")"
    return .pragma p.schema p.name (some value)
  return .pragma p.schema p.name none

/-- A statement. -/
def statement : Parser Statement := do
  match ← peek with
  | none => unexpected
  | some t =>
    if t.kind != .word then unexpected
    match t.upper with
    | "SELECT" => return .select (← query)
    | "INSERT" =>
      advance
      insertRest (← conflict)
    | "REPLACE" =>
      advance
      insertRest .replace
    | "UPDATE" =>
      advance
      updateRest
    | "DELETE" =>
      advance
      deleteRest
    | "CREATE" =>
      advance
      createRest
    | "DROP" =>
      advance
      dropRest
    | "ALTER" =>
      advance
      alterRest
    | "BEGIN" =>
      advance
      beginRest
    | "COMMIT" =>
      advance
      transactionName
      return .commit
    | "END" =>
      advance
      transactionName
      return .commit
    | "ROLLBACK" =>
      advance
      rollbackRest
    | "SAVEPOINT" =>
      advance
      return .savepoint (← name)
    | "RELEASE" =>
      advance
      let _ ← keyword? "SAVEPOINT"
      return .release (← name)
    | "PRAGMA" =>
      advance
      pragmaRest
    | "ATTACH" =>
      advance
      let _ ← keyword? "DATABASE"
      let file ← expr
      keyword "AS"
      return .attach file (← expr)
    | "DETACH" =>
      advance
      let _ ← keyword? "DATABASE"
      return .detach (← expr)
    | "EXPLAIN" =>
      advance
      unexpected
    | _ => unexpected

/-- Skips the semicolons in front of a statement. -/
def skipEmpty : Nat → Parser Unit
  | 0 => return ()
  | n + 1 => do
    if ← symbol? ";" then skipEmpty n

/-- The end of a statement: a semicolon, or the end of the text with all that is blank before it. -/
def statementEnd : Parser Unit := do
  if (← peek).isSome then symbol ";"
  else modify fun s => { s with position := s.source.size }

end Parser

/-- A statement with the parameters that occur in it. -/
structure Parsed where
  /-- The statement. -/
  statement : Statement
  /-- The parameters. -/
  parameters : Parameters

/-- The first statement of a text, none if there is none, and where the rest of the text starts. -/
def parseFirst (cs : List Char) : Except SyntaxFault (Option Parsed × Nat) :=
  let tokens := Token.scan cs
  let start : ParserState := { tokens, source := cs.toArray }
  let p : Parser (Option Parsed) := do
    Parser.skipEmpty tokens.length
    if (← Parser.peek).isNone then return none
    let s ← Parser.statement
    Parser.statementEnd
    return some ⟨s, (← get).parameters⟩
  match p.run start with
  | .ok (none, _) => .ok (none, cs.length)
  | .ok (some parsed, s) => .ok (some parsed, s.position)
  | .error e => .error e

end GuardedSql.Sql
