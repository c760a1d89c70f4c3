import GuardedSql.Toml.Scalar

/-!
# Reading TOML documents

A document is read line by line: blank and comment lines, table headers and `key = value`
lines. The lines are then put together to one table, in which no name may be given twice and
no table reopened.
-/

namespace GuardedSql.Toml

/-- How many arrays and inline tables may be nested. -/
def nestingLimit : Nat := 80

/-- The bytes of a text. -/
def byteCount (cs : List Char) : Nat := cs.foldl (fun n c => n + c.utf8Size) 0

/-- The stretch of a document of `total` bytes between two of its rests. -/
def spanOf (total : Nat) (start stop : List Char) : Span :=
  ⟨total - byteCount start, total - byteCount stop⟩

/-- A part of a key with its place. -/
structure Name where
  /-- The name. -/
  text : String
  /-- Where it was written. -/
  span : Span

/-- Skips blanks. -/
def skipBlanks (cs : List Char) : List Char := cs.dropWhile isBlank

/-- Whether a character may stand in a bare key. -/
def isBare (c : Char) : Bool := c.isAlphanum || c == '_' || c == '-'

/-- A line end, or the end of the document. -/
def readLineEnd : List Char → Option (Unit × List Char)
  | [] => some ((), [])
  | '\n' :: rest => some ((), rest)
  | '\r' :: '\n' :: rest => some ((), rest)
  | _ => none

/-- A comment up to its line end, if there is one. -/
def skipComment (cs : List Char) : List Char :=
  match cs with
  | '#' :: rest => rest.dropWhile isPlain
  | _ => cs

/-- What may stand behind an item on its line. -/
def readTrailing (cs : List Char) : Option (Unit × List Char) := readLineEnd (skipComment (skipBlanks cs))

/-- One part of a key. -/
def readName (total : Nat) (cs : List Char) : Option (Name × List Char) :=
  let quoted := match cs with
    | '"' :: rest => readBasic rest
    | '\'' :: rest => readLiteral rest
    | _ =>
      let bare := cs.takeWhile isBare
      if bare.isEmpty then none else some (bare, cs.dropWhile isBare)
  quoted.map fun (text, rest) => (⟨String.ofList text, spanOf total cs rest⟩, rest)

/-- The parts of a key, with points between them. -/
def readKey (total : Nat) : Nat → List Char → Option (List Name × List Char)
  | 0, _ => none
  | fuel + 1, cs => do
    let (name, rest) ← readName total cs
    match skipBlanks rest with
    | '.' :: more =>
      let (names, rest) ← readKey total fuel (skipBlanks more)
      some (name :: names, rest)
    | _ => some ([name], rest)

/-- Skips blanks, line ends and comments between the items of an array. -/
def skipLines : Nat → List Char → List Char
  | 0, cs => cs
  | fuel + 1, cs =>
    match cs with
    | '\n' :: rest => skipLines fuel rest
    | '\r' :: '\n' :: rest => skipLines fuel rest
    | '#' :: rest =>
      match readLineEnd (rest.dropWhile isPlain) with
      | some ((), rest) => skipLines fuel rest
      | none => cs
    | c :: rest => if isBlank c then skipLines fuel rest else cs
    | [] => []

/-- Writes a value under a key of an inline table; a name may be given once, and only keys with
points open a table again. -/
def insertInline (value : Located Datum) :
    List Name → List (Entry Datum) → Option (List (Entry Datum))
  | [], _ => none
  | [name], fields =>
    if fields.any (·.name == name.text) then none
    else some (fields ++ [⟨name.text, name.span, value⟩])
  | name :: names, fields =>
    match fields.find? (·.name == name.text) with
    | none => do
      let inner ← insertInline value names []
      some (fields ++ [⟨name.text, name.span, ⟨.table inner, none⟩⟩])
    | some f =>
      match f.value with
      | ⟨.table inner, none⟩ => do
        let inner ← insertInline value names inner
        some (fields.map fun g => if g.name == name.text then { g with value := ⟨.table inner, none⟩ } else g)
      | _ => none

mutual

/-- A value; `depth` more may be nested in it. -/
def readValue (total : Nat) : Nat → Nat → List Char → Option (Located Datum × List Char)
  | 0, _, _ => none
  | fuel + 1, depth, cs =>
    let located := fun (r : Option (Datum × List Char)) => r.map fun (d, rest) => (⟨d, some (spanOf total cs rest)⟩, rest)
    match cs with
    | '[' :: rest =>
      if depth = 0 then none
      else located ((readItems total fuel (depth - 1) (skipLines rest.length rest)).map fun (ds, rest) => (.array ds, rest))
    | '\x7b' :: rest =>
      if depth = 0 then none
      else
        match skipBlanks rest with
        | '\x7d' :: rest => located (some (.table [], rest))
        | rest => located ((readFields total fuel (depth - 1) [] rest).map fun (fs, rest) => (.table fs, rest))
    | '"' :: _ => located ((readString cs).map fun (s, rest) => (.string (String.ofList s), rest))
    | '\'' :: _ => located ((readString cs).map fun (s, rest) => (.string (String.ofList s), rest))
    | _ => located (readScalar cs)

/-- The items of an array and its closing bracket. -/
def readItems (total : Nat) : Nat → Nat → List Char → Option (List (Located Datum) × List Char)
  | 0, _, _ => none
  | fuel + 1, depth, cs =>
    match cs with
    | ']' :: rest => some ([], rest)
    | _ => do
      let (d, rest) ← readValue total fuel depth cs
      match skipLines rest.length rest with
      | ']' :: rest => some ([d], rest)
      | ',' :: rest =>
        let (ds, rest) ← readItems total fuel depth (skipLines rest.length rest)
        some (d :: ds, rest)
      | _ => none

/-- The entries of an inline table and its closing brace. -/
def readFields (total : Nat) : Nat → Nat → List (Entry Datum) → List Char → Option (List (Entry Datum) × List Char)
  | 0, _, _, _ => none
  | fuel + 1, depth, fields, cs => do
    let (names, rest) ← readKey total fuel cs
    match skipBlanks rest with
    | '=' :: rest =>
      let (d, rest) ← readValue total fuel depth (skipBlanks rest)
      let fields ← insertInline d names fields
      match skipBlanks rest with
      | '\x7d' :: rest => some (fields, rest)
      | ',' :: rest => readFields total fuel depth fields (skipBlanks rest)
      | _ => none
    | _ => none

end

/-- A line of a document. -/
inductive Line where
  /-- A table header. -/
  | header (names : List Name) (span : Span)
  /-- A header of one more table of an array. -/
  | arrayHeader (names : List Name) (span : Span)
  /-- A value under a key. -/
  | entry (names : List Name) (value : Located Datum)

/-- Reads one line; blank and comment lines have nothing. -/
def readLine (total : Nat) (cs : List Char) : Option (Option Line × List Char) :=
  let fuel := cs.length + 1
  match skipBlanks cs with
  | '[' :: '[' :: rest => do
    let (names, rest) ← readKey total fuel (skipBlanks rest)
    match skipBlanks rest with
    | ']' :: ']' :: after =>
      let ((), next) ← readTrailing after
      some (some (.arrayHeader names (spanOf total (skipBlanks cs) after)), next)
    | _ => none
  | '[' :: rest => do
    let (names, rest) ← readKey total fuel (skipBlanks rest)
    match skipBlanks rest with
    | ']' :: after =>
      let ((), next) ← readTrailing after
      some (some (.header names (spanOf total (skipBlanks cs) after)), next)
    | _ => none
  | rest =>
    match readTrailing rest with
    | some ((), next) => some (none, next)
    | none => do
      let (names, rest) ← readKey total fuel rest
      match skipBlanks rest with
      | '=' :: rest =>
        let (d, rest) ← readValue total fuel nestingLimit (skipBlanks rest)
        let ((), next) ← readTrailing rest
        some (some (.entry names d), next)
      | _ => none

/-- The lines of a document. -/
def readLines (total : Nat) : Nat → List Char → Option (List Line)
  | 0, cs => if cs.isEmpty then some [] else none
  | fuel + 1, cs =>
    if cs.isEmpty then some []
    else do
      let (line?, rest) ← readLine total cs
      let lines ← readLines total fuel rest
      some (line?.toList ++ lines)

/-- How a table came about, which decides whether it may be opened again. -/
inductive TableKind where
  /-- As a part of a longer header. -/
  | implied
  /-- By a header of its own. -/
  | headed
  /-- By a key with points. -/
  | dotted
  deriving DecidableEq, Repr

/-- An item of the document under construction. -/
inductive Item where
  /-- A value of a `key = value` line. -/
  | value (d : Datum)
  /-- A table. -/
  | table (kind : TableKind) (fields : List (Entry Item))
  /-- The tables of an array, the last one first. -/
  | tables (items : List (List (Entry Item)))

/-- Updates the entry of a name, or adds one at the end. -/
def upsert (name : Name) (f : Option (Located Item) → Option (Located Item)) :
    List (Entry Item) → Option (List (Entry Item))
  | [] => (f none).map fun item => [⟨name.text, name.span, item⟩]
  | field :: rest =>
    if field.name == name.text then (f (some field.value)).map fun item => { field with value := item } :: rest
    else (upsert name f rest).map (field :: ·)

/-- Goes down a path of tables and updates the fields at its end; tables that are missing are
made, by a key with points if `dotted`. Such a key opens no table that has a header of its own, and
ends in no table that a longer header implies. -/
def descend (dotted : Bool) (f : List (Entry Item) → Option (List (Entry Item))) :
    List Name → List (Entry Item) → Option (List (Entry Item))
  | [], fields => f fields
  | name :: names, fields =>
    upsert name (fun
      | none => (descend dotted f names []).map fun inner =>
          ⟨.table (if dotted then .dotted else .implied) inner, none⟩
      | some ⟨.table kind inner, span?⟩ =>
        if dotted && (kind == .headed || (names.isEmpty && kind == .implied)) then none
        else (descend dotted f names inner).map fun inner => ⟨.table kind inner, span?⟩
      | some ⟨.tables (last :: earlier), span?⟩ =>
        (descend dotted f names last).map fun last => ⟨.tables (last :: earlier), span?⟩
      | some _ => none) fields

/-- Adds a value under the last name of a key. -/
def addEntry (path : List Name) (name : Name) (value : Located Datum) (fields : List (Entry Item)) :
    Option (List (Entry Item)) :=
  descend true (upsert name fun
    | none => some ⟨.value value.item, value.span?⟩
    | some _ => none) path fields

/-- The `key = value` lines in front, as the fields of one table, and the lines from the next
header on. -/
def gather (fields : List (Entry Item)) : List Line → Option (List (Entry Item) × List Line)
  | .entry names value :: rest =>
    match names.reverse with
    | name :: path => (addEntry path.reverse name value fields).bind fun fields => gather fields rest
    | [] => none
  | lines => some (fields, lines)

/-- Puts the lines from a header on into the document. -/
def assemble (root : List (Entry Item)) : Nat → List Line → Option (List (Entry Item))
  | _, [] => some root
  | 0, _ => none
  | fuel + 1, .header names span :: rest =>
    match names.reverse with
    | [] => none
    | name :: path => do
      let (fields, lines) ← gather [] rest
      let root ← descend false (upsert name fun
        | none => some ⟨.table .headed fields, some span⟩
        | some ⟨.table .implied inner, _⟩ =>
          (gather inner rest).map fun (fields, _) => ⟨.table .headed fields, some span⟩
        | some _ => none) path.reverse root
      assemble root fuel lines
  | fuel + 1, .arrayHeader names span :: rest =>
    match names.reverse with
    | [] => none
    | name :: path => do
      let (fields, lines) ← gather [] rest
      let root ← descend false (upsert name fun
        | none => some ⟨.tables [fields], some span⟩
        | some ⟨.tables earlier, first?⟩ =>
          some ⟨.tables (fields :: earlier), some ⟨(first?.getD span).start, span.stop⟩⟩
        | some _ => none) path.reverse root
      assemble root fuel lines
  | _, .entry .. :: _ => none

/-- The fields at the top of a document; tables become data of their own. -/
def readDocument (text : String) : Option (List (Entry Item)) := do
  let chars := match text.toList with
    | '\uFEFF' :: rest => rest
    | cs => cs
  let lines ← readLines text.utf8ByteSize (chars.length + 1) chars
  let (root, lines) ← gather [] lines
  assemble root lines.length lines

end GuardedSql.Toml
