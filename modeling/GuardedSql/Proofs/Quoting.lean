import GuardedSql.Savepoint
import GuardedSql.Sql.Parser
import GuardedSql.Transaction

/-!
# Names between quotes

Whatever stands in a name, the text of a savepoint statement is read as its keywords and one more
token, which is the name. The two things to see are that a doubled quote does not close the piece
that it stands in, and that taking one of each two quotes gives the name back.
-/

namespace GuardedSql

/-- Characters with the double quotes among them doubled. -/
def doubled (cs : List Char) : List Char := cs.flatMap fun c => if c = '"' then ['"', '"'] else [c]

theorem doubled_cons (c : Char) (cs : List Char) :
    doubled (c :: cs) = (if c = '"' then ['"', '"'] else [c]) ++ doubled cs := rfl

/-- A name between quotes, character by character. -/
theorem toList_doubleQuoted (name : String) :
    (doubleQuoted name).toList = '"' :: (doubled name.toList ++ ['"']) := by
  rw [doubleQuoted, String.toList_ofList]
  rfl

/-- No zero character comes from the quotes. -/
theorem nul_not_mem_doubled {cs : List Char} (h : '\x00' ∉ cs) : '\x00' ∉ doubled cs := by
  intro hm
  obtain ⟨c, hc, hz⟩ := List.mem_flatMap.mp hm
  split at hz
  · simp at hz
  · rw [List.mem_singleton.mp hz] at h
    exact h hc

namespace Sql

/-- The piece ends at the quote that is not doubled. -/
theorem quotedLength_doubled (n : Nat) (cs : List Char) :
    Token.quotedLength '"' n (doubled cs ++ ['"']) = some (n + (doubled cs).length + 1) := by
  induction cs generalizing n with
  | nil => rfl
  | cons c cs ih =>
    rw [doubled_cons]
    by_cases hc : c = '"'
    · -- the look ahead finds the second of two quotes, so the piece goes on
      subst hc
      simp only [if_true, List.cons_append, List.nil_append, Token.quotedLength, beq_self_eq_true]
      rw [ih]
      simp only [List.length_cons]
      congr 1
      omega
    · simp only [if_neg hc, List.cons_append, List.nil_append]
      have hne : (c == '"') = false := by simpa using hc
      unfold Token.quotedLength
      rw [hne]
      simp only [Bool.false_eq_true, if_false]
      rw [ih]
      simp only [List.length_cons]
      congr 1
      omega

/-- One of each two quotes is left. -/
theorem halve_doubled (cs : List Char) : Token.unquote.halve '"' (doubled cs) = cs := by
  induction cs with
  | nil => rfl
  | cons c cs ih =>
    rw [doubled_cons]
    by_cases hc : c = '"'
    · subst hc
      simp only [if_true, List.cons_append, List.nil_append, Token.unquote.halve,
        beq_self_eq_true, ih]
    · have hne : (c == '"') = false := by simpa using hc
      simp only [if_neg hc, List.cons_append, List.nil_append]
      unfold Token.unquote.halve
      rw [hne]
      simp only [Bool.false_eq_true, if_false, ih]

/-- What is read between the quotes is the name. -/
theorem unquote_doubleQuoted (name : String) : Token.unquote (doubleQuoted name) = name := by
  rw [Token.unquote, toList_doubleQuoted]
  change String.ofList (Token.unquote.halve '"' (doubled name.toList ++ ['"']).dropLast) = name
  rw [List.dropLast_concat, halve_doubled, String.ofList_toList]

/-- A name between quotes at the end of a text is one token. -/
theorem scanFrom_doubleQuoted (position fuel : Nat) (name : String) :
    Token.scanFrom position (fuel + 2) (doubleQuoted name).toList =
      [⟨.quotedName, doubleQuoted name, position,
        position + (doubleQuoted name).toList.length⟩] := by
  have hlength : (doubleQuoted name).toList.length = 1 + (doubled name.toList).length + 1 := by
    rw [toList_doubleQuoted, List.length_cons, List.length_append, List.length_singleton]
    omega
  have hfront : Token.front '"' (doubled name.toList ++ ['"']) =
      (some .quotedName, (doubleQuoted name).toList.length) := by
    change (some (Token.quoted .quotedName '"' (doubled name.toList ++ ['"'])).1,
      (Token.quoted .quotedName '"' (doubled name.toList ++ ['"'])).2) = _
    rw [Token.quoted, quotedLength_doubled, hlength]
  have hmax : max (doubleQuoted name).toList.length 1 = (doubleQuoted name).toList.length := by
    omega
  conv => lhs; rw [toList_doubleQuoted]
  rw [Token.scanFrom, hfront]
  dsimp only
  rw [hmax, ← toList_doubleQuoted, List.drop_length, List.take_length, String.ofList_toList]
  rfl

/-- Keywords and blanks in front of a name between quotes are read for themselves. -/
theorem scan_append_doubleQuoted (head : List Char) (words : List Token) (n : Nat) (name : String)
    (hhead : ∀ fuel rest, Token.scanFrom 0 (fuel + n) (head ++ '"' :: rest) =
      words ++ Token.scanFrom head.length fuel ('"' :: rest)) (hn : n ≤ head.length) :
    Token.scan (head ++ (doubleQuoted name).toList) = words ++
      [⟨.quotedName, doubleQuoted name, head.length,
        head.length + (doubleQuoted name).toList.length⟩] := by
  have hlength : (doubleQuoted name).toList.length = (doubled name.toList).length + 2 := by
    rw [toList_doubleQuoted, List.length_cons, List.length_append, List.length_singleton]
  have hfuel : (head ++ (doubleQuoted name).toList).length + 1 =
      ((doubled name.toList).length + (head.length - n) + 1 + 2) + n := by
    rw [List.length_append, hlength]
    omega
  rw [Token.scan, hfuel, ← scanFrom_doubleQuoted]
  rw [toList_doubleQuoted]
  exact hhead _ _

/-! ### The statements of guards -/

namespace Parser

variable {α β : Type} (s : ParserState)

theorem bind_run (p : Parser α) (f : α → Parser β) :
    (p >>= f) s = match p s with
      | .ok (a, s') => f a s'
      | .error e => .error e := by
  simp only [bind, StateT.bind, Except.bind]
  rcases p s with _ | ⟨_, _⟩ <;> rfl

theorem map_run (f : α → β) (p : Parser α) :
    (f <$> p) s = match p s with
      | .ok (a, s') => .ok (f a, s')
      | .error e => .error e := by
  rw [map_eq_pure_bind, bind_run]
  rfl

@[simp] theorem pure_run (a : α) : (pure a : Parser α) s = .ok (a, s) := rfl

@[simp] theorem get_run : (get : Parser ParserState) s = .ok (s, s) := rfl

@[simp] theorem modify_run (f : ParserState → ParserState) :
    (modify f : Parser Unit) s = .ok ((), f s) := rfl

@[simp] theorem peek_run : peek s = .ok (s.tokens.head?, s) := rfl

@[simp] theorem advance_run : advance s = .ok ((),
    { s with
      tokens := s.tokens.tail
      position := (s.tokens.head?.map Token.stop).getD s.position }) := rfl

@[simp] theorem sees_run (p : Token → Bool) :
    sees p s = .ok ((s.tokens.head?.map p).getD false, s) := rfl

/-- A keyword is taken only when it is ahead. -/
theorem keyword?_run (word : String) :
    keyword? word s = if (s.tokens.head?.map (·.isKeyword word)).getD false then
      (advance >>= fun _ => pure true) s else .ok (false, s) := by
  simp only [keyword?, accept, bind_run, sees_run]
  split <;> rfl

/-- A name between quotes is taken as a name. -/
theorem name_doubleQuoted {name : String} {i j : Nat} {source : Array Char} (p : Parameters)
    (position : Nat) :
    Parser.name {
        tokens := [⟨.quotedName, doubleQuoted name, i, j⟩], parameters := p, source, position } =
      .ok (name, { tokens := [], parameters := p, source, position := j }) := by
  simp [Parser.name, nameOf, isName, bind_run, map_run, unquote_doubleQuoted]

end Parser

/-- Reads a statement from some tokens, all of which it has to take. -/
theorem parseFirst_of_statement {cs : List Char} {t : Token} {l : List Token} {q : Statement}
    {n : Nat} (htokens : Token.scan cs = t :: l) (hword : t.kind = .word)
    (hq : Parser.statement { tokens := t :: l, source := cs.toArray } =
      .ok (q, { tokens := [], source := cs.toArray, position := n })) :
    parseFirst cs = .ok (some ⟨q, {}⟩, cs.length) := by
  have hsymbol : t.isSymbol ";" = false := by
    rw [Token.isSymbol, hword]
    rfl
  rw [parseFirst, htokens]
  simp only [List.length_cons, Parser.skipEmpty, Parser.symbol?, Parser.accept, StateT.run,
    Parser.bind_run, Parser.sees_run, Parser.peek_run, Parser.pure_run, List.head?_cons,
    Option.map_some, Option.getD_some, hsymbol, Bool.false_eq_true, if_false, Option.isNone_some,
    hq, Parser.statementEnd, List.head?_nil, Option.isSome_none, Parser.modify_run,
    Parser.get_run, List.size_toArray]

section

variable {source : Array Char} {i j : Nat} {name : String}

/-- The keyword and a name between quotes set a savepoint. -/
theorem statement_savepoint :
    Parser.statement {
        tokens := [⟨.word, "SAVEPOINT", 0, 9⟩, ⟨.quotedName, doubleQuoted name, i, j⟩], source } =
      .ok (.savepoint name, { tokens := [], source, position := j }) := by
  have hupper : "SAVEPOINT".toUpper = "SAVEPOINT" := by decide +kernel
  simp [Parser.statement, Parser.bind_run, Parser.map_run, Token.upper, hupper,
    Parser.name_doubleQuoted]

/-- The keywords and a name between quotes release a savepoint. -/
theorem statement_release :
    Parser.statement {
        tokens := [⟨.word, "RELEASE", 0, 7⟩, ⟨.word, "SAVEPOINT", 8, 17⟩,
          ⟨.quotedName, doubleQuoted name, i, j⟩], source } =
      .ok (.release name, { tokens := [], source, position := j }) := by
  have hrelease : "RELEASE".toUpper = "RELEASE" := by decide +kernel
  have hsavepoint : "SAVEPOINT".toUpper = "SAVEPOINT" := by decide +kernel
  simp [Parser.statement, Parser.bind_run, Parser.map_run, Parser.keyword?_run, Token.isKeyword,
    Token.upper, hrelease, hsavepoint, Parser.name_doubleQuoted]

/-- The keywords and a name between quotes go back to a savepoint. -/
theorem statement_rollbackTo :
    Parser.statement {
        tokens := [⟨.word, "ROLLBACK", 0, 8⟩, ⟨.word, "TO", 9, 11⟩, ⟨.word, "SAVEPOINT", 12, 21⟩,
          ⟨.quotedName, doubleQuoted name, i, j⟩], source } =
      .ok (.rollbackTo name, { tokens := [], source, position := j }) := by
  have hrollback : "ROLLBACK".toUpper = "ROLLBACK" := by decide +kernel
  have hto : "TO".toUpper = "TO" := by decide +kernel
  have hsavepoint : "SAVEPOINT".toUpper = "SAVEPOINT" := by decide +kernel
  simp [Parser.statement, Parser.rollbackRest, Parser.transactionName, Parser.bind_run,
    Parser.map_run, Parser.keyword?_run, Token.isKeyword, Token.upper, hrollback, hto, hsavepoint,
    Parser.name_doubleQuoted]

end

/-- The statement that sets a savepoint is read with the name as it was given. -/
theorem parseFirst_setSql (name : String) :
    parseFirst (Savepoint.setSql name).toList =
      .ok (some ⟨.savepoint name, {}⟩, (Savepoint.setSql name).toList.length) := by
  have htokens := scan_append_doubleQuoted "SAVEPOINT ".toList [⟨.word, "SAVEPOINT", 0, 9⟩] 2 name
    (fun _ _ => rfl) (by decide)
  rw [← String.toList_append] at htokens
  exact parseFirst_of_statement htokens rfl statement_savepoint

/-- So is the one that releases it. -/
theorem parseFirst_releaseSql (name : String) :
    parseFirst (Savepoint.releaseSql name).toList =
      .ok (some ⟨.release name, {}⟩, (Savepoint.releaseSql name).toList.length) := by
  have htokens := scan_append_doubleQuoted "RELEASE SAVEPOINT ".toList
    [⟨.word, "RELEASE", 0, 7⟩, ⟨.word, "SAVEPOINT", 8, 17⟩] 4 name (fun _ _ => rfl) (by decide)
  rw [← String.toList_append] at htokens
  exact parseFirst_of_statement htokens rfl statement_release

/-- So is the one that goes back to it. -/
theorem parseFirst_rollbackSql (name : String) :
    parseFirst (Savepoint.rollbackSql name).toList =
      .ok (some ⟨.rollbackTo name, {}⟩, (Savepoint.rollbackSql name).toList.length) := by
  have htokens := scan_append_doubleQuoted "ROLLBACK TO SAVEPOINT ".toList
    [⟨.word, "ROLLBACK", 0, 8⟩, ⟨.word, "TO", 9, 11⟩, ⟨.word, "SAVEPOINT", 12, 21⟩] 6 name
    (fun _ _ => rfl) (by decide)
  rw [← String.toList_append] at htokens
  exact parseFirst_of_statement htokens rfl statement_rollbackTo

theorem parseFirst_commit :
    parseFirst "COMMIT".toList = .ok (some ⟨.commit, {}⟩, "COMMIT".toList.length) := by
  have hupper : "COMMIT".toUpper = "COMMIT" := by decide +kernel
  have hscan : Token.scan "COMMIT".toList = [⟨.word, "COMMIT", 0, 6⟩] := rfl
  refine parseFirst_of_statement (n := 6) hscan rfl ?_
  simp [Parser.statement, Parser.transactionName, Parser.bind_run, Parser.keyword?_run,
    Token.upper, hupper]

theorem parseFirst_rollback :
    parseFirst "ROLLBACK".toList = .ok (some ⟨.rollback, {}⟩, "ROLLBACK".toList.length) := by
  have hupper : "ROLLBACK".toUpper = "ROLLBACK" := by decide +kernel
  have hscan : Token.scan "ROLLBACK".toList = [⟨.word, "ROLLBACK", 0, 8⟩] := rfl
  refine parseFirst_of_statement (n := 8) hscan rfl ?_
  simp [Parser.statement, Parser.rollbackRest, Parser.transactionName, Parser.bind_run,
    Parser.keyword?_run, Token.upper, hupper]

/-- All beginnings are read as beginnings. -/
theorem parseFirst_beginSql (locking : Locking) :
    ∃ mode, parseFirst locking.beginSql.toList =
      .ok (some ⟨.begin mode, {}⟩, locking.beginSql.toList.length) := by
  have hbegin : "BEGIN".toUpper = "BEGIN" := by decide +kernel
  cases locking with
  | deferred =>
    have hupper : "DEFERRED".toUpper = "DEFERRED" := by decide +kernel
    have hscan : Token.scan "BEGIN DEFERRED".toList =
      [⟨.word, "BEGIN", 0, 5⟩, ⟨.word, "DEFERRED", 6, 14⟩] := rfl
    refine ⟨.deferred, parseFirst_of_statement (n := 14) hscan rfl ?_⟩
    simp [Parser.statement, Parser.beginRest, Parser.bind_run, Parser.keyword?_run,
      Token.isKeyword, Token.upper, hbegin, hupper]
  | immediate =>
    have hupper : "IMMEDIATE".toUpper = "IMMEDIATE" := by decide +kernel
    have hscan : Token.scan "BEGIN IMMEDIATE".toList =
      [⟨.word, "BEGIN", 0, 5⟩, ⟨.word, "IMMEDIATE", 6, 15⟩] := rfl
    refine ⟨.immediate, parseFirst_of_statement (n := 15) hscan rfl ?_⟩
    simp [Parser.statement, Parser.beginRest, Parser.bind_run, Parser.keyword?_run,
      Token.isKeyword, Token.upper, hbegin, hupper]
  | exclusive =>
    have hupper : "EXCLUSIVE".toUpper = "EXCLUSIVE" := by decide +kernel
    have hscan : Token.scan "BEGIN EXCLUSIVE".toList =
      [⟨.word, "BEGIN", 0, 5⟩, ⟨.word, "EXCLUSIVE", 6, 15⟩] := rfl
    refine ⟨.exclusive, parseFirst_of_statement (n := 15) hscan rfl ?_⟩
    simp [Parser.statement, Parser.beginRest, Parser.bind_run, Parser.keyword?_run,
      Token.isKeyword, Token.upper, hbegin, hupper]

end Sql

end GuardedSql
