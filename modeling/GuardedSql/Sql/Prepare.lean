import GuardedSql.Sql.Compile
import GuardedSql.Sql.Transact

/-!
# Preparing statements

The first statement of a text is compiled against what the connection knows of its databases. If
that fails although the knowledge is out of date, it is tried once more.
-/

namespace GuardedSql.Sql.Work

/-- A prepared statement, if the text holds one, and the text behind it. -/
structure Prepare where
  /-- The statement. -/
  statement : Option Prepared
  /-- The text behind it. -/
  rest : List Char

/-- Compiles a statement with the schemas that are known. -/
def compileKnown (c : Nat) (p : Parsed) : Work (Eval Program) := do
  let loaded ← if p.statement.needsSchemas then loadSchemas c (← databases c) else pure (.ok ())
  match loaded with
  | .error code => return .error { code, message := some code.description }
  | .ok () => return compile (← catalog c) p

/-- Forgets the schemas that are out of date; whether there were any. -/
def dropStaleSchemas (c : Nat) : List Nat → Work Bool
  | [] => return false
  | db :: rest => do
    let first ← dropStaleSchema c db
    let others ← dropStaleSchemas c rest
    return first || others

/-- Compiles a statement. -/
def compileFresh (c : Nat) (p : Parsed) : Work (Eval Program) := do
  match ← compileKnown c p with
  | .ok program => return .ok program
  | .error f =>
    if ← dropStaleSchemas c (← databases c) then
      let _ ← forgetSchemas c
      compileKnown c p
    else return .error f

/-- Makes a setting. Whether references are enforced does not change within a transaction. -/
def applySetting (c : Nat) : Setting → Work Unit
  | .foreignKeys on =>
    modifyConnection c fun connection =>
      if connection.autoCommit then { connection with foreignKeys := on } else connection
  | .pageSize db size => do
    let _ ← access c db (Accessing.modifyAttachment fun a => a.setPageSize size)
  | .busyTimeout n => modifyConnection c fun connection => { connection with busyTimeout := n }

/-- Compiles the first statement of a text. The outcome is recorded on the connection. -/
def prepareText (c : Nat) (cs : List Char) : Work (Except Code Prepare) := do
  match parseFirst cs with
  | .error e =>
    recordFault c (.error e.message)
    return .error Code.error
  | .ok (none, position) =>
    recordCode c Code.ok
    return .ok { statement := none, rest := cs.drop position }
  | .ok (some parsed, position) =>
    match ← compileFresh c parsed with
    | .error f =>
      recordFault c f
      return .error f.code.primary
    | .ok program =>
      match program.setting with
      | some setting => applySetting c setting
      | none => pure ()
      recordCode c Code.ok
      let text := String.ofList (cs.take position)
      return .ok { statement := some (.fresh c text program), rest := cs.drop position }

/-- Compiles a statement again that is out of date; its bindings stay. -/
def prepareAgain (n : Nat) (old : Prepared) : Work (Except Code Unit) := do
  match ← prepareText old.connection old.sql.toList with
  | .error code => return .error code
  | .ok p =>
    match p.statement with
    | none => return .error Code.misuse
    | some new =>
      if old.hasRun then recordFault old.connection { code := Code.ok, message := old.message }
      modifyStatement n fun _ => { new with bindings := old.bindings }
      return .ok ()

end GuardedSql.Sql.Work
