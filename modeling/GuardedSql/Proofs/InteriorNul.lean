import Mathlib.Data.List.TakeWhile
import GuardedSql.Backup
import GuardedSql.Savepoint
import GuardedSql.Proofs.Transport

/-!
# Texts with a zero character

A text reaches the engine in one of two ways. As a zero-terminated text it is looked through before
the first call, and a zero character inside is an error. The text of a statement that is prepared
goes with its length instead; nobody looks at it before an engine that stops at the first zero
character, so what comes behind is dropped.
-/

namespace GuardedSql

/-- The operations that hand a text over as a zero-terminated one, without that text. -/
inductive TextUse where
  /-- The script to run. -/
  | script (db : Database)
  /-- The database to open. -/
  | database (flags : OpenFlags) (busyTimeoutMs : Int32) (vfs : Option String)
  /-- The file layer of a database to open. -/
  | fileLayer (path : String) (flags : OpenFlags) (busyTimeoutMs : Int32)
  /-- The database among options. -/
  | optionsDatabase (o : OpenOptions)
  /-- The file layer among options. -/
  | optionsFileLayer (o : OpenOptions)
  /-- The parameter to look up. -/
  | parameter (q : Statement)
  /-- The parameter to set. -/
  | bound (q : Statement) (value : Binding)
  /-- The parameter to set to text that is not copied. -/
  | boundText (q : Statement) (value : String)
  /-- The parameter to set to bytes that are not copied. -/
  | boundBlob (q : Statement) (value : ByteArray)
  /-- The savepoint to set. -/
  | savepoint (db : Database)
  /-- The database to copy into. -/
  | backupInto (destination source : Database) (sourceName : String)
  /-- The database to copy from. -/
  | backupFrom (destination source : Database) (destinationName : String)
  /-- The scalar function to register. -/
  | function (db : Database) (arity : Int32) (deterministic : Bool) (f : ScalarFunction)
  /-- The aggregate to register. -/
  | aggregate (db : Database) (arity : Int32) (deterministic : Bool)
      (a : Aggregate Id (List Value))
  /-- The extension to load. -/
  | extension (db : Database) (entry : Option String)
  /-- The entry point of an extension to load. -/
  | entryPoint (db : Database) (path : String)

namespace TextUse

/-- Hands a text over; the result is dropped. -/
def hand {σ : Type} [Engine σ] (text : String) : TextUse → Action σ Unit
  | script db => do let _ ← db.exec text
  | database flags ms vfs => do let _ ← Database.openWith text flags ms vfs
  | fileLayer path flags ms => do let _ ← Database.openWith path flags ms (some text)
  | optionsDatabase o => do let _ ← Database.ofOptions { o with path := text }
  | optionsFileLayer o => do let _ ← Database.ofOptions { o with vfs := some text }
  | parameter q => do let _ ← q.parameterIndex text
  | bound q value => q.bindNamed text value
  | boundText q value => q.bindSharedTextNamed text value
  | boundBlob q value => q.bindSharedBlobNamed text value
  | savepoint db => do let _ ← Savepoint.set db text
  | backupInto destination source name => do let _ ← Backup.start destination text source name
  | backupFrom destination source name => do let _ ← Backup.start destination name source text
  | function db arity deterministic f => db.createFunction text arity deterministic f
  | aggregate db arity deterministic a => db.createAggregate text arity deterministic a
  | extension db entry => db.loadExtension text entry
  | entryPoint db path => db.loadExtension path (some text)

/-- The texts that are looked through, in that order. -/
def checked (text : String) : TextUse → List String
  | database _ _ vfs => text :: vfs.toList
  | fileLayer path _ _ => [path, text]
  | optionsDatabase o => text :: o.vfs.toList
  | optionsFileLayer o => [o.path, text]
  | savepoint _ => [Savepoint.setSql text]
  | backupInto _ _ name => [text, name]
  | backupFrom _ _ name => [name, text]
  | extension _ entry => text :: entry.toList
  | entryPoint _ path => [path, text]
  | script _ | parameter _ | bound .. | boundText .. | boundBlob .. | function .. | aggregate .. =>
    [text]

end TextUse

/-! ### Texts that are looked through -/

section

variable {σ α β : Type} {ts : List String}

/-- An action looks some texts through before it does anything, and stops at the first zero
character among them. -/
def Screens (ts : List String) (a : Action σ α) : Prop :=
  ∀ n, ts.findSome? Nul.position? = some n → ∀ s, a s = (.error (.interiorNul n), s)

/-- Without a text there is nothing to stop at. -/
theorem Screens.nil (a : Action σ α) : Screens [] a := nofun

/-- A text that passes leaves it to those behind it. -/
theorem Screens.cons (t : String) {f : Unit → Action σ β} (h : Screens ts (f ())) :
    Screens (t :: ts) (require (Error.refuseNul t) >>= f) := by
  intro n hn s
  rw [Action.bind_run, require_run, Error.refuseNul]
  cases ht : Nul.position? t with
  | none =>
    rw [List.findSome?_cons, ht] at hn
    exact h n hn s
  | some m =>
    rw [List.findSome?_cons, ht] at hn
    cases hn
    rfl

/-- An error is passed on. -/
theorem Screens.bind {a : Action σ α} {f : α → Action σ β} (h : Screens ts a) :
    Screens ts (a >>= f) := fun n hn s => Action.bind_of_error (h n hn s)

/-- A quoted name keeps its zero characters. -/
theorem nul_mem_setSql {name : String} (h : '\x00' ∈ name.toList) :
    '\x00' ∈ (Savepoint.setSql name).toList := by
  have hquoted : '\x00' ∈ (doubleQuoted name).toList := by
    simp only [doubleQuoted, String.toList_ofList, List.mem_cons, List.mem_append,
      List.mem_flatMap]
    exact .inl (.inr ⟨'\x00', h, by simp⟩)
  rw [Savepoint.setSql, String.toList_append]
  exact List.mem_append_right _ hquoted

namespace TextUse

/-- The text is among those that are looked through, alone or as a part. -/
theorem nul_mem_checked {text : String} (h : '\x00' ∈ text.toList) (u : TextUse) :
    ∃ t ∈ u.checked text, '\x00' ∈ t.toList := by
  cases u with
  | savepoint db => exact ⟨_, List.mem_singleton_self _, nul_mem_setSql h⟩
  | _ => exact ⟨text, by simp [checked], h⟩

/-- So there is a first zero character. -/
theorem findSome?_checked {text : String} (h : '\x00' ∈ text.toList) (u : TextUse) :
    ∃ n, (u.checked text).findSome? Nul.position? = some n := by
  obtain ⟨t, ht, hnul⟩ := u.nul_mem_checked h
  refine Option.isSome_iff_exists.mp (List.findSome?_isSome_iff.mpr ⟨t, ht, ?_⟩)
  refine Option.isSome_iff_ne_none.mpr fun hnone => ?_
  exact (Nul.position?_eq_none_iff t).mp hnone hnul

end TextUse

variable [Engine σ]

/-- A script is looked through. -/
theorem Database.exec_screens (db : Database) (script : String) :
    Screens (σ := σ) [script] (db.exec script) := .cons _ (.nil _)

/-- The path comes before the file layer. -/
theorem Database.openWith_screens (path : String) (flags : OpenFlags) (ms : Int32)
    (vfs : Option String) : Screens (σ := σ) (path :: vfs.toList) (openWith path flags ms vfs) := by
  cases vfs with
  | none => exact .cons _ (.nil _)
  | some name => exact .cons _ (.cons _ (.nil _))

/-- The name of a function is looked through. -/
theorem Database.register_screens (db : Database) (name : String) (arity : Int32)
    (deterministic : Bool) (callbacks : Callbacks) :
    Screens (σ := σ) [name] (db.register name arity deterministic callbacks) := .cons _ (.nil _)

/-- The path comes before the entry point. -/
theorem Database.loadExtension_screens (db : Database) (path : String) (entry : Option String) :
    Screens (σ := σ) (path :: entry.toList) (db.loadExtension path entry) := by
  cases entry with
  | none => exact .cons _ (.nil _)
  | some name => exact .cons _ (.cons _ (.nil _))

/-- The name of a parameter is looked through. -/
theorem Statement.parameterIndex_screens (q : Statement) (name : String) :
    Screens (σ := σ) [name] (q.parameterIndex name) := .cons _ (.nil _)

/-- The name of the destination comes before that of the source. -/
theorem Backup.start_screens (destination source : Database)
    (destinationName sourceName : String) :
    Screens (σ := σ) [destinationName, sourceName]
      (start destination destinationName source sourceName) :=
  .cons _ (.cons _ (.nil _))

/-- Whatever the use of a text, it is looked through first. -/
theorem TextUse.hand_screens (u : TextUse) (text : String) :
    Screens (σ := σ) (u.checked text) (u.hand text) := by
  cases u with
  | script db => exact .bind (db.exec_screens text)
  | database flags ms vfs => exact .bind (Database.openWith_screens text flags ms vfs)
  | fileLayer path flags ms => exact .bind (Database.openWith_screens path flags ms (some text))
  | optionsDatabase o => exact .bind (Database.openWith_screens text _ _ o.vfs)
  | optionsFileLayer o => exact .bind (Database.openWith_screens o.path _ _ (some text))
  | parameter q => exact .bind (q.parameterIndex_screens text)
  | bound q value => exact .bind (q.parameterIndex_screens text)
  | boundText q value => exact .bind (q.parameterIndex_screens text)
  | boundBlob q value => exact .bind (q.parameterIndex_screens text)
  | savepoint db => exact .bind (.bind (db.exec_screens _))
  | backupInto destination source name =>
    exact .bind (Backup.start_screens destination source text name)
  | backupFrom destination source name =>
    exact .bind (Backup.start_screens destination source name text)
  | function db arity deterministic f => exact db.register_screens text arity deterministic _
  | aggregate db arity deterministic a => exact db.register_screens text arity deterministic _
  | extension db entry => exact db.loadExtension_screens text entry
  | entryPoint db path => exact db.loadExtension_screens path (some text)

end

/-! ### Texts of statements -/

/-- A text up to its first zero character. -/
def Nul.before (text : String) : String := String.ofList (text.toList.takeWhile (· != '\x00'))

/-- An engine that compiles a text up to its first zero character. -/
def StopsAtNul (σ : Type) [Engine σ] : Prop :=
  ∀ (c : ConnectionHandle) (sql : String) (e : σ),
    Engine.call (.prepare c sql) e = Engine.call (.prepare c (Nul.before sql)) e

/-- The engine of this project stops there. -/
theorem Sql.Machine.stopsAtNul : StopsAtNul Sql.Machine := by
  intro c sql m
  have hprepare (query : String) :
      Engine.call (.prepare c query) m = Sql.Work.prepare c.number query m := rfl
  have hvisible : Sql.Token.visibleChars (Nul.before sql) = Sql.Token.visibleChars sql := by
    rw [Sql.Token.visibleChars, Sql.Token.visibleChars, Nul.before, String.toList_ofList,
      List.takeWhile_idem]
  rw [hprepare, hprepare, Sql.Work.prepare, Sql.Work.prepare, hvisible]

section

variable {σ : Type} [Engine σ] (hσ : StopsAtNul σ) (db : Database) (text : String) (s : Store σ)
include hσ

/-- The cursor of a text is that of its beginning. -/
theorem CursorId.prepare_before (c : ConnectionHandle) :
    CursorId.prepare c text s = CursorId.prepare c (Nul.before text) s := by
  have hcall : native (.prepare c text) s = native (.prepare c (Nul.before text)) s := by
    rw [native_run, native_run, hσ c text s.engine]
  rw [CursorId.prepare, CursorId.prepare, Action.bind_run, Action.bind_run, hcall]

/-- The statement of a text differs from that of its beginning in the text it tells. -/
theorem Statement.prepare_before :
    prepare db text s =
      ((prepare db (Nul.before text) s).1.map fun q => { q with query := text },
        (prepare db (Nul.before text) s).2) := by
  rw [prepare, prepare, Action.bind_run, Action.bind_run, CursorId.prepare_before hσ]
  rcases CursorId.prepare db.connection (Nul.before text) s with ⟨_ | _, _⟩ <;> rfl

/-- What does not look at that text makes no difference. -/
theorem Database.withStatement_before {α : Type} {use : Statement → Action σ α}
    (huse : ∀ id, use ⟨db, text, id⟩ = use ⟨db, Nul.before text, id⟩) :
    db.withStatement text use s = db.withStatement (Nul.before text) use s := by
  rw [withStatement, withStatement, Statement.prepare, Statement.prepare, Action.bind_run,
    Action.bind_run, Action.bind_run, Action.bind_run, CursorId.prepare_before hσ]
  rcases CursorId.prepare db.connection (Nul.before text) s with ⟨_ | id, _⟩
  · rfl
  · dsimp only [Action.pure_run]
    rw [ensuring_run, ensuring_run, huse]
    rfl

end

/-- Setting parameters does not look at the text of the statement. -/
theorem Statement.bindFrom_query {σ : Type} [Engine σ] (q : Statement) (text : String)
    (index : Int32) (values : List Binding) :
    bindFrom (σ := σ) { q with query := text } index values = q.bindFrom index values := by
  induction values generalizing index with
  | nil => rfl
  | cons value rest ih =>
    rw [bindFrom, bindFrom, ih]
    rfl

/-- Neither does running it for lists of parameters. -/
theorem Database.runEach_query {σ : Type} [Engine σ] (q : Statement) (text : String) (n : Int32)
    (params : List (List Binding)) :
    runEach (σ := σ) { q with query := text } n params = runEach q n params := by
  induction params generalizing n with
  | nil => rfl
  | cons values rest ih =>
    have hbind : Statement.bindAll (σ := σ) { q with query := text } values = q.bindAll values :=
      q.bindFrom_query text 1 values
    rw [runEach, runEach, hbind]
    simp only [ih]
    rfl

/-- On every engine that stops at a zero character, and for every text with one: where the text goes
zero-terminated the first zero character that is met is the error, there is no call, and nothing
changes. As the text of a statement it is not refused for that: preparing it, asking for its first
column and running it for lists of parameters do what they do for the part before. -/
theorem zero_character_refused_or_cut {σ : Type} [Engine σ] (hσ : StopsAtNul σ) (text : String)
    (h : '\x00' ∈ text.toList) (s : Store σ) :
    (∀ u : TextUse, ∃ n, (u.checked text).findSome? Nul.position? = some n ∧
      observe (u.hand text) s = ⟨.error (.interiorNul n), [], s⟩) ∧
    ∀ db : Database,
      Statement.prepare db text s =
        ((Statement.prepare db (Nul.before text) s).1.map fun q => { q with query := text },
          (Statement.prepare db (Nul.before text) s).2) ∧
      db.firstColumn text s = db.firstColumn (Nul.before text) s ∧
      ∀ params, db.execEach text params s = db.execEach (Nul.before text) params s := by
  refine ⟨fun u => ?_, fun db => ⟨Statement.prepare_before hσ db text s, ?_, fun params => ?_⟩⟩
  · obtain ⟨n, hn⟩ := u.findSome?_checked h
    refine ⟨n, hn, ?_⟩
    rw [observe_eq, u.hand_screens text n hn s.recording]
    rfl
  · exact Database.withStatement_before hσ db text s fun id => rfl
  · exact Database.withStatement_before hσ db text s fun id =>
      Database.runEach_query ⟨db, Nul.before text, id⟩ text 0 params

/-- A query for a number, with more behind a zero character. -/
def halfQuery : String := "SELECT 1\x00 nonsense"

/-- As a script it is refused, and as a query it has the column of its beginning. -/
theorem zero_character_refused_or_cut_of_halfQuery :
    '\x00' ∈ halfQuery.toList ∧
      observe (TextUse.hand halfQuery (.script privateDatabase)) privateStore =
        ⟨.error (.interiorNul 8), [], privateStore⟩ ∧
      privateDatabase.firstColumn halfQuery privateStore =
        privateDatabase.firstColumn "SELECT 1" privateStore := by
  have hnul : '\x00' ∈ halfQuery.toList := by decide +kernel
  obtain ⟨hrefused, hcut⟩ :=
    zero_character_refused_or_cut Sql.Machine.stopsAtNul halfQuery hnul privateStore
  obtain ⟨n, hn, hrun⟩ := hrefused (.script privateDatabase)
  have hposition : (TextUse.checked halfQuery (.script privateDatabase)).findSome? Nul.position? =
      some 8 := by
    decide +kernel
  obtain rfl : 8 = n := Option.some.inj (hposition.symm.trans hn)
  have hbefore : Nul.before halfQuery = "SELECT 1" := by decide +kernel
  refine ⟨hnul, hrun, ?_⟩
  rw [← hbefore]
  exact (hcut privateDatabase).2.1

/-- So a statement is not refused for a zero character: on the private database this one is compiled,
and it has a row. -/
theorem halfQuery_accepted :
    (Database.openInMemory ({ engine := {} } : Store Sql.Machine)).1 = .ok privateDatabase ∧
      ((do (← privateDatabase.firstColumn halfQuery).int32) privateStore).1 = .ok 1 ∧
      ¬ ∀ text : String, '\x00' ∈ text.toList → ∀ s : Store Sql.Machine,
        ∃ n, (Statement.prepare privateDatabase text s).1 = .error (.interiorNul n) := by
  refine ⟨openInMemory_private, by decide +kernel, fun hrefused => ?_⟩
  have haccepted : (Statement.prepare privateDatabase halfQuery privateStore).1 =
      .ok ⟨privateDatabase, halfQuery, ⟨0⟩⟩ := by
    decide +kernel
  obtain ⟨n, hn⟩ := hrefused halfQuery (by decide +kernel) privateStore
  rw [haccepted] at hn
  cases hn

end GuardedSql
