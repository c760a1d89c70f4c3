import GuardedSql.Proofs.Preparation
import GuardedSql.Proofs.Resources
import GuardedSql.Proofs.Uses

/-!
# Statements stay on their connection

Whatever is done with a statement, all calls are about a statement or about the connection that it
was prepared on, and no connection or backup comes or goes.
-/

namespace GuardedSql

variable {σ α : Type} [Engine σ] {c : ConnectionHandle}

/-- All calls of an action stay on a connection. -/
abbrev StaysOn (c : ConnectionHandle) (a : Action σ α) : Prop := Makes (Call.StaysOn c) a

/-- The calls of operations through a statement stay on its connection. -/
theorem Call.Serves.staysOn {call : Call} (h : call.Serves c) : call.StaysOn c := by
  rcases h with h | h
  · obtain ⟨p, hp⟩ := Option.isSome_iff_exists.mp h
    exact .of_prepared? hp
  · exact .of_upkeep? h

/-- So do those of a preparation. -/
theorem Preparing.staysOn {sql : String} {d : History} {r : Except Error Cursor}
    (h : Preparing c sql d r) : ∀ x ∈ d, x.call.StaysOn c := by
  cases h with
  | refused code handle? hcode message extended =>
    refine List.forall_mem_cons.mpr ⟨.prepare c sql, fun x hx => ?_⟩
    exact .of_upkeep? (asks_of_mem_askedFor hx).1
  | empty => exact List.forall_mem_singleton.mpr (.prepare c sql)
  | given p count names hlength =>
    refine List.forall_mem_cons.mpr ⟨.prepare c sql, List.forall_mem_cons.mpr ⟨?_, fun x hx => ?_⟩⟩
    · exact .of_prepared? rfl
    · exact .of_prepared? (asks_of_mem_namings hx).2

/-- All uses of a statement stay on its connection. -/
theorem Usage.act_staysOn (q : Statement) (u : Usage) :
    StaysOn (σ := σ) q.database.connection (u.act q) :=
  (u.act_makes q).mono fun _ => Call.Serves.staysOn

/-- A statement that is let go is released at most. -/
theorem CursorId.release_staysOn (id : CursorId) : StaysOn (σ := σ) c id.release := by
  intro s
  obtain ⟨-, d, hd, rfl | ⟨p, code, -, rfl⟩⟩ := id.release_follows s
  · exact ⟨[], hd, nofun⟩
  · exact ⟨_, hd, List.forall_mem_singleton.mpr (.of_prepared? rfl)⟩

/-- Chores stay on their connection, too. -/
theorem Chore.act_staysOn {x : Chore} (h : x.registers = false) :
    StaysOn (σ := σ) x.database.connection x.act := by
  have hfollows (h : Option PreparedHandle) : Follows (σ := σ) ⟨0⟩ h x.Done x.act := x.act_follows
  exact .of_follows hfollows fun _ _ _ hd y hy => .of_upkeep? (hd.2 h y hy)

/-! ### Queries -/

namespace Database

variable (db : Database)

/-- A statement is compiled on the connection that it is for. -/
theorem prepare_staysOn (query : String) :
    StaysOn (σ := σ) db.connection (Statement.prepare db query) :=
  (Statement.prepare_yields db query).mono fun _ _ ⟨_, _, hpreparing, _⟩ => hpreparing.staysOn

/-- The statement of a query is of its connection. -/
theorem withStatement_staysOn {query : String} {use : Statement → Action σ α}
    {E : History → Error → Prop}
    (huse : ∀ id h, Does id h db.connection (Call.Serves db.connection) E (use ⟨db, query, id⟩)) :
    StaysOn db.connection (db.withStatement query use) := by
  refine (db.withStatement_yields query fun id k => (huse id k.handle).employs).mono fun d r hd => ?_
  cases hd with
  | unprepared hpreparing => exact hpreparing.staysOn
  | used hpreparing hused hlast =>
    rw [List.forall_mem_append, List.forall_mem_append]
    refine ⟨⟨hpreparing.staysOn, fun x hx => (hused.1 x hx).staysOn⟩, ?_⟩
    rcases hlast with rfl | ⟨code, rfl⟩
    · exact nofun
    · exact List.forall_mem_singleton.mpr (.of_prepared? rfl)

/-- A table is looked for on the connection that is asked. -/
theorem hasTable_staysOn (table : String) : StaysOn (σ := σ) db.connection (db.hasTable table) :=
  db.withStatement_staysOn fun id _ =>
    Statement.findTable_does (q := ⟨db, tableQuery, id⟩) table

/-- All runs for lists of parameters are on it, too. -/
theorem execEach_staysOn (query : String) (params : List (List Binding)) :
    StaysOn (σ := σ) db.connection (db.execEach query params) :=
  db.withStatement_staysOn fun id _ =>
    Statement.runEach_does (q := ⟨db, query, id⟩) 0 params

end Database

end GuardedSql
