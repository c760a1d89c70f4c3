import GuardedSql.Proofs.Ending
import GuardedSql.Proofs.SnapshotEngine

/-!
# Guards on an engine of snapshots

What the operations of transactions and savepoints do when the engine is one of snapshots. Those
that end a savepoint or go back to it are described where the newest snapshot is the one that
their guard had taken; then it does not matter which other savepoints have the same name.
-/

namespace GuardedSql

/-- Keywords before a name between quotes hold no zero character if the name holds none. -/
theorem nul_not_mem_append_doubleQuoted {head name : String} (hhead : '\x00' ∉ head.toList)
    (hname : '\x00' ∉ name.toList) : '\x00' ∉ (head ++ doubleQuoted name).toList := by
  rw [String.toList_append, toList_doubleQuoted]
  have hdoubled := nul_not_mem_doubled hname
  simp only [List.mem_append, List.mem_cons, List.not_mem_nil, not_or, or_false]
  exact ⟨hhead, by decide, hdoubled, by decide⟩

theorem nul_not_mem_setSql {name : String} (h : '\x00' ∉ name.toList) :
    '\x00' ∉ (Savepoint.setSql name).toList :=
  nul_not_mem_append_doubleQuoted (by simp) h

theorem nul_not_mem_releaseSql {name : String} (h : '\x00' ∉ name.toList) :
    '\x00' ∉ (Savepoint.releaseSql name).toList :=
  nul_not_mem_append_doubleQuoted (by simp) h

theorem nul_not_mem_rollbackSql {name : String} (h : '\x00' ∉ name.toList) :
    '\x00' ∉ (Savepoint.rollbackSql name).toList :=
  nul_not_mem_append_doubleQuoted (by simp) h

variable {κ : Type} {m : Meaning κ} {s : Store (SnapshotEngine m)} {e : SnapshotEngine m}

namespace Database

variable (db : Database) {script : String}

/-- A script with a zero character is refused before it gets to the engine. -/
theorem exec_of_nul (h : '\x00' ∈ script.toList) : (db.exec script s).2 = s := by
  cases hp : Nul.position? script with
  | none => exact absurd h ((Nul.position?_eq_none_iff script).mp hp)
  | some position =>
    have hrefuse : Error.refuseNul script = .error (Error.interiorNul position) := by
      rw [Error.refuseNul, hp]
    rw [exec, Action.bind_run, require_run, hrefuse]

/-- Any other script is run, and what follows depends on its code. -/
theorem exec_of_not_nul {code : Code} (h : '\x00' ∉ script.toList)
    (hrun : s.engine.execute script = (code, e)) :
    db.exec script s = (db.check code >>= fun _ => db.changes) { s with engine := e } := by
  have hrefuse : Error.refuseNul script = .ok () := by
    rw [Error.refuseNul, (Nul.position?_eq_none_iff script).mpr h]
  have hcall : native (.execute db.connection script) s =
      (.ok (s.engine.execute script).1, { s with engine := (s.engine.execute script).2 }) := rfl
  rw [hrun] at hcall
  rw [exec, Action.bind_run, require_run, hrefuse]
  exact Action.bind_of_ok hcall

/-- A script that the engine runs to its end changes the engine and nothing else. -/
theorem exec_of_ok (h : '\x00' ∉ script.toList) (hrun : s.engine.execute script = (Code.ok, e)) :
    db.exec script s = (.ok 0, { s with engine := e }) := by
  rw [exec_of_not_nul db h hrun]
  rfl

/-- So does one that fails, as far as it got. -/
theorem exec_of_error {code : Code} (h : '\x00' ∉ script.toList)
    (hrun : s.engine.execute script = (code, e)) (hcode : code ≠ Code.ok) :
    db.exec script s = (.error (.native "" code 0), { s with engine := e }) := by
  rw [exec_of_not_nul db h hrun, Action.bind_run, Database.check, GuardedSql.check, if_pos hcode]
  rfl

/-- A script without statements about transactions changes the contents and nothing else. -/
theorem exec_of_isControl (h : ∀ p ∈ Piece.split script.toList, p.isControl = false) :
    (db.exec script s).2 =
      { s with engine := { s.engine with contents := m.effect script s.engine.contents } } := by
  by_cases hnul : '\x00' ∈ script.toList
  · rw [exec_of_nul db hnul, Meaning.effect, if_pos hnul]
  · have hrun : s.engine.execute script = _ := SnapshotEngine.performAll_of_isControl s.engine h
    rw [Meaning.effect, if_neg hnul]
    by_cases hcode : (m.pieces (Piece.split script.toList) s.engine.contents).1 = Code.ok
    · rw [hcode] at hrun
      rw [exec_of_ok db hnul hrun]
    · rw [exec_of_error db hnul hrun hcode]

end Database

/-! ### Transactions -/

namespace Transaction

variable {db : Database} {t : Transaction}

/-- Beginning a transaction outside of one keeps the contents. -/
theorem begin_of_autocommit (locking : Locking) (h : s.engine.autocommit = true) :
    begin db locking s = (.ok { database := db }, { s with engine := s.engine.push none }) := by
  have hrun : s.engine.execute locking.beginSql = (Code.ok, s.engine.push none) := by
    rw [SnapshotEngine.execute_beginSql, SnapshotEngine.begin, if_pos h]
  have hnul : '\x00' ∉ locking.beginSql.toList := by cases locking <;> simp [Locking.beginSql]
  exact Action.bind_of_ok (Database.exec_of_ok db hnul hrun)

/-- A transaction inside of another one or of a savepoint is refused, and nothing changes. -/
theorem begin_of_not_autocommit (locking : Locking) (h : s.engine.autocommit = false) :
    begin db locking s = (.error (.native "" Code.error 0), s) := by
  have hrun : s.engine.execute locking.beginSql = (Code.error, s.engine) := by
    rw [SnapshotEngine.execute_beginSql, SnapshotEngine.begin, h]
    rfl
  have hnul : '\x00' ∉ locking.beginSql.toList := by cases locking <;> simp [Locking.beginSql]
  exact Action.bind_of_error (Database.exec_of_error db hnul hrun (by decide))

/-- Committing keeps the contents and forgets the snapshots. -/
theorem commit_of_not_autocommit (ht : t.committed = false) (h : s.engine.autocommit = false) :
    t.commit s = (.ok (.ok (), { t with committed := true }),
      { s with engine := ⟨s.engine.contents, true, []⟩ }) := by
  have hrun : s.engine.execute "COMMIT" = (Code.ok, ⟨s.engine.contents, true, []⟩) := by
    rw [SnapshotEngine.execute_commit, SnapshotEngine.commit, h]
    rfl
  rw [commit_of_open ht]
  exact Database.settle_of_ok (Database.exec_of_ok t.database (by simp) hrun)

/-- Dropping the transaction that has the only snapshot goes back to it. -/
theorem drop_of_open {k k₀ : κ} (ht : t.committed = false)
    (h : s.engine = ⟨k, false, [⟨none, k₀⟩]⟩) :
    (t.drop s).2 = { s with engine := ⟨k₀, true, []⟩ } := by
  have hrun : s.engine.execute "ROLLBACK" = (Code.ok, ⟨k₀, true, []⟩) := by
    rw [SnapshotEngine.execute_rollback, h]
    rfl
  have hexec := Database.exec_of_ok t.database (by simp) hrun
  rw [drop, ht]
  change (attempt (t.database.exec "ROLLBACK") s).2 = _
  rw [attempt_run, hexec]

/-- Dropping a transaction that was committed does nothing. -/
theorem drop_of_committed (ht : t.committed = true) : (t.drop s).2 = s := by
  rw [drop, ht]
  rfl

end Transaction

/-! ### Savepoints -/

namespace SnapshotEngine

/-- The newest snapshot is found under its name in any case of letters. -/
theorem since_of_newest {name : String} {k : κ} {rest : List (Snapshot κ)}
    (h : e.snapshots = ⟨some name, k⟩ :: rest) : e.since name = ⟨some name, k⟩ :: rest := by
  have hnamed : Snapshot.isNamed (⟨some name, k⟩ : Snapshot κ) name = true := by
    simp [Snapshot.isNamed, Sql.sameName]
  rw [since, h, List.dropWhile_cons, hnamed]
  rfl

/-- Releasing the newest savepoint forgets its snapshot only. -/
theorem release_of_newest {name : String} {k : κ} {rest : List (Snapshot κ)}
    (h : e.snapshots = ⟨some name, k⟩ :: rest) :
    e.release name = (Code.ok, ⟨e.contents, rest.isEmpty, rest⟩) := by
  rw [release, since_of_newest h]

/-- Going back to the newest savepoint forgets no snapshot. -/
theorem rollbackTo_of_newest {name : String} {k : κ} {rest : List (Snapshot κ)}
    (h : e.snapshots = ⟨some name, k⟩ :: rest) :
    e.rollbackTo name = (Code.ok, ⟨k, e.autocommit, ⟨some name, k⟩ :: rest⟩) := by
  rw [rollbackTo, since_of_newest h]

end SnapshotEngine

namespace Savepoint

variable {db : Database} {p : Savepoint} {k : κ} {rest : List (Snapshot κ)}

/-- Setting a savepoint keeps the contents under its name. -/
theorem set_run {name : String} (h : '\x00' ∉ name.toList) :
    set db name s =
      (.ok { database := db, name }, { s with engine := s.engine.push (some name) }) :=
  Action.bind_of_ok
    (Database.exec_of_ok db (nul_not_mem_setSql h) (SnapshotEngine.execute_setSql s.engine name))

/-- Releasing the innermost savepoint keeps the contents and forgets its snapshot. -/
theorem release_of_newest (hp : p.released = false) (hname : '\x00' ∉ p.name.toList)
    (h : s.engine.snapshots = ⟨some p.name, k⟩ :: rest) :
    p.release s = (.ok (.ok (), { p with released := true }),
      { s with engine := ⟨s.engine.contents, rest.isEmpty, rest⟩ }) := by
  have hrun := SnapshotEngine.execute_releaseSql s.engine p.name
  rw [SnapshotEngine.release_of_newest h] at hrun
  rw [release_of_open hp]
  exact Database.settle_of_ok (Database.exec_of_ok p.database (nul_not_mem_releaseSql hname) hrun)

/-- Rolling back to the innermost savepoint takes its contents and leaves it set. -/
theorem rollbackTo_of_newest (hp : p.released = false) (hname : '\x00' ∉ p.name.toList)
    (h : s.engine.snapshots = ⟨some p.name, k⟩ :: rest) :
    p.rollbackTo s = (.ok (.ok (), p),
      { s with engine := ⟨k, s.engine.autocommit, ⟨some p.name, k⟩ :: rest⟩ }) := by
  have hrun := SnapshotEngine.execute_rollbackSql s.engine p.name
  rw [SnapshotEngine.rollbackTo_of_newest h] at hrun
  rw [rollbackTo_of_open hp]
  exact Database.settle_of_ok (Database.exec_of_ok p.database (nul_not_mem_rollbackSql hname) hrun)

/-- Dropping the savepoint that has the newest snapshot goes back to it and ends it. -/
theorem drop_of_open (hp : p.released = false) (hname : '\x00' ∉ p.name.toList)
    (h : s.engine.snapshots = ⟨some p.name, k⟩ :: rest) :
    (p.drop s).2 = { s with engine := ⟨k, rest.isEmpty, rest⟩ } := by
  have hback := SnapshotEngine.execute_rollbackSql s.engine p.name
  rw [SnapshotEngine.rollbackTo_of_newest h] at hback
  have hfirst := Database.exec_of_ok p.database (nul_not_mem_rollbackSql hname) hback
  -- the rollback leaves the snapshot for the release to find
  let s' : Store (SnapshotEngine m) :=
    { s with engine := ⟨k, s.engine.autocommit, ⟨some p.name, k⟩ :: rest⟩ }
  have hend := SnapshotEngine.execute_releaseSql s'.engine p.name
  rw [SnapshotEngine.release_of_newest rfl] at hend
  have hsecond := Database.exec_of_ok p.database (nul_not_mem_releaseSql hname) hend
  have hback' : attempt (p.database.exec (rollbackSql p.name)) s = (.ok (.ok 0), s') := by
    rw [attempt_run, hfirst]
  have hend' := (attempt_run (p.database.exec (releaseSql p.name)) s').trans (by rw [hsecond])
  rw [drop, hp, Bool.not_false, if_pos rfl, Action.bind_of_ok hback']
  dsimp only
  rw [Action.bind_of_ok hend']
  rfl

theorem drop_of_released (hp : p.released = true) : (p.drop s).2 = s := by
  rw [drop, hp]
  rfl

end Savepoint

end GuardedSql
