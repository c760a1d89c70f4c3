import GuardedSql.Proofs.Recording
import GuardedSql.Savepoint
import GuardedSql.Transaction

/-!
# Running the script of a guard

A guard that is open runs the script of what is asked of it, and a guard that is closed refuses.
Which guard is given back after a success and which one after a failure is all that the operations
of transactions and savepoints differ in.
-/

namespace GuardedSql

variable {σ γ : Type}

/-- What is reported of a refusal. -/
theorem reported_refusal {α : Type} (e : Error) (g : γ) :
    reported (σ := σ) (α := α) (pure (.error e, g)) = throw e := rfl

variable [Engine σ]

/-- Runs a script and gives one guard after a success and another one after a failure. -/
def Database.settle (db : Database) (script : String) (done failed : γ) :
    Action σ (Except Error Unit × γ) := do
  match ← attempt (db.exec script) with
  | .ok _ => return (.ok (), done)
  | .error e => return (.error e, failed)

namespace Database

variable {db : Database} {script : String} {done failed : γ} {s s' : Store σ}

/-- The script was run, and the guard is the one for that. -/
theorem settle_of_ok {n : Int32} (h : db.exec script s = (.ok n, s')) :
    db.settle script done failed s = (.ok (.ok (), done), s') := by
  have hattempt : attempt (db.exec script) s = (.ok (.ok n), s') := by rw [attempt_run, h]
  rw [settle, Action.bind_of_ok hattempt]
  rfl

/-- It was not, and the guard is the other one. -/
theorem settle_of_error {e : Error} (h : db.exec script s = (.error e, s')) :
    db.settle script done failed s = (.ok (.error e, failed), s') := by
  have hattempt : attempt (db.exec script) s = (.ok (.error e), s') := by rw [attempt_run, h]
  rw [settle, Action.bind_of_ok hattempt]
  rfl

/-- After a failure there is the guard for that. -/
theorem settle_back {e : Error} {g : γ}
    (h : (db.settle script done failed s).1 = .ok (.error e, g)) : g = failed := by
  rcases hexec : db.exec script s with ⟨e' | n, s'⟩
  · rw [settle_of_error hexec] at h
    cases h
    rfl
  · rw [settle_of_ok hexec] at h
    cases h

/-- What is reported of it is what is reported of the script. -/
theorem reported_settle (db : Database) (script : String) (done failed : γ) :
    reported (σ := σ) (db.settle script done failed) = (do let _ ← db.exec script) := by
  funext s
  rcases hexec : db.exec script s with ⟨e | n, s'⟩
  · rw [reported, Action.bind_of_ok (settle_of_error hexec), Action.bind_of_error hexec]
    rfl
  · rw [reported, Action.bind_of_ok (settle_of_ok hexec), Action.bind_of_ok hexec]
    rfl

end Database

namespace Transaction

variable {t : Transaction}

/-- Committing an open transaction closes it if the script succeeds, and only then. -/
theorem commit_of_open (h : t.committed = false) :
    t.commit (σ := σ) = t.database.settle "COMMIT" { t with committed := true } t := by
  rw [commit, h]
  rfl

/-- A transaction is not committed twice. -/
theorem commit_of_committed (h : t.committed = true) :
    t.commit (σ := σ) = pure (.error .alreadyCommitted, t) := by
  rw [commit, h]
  rfl

/-- A commit that fails gives the transaction back as it was. -/
theorem commit_back {s : Store σ} {e : Error} {t' : Transaction}
    (h : (t.commit s).1 = .ok (.error e, t')) : t' = t := by
  cases hc : t.committed with
  | false =>
    rw [commit_of_open hc] at h
    exact Database.settle_back h
  | true =>
    rw [commit_of_committed hc] at h
    cases h
    rfl

/-- What is reported of a commit. -/
theorem reported_commit (t : Transaction) :
    reported (σ := σ) t.commit =
      if t.committed then throw .alreadyCommitted else (do let _ ← t.database.exec "COMMIT") := by
  cases h : t.committed with
  | false => rw [commit_of_open h, Database.reported_settle, if_neg Bool.false_ne_true]
  | true => rw [commit_of_committed h, reported_refusal, if_pos rfl]

end Transaction

namespace Savepoint

variable {p : Savepoint}

/-- Releasing an open savepoint closes it if the script succeeds, and only then. -/
theorem release_of_open (h : p.released = false) :
    p.release (σ := σ) = p.database.settle (releaseSql p.name) { p with released := true } p := by
  rw [release, h]
  rfl

/-- A savepoint is not released twice. -/
theorem release_of_released (h : p.released = true) :
    p.release (σ := σ) = pure (.error (.alreadyReleased p.name), p) := by
  rw [release, h]
  rfl

/-- Rolling back to an open savepoint leaves it open. -/
theorem rollbackTo_of_open (h : p.released = false) :
    p.rollbackTo (σ := σ) = p.database.settle (rollbackSql p.name) p p := by
  rw [rollbackTo, h]
  rfl

/-- One that was released is not rolled back to. -/
theorem rollbackTo_of_released (h : p.released = true) :
    p.rollbackTo (σ := σ) = pure (.error (.alreadyReleased p.name), p) := by
  rw [rollbackTo, h]
  rfl

/-- A release that fails gives the savepoint back as it was. -/
theorem release_back {s : Store σ} {e : Error} {p' : Savepoint}
    (h : (p.release s).1 = .ok (.error e, p')) : p' = p := by
  cases hr : p.released with
  | false =>
    rw [release_of_open hr] at h
    exact Database.settle_back h
  | true =>
    rw [release_of_released hr] at h
    cases h
    rfl

/-- So does a rollback. -/
theorem rollbackTo_back {s : Store σ} {e : Error} {p' : Savepoint}
    (h : (p.rollbackTo s).1 = .ok (.error e, p')) : p' = p := by
  cases hr : p.released with
  | false =>
    rw [rollbackTo_of_open hr] at h
    exact Database.settle_back h
  | true =>
    rw [rollbackTo_of_released hr] at h
    cases h
    rfl

/-- What is reported of a release. -/
theorem reported_release (p : Savepoint) :
    reported (σ := σ) p.release =
      if p.released then throw (.alreadyReleased p.name)
      else (do let _ ← p.database.exec (releaseSql p.name)) := by
  cases h : p.released with
  | false => rw [release_of_open h, Database.reported_settle, if_neg Bool.false_ne_true]
  | true => rw [release_of_released h, reported_refusal, if_pos rfl]

/-- What is reported of a rollback. -/
theorem reported_rollbackTo (p : Savepoint) :
    reported (σ := σ) p.rollbackTo =
      if p.released then throw (.alreadyReleased p.name)
      else (do let _ ← p.database.exec (rollbackSql p.name)) := by
  cases h : p.released with
  | false => rw [rollbackTo_of_open h, Database.reported_settle, if_neg Bool.false_ne_true]
  | true => rw [rollbackTo_of_released h, reported_refusal, if_pos rfl]

end Savepoint

end GuardedSql
