import GuardedSql.Proofs.Quoting
import GuardedSql.Proofs.Recording
import GuardedSql.Sql.Image

/-!
# An engine of snapshots

What an engine's users are told about transactions: there are contents, a flag that says whether
every statement commits for itself, and a stack of snapshots, named by savepoints but for the one
that a `BEGIN` took. Scripts are read as the engine at work reads them. What their other
statements do to the contents is left open, and no statement is refused for a lock.
-/

namespace GuardedSql

/-- A part of a script. -/
inductive Piece where
  /-- A statement. -/
  | statement (q : Sql.Parsed)
  /-- What is left of a script from where it could not be read any more. -/
  | unread (cs : List Char)

namespace Piece

/-- The parts of a script in their order. -/
def split : List Char → List Piece
  | [] => []
  | c :: cs =>
    match Sql.parseFirst (c :: cs) with
    | .error _ => [.unread (c :: cs)]
    | .ok (none, _) => []
    | .ok (some q, n) => .statement q :: split (cs.drop (n - 1))
termination_by cs => cs.length
decreasing_by
  rw [List.length_drop, List.length_cons]
  omega

/-- Whether a part begins or ends a transaction or is about a savepoint. -/
def isControl : Piece → Bool
  | .statement ⟨.begin _, _⟩ => true
  | .statement ⟨.commit, _⟩ => true
  | .statement ⟨.rollback, _⟩ => true
  | .statement ⟨.savepoint _, _⟩ => true
  | .statement ⟨.release _, _⟩ => true
  | .statement ⟨.rollbackTo _, _⟩ => true
  | _ => false

/-- A text that is one statement is not split. -/
theorem split_of_parseFirst {cs : List Char} {q : Sql.Parsed}
    (h : Sql.parseFirst cs = .ok (some q, cs.length)) : split cs = [.statement q] := by
  cases cs with
  | nil =>
    have hnone : Sql.parseFirst [] = .ok (none, 0) := rfl
    rw [hnone] at h
    cases h
  | cons c cs =>
    rw [split, h]
    simp only [List.length_cons, Nat.add_sub_cancel, List.drop_length]
    rw [split]

end Piece

/-- What the parts of scripts that are not about transactions do to contents, and their codes. -/
structure Meaning (κ : Type) where
  /-- What one part does. -/
  piece : Piece → κ → Code × κ

namespace Meaning

variable {κ : Type} (m : Meaning κ)

/-- Some parts of a script one after another, up to the first that fails. -/
def pieces : List Piece → κ → Code × κ
  | [], k => (Code.ok, k)
  | p :: ps, k => if (m.piece p k).1 = Code.ok then pieces ps (m.piece p k).2 else m.piece p k

/-- What a script does to the contents. One with a zero character never gets to the engine. -/
def effect (script : String) (k : κ) : κ :=
  if '\x00' ∈ script.toList then k else (m.pieces (Piece.split script.toList) k).2

end Meaning

/-- Contents to go back to. -/
structure Snapshot (κ : Type) where
  /-- The name of the savepoint that they were kept for, none if it was a transaction. -/
  name : Option String
  /-- The contents. -/
  contents : κ

/-- Whether a snapshot is kept for a savepoint of some name. -/
def Snapshot.isNamed {κ : Type} (a : Snapshot κ) (name : String) : Bool :=
  a.name.any fun n => Sql.sameName n name

/-- An engine of snapshots. -/
structure SnapshotEngine {κ : Type} (m : Meaning κ) where
  /-- The contents. -/
  contents : κ
  /-- Whether every statement commits for itself. -/
  autocommit : Bool := true
  /-- The snapshots, the newest first. -/
  snapshots : List (Snapshot κ) := []

namespace SnapshotEngine

variable {κ : Type} {m : Meaning κ}

/-- Keeps the contents. -/
def push (e : SnapshotEngine m) (name : Option String) : SnapshotEngine m :=
  { e with autocommit := false, snapshots := ⟨name, e.contents⟩ :: e.snapshots }

/-- The snapshots from the newest of a name on, that one first. -/
def since (e : SnapshotEngine m) (name : String) : List (Snapshot κ) :=
  e.snapshots.dropWhile fun a => !a.isNamed name

/-- Begins a transaction where there is none. -/
def begin (e : SnapshotEngine m) : Code × SnapshotEngine m :=
  if e.autocommit then (Code.ok, e.push none) else (Code.error, e)

/-- Ends the transaction and all savepoints. -/
def commit (e : SnapshotEngine m) : Code × SnapshotEngine m :=
  if e.autocommit then (Code.error, e) else (Code.ok, ⟨e.contents, true, []⟩)

/-- Ends the transaction and all savepoints with the contents that there were before them. -/
def rollback (e : SnapshotEngine m) : Code × SnapshotEngine m :=
  if e.autocommit then (Code.error, e)
  else (Code.ok, ⟨(e.snapshots.getLast?.map Snapshot.contents).getD e.contents, true, []⟩)

/-- Ends a savepoint and those behind it, and the transaction if it was begun by that savepoint. -/
def release (e : SnapshotEngine m) (name : String) : Code × SnapshotEngine m :=
  match e.since name with
  | [] => (Code.error, e)
  | _ :: rest => (Code.ok, ⟨e.contents, rest.isEmpty, rest⟩)

/-- Goes back to a savepoint, which stays. -/
def rollbackTo (e : SnapshotEngine m) (name : String) : Code × SnapshotEngine m :=
  match e.since name with
  | [] => (Code.error, e)
  | a :: rest => (Code.ok, ⟨a.contents, e.autocommit, a :: rest⟩)

/-- One part of a script. -/
def perform (e : SnapshotEngine m) : Piece → Code × SnapshotEngine m
  | .statement ⟨.begin _, _⟩ => e.begin
  | .statement ⟨.commit, _⟩ => e.commit
  | .statement ⟨.rollback, _⟩ => e.rollback
  | .statement ⟨.savepoint name, _⟩ => (Code.ok, e.push (some name))
  | .statement ⟨.release name, _⟩ => e.release name
  | .statement ⟨.rollbackTo name, _⟩ => e.rollbackTo name
  | p => ((m.piece p e.contents).1, { e with contents := (m.piece p e.contents).2 })

/-- Some parts of a script one after another, up to the first that fails. -/
def performAll : List Piece → SnapshotEngine m → Code × SnapshotEngine m
  | [], e => (Code.ok, e)
  | p :: ps, e => if (e.perform p).1 = Code.ok then performAll ps (e.perform p).2 else e.perform p

/-- A script. -/
def execute (e : SnapshotEngine m) (script : String) : Code × SnapshotEngine m :=
  performAll (Piece.split script.toList) e

end SnapshotEngine

instance {κ : Type} {m : Meaning κ} : Engine (SnapshotEngine m) where
  call c e :=
    match c with
    | .execute _ script => e.execute script
    | _ => (default, e)

namespace SnapshotEngine

variable {κ : Type} {m : Meaning κ} (e : SnapshotEngine m)

/-! ### Scripts -/

/-- A statement that is not about transactions changes the contents only. -/
theorem perform_of_isControl {p : Piece} (h : p.isControl = false) :
    e.perform p = ((m.piece p e.contents).1, { e with contents := (m.piece p e.contents).2 }) := by
  unfold perform
  split <;> first | rfl | cases h

/-- Statements that are not about transactions change the contents and nothing else. -/
theorem performAll_of_isControl {ps : List Piece} (h : ∀ p ∈ ps, p.isControl = false) :
    performAll ps e =
      ((m.pieces ps e.contents).1, { e with contents := (m.pieces ps e.contents).2 }) := by
  induction ps generalizing e with
  | nil => rfl
  | cons p ps ih =>
    have hp := perform_of_isControl e (h p List.mem_cons_self)
    rw [performAll, Meaning.pieces, hp]
    by_cases hok : (m.piece p e.contents).1 = Code.ok
    · rw [if_pos hok, if_pos hok, ih _ fun q hq => h q (List.mem_cons_of_mem p hq)]
    · rw [if_neg hok, if_neg hok]

/-- A script of one statement does what the statement does. -/
theorem execute_of_parseFirst {script : String} {q : Sql.Parsed}
    (h : Sql.parseFirst script.toList = .ok (some q, script.toList.length)) :
    e.execute script = e.perform (.statement q) := by
  rw [execute, Piece.split_of_parseFirst h, performAll]
  by_cases hok : (e.perform (.statement q)).1 = Code.ok
  · rw [if_pos hok, performAll, ← hok]
  · rw [if_neg hok]

/-- All beginnings begin a transaction. -/
theorem execute_beginSql (locking : Locking) : e.execute locking.beginSql = e.begin := by
  obtain ⟨mode, h⟩ := Sql.parseFirst_beginSql locking
  rw [execute_of_parseFirst e h]
  rfl

theorem execute_commit : e.execute "COMMIT" = e.commit := by
  rw [execute_of_parseFirst e Sql.parseFirst_commit]
  rfl

theorem execute_rollback : e.execute "ROLLBACK" = e.rollback := by
  rw [execute_of_parseFirst e Sql.parseFirst_rollback]
  rfl

/-- A name between quotes is the name that is kept, whatever characters it has. -/
theorem execute_setSql (name : String) :
    e.execute (Savepoint.setSql name) = (Code.ok, e.push (some name)) := by
  rw [execute_of_parseFirst e (Sql.parseFirst_setSql name)]
  rfl

/-- It is the name that is released. -/
theorem execute_releaseSql (name : String) :
    e.execute (Savepoint.releaseSql name) = e.release name := by
  rw [execute_of_parseFirst e (Sql.parseFirst_releaseSql name)]
  rfl

/-- It is the name that is gone back to. -/
theorem execute_rollbackSql (name : String) :
    e.execute (Savepoint.rollbackSql name) = e.rollbackTo name := by
  rw [execute_of_parseFirst e (Sql.parseFirst_rollbackSql name)]
  rfl

end SnapshotEngine

end GuardedSql
