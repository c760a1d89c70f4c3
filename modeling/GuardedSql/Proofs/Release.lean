import GuardedSql.Proofs.Custody

/-!
# Everything is released once

Whatever an owner does and whatever the engine answers, what was handed out was let go once or is
held, and is not used after that. Backups are finished when they are given up, connections are closed
when they are, or by the very opening that failed. A registration makes one box and gives it to the
engine with its destructor, so that no path of it drops the box twice or leaves it. When the owner
winds up, nothing is left, and the boxes of the registered functions are dropped once each.
-/

namespace GuardedSql

variable {σ : Type} [Engine σ]

namespace Owner

open History

variable {w : Owner σ}

/-! ### Winding up -/

/-- Gives up all statements, then all backups and then all connections. -/
def windingUp (w : Owner σ) : List Dealing :=
  List.replicate w.statements.length (.dropStatement 0) ++
    List.replicate w.backups.length (.dropBackup 0) ++
    List.replicate w.databases.length (.close 0)

/-- What an owner has. -/
structure Has (w : Owner σ) (databases : List Database) (statements : List Statement)
    (backups : List Lent) : Prop where
  databases : w.databases = databases
  statements : w.statements = statements
  backups : w.backups = backups

section

variable {databases : List Database} {statements : List Statement} {backups : List Lent}

/-- All statements are given up, one by one. -/
theorem Has.dropStatements (h : w.Has databases statements backups) :
    ((List.replicate statements.length (.dropStatement 0)).foldl deal w).Has
      databases [] backups := by
  induction statements generalizing w with
  | nil => exact h
  | cons q rest ih =>
    refine ih (w := w.deal (.dropStatement 0)) ?_
    simp only [deal, h.statements, List.getElem?_cons_zero, doing_eq_enter]
    exact ⟨h.databases, rfl, h.backups⟩

/-- Then all backups are. -/
theorem Has.dropBackups (h : w.Has databases [] backups) :
    ((List.replicate backups.length (.dropBackup 0)).foldl deal w).Has databases [] [] := by
  induction backups generalizing w with
  | nil => exact h
  | cons l rest ih =>
    refine ih (w := w.deal (.dropBackup 0)) ?_
    simp only [deal, h.backups, List.getElem?_cons_zero, doing_eq_enter]
    exact ⟨h.databases, h.statements, rfl⟩

/-- Then nothing is lent any more, and all connections are closed. -/
theorem Has.closes (h : w.Has databases [] []) :
    ((List.replicate databases.length (.close 0)).foldl deal w).Has [] [] [] := by
  induction databases generalizing w with
  | nil => exact h
  | cons db rest ih =>
    have hlends : w.lends db = false := by
      simp [lends, h.statements, h.backups]
    refine ih (w := w.deal (.close 0)) ?_
    simp only [deal, h.databases, List.getElem?_cons_zero, hlends, doing_eq_enter]
    exact ⟨rfl, h.statements, h.backups⟩

end

/-- Winding up leaves nothing. -/
theorem held_windingUp (w : Owner σ) (r : Resource) : (w.windingUp.foldl deal w).held r = 0 := by
  have hend : (w.windingUp.foldl deal w).Has [] [] [] := by
    rw [windingUp, List.foldl_append, List.foldl_append]
    exact Has.closes (Has.dropBackups (Has.dropStatements ⟨rfl, rfl, rfl⟩))
  cases r with
  | connection c => rw [held, hend.databases, List.countP_nil]
  | backup b => rw [held, hend.backups, List.countP_nil]

/-! ### The result -/

/-- How an owner releases what it is given, and the engine the boxes of its functions. -/
structure Releases (replaces : Registration → Registration → Bool) (w : Owner σ) : Prop where
  /-- What was handed out was let go exactly once or is held. -/
  balance : ∀ r, given w.history r = freed w.history r + w.held r
  /-- Nothing was used after it was let go, but for the reason why the engine refused to take it. -/
  allowed : ∀ before x after, w.history = before ++ x :: after → Allows before x
  /-- A dealing lets go of nothing but what is given up in it, and a connection that failed to open. -/
  letsGo : ∀ x, ∃ d, (w.deal x).history = w.history ++ d ∧
    ∀ e ∈ d, ∀ r, e.call.frees? = some r → w.LetsGo d x r
  /-- A backup that is given up is finished. -/
  finishes : ∀ (i : Nat) (l : Lent), w.backups[i]? = some l →
    ∃ code, (w.deal (.dropBackup i)).history =
      w.history ++ [⟨.backupFinish l.backup.handle, code⟩]
  /-- A connection that is given up is closed. -/
  closes : ∀ (i : Nat) (db : Database), w.databases[i]? = some db → w.lends db = false →
    ∃ d, Database.Closing db.connection d ∧ (w.deal (.close i)).history = w.history ++ d
  /-- An opening takes one of its paths; it gives a connection exactly if the engine hands one out
  with success and sets the timeout that is asked for, if there is one. -/
  opens : ∀ path flags ms vfs,
    let o := observe (Database.openWith path flags ms vfs) w.store
    Database.Opening path flags ms vfs o.exchanges o.result ∧
      ((∃ db, o.result = .ok db) ↔
        ∃ c, ⟨.openConnection path flags vfs, (Code.ok, some c)⟩ ∈ o.exchanges ∧
          (0 < ms → ⟨.busyTimeout c ms, Code.ok⟩ ∈ o.exchanges))
  /-- A registration makes one box and gives it to the engine with its destructor, unless the name
  has a zero character. -/
  registers : ∀ (db : Database) name arity deterministic callbacks,
    let o := observe (db.register name arity deterministic callbacks) w.store
    Database.Registering db.connection name arity deterministic callbacks o.exchanges o.result
  /-- The engine has each box that was made or has dropped it, once. -/
  accounted : ∀ p, (boxes replaces w.history).heap.made.count p =
    (boxes replaces w.history).heap.dropped.count p +
      (boxes replaces w.history).kept.countP (·.data = p)
  /-- What it has is still on the heap, and of a connection that the engine has. -/
  kept : ∀ box ∈ (boxes replaces w.history).kept,
    (boxes replaces w.history).heap.dropped.count box.data <
        (boxes replaces w.history).heap.made.count box.data ∧
      released w.history (.connection box.registration.connection) <
        given w.history (.connection box.registration.connection)

theorem Sound.releases (h : w.Sound) (replaces : Registration → Registration → Bool) :
    w.Releases replaces where
  balance := h.balance
  allowed := fun before x after hsplit => by
    simpa using h.admitted.allows hsplit
  letsGo := fun x => by
    obtain ⟨d, hgoes⟩ := h.goes x
    exact ⟨d, hgoes.history, hgoes.letsGo⟩
  finishes := fun i l hl => by
    obtain ⟨code, hgoes⟩ := h.goes_dropBackup hl
    refine ⟨code, ?_⟩
    simp only [Owner.deal, hl]
    exact hgoes.history
  closes := fun i db hdb hlends => by
    obtain ⟨d, hclosing, hgoes⟩ := h.goes_close hdb hlends
    refine ⟨d, hclosing, ?_⟩
    simp only [Owner.deal, hdb, hlends]
    exact hgoes.history
  opens := fun path flags ms vfs => by
    have hopening :=
      (Yields.of_any fun _ _ => Database.openWith_follows path flags ms vfs).observed w.store
    exact ⟨hopening, hopening.isOk_iff⟩
  registers := fun db name arity deterministic callbacks =>
    (Yields.of_any fun _ _ =>
      db.register_follows name arity deterministic callbacks).observed w.store
  accounted := (h.accounted replaces).balance
  kept := fun box hbox => by
    have hpos : 0 < (boxes replaces w.history).kept.countP (·.data = box.data) :=
      List.countP_pos_iff.mpr ⟨box, hbox, by simp⟩
    have hbalance := (h.accounted replaces).balance box.data
    exact ⟨by omega, kept_of_admits replaces h.admitted hbox⟩

/-- Connections, backups and boxes are released exactly once, whatever an owner does that respects
what is borrowed and whatever the engine answers: at any time they are accounted for, and when the
owner winds up, all connections and backups have been let go as often as they were handed out and,
if the engine has refused to close none, every box has been dropped as often as it was made. -/
theorem resources_released_once (replaces : Registration → Registration → Bool) (engine : σ)
    (dealings : List Dealing) :
    let w := run engine dealings
    let final := run engine (dealings ++ w.windingUp)
    w.Releases replaces ∧ final.Releases replaces ∧
      (∀ r, freed final.history r = given final.history r) ∧
      ((∀ c code, ⟨.closeConnection c, code⟩ ∈ final.history → code = Code.ok) →
        ∀ p, (boxes replaces final.history).heap.dropped.count p =
          (boxes replaces final.history).heap.made.count p) := by
  intro w final
  have hfinal : final.Sound := run_sound engine _
  have hfold : final = w.windingUp.foldl deal w := List.foldl_append
  have hfreed : ∀ r, given final.history r = freed final.history r := by
    intro r
    rw [hfinal.balance r, hfold, held_windingUp, Nat.add_zero]
  refine ⟨(run_sound engine dealings).releases replaces, hfinal.releases replaces,
    fun r => (hfreed r).symm, fun hclose p => ?_⟩
  exact count_dropped replaces hfinal.admitted (hfinal.accounted replaces) (fun c => hfreed _) hclose p

/-- An engine without files, which numbers what it hands out. Only databases in memory can be opened
on it. -/
structure InMemory where
  /-- The next number. -/
  next : Nat := 0

instance : Engine InMemory where
  call c s :=
    match c with
    | .openConnection path _ _ =>
      ((if path = ":memory:" then Code.ok else Code.cannotOpen, some ⟨s.next⟩), ⟨s.next + 1⟩)
    | .backupStart .. => (some ⟨s.next⟩, ⟨s.next + 1⟩)
    | .makeBox _ => (⟨s.next⟩, ⟨s.next + 1⟩)
    | .errorMessage _ => (some "unable to open database file".toUTF8, s)
    | .extendedErrorCode _ => (Code.cannotOpen, s)
    | _ => (default, s)

/-- Two connections, a function that is registered twice on the first of them, a connection that
does not open, and a backup. -/
def replacement : List Dealing :=
  [.openWith ":memory:" .readWrite 0 none,
    .openWith ":memory:" .readWrite 5 none,
    .chore (.createFunction ⟨⟨0⟩, ":memory:"⟩ "first" (-1) true fun _ => .panicked),
    .openWith "missing.db" .readWrite 5 none,
    .chore (.createFunction ⟨⟨0⟩, ":memory:"⟩ "first" (-1) true fun _ => .panicked),
    .startBackup ⟨⟨1⟩, ":memory:"⟩ "main" ⟨⟨0⟩, ":memory:"⟩ "main",
    .stepBackup 0 1]

/-- The connection that did not open was closed, and both boxes were dropped once. -/
theorem resources_released_once_of_replacement :
    let final := run (⟨0⟩ : InMemory) (replacement ++ (run (⟨0⟩ : InMemory) replacement).windingUp)
    given final.history (.connection ⟨3⟩) = 1 ∧ freed final.history (.connection ⟨3⟩) = 1 ∧
      ∀ p, (boxes (fun _ _ => true) final.history).heap.dropped.count p =
        [⟨2⟩, ⟨4⟩].count p := by
  intro final
  have hmade : (boxes (fun _ _ => true) final.history).heap.made = [⟨4⟩, ⟨2⟩] := rfl
  have hgiven : given final.history (.connection ⟨3⟩) = 1 := rfl
  have hcloses : final.history.all (fun
      | ⟨.closeConnection _, code⟩ => code = Code.ok
      | _ => true) = true := rfl
  have hclose : ∀ c code, ⟨.closeConnection c, code⟩ ∈ final.history → code = Code.ok :=
    fun c code h => of_decide_eq_true (List.all_eq_true.mp hcloses _ h)
  obtain ⟨-, -, hfreed, hdropped⟩ :=
    resources_released_once (fun _ _ => true) (⟨0⟩ : InMemory) replacement
  refine ⟨hgiven, (hfreed _).trans hgiven, fun p => ?_⟩
  rw [hdropped hclose p, hmade]
  exact (List.Perm.swap _ _ _).count_eq p

end Owner

end GuardedSql
