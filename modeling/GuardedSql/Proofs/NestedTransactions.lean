import GuardedSql.Proofs.Nesting

/-!
# Guards nest

A program that keeps to nesting comes to what its outline says: the contents are those that the
standing writes make, the stack of the engine has a snapshot for each open guard, and the flags of
the guards tell which of them are open. The snapshot of a scope holds what the writes outside of it
make, so that going back to it is striking out the writes inside of it.
-/

namespace GuardedSql

variable {κ : Type} {m : Meaning κ} {k : κ} {db : Database}

namespace Outline

variable {r : Outline} {i : Nat}

/-- What an engine keeps for a scope. -/
def snapshot (m : Meaning κ) (k : κ) (r : Outline) (a : Scope) : Snapshot κ :=
  ⟨a.purpose.name?, m.replay (r.discard a.guard).writes k⟩

/-- The engine of a program that had some contents at first. -/
def engine (m : Meaning κ) (k : κ) (r : Outline) : SnapshotEngine m :=
  ⟨m.replay r.writes k, r.opened.isEmpty, r.opened.map (r.snapshot m k)⟩

/-- The guards of a program. -/
def held (db : Database) (r : Outline) : List (Option Guard) :=
  r.guards.mapIdx fun i purpose? => purpose?.map (Purpose.guard db (r.isOpen i))

/-! ### Engines of outlines -/

/-- A write is not part of a snapshot. -/
theorem engine_write (script : String) :
    (r.move (.write script)).engine m k =
      { r.engine m k with contents := m.effect script (r.engine m k).contents } := by
  have hcontents : m.replay (r.writes ++ [⟨script, r.opened.map Scope.guard⟩]) k =
      m.effect script (m.replay r.writes k) := by
    rw [Meaning.replay, List.foldl_append]
    rfl
  have hsnapshots : r.opened.map ((r.move (.write script)).snapshot m k) =
      r.opened.map (r.snapshot m k) := by
    refine List.map_congr_left fun a ha => ?_
    have hunder : a.guard ∈ r.opened.map Scope.guard := List.mem_map_of_mem ha
    rw [snapshot, discard, Outline.move, List.filter_append,
      List.filter_cons_of_neg (by simpa using hunder), List.filter_nil, List.append_nil]
    rfl
  change SnapshotEngine.mk (m.replay (r.writes ++ [⟨script, r.opened.map Scope.guard⟩]) k)
    r.opened.isEmpty (r.opened.map ((r.move (.write script)).snapshot m k)) = _
  rw [hcontents, hsnapshots]
  rfl

/-- A new scope takes the contents as they are. -/
theorem engine_enter (h : r.Nested) (purpose : Purpose) :
    (r.enter purpose).engine m k = (r.engine m k).push purpose.name? := by
  have hnew : (r.enter purpose).snapshot m k ⟨r.guards.length, purpose⟩ =
      ⟨purpose.name?, m.replay r.writes k⟩ :=
    congrArg (fun ws => Snapshot.mk purpose.name? (m.replay ws k)) h.discard_new
  change SnapshotEngine.mk _ false ((r.enter purpose).snapshot m k _ :: _) = _
  rw [hnew]
  rfl

/-- Striking out the writes of the newest scope leaves all snapshots as they are. -/
theorem snapshot_discard {a : Scope} {rest : List Scope} (h : r.Nested)
    (hopened : r.opened = a :: rest) {b : Scope} (hb : b ∈ a :: rest) :
    (r.discard a.guard).snapshot m k b = r.snapshot m k b := by
  rw [snapshot, snapshot, h.discard_discard hopened hb]

/-- Going back to the newest snapshot. -/
theorem engine_discard {a : Scope} {rest : List Scope} (h : r.Nested)
    (hopened : r.opened = a :: rest) :
    (r.discard a.guard).engine m k =
      ⟨(r.snapshot m k a).contents, false, r.snapshot m k a :: rest.map (r.snapshot m k)⟩ := by
  have hsnapshots : (a :: rest).map ((r.discard a.guard).snapshot m k) =
      (a :: rest).map (r.snapshot m k) :=
    List.map_congr_left fun b hb => snapshot_discard h hopened hb
  have hsame : (r.discard a.guard).opened = a :: rest := hopened
  rw [engine, hsame, hsnapshots]
  rfl

/-- Keeping the effects of the newest scope forgets its snapshot. -/
theorem engine_leave {rest : List Scope} (h : (r.leave i).opened = rest) :
    (r.leave i).engine m k = ⟨(r.engine m k).contents, (rest.map (r.snapshot m k)).isEmpty,
      rest.map (r.snapshot m k)⟩ := by
  rw [engine, h, List.isEmpty_map]
  rfl

/-- Discarding the effects of the newest scope goes back to its snapshot and forgets it. -/
theorem engine_discard_leave {a : Scope} {rest : List Scope} (h : r.Nested)
    (hopened : r.opened = a :: rest) (hleave : (r.leave a.guard).opened = rest) :
    ((r.discard a.guard).leave a.guard).engine m k = ⟨(r.snapshot m k a).contents,
      (rest.map (r.snapshot m k)).isEmpty, rest.map (r.snapshot m k)⟩ := by
  have hsnapshots : rest.map ((r.discard a.guard).snapshot m k) = rest.map (r.snapshot m k) :=
    List.map_congr_left fun b hb => snapshot_discard h hopened (List.mem_cons_of_mem a hb)
  rw [engine_leave (r := r.discard a.guard) hleave, hsnapshots]
  rfl

/-- The snapshots of an engine when the newest scope is known. -/
theorem engine_of_opened {a : Scope} {rest : List Scope} (h : r.opened = a :: rest) :
    r.engine m k =
      ⟨m.replay r.writes k, false, r.snapshot m k a :: rest.map (r.snapshot m k)⟩ := by
  rw [engine, h]
  rfl

/-! ### Guards of outlines -/

/-- A guard is open if its scope is. -/
theorem getElem?_held (i : Nat) :
    (r.held db)[i]? = r.guards[i]?.map (Option.map (Purpose.guard db (r.isOpen i))) := by
  rw [held, List.getElem?_mapIdx]

/-- A new guard is open. -/
theorem held_enter (purpose : Purpose) :
    (r.enter purpose).held db = r.held db ++ [some (purpose.guard db true)] := by
  have hopen : ∀ j, (r.enter purpose).isOpen j = (r.guards.length == j || r.isOpen j) :=
    fun _ => rfl
  have hold : (r.guards.mapIdx fun j purpose? =>
      purpose?.map (Purpose.guard db ((r.enter purpose).isOpen j))) = r.held db := by
    refine List.mapIdx_eq_mapIdx_iff.mpr fun j hj => ?_
    have hne : (r.guards.length == j) = false := by
      rw [beq_eq_false_iff_ne]
      omega
    rw [hopen, hne, Bool.false_or]
  rw [held]
  change (r.guards ++ [some purpose]).mapIdx _ = _
  rw [List.mapIdx_concat, hold, hopen, beq_self_eq_true, Bool.true_or]
  rfl

/-- A scope that is closed leaves the other guards as they are. -/
theorem isOpen_leave_of_ne {j : Nat} (h : j ≠ i) : (r.leave i).isOpen j = r.isOpen j := by
  rw [isOpen, isOpen, leave, List.any_filter]
  congr 1
  funext a
  by_cases ha : a.guard = j
  · simp [ha, h]
  · simp [ha]

/-- A scope that is closed changes the flag of its guard. -/
theorem held_leave {purpose : Purpose} (hi : r.guards[i]? = some (some purpose)) :
    (r.leave i).held db = (r.held db).set i (some (purpose.guard db false)) := by
  refine List.ext_getElem? fun j => ?_
  have hlt : i < (r.held db).length := by
    rw [held, List.length_mapIdx]
    exact (List.getElem?_eq_some_iff.mp hi).1
  rw [getElem?_held, List.getElem?_set]
  by_cases hj : i = j
  · subst hj
    rw [if_pos rfl, if_pos hlt, isOpen_leave]
    change Option.map _ r.guards[i]? = _
    rw [hi]
    rfl
  · rw [if_neg hj, isOpen_leave_of_ne (Ne.symm hj), getElem?_held]
    rfl

/-- A guard that is taken away leaves its place empty. -/
theorem held_forget (i : Nat) : (r.forget i).held db = (r.held db).set i none :=
  List.mapIdx_set

end Outline

/-- What a program came to is what its outline says. -/
structure Mirrors (db : Database) (k : κ) (p : Program m) (r : Outline) : Prop where
  engine : p.store.engine = r.engine m k
  guards : p.guards = r.held db
  reports : p.reports = r.reports

namespace Mirrors

variable {p : Program m} {r : Outline} {i : Nat}

/-- The guard of a number. -/
theorem getElem?_guards (h : Mirrors db k p r) {purpose : Purpose}
    (hi : r.guards[i]? = some (some purpose)) :
    p.guards[i]? = some (some (purpose.guard db (r.isOpen i))) := by
  rw [h.guards, Outline.getElem?_held, hi]
  rfl

/-- A guard that is put back as it was changes nothing. -/
theorem set_self (h : Mirrors db k p r) {purpose : Purpose}
    (hi : r.guards[i]? = some (some purpose)) :
    p.guards.set i (some (purpose.guard db (r.isOpen i))) = p.guards := by
  obtain ⟨hlt, hguard⟩ := List.getElem?_eq_some_iff.mp (h.getElem?_guards hi)
  rw [← hguard, List.set_getElem_self]

/-- While a scope is open, statements do not commit for themselves. -/
theorem autocommit {a : Scope} {rest : List Scope} (h : Mirrors db k p r)
    (hopened : r.opened = a :: rest) : p.store.engine.autocommit = false := by
  rw [h.engine, Outline.engine_of_opened hopened]

/-- The newest snapshot is that of the innermost savepoint. -/
theorem newest {a : Scope} {rest : List Scope} (h : Mirrors db k p r)
    (hopened : r.opened = a :: rest) :
    p.store.engine.snapshots =
      ⟨a.purpose.name?, (r.snapshot m k a).contents⟩ :: rest.map (r.snapshot m k) := by
  rw [h.engine, Outline.engine_of_opened hopened]
  rfl

section

variable {α : Type} {a : Action (SnapshotEngine m) α} {f : α → List (Option Guard)} {x : α}

/-- What is refused changes nothing. -/
theorem refused {e : Error} (h : Mirrors db k p r) (ha : a p.store = (.error e, p.store)) :
    Mirrors db k (p.report a f) (r.report false) := by
  rw [Program.report_of_error ha]
  exact ⟨h.engine, h.guards, congrArg (· ++ [false]) h.reports⟩

/-- What keeps the contents under the name of a new guard enters its scope. -/
theorem entered {purpose : Purpose} (h : Mirrors db k p r) (hn : r.Nested)
    (ha : a p.store = (.ok x, { p.store with engine := p.store.engine.push purpose.name? }))
    (hf : f x = p.guards ++ [some (purpose.guard db true)]) :
    Mirrors db k (p.report a f) ((r.enter purpose).report true) := by
  rw [Program.report_of_ok ha, hf]
  refine ⟨?_, ?_, congrArg (· ++ [true]) h.reports⟩
  · rw [h.engine]
    exact (Outline.engine_enter hn purpose).symm
  · rw [h.guards]
    exact (Outline.held_enter purpose).symm

end

section

variable {γ : Type} {guard : γ → Guard} {g : γ} {purpose : Purpose}
  {a : Action (SnapshotEngine m) (Except Error Unit × γ)}

/-- A guard that refuses is put back as it was. -/
theorem declined {e : Error} (h : Mirrors db k p r) (hi : r.guards[i]? = some (some purpose))
    (ha : a p.store = (.ok (.error e, g), p.store))
    (hguard : guard g = purpose.guard db (r.isOpen i)) :
    Mirrors db k (p.settle i guard a) (r.report false) := by
  rw [Program.settle_of_run ha, hguard, h.set_self hi]
  exact ⟨h.engine, h.guards, congrArg (· ++ [false]) h.reports⟩

/-- What forgets the newest snapshot and flags the guard that had taken it leaves its scope. -/
theorem left {rest : List Scope} (h : Mirrors db k p r)
    (hi : r.guards[i]? = some (some purpose)) (hleave : (r.leave i).opened = rest)
    (ha : a p.store = (.ok (.ok (), g), { p.store with
      engine := ⟨p.store.engine.contents, (rest.map (r.snapshot m k)).isEmpty,
        rest.map (r.snapshot m k)⟩ }))
    (hguard : guard g = purpose.guard db false) :
    Mirrors db k (p.settle i guard a) ((r.leave i).report true) := by
  rw [Program.settle_of_run ha, hguard]
  refine ⟨?_, ?_, congrArg (· ++ [true]) h.reports⟩
  · rw [h.engine]
    exact (Outline.engine_leave hleave).symm
  · rw [h.guards]
    exact (Outline.held_leave hi).symm

end

/-! ### Moves -/

/-- A write is noted and made. -/
theorem write {script : String} (h : Mirrors db k p r) (hm : r.Allows (.write script)) :
    Mirrors db k (p.move db (.write script)) (r.move (.write script)) where
  engine := by
    rw [Program.move, Database.exec_of_isControl db hm, h.engine, Outline.engine_write]
  guards := h.guards
  reports := h.reports

/-- A transaction enters a scope if none is open, and is refused if one is. -/
theorem begin (h : Mirrors db k p r) (hn : r.Nested) (locking : Locking) :
    Mirrors db k (p.move db (.begin locking)) (r.move (.begin locking)) := by
  have hauto : p.store.engine.autocommit = r.opened.isEmpty := by
    rw [h.engine]
    rfl
  rw [Program.move, Outline.move]
  cases hempty : r.opened.isEmpty with
  | true =>
    rw [hempty] at hauto
    exact h.entered hn (Transaction.begin_of_autocommit locking hauto) rfl
  | false =>
    rw [hempty] at hauto
    exact h.refused (Transaction.begin_of_not_autocommit locking hauto)

/-- A savepoint always enters a scope. -/
theorem set {name : String} (h : Mirrors db k p r) (hn : r.Nested) (hm : r.Allows (.set name)) :
    Mirrors db k (p.move db (.set name)) (r.move (.set name)) := by
  rw [Program.move, Outline.move]
  exact h.entered hn (Savepoint.set_run hm) rfl

/-- A transaction that is open has the only open scope when it is committed. -/
theorem commit (h : Mirrors db k p r) (hn : r.Nested) (hm : r.Allows (.commit i)) :
    Mirrors db k (p.move db (.commit i)) (r.move (.commit i)) := by
  obtain ⟨hi, hinner⟩ := hm
  rw [Program.move, h.getElem?_guards hi, Outline.move]
  dsimp only [Purpose.guard]
  cases hopen : r.isOpen i with
  | false =>
    have hcommit := congrFun (Transaction.commit_of_committed (t := ⟨db, !false⟩) rfl) p.store
    rw [Outline.leave_of_not_isOpen hopen]
    exact h.declined hi hcommit (by rw [hopen]; rfl)
  | true =>
    obtain ⟨rest, hopened, hleave⟩ := hn.innermost hi hinner hopen
    obtain rfl := hn.rest_eq_nil hopened
    have hcommit := Transaction.commit_of_not_autocommit (t := ⟨db, !true⟩) rfl
      (h.autocommit hopened)
    exact h.left hi hleave hcommit rfl

/-- A savepoint that is released is the newest of its name, whatever names the others have. -/
theorem release (h : Mirrors db k p r) (hn : r.Nested) (hm : r.Allows (.release i)) :
    Mirrors db k (p.move db (.release i)) (r.move (.release i)) := by
  obtain ⟨⟨name, hi⟩, hinner⟩ := hm
  rw [Program.move, h.getElem?_guards hi, Outline.move]
  dsimp only [Purpose.guard]
  cases hopen : r.isOpen i with
  | false =>
    have hrelease := congrFun (Savepoint.release_of_released (p := ⟨db, name, !false⟩) rfl) p.store
    rw [Outline.leave_of_not_isOpen hopen]
    exact h.declined hi hrelease (by rw [hopen]; rfl)
  | true =>
    obtain ⟨rest, hopened, hleave⟩ := hn.innermost hi hinner hopen
    have hname := hn.names name (List.mem_of_getElem? hi)
    have hrelease := Savepoint.release_of_newest (p := ⟨db, name, !true⟩) rfl hname
      (h.newest hopened)
    exact h.left hi hleave hrelease rfl

/-- So is one that is rolled back to, and it stays. -/
theorem rollbackTo (h : Mirrors db k p r) (hn : r.Nested) (hm : r.Allows (.rollbackTo i)) :
    Mirrors db k (p.move db (.rollbackTo i)) (r.move (.rollbackTo i)) := by
  obtain ⟨⟨name, hi⟩, hinner⟩ := hm
  rw [Program.move, h.getElem?_guards hi, Outline.move]
  dsimp only [Purpose.guard]
  cases hopen : r.isOpen i with
  | false =>
    have hback := congrFun (Savepoint.rollbackTo_of_released (p := ⟨db, name, !false⟩) rfl) p.store
    exact h.declined hi hback (by rw [hopen]; rfl)
  | true =>
    obtain ⟨rest, hopened, -⟩ := hn.innermost hi hinner hopen
    have hname := hn.names name (List.mem_of_getElem? hi)
    have hback := Savepoint.rollbackTo_of_newest (p := ⟨db, name, !true⟩) rfl hname
      (h.newest hopened)
    have hself := h.set_self hi
    rw [hopen] at hself
    rw [h.autocommit hopened] at hback
    rw [Program.settle_of_run hback]
    exact ⟨(Outline.engine_discard hn hopened).symm, hself.trans h.guards,
      congrArg (· ++ [true]) h.reports⟩

/-- Dropping an open guard discards the effects of its scope and leaves it. -/
theorem drop (h : Mirrors db k p r) (hn : r.Nested) (hm : r.Allows (.drop i)) :
    Mirrors db k (p.move db (.drop i)) (r.move (.drop i)) := by
  obtain ⟨⟨purpose, hi⟩, hinner⟩ := hm
  rw [Program.move, h.getElem?_guards hi, Outline.move]
  cases hopen : r.isOpen i with
  | false =>
    have hstore : ((purpose.guard db false).drop p.store).2 = p.store := by
      cases purpose with
      | transaction => exact Transaction.drop_of_committed rfl
      | savepoint name => exact Savepoint.drop_of_released rfl
    dsimp only
    rw [hstore, h.guards]
    exact ⟨h.engine, (Outline.held_forget i).symm, h.reports⟩
  | true =>
    obtain ⟨rest, hopened, hleave⟩ := hn.innermost hi hinner hopen
    have hstore : ((purpose.guard db true).drop p.store).2.engine =
        ((r.discard i).leave i).engine m k := by
      rw [Outline.engine_discard_leave hn hopened hleave]
      cases purpose with
      | transaction =>
        obtain rfl := hn.rest_eq_nil hopened
        have hengine := h.engine.trans (Outline.engine_of_opened hopened)
        dsimp only [Purpose.guard, Guard.drop]
        rw [Transaction.drop_of_open rfl hengine]
        rfl
      | savepoint name =>
        have hname := hn.names name (List.mem_of_getElem? hi)
        dsimp only [Purpose.guard, Guard.drop]
        rw [Savepoint.drop_of_open rfl hname (h.newest hopened)]
    have hheld : (((r.discard i).leave i).forget i).held db = (r.held db).set i none := by
      rw [Outline.held_forget, Outline.held_leave (r := r.discard i) hi, List.set_set]
      rfl
    have hengine : (((r.discard i).leave i).forget i).engine m k =
        ((r.discard i).leave i).engine m k := rfl
    dsimp only
    rw [if_pos rfl, h.guards]
    exact ⟨hstore.trans hengine.symm, hheld.symm, h.reports⟩

/-- One move. -/
theorem move {a : Move} (h : Mirrors db k p r) (hn : r.Nested) (hm : r.Allows a) :
    Mirrors db k (p.move db a) (r.move a) := by
  cases a with
  | write script => exact h.write hm
  | begin locking => exact h.begin hn locking
  | set name => exact h.set hn hm
  | commit i => exact h.commit hn hm
  | release i => exact h.release hn hm
  | rollbackTo i => exact h.rollbackTo hn hm
  | drop i => exact h.drop hn hm

/-- All moves, by induction. -/
theorem run {moves : List Move} (h : Mirrors db k p r) (hn : r.Nested) (hm : r.AllowsAll moves) :
    Mirrors db k (p.run db moves) (r.run moves) ∧ (r.run moves).Nested := by
  induction moves generalizing p r with
  | nil => exact ⟨h, hn⟩
  | cons a moves ih => exact ih (h.move hn hm.1) (hn.move hm.1) hm.2

end Mirrors

/-- A program that finds the engine outside of a transaction and keeps to nesting leaves the
contents that its outline says: those of the writes that stand, whatever they do to contents. The
engine is in a transaction exactly while a guard is open, its stack has the names of the open
guards, and these are the guards whose flags say so. Guards report success as the outline says, and
a transaction that would begin while a guard is open is refused and leaves all as it was. -/
theorem Program.guards_nest (m : Meaning κ) (db : Database) (s : Store (SnapshotEngine m))
    (moves : List Move) (hauto : s.engine.autocommit = true) (hempty : s.engine.snapshots = [])
    (hmoves : Outline.AllowsAll {} moves) :
    let p := Program.run db { store := s } moves
    let r := Outline.run {} moves
    p.store.engine.contents = m.replay r.writes s.engine.contents ∧
    p.store.engine.autocommit = r.opened.isEmpty ∧
    p.store.engine.snapshots.map Snapshot.name = r.opened.map (fun a => a.purpose.name?) ∧
    p.guards = r.held db ∧
    p.reports = r.reports ∧
    (r.opened ≠ [] → ∀ locking, ∃ e,
      Transaction.begin db locking p.store = (.error e, p.store)) := by
  intro p r
  have hengine : s.engine = Outline.engine m s.engine.contents {} := by
    rcases s with ⟨⟨contents, autocommit, snapshots⟩, _, _⟩
    cases hauto
    cases hempty
    rfl
  have hstart : Mirrors db s.engine.contents ({ store := s } : Program m) {} := ⟨hengine, rfl, rfl⟩
  have hnested : Outline.Nested {} :=
    ⟨by simp, List.Pairwise.nil, by simp, by simp⟩
  obtain ⟨h, -⟩ := hstart.run hnested hmoves
  have hcontents : p.store.engine = r.engine m s.engine.contents := h.engine
  refine ⟨congrArg _ hcontents, congrArg _ hcontents, ?_, h.guards, h.reports, ?_⟩
  · rw [hcontents, Outline.engine, List.map_map]
    rfl
  · intro hopened locking
    have hauto : p.store.engine.autocommit = false := by
      rw [hcontents, Outline.engine, List.isEmpty_eq_false_iff.mpr hopened]
    exact ⟨_, Transaction.begin_of_not_autocommit locking hauto⟩

/-- A deletion is one statement, and that is not about transactions. -/
theorem Piece.split_deleteFrom : ∃ q, split "DELETE FROM t".toList = [.statement q] ∧
    (Piece.statement q).isControl = false := by
  have hread : ((Sql.parseFirst "DELETE FROM t".toList).toOption.any fun x =>
      x.1.any (fun q => !(Piece.statement q).isControl) && x.2 == "DELETE FROM t".toList.length) =
      true := by decide +kernel
  rcases hparse : Sql.parseFirst "DELETE FROM t".toList with _ | ⟨_ | q, n⟩
  · rw [hparse] at hread
    cases hread
  · rw [hparse] at hread
    cases hread
  · rw [hparse] at hread
    obtain ⟨hcontrol, hn⟩ := Bool.and_eq_true_iff.mp hread
    obtain rfl : n = "DELETE FROM t".toList.length := eq_of_beq hn
    exact ⟨q, split_of_parseFirst hparse, by simpa using hcontrol⟩

/-- A transaction with a savepoint in a savepoint of the same name, and quotes in the name: of the
five deletions, the first and the last are kept. -/
theorem Program.guards_nest_of_equalNames :
    let delete : Move := .write "DELETE FROM t"
    let moves : List Move := [.begin .immediate, delete, .set "a\"b", delete, .set "A\"B", delete,
      .begin .deferred, .rollbackTo 2, delete, .release 2, .drop 1, delete, .commit 0, .drop 0]
    let m : Meaning Nat := ⟨fun _ n => (Code.ok, n + 1)⟩
    let s : Store (SnapshotEngine m) := { engine := ⟨0, true, []⟩ }
    let p := Program.run ⟨⟨0⟩, ":memory:"⟩ { store := s } moves
    s.engine.autocommit = true ∧ s.engine.snapshots = [] ∧ Outline.AllowsAll {} moves ∧
      p.store.engine.contents = 2 ∧ p.store.engine.autocommit = true ∧
      p.reports = [true, true, true, false, true, true, true] := by
  intro delete moves m s
  obtain ⟨q, hq, hcontrol⟩ := Piece.split_deleteFrom
  have hdelete : ∀ p ∈ Piece.split "DELETE FROM t".toList, p.isControl = false := by
    rw [hq]
    simpa using hcontrol
  have hfirst : '\x00' ∉ "a\"b".toList := by simp
  have hsecond : '\x00' ∉ "A\"B".toList := by simp
  have hmoves : Outline.AllowsAll {} moves := by
    refine ⟨trivial, hdelete, hfirst, hdelete, hsecond, hdelete, trivial,
      ⟨⟨"A\"B", ?_⟩, ?_⟩, hdelete, ⟨⟨"A\"B", ?_⟩, ?_⟩, ⟨⟨.savepoint "a\"b", ?_⟩, ?_⟩, hdelete,
      ⟨?_, ?_⟩, ⟨⟨.transaction, ?_⟩, ?_⟩, trivial⟩ <;> decide +kernel
  have heffect : ∀ n : Nat, m.effect "DELETE FROM t" n = n + 1 := by
    intro n
    rw [Meaning.effect, if_neg (by simp), hq]
    rfl
  have hwrites : (Outline.run {} moves).writes =
      [⟨"DELETE FROM t", [0]⟩, ⟨"DELETE FROM t", [0]⟩] := by decide +kernel
  have hopened : (Outline.run {} moves).opened.isEmpty = true := by decide +kernel
  have hanswers : (Outline.run {} moves).reports = [true, true, true, false, true, true, true] := by
    decide +kernel
  obtain ⟨hcontents, hauto, -, -, hreports, -⟩ :=
    Program.guards_nest m ⟨⟨0⟩, ":memory:"⟩ s moves rfl rfl hmoves
  refine ⟨rfl, rfl, hmoves, ?_, hauto.trans hopened, hreports.trans hanswers⟩
  rw [hcontents, hwrites, Meaning.replay, List.foldl_cons, List.foldl_cons, List.foldl_nil, heffect,
    heffect]

end GuardedSql
