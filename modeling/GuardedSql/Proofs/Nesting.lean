import GuardedSql.Proofs.Guards

/-!
# Nested scopes

A program writes and makes guards, ends them and drops them, in any order that keeps to nesting:
what is done with an open guard is done while no guard made later is open. An `Outline` tells what
such a program means without snapshots. It notes with every write which guards were open; to keep
the effects of a scope is to do nothing about its writes, and to discard them is to strike out
the writes that were made while its guard was open.
-/

namespace GuardedSql

/-- A guard that a program holds. -/
inductive Guard where
  | transaction (t : Transaction)
  | savepoint (p : Savepoint)

/-- Gives a guard up. -/
def Guard.drop {σ : Type} [Engine σ] : Guard → Action σ Unit
  | transaction t => t.drop
  | savepoint p => p.drop

/-- What a program can do. Guards are numbered in the order in which they were made. -/
inductive Move where
  /-- Runs a script. -/
  | write (script : String)
  /-- Begins a transaction. -/
  | begin (locking : Locking)
  /-- Sets a savepoint. -/
  | set (name : String)
  /-- Commits a transaction. -/
  | commit (i : Nat)
  /-- Releases a savepoint. -/
  | release (i : Nat)
  /-- Rolls back to a savepoint. -/
  | rollbackTo (i : Nat)
  /-- Drops a guard. -/
  | drop (i : Nat)

/-! ### Programs at work -/

/-- A program on an engine of snapshots. -/
structure Program {κ : Type} (m : Meaning κ) where
  /-- The store. -/
  store : Store (SnapshotEngine m)
  /-- The guards that were made, none in the place of a dropped one. -/
  guards : List (Option Guard) := []
  /-- Whether the operations that can report a failure to make or end a scope succeeded. -/
  reports : List Bool := []

namespace Program

variable {κ : Type} {m : Meaning κ}

/-- Does something that reports its success, with what it does to the guards. -/
def report {α : Type} (p : Program m) (a : Action (SnapshotEngine m) α)
    (f : α → List (Option Guard)) : Program m :=
  match a p.store with
  | (.ok x, s) => ⟨s, f x, p.reports ++ [true]⟩
  | (.error _, s) => ⟨s, p.guards, p.reports ++ [false]⟩

/-- Does something with the guard of a number that reports its success, and puts the guard back as it
comes out of that. -/
def settle {γ : Type} (p : Program m) (i : Nat) (guard : γ → Guard)
    (a : Action (SnapshotEngine m) (Except Error Unit × γ)) : Program m :=
  match a p.store with
  | (.ok (result, g), s) => ⟨s, p.guards.set i (some (guard g)), p.reports ++ [result.isOk]⟩
  | (.error _, s) => ⟨s, p.guards, p.reports ++ [false]⟩

/-- Makes a move. One that names no guard of its kind does nothing. -/
def move (db : Database) (p : Program m) : Move → Program m
  | .write script => { p with store := (db.exec script p.store).2 }
  | .begin locking =>
    p.report (Transaction.begin db locking) fun t => p.guards ++ [some (.transaction t)]
  | .set name => p.report (Savepoint.set db name) fun q => p.guards ++ [some (.savepoint q)]
  | .commit i =>
    match p.guards[i]? with
    | some (some (.transaction t)) => p.settle i .transaction t.commit
    | _ => p
  | .release i =>
    match p.guards[i]? with
    | some (some (.savepoint q)) => p.settle i .savepoint q.release
    | _ => p
  | .rollbackTo i =>
    match p.guards[i]? with
    | some (some (.savepoint q)) => p.settle i .savepoint q.rollbackTo
    | _ => p
  | .drop i =>
    match p.guards[i]? with
    | some (some g) => { p with store := (g.drop p.store).2, guards := p.guards.set i none }
    | _ => p

/-- Makes some moves. -/
def run (db : Database) (p : Program m) (moves : List Move) : Program m := moves.foldl (move db) p

/-- A success is reported as such. -/
theorem report_of_ok {α : Type} {p : Program m} {a : Action (SnapshotEngine m) α} {x : α}
    {s : Store (SnapshotEngine m)} (h : a p.store = (.ok x, s)) (f : α → List (Option Guard)) :
    p.report a f = ⟨s, f x, p.reports ++ [true]⟩ := by
  rw [report, h]

/-- The guard is put back on either outcome. -/
theorem settle_of_run {γ : Type} {p : Program m} {i : Nat}
    {a : Action (SnapshotEngine m) (Except Error Unit × γ)} {result : Except Error Unit} {g : γ}
    {s : Store (SnapshotEngine m)} (h : a p.store = (.ok (result, g), s)) (guard : γ → Guard) :
    p.settle i guard a = ⟨s, p.guards.set i (some (guard g)), p.reports ++ [result.isOk]⟩ := by
  rw [settle, h]

/-- A failure leaves the guards as they were. -/
theorem report_of_error {α : Type} {p : Program m} {a : Action (SnapshotEngine m) α} {e : Error}
    {s : Store (SnapshotEngine m)} (h : a p.store = (.error e, s)) (f : α → List (Option Guard)) :
    p.report a f = ⟨s, p.guards, p.reports ++ [false]⟩ := by
  rw [report, h]

end Program

/-! ### Outlines -/

/-- What a guard was made for. -/
inductive Purpose where
  | transaction
  | savepoint (name : String)
  deriving DecidableEq

namespace Purpose

/-- The name of the savepoint. -/
def name? : Purpose → Option String
  | transaction => none
  | savepoint name => some name

/-- The guard, open or not. -/
def guard (db : Database) (isOpen : Bool) : Purpose → Guard
  | transaction => .transaction { database := db, committed := !isOpen }
  | savepoint name => .savepoint { database := db, name, released := !isOpen }

end Purpose

/-- An open scope. -/
structure Scope where
  /-- The number of its guard. -/
  guard : Nat
  /-- What it is. -/
  purpose : Purpose

/-- A script that was run. -/
structure Write where
  /-- The script. -/
  script : String
  /-- The numbers of the guards that were open. -/
  under : List Nat
  deriving DecidableEq

/-- What the writes of a program do to the contents. -/
def Meaning.replay {κ : Type} (m : Meaning κ) (ws : List Write) (k : κ) : κ :=
  ws.foldl (fun k w => m.effect w.script k) k

/-- What a program came to. -/
structure Outline where
  /-- The guards that were made, none in the place of a dropped one. -/
  guards : List (Option Purpose) := []
  /-- The open scopes, the newest first. -/
  opened : List Scope := []
  /-- The writes that stand, the oldest first. -/
  writes : List Write := []
  /-- Whether the operations that can report a failure to make or end a scope succeed. -/
  reports : List Bool := []

namespace Outline

/-- Whether a guard is open. -/
def isOpen (r : Outline) (i : Nat) : Bool := r.opened.any fun a => a.guard == i

/-- The outline with one more report. -/
def report (r : Outline) (succeeded : Bool) : Outline :=
  { r with reports := r.reports ++ [succeeded] }

/-- Opens a scope. -/
def enter (r : Outline) (purpose : Purpose) : Outline :=
  { r with
    guards := r.guards ++ [some purpose]
    opened := ⟨r.guards.length, purpose⟩ :: r.opened }

/-- Closes a scope, whose effects are kept. -/
def leave (r : Outline) (i : Nat) : Outline :=
  { r with opened := r.opened.filter fun a => a.guard != i }

/-- Strikes out what was written while a guard was open. -/
def discard (r : Outline) (i : Nat) : Outline :=
  { r with writes := r.writes.filter fun w => i ∉ w.under }

/-- Takes a guard away. -/
def forget (r : Outline) (i : Nat) : Outline := { r with guards := r.guards.set i none }

/-- Follows a move. -/
def move (r : Outline) : Move → Outline
  | .write script => { r with writes := r.writes ++ [⟨script, r.opened.map Scope.guard⟩] }
  | .begin _ => if r.opened.isEmpty then (r.enter .transaction).report true else r.report false
  | .set name => (r.enter (.savepoint name)).report true
  | .commit i => (r.leave i).report (r.isOpen i)
  | .release i => (r.leave i).report (r.isOpen i)
  | .rollbackTo i => (if r.isOpen i then r.discard i else r).report (r.isOpen i)
  | .drop i => (if r.isOpen i then (r.discard i).leave i else r).forget i

/-- Follows some moves. -/
def run (r : Outline) (moves : List Move) : Outline := moves.foldl move r

/-- Whether a guard is closed or the newest open one. -/
def IsInnermost (r : Outline) (i : Nat) : Prop := r.isOpen i = true → ∀ a ∈ r.opened, a.guard ≤ i

instance (r : Outline) (i : Nat) : Decidable (r.IsInnermost i) :=
  inferInstanceAs (Decidable (r.isOpen i = true → ∀ a ∈ r.opened, a.guard ≤ i))

/-- What keeps to nesting: the writes hold no statement about transactions, no name holds a zero
character, and a guard that something is done with is there, of the right kind and, if it is open,
the newest open one. -/
def Allows (r : Outline) : Move → Prop
  | .write script => ∀ p ∈ Piece.split script.toList, p.isControl = false
  | .begin _ => True
  | .set name => '\x00' ∉ name.toList
  | .commit i => r.guards[i]? = some (some .transaction) ∧ r.IsInnermost i
  | .release i => (∃ name, r.guards[i]? = some (some (.savepoint name))) ∧ r.IsInnermost i
  | .rollbackTo i => (∃ name, r.guards[i]? = some (some (.savepoint name))) ∧ r.IsInnermost i
  | .drop i => (∃ purpose, r.guards[i]? = some (some purpose)) ∧ r.IsInnermost i

/-- Whether all of some moves keep to nesting. -/
def AllowsAll : Outline → List Move → Prop
  | _, [] => True
  | r, move :: moves => r.Allows move ∧ (r.move move).AllowsAll moves

/-! ### What nesting keeps -/

/-- What it is for a scope to lie inside another one: its guard is newer, it is a savepoint, and
what is written in it is written in the other one. -/
structure Inside (ws : List Write) (a b : Scope) : Prop where
  newer : b.guard < a.guard
  isSavepoint : a.purpose ≠ .transaction
  under : ∀ w ∈ ws, a.guard ∈ w.under → b.guard ∈ w.under

/-- The shape of what a program came to while it kept to nesting. -/
structure Nested (r : Outline) : Prop where
  /-- Open scopes have guards. -/
  purposes : ∀ a ∈ r.opened, r.guards[a.guard]? = some (some a.purpose)
  /-- Of two open scopes, one lies inside the other. -/
  nested : r.opened.Pairwise (Inside r.writes)
  /-- Writes are under guards that were made. -/
  made : ∀ w ∈ r.writes, ∀ i ∈ w.under, i < r.guards.length
  /-- No name holds a zero character. -/
  names : ∀ name, some (Purpose.savepoint name) ∈ r.guards → '\x00' ∉ name.toList

variable {r : Outline} {i : Nat}

/-- An open guard has an open scope. -/
theorem isOpen_eq_true : r.isOpen i = true ↔ ∃ a ∈ r.opened, a.guard = i := by
  simp [isOpen]

/-- An innermost guard that is open has the newest scope. -/
theorem Nested.innermost {purpose : Purpose} (h : r.Nested)
    (hi : r.guards[i]? = some (some purpose)) (hinner : r.IsInnermost i)
    (hopen : r.isOpen i = true) :
    ∃ rest, r.opened = ⟨i, purpose⟩ :: rest ∧ (r.leave i).opened = rest := by
  obtain ⟨b, hb, rfl⟩ := isOpen_eq_true.mp hopen
  have hle := hinner hopen
  have hpairs := h.nested
  obtain rfl : purpose = b.purpose := by
    have hpurpose := h.purposes b hb
    rw [hi] at hpurpose
    cases hpurpose
    rfl
  rcases hopened : r.opened with _ | ⟨a, rest⟩
  · rw [hopened] at hb
    cases hb
  · rw [hopened] at hb hle hpairs
    have hall := (List.pairwise_cons.mp hpairs).1
    obtain rfl : a = b := by
      rcases List.mem_cons.mp hb with rfl | hmem
      · rfl
      · -- a scope in front of it would belong to a newer guard
        have hnewer := (hall b hmem).newer
        have hbound := hle a List.mem_cons_self
        omega
    refine ⟨rest, rfl, ?_⟩
    rw [leave, hopened, List.filter_cons_of_neg (by simp), List.filter_eq_self.mpr]
    intro c hc
    have hnewer := (hall c hc).newer
    simp only [bne_iff_ne, ne_eq]
    omega

/-- A transaction is the outermost scope. -/
theorem Nested.rest_eq_nil {rest : List Scope} (h : r.Nested)
    (hopened : r.opened = ⟨i, .transaction⟩ :: rest) : rest = [] := by
  have hpairs := h.nested
  rw [hopened] at hpairs
  rcases rest with _ | ⟨b, rest⟩
  · rfl
  · exact absurd rfl ((List.pairwise_cons.mp hpairs).1 b List.mem_cons_self).isSavepoint

theorem Nested.report {b : Bool} (h : r.Nested) : (r.report b).Nested :=
  ⟨h.purposes, h.nested, h.made, h.names⟩

/-- A write is under all open guards. -/
theorem Nested.write (h : r.Nested) (script : String) : (r.move (.write script)).Nested where
  purposes := h.purposes
  nested := by
    refine h.nested.imp_of_mem fun {a b} _ hb hab => ⟨hab.newer, hab.isSavepoint, ?_⟩
    intro w hw ha
    rcases List.mem_append.mp hw with hold | hnew
    · exact hab.under w hold ha
    · rw [List.mem_singleton.mp hnew]
      exact List.mem_map_of_mem hb
  made := by
    intro w hw j hj
    rcases List.mem_append.mp hw with hold | hnew
    · exact h.made w hold j hj
    · rw [List.mem_singleton.mp hnew] at hj
      obtain ⟨a, ha, rfl⟩ := List.mem_map.mp hj
      exact (List.getElem?_eq_some_iff.mp (h.purposes a ha)).1
  names := h.names

/-- A new scope lies inside all others, if it is no transaction. -/
theorem Nested.enter {purpose : Purpose} (h : r.Nested)
    (htransaction : purpose = .transaction → r.opened = [])
    (hname : ∀ name, purpose = .savepoint name → '\x00' ∉ name.toList) :
    (r.enter purpose).Nested where
  purposes := by
    intro a ha
    rcases List.mem_cons.mp ha with rfl | hold
    · exact List.getElem?_concat_length
    · have hguard := h.purposes a hold
      rw [← hguard]
      exact List.getElem?_append_left (List.getElem?_eq_some_iff.mp hguard).1
  nested := by
    refine List.pairwise_cons.mpr ⟨fun b hb => ?_, h.nested⟩
    refine ⟨(List.getElem?_eq_some_iff.mp (h.purposes b hb)).1, fun hp => ?_, fun w hw hnew => ?_⟩
    · rw [htransaction hp] at hb
      cases hb
    · exact absurd (h.made w hw _ hnew) (Nat.lt_irrefl _)
  made := by
    intro w hw j hj
    have hlt := h.made w hw j hj
    change j < (r.guards ++ [some purpose]).length
    rw [List.length_append]
    omega
  names := by
    intro name hmem
    rcases List.mem_append.mp hmem with hold | hnew
    · exact h.names name hold
    · exact hname name (Option.some.inj (List.mem_singleton.mp hnew)).symm

/-- Closing scopes does not disturb the others. -/
theorem Nested.leave (h : r.Nested) (i : Nat) : (r.leave i).Nested where
  purposes := fun a ha => h.purposes a (List.mem_filter.mp ha).1
  nested := h.nested.filter _
  made := h.made
  names := h.names

/-- Striking out writes does not disturb the scopes. -/
theorem Nested.discard (h : r.Nested) (i : Nat) : (r.discard i).Nested where
  purposes := h.purposes
  nested := h.nested.imp fun hab =>
    ⟨hab.newer, hab.isSavepoint, fun w hw => hab.under w (List.mem_filter.mp hw).1⟩
  made := fun w hw => h.made w (List.mem_filter.mp hw).1
  names := h.names

/-- Nothing was written in a scope that is still to come. -/
theorem Nested.discard_new (h : r.Nested) : (r.discard r.guards.length).writes = r.writes := by
  rw [Outline.discard, List.filter_eq_self]
  intro w hw
  have hfresh : r.guards.length ∉ w.under := fun hmem => Nat.lt_irrefl _ (h.made w hw _ hmem)
  simpa using hfresh

/-- What is written in the newest scope is written in all others, so that a second striking out
takes all that the first one took. -/
theorem Nested.discard_discard {a b : Scope} {rest : List Scope} (h : r.Nested)
    (hopened : r.opened = a :: rest) (hb : b ∈ a :: rest) :
    ((r.discard a.guard).discard b.guard).writes = (r.discard b.guard).writes := by
  have himp : ∀ w ∈ r.writes, a.guard ∈ w.under → b.guard ∈ w.under := by
    rcases List.mem_cons.mp hb with rfl | hrest
    · exact fun w _ hmem => hmem
    · have hpairs := h.nested
      rw [hopened] at hpairs
      exact ((List.pairwise_cons.mp hpairs).1 b hrest).under
  rw [Outline.discard, Outline.discard, Outline.discard, List.filter_filter]
  refine List.filter_congr fun w hw => ?_
  have hunder := himp w hw
  by_cases hmem : a.guard ∈ w.under
  · simp [hmem, hunder hmem]
  · simp [hmem]

/-- A guard that is not open can go. -/
theorem Nested.forget (h : r.Nested) (hi : r.isOpen i = false) : (r.forget i).Nested where
  purposes := by
    intro a ha
    have hne : i ≠ a.guard := by
      rintro rfl
      have hopen : r.isOpen a.guard = true := isOpen_eq_true.mpr ⟨a, ha, rfl⟩
      rw [hi] at hopen
      cases hopen
    have hguard := h.purposes a ha
    rwa [← List.getElem?_set_ne hne] at hguard
  nested := h.nested
  made := by
    intro w hw j hj
    have hlt := h.made w hw j hj
    rwa [← List.length_set] at hlt
  names := by
    intro name hmem
    rcases List.mem_or_eq_of_mem_set hmem with hold | hnone
    · exact h.names name hold
    · cases hnone

/-- A scope that was left is closed. -/
theorem isOpen_leave : (r.leave i).isOpen i = false := by
  simp [isOpen, leave]

/-- A scope that is closed cannot be left again. -/
theorem leave_of_not_isOpen (h : r.isOpen i = false) : r.leave i = r := by
  have hself : r.opened.filter (fun a => a.guard != i) = r.opened := by
    rw [List.filter_eq_self]
    simpa [isOpen] using h
  rw [leave, hself]

/-- What keeps to nesting keeps the shape. -/
theorem Nested.move {m : Move} (h : r.Nested) (hm : r.Allows m) : (r.move m).Nested := by
  cases m with
  | write script => exact h.write script
  | begin locking =>
    rw [Outline.move]
    split
    · rename_i hempty
      exact (h.enter (fun _ => List.isEmpty_iff.mp hempty) (by simp)).report
    · exact h.report
  | set name =>
    refine (h.enter (by simp) fun other hname => ?_).report
    cases hname
    exact hm
  | commit i => exact (h.leave i).report
  | release i => exact (h.leave i).report
  | rollbackTo i =>
    rw [Outline.move]
    split
    · exact (h.discard i).report
    · exact h.report
  | drop i =>
    rw [Outline.move]
    split
    · exact ((h.discard i).leave i).forget isOpen_leave
    · rename_i hopen
      exact h.forget (Bool.eq_false_iff.mpr hopen)

/-! ### What is struck out -/

/-- The numbers of guards are not used again. -/
theorem length_move (a : Move) : r.guards.length ≤ (r.move a).guards.length := by
  have henter : ∀ purpose, r.guards.length ≤ (r.enter purpose).guards.length := by
    intro purpose
    rw [enter, List.length_append]
    omega
  cases a with
  | write script => exact Nat.le_refl _
  | begin locking =>
    rw [move]
    split
    · exact henter _
    · exact Nat.le_refl _
  | set name => exact henter _
  | commit j => exact Nat.le_refl _
  | release j => exact Nat.le_refl _
  | rollbackTo j =>
    rw [move]
    split <;> exact Nat.le_refl _
  | drop j =>
    rw [move, forget, List.length_set]
    split <;> exact Nat.le_refl _

/-- A guard that was closed stays so. -/
theorem isOpen_of_isOpen_move (a : Move) (hlt : i < r.guards.length)
    (hi : (r.move a).isOpen i = true) : r.isOpen i = true := by
  have henter : ∀ purpose, (r.enter purpose).isOpen i = r.isOpen i := by
    intro purpose
    have hne : (r.guards.length == i) = false := by
      rw [beq_eq_false_iff_ne]
      omega
    change (r.guards.length == i || r.isOpen i) = r.isOpen i
    rw [hne, Bool.false_or]
  have hleave : ∀ j, (r.leave j).isOpen i = true → r.isOpen i = true := by
    intro j hopen
    obtain ⟨b, hb, hbi⟩ := isOpen_eq_true.mp hopen
    exact isOpen_eq_true.mpr ⟨b, (List.mem_filter.mp hb).1, hbi⟩
  cases a with
  | write script => exact hi
  | begin locking =>
    rw [move] at hi
    split at hi
    · exact (henter _).symm.trans hi
    · exact hi
  | set name => exact (henter _).symm.trans hi
  | commit j => exact hleave j hi
  | release j => exact hleave j hi
  | rollbackTo j =>
    rw [move] at hi
    split at hi <;> exact hi
  | drop j =>
    rw [move] at hi
    split at hi
    · exact hleave j hi
    · exact hi

/-- While a guard is open, all that is written is written in its scope, and what is struck out is
of its scope as well. -/
theorem Nested.discard_move {a : Move} (h : r.Nested) (hm : r.Allows a) (hi : r.isOpen i = true)
    (hi' : (r.move a).isOpen i = true) :
    ((r.move a).discard i).writes = (r.discard i).writes := by
  -- only the newest scope is struck out, and what is written in it is written in that of `i`
  have hstruck : ∀ {j purpose}, r.guards[j]? = some (some purpose) → r.IsInnermost j →
      r.isOpen j = true → ((r.discard j).discard i).writes = (r.discard i).writes := by
    intro j purpose hj hinner hopen
    obtain ⟨rest, hopened, -⟩ := h.innermost hj hinner hopen
    obtain ⟨b, hb, rfl⟩ := isOpen_eq_true.mp hi
    rw [hopened] at hb
    exact h.discard_discard hopened hb
  cases a with
  | write script =>
    have hunder : i ∈ r.opened.map Scope.guard := by
      obtain ⟨b, hb, rfl⟩ := isOpen_eq_true.mp hi
      exact List.mem_map_of_mem hb
    rw [Outline.discard, Outline.move, List.filter_append,
      List.filter_cons_of_neg (by simpa using hunder), List.filter_nil, List.append_nil]
    rfl
  | begin locking =>
    rw [Outline.move]
    split <;> rfl
  | set name => rfl
  | commit j => rfl
  | release j => rfl
  | rollbackTo j =>
    obtain ⟨⟨name, hj⟩, hinner⟩ := hm
    rw [Outline.move]
    split
    · rename_i hopen
      exact hstruck hj hinner hopen
    · rfl
  | drop j =>
    obtain ⟨⟨purpose, hj⟩, hinner⟩ := hm
    rw [Outline.move]
    split
    · rename_i hopen
      exact hstruck hj hinner hopen
    · rfl

/-- So it is all along, by induction on the moves. -/
theorem Nested.discard_run {moves : List Move} (h : r.Nested) (hm : r.AllowsAll moves)
    (hlt : i < r.guards.length) (hi : (r.run moves).isOpen i = true) :
    r.isOpen i = true ∧ ((r.run moves).discard i).writes = (r.discard i).writes := by
  induction moves generalizing r with
  | nil => exact ⟨hi, rfl⟩
  | cons a moves ih =>
    have hlt' := Nat.lt_of_lt_of_le hlt (length_move a)
    -- open after the rest of the moves, hence before them, hence before this one
    obtain ⟨hopen, hwrites⟩ := ih (h.move hm.1) hm.2 hlt' hi
    have hbefore := isOpen_of_isOpen_move a hlt hopen
    exact ⟨hbefore, hwrites.trans (h.discard_move hm.1 hbefore hopen)⟩

/-- To strike out what was written in a scope is to go back to the writes that stood when its guard
was made, whatever was done since then. -/
theorem Nested.discard_since {purpose : Purpose} {moves : List Move} (h : r.Nested)
    (henter : (r.enter purpose).Nested) (hm : (r.enter purpose).AllowsAll moves)
    (hi : ((r.enter purpose).run moves).isOpen r.guards.length = true) :
    (((r.enter purpose).run moves).discard r.guards.length).writes = r.writes := by
  have hlt : r.guards.length < (r.enter purpose).guards.length := by
    rw [Outline.enter, List.length_append, List.length_singleton]
    omega
  exact (henter.discard_run hm hlt hi).2.trans h.discard_new

end Outline

end GuardedSql
