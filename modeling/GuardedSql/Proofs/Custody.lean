import GuardedSql.Proofs.Boxes
import GuardedSql.Proofs.Connections
import GuardedSql.Proofs.StayingOn
import Mathlib.Data.List.Perm.Basic

/-!
# The custody of connections and backups

An owner opens and closes connections, and does chores, statements and backups on those that it has.
It respects what is borrowed: a connection is closed only when no statement and no backup of it is
left. Then every connection and every backup that was handed out is let go exactly once or is still
held, whatever the engine answers, and none is used after that; and every box that was made is given
to the engine, once and with its destructor.
-/

namespace GuardedSql

variable {σ α : Type}

/-- A backup with the connections that it borrows. -/
structure Lent where
  /-- The backup. -/
  backup : Backup
  /-- The connection that is copied to. -/
  destination : Database
  /-- The connection that is copied from. -/
  source : Database

/-- What an owner can do. Held things are named by their place, the newest first. -/
inductive Dealing where
  | openWith (path : String) (flags : OpenFlags) (busyTimeoutMs : Int32) (vfs : Option String)
  | openOptions (o : OpenOptions)
  | chore (c : Chore)
  | hasTable (db : Database) (table : String)
  | execEach (db : Database) (query : String) (params : List (List Binding))
  | prepare (db : Database) (query : String)
  | use (i : Nat) (u : Usage)
  | dropStatement (i : Nat)
  | startBackup (destination : Database) (destinationName : String) (source : Database)
      (sourceName : String)
  | stepBackup (i : Nat) (pages : Int32)
  | remaining (i : Nat)
  | pageCount (i : Nat)
  | dropBackup (i : Nat)
  | close (i : Nat)

/-- Whether a connection is opened. -/
def Dealing.opens : Dealing → Bool
  | .openWith .. | .openOptions _ => true
  | _ => false

/-- An owner of connections, with what is borrowed from them, and all native calls so far. -/
structure Owner (σ : Type) where
  /-- The store. -/
  store : Store σ
  /-- The native calls, the oldest first. -/
  history : History := []
  /-- The connections. -/
  databases : List Database := []
  /-- The statements. -/
  statements : List Statement := []
  /-- The backups. -/
  backups : List Lent := []

namespace Owner

/-- Whether a statement or a backup of a connection is left. -/
def lends (w : Owner σ) (db : Database) : Bool :=
  w.statements.any (·.database = db) ||
    w.backups.any fun l => l.destination = db || l.source = db

/-- How many of a resource are held. -/
def held (w : Owner σ) : Resource → Nat
  | .connection c => w.databases.countP (·.connection = c)
  | .backup b => w.backups.countP (·.backup.handle = b)

/-- Goes on from an observation. -/
def enter (w : Owner σ) (o : Observation σ α) : Owner σ :=
  { w with store := o.store, history := w.history ++ o.exchanges }

/-- Does an action and keeps its result, if there is one. -/
def doing (w : Owner σ) (a : Action (Recorder σ) α) (keep : Owner σ → α → Owner σ) : Owner σ :=
  let o := observe a w.store
  match o.result with
  | .ok x => keep (w.enter o) x
  | .error _ => w.enter o

/-- Keeps a connection. -/
def addDatabase (w : Owner σ) (db : Database) : Owner σ := { w with databases := db :: w.databases }

/-- Keeps a backup. -/
def addBackup (w : Owner σ) (l : Lent) : Owner σ := { w with backups := l :: w.backups }

variable [Engine σ]

/-- Does what can be done; what would not respect a borrow, or names nothing that is held, does
nothing. -/
def deal (w : Owner σ) : Dealing → Owner σ
  | .openWith path flags ms vfs => w.doing (Database.openWith path flags ms vfs) addDatabase
  | .openOptions o => w.doing (Database.ofOptions o) addDatabase
  | .chore c => if c.database ∈ w.databases then w.doing c.act fun w _ => w else w
  | .hasTable db table =>
    if db ∈ w.databases then w.doing (db.hasTable table) fun w _ => w else w
  | .execEach db query params =>
    if db ∈ w.databases then w.doing (db.execEach query params) fun w _ => w else w
  | .prepare db query =>
    if db ∈ w.databases then
      w.doing (Statement.prepare db query) fun w q => { w with statements := q :: w.statements }
    else w
  | .use i u =>
    match w.statements[i]? with
    | some q => w.doing (u.act q) fun w _ => w
    | none => w
  | .dropStatement i =>
    match w.statements[i]? with
    | some q => { w with statements := w.statements.eraseIdx i }.doing q.drop fun w _ => w
    | none => w
  | .startBackup destination name source sourceName =>
    if destination ∈ w.databases ∧ source ∈ w.databases then
      w.doing (Backup.start destination name source sourceName) fun w b =>
        w.addBackup ⟨b, destination, source⟩
    else w
  | .stepBackup i pages =>
    match w.backups[i]? with
    | some l => w.doing (l.backup.step pages) fun w _ => w
    | none => w
  | .remaining i =>
    match w.backups[i]? with
    | some l => w.doing l.backup.remaining fun w _ => w
    | none => w
  | .pageCount i =>
    match w.backups[i]? with
    | some l => w.doing l.backup.pageCount fun w _ => w
    | none => w
  | .dropBackup i =>
    match w.backups[i]? with
    | some l => { w with backups := w.backups.eraseIdx i }.doing l.backup.drop fun w _ => w
    | none => w
  | .close i =>
    match w.databases[i]? with
    | some db =>
      if w.lends db then w
      else { w with databases := w.databases.eraseIdx i }.doing db.close fun w _ => w
    | none => w

/-- The owner after some dealings on an engine. -/
def run (engine : σ) (dealings : List Dealing) : Owner σ :=
  dealings.foldl deal { store := { engine } }

end Owner

/-! ### Explicit calls -/

namespace History

variable {H d : History} {c : ConnectionHandle}

@[simp] theorem given_asked (message : NativeText) (extended : Code) (r : Resource) :
    given (askedFor c message extended) r = 0 := by
  simp [askedFor, Exchange.gives?]

@[simp] theorem freed_asked (message : NativeText) (extended : Code) (r : Resource) :
    freed (askedFor c message extended) r = 0 := by
  simp [askedFor, Call.frees?]

/-- The questions about a failure stay on the connection. -/
theorem staysOn_asked (c : ConnectionHandle) (message : NativeText) (extended : Code) :
    ∀ x ∈ askedFor c message extended, x.call.StaysOn c := by
  intro x hx
  simp only [askedFor, List.mem_cons, List.not_mem_nil, or_false] at hx
  rcases hx with rfl | rfl
  · exact .of_upkeep? rfl
  · exact .of_upkeep? rfl

/-- The reason of a failure may be asked for while the engine has the connection. -/
theorem admits_asked (h : released H (.connection c) < given H (.connection c))
    (message : NativeText) (extended : Code) : Admits H (askedFor c message extended) := by
  refine ⟨fun r hr => ?_, fun r hr => ?_, trivial⟩
  · obtain rfl : r = .connection c := by simpa [Call.uses] using hr
    exact .inr ⟨rfl, h⟩
  · obtain rfl : r = .connection c := by simpa [Call.uses] using hr
    refine .inr ⟨rfl, ?_⟩
    simpa [released_append, given_append, Exchange.releases?, Exchange.gives?] using h

/-- Closing asks for the connection to be given back, once. -/
theorem freed_of_closing (hd : Database.Closing c d) (r : Resource) :
    freed d r = if Resource.connection c = r then 1 else 0 := by
  cases hd <;> simp [Call.frees?]

/-- It hands nothing out. -/
theorem given_of_closing (hd : Database.Closing c d) (r : Resource) : given d r = 0 := by
  cases hd <;> simp [Exchange.gives?]

/-- It gives nothing else back. -/
theorem frees_of_closing (hd : Database.Closing c d) :
    ∀ e ∈ d, ∀ r, e.call.frees? = some r → r = .connection c := by
  cases hd <;> simp [askedFor, Call.frees?]

/-- A connection that is there can be closed. -/
theorem Open.allows_close (h : Open H c) (code : Code) : Allows H ⟨.closeConnection c, code⟩ := by
  intro r hr
  obtain rfl : r = .connection c := by simpa [Call.uses] using hr
  exact .inl h

/-- When the engine refuses to close it, the engine still has it. -/
theorem Open.admits_closing (h : Open H c) (hd : Database.Closing c d) : Admits H d := by
  cases hd with
  | closed => exact ⟨h.allows_close _, trivial⟩
  | refused code hcode message extended =>
    refine ⟨h.allows_close code, admits_asked ?_ message extended⟩
    have hle := released_le_freed H (.connection c)
    simp only [released_append, given_append, released_cons, given_cons, Exchange.releases?,
      Exchange.gives?, if_neg hcode]
    simp only [released_nil, given_nil, reduceCtorEq, if_false]
    exact Nat.lt_of_le_of_lt hle h

/-- How many of a resource come with a result. -/
def gained (resource : α → Resource) (r : Except Error α) (x : Resource) : Nat :=
  match r with
  | .ok a => if resource a = x then 1 else 0
  | .error _ => 0

section

variable {path : String} {flags : OpenFlags} {ms : Int32} {vfs : Option String}
  {r : Except Error Database}

/-- An opened connection was handed out, and any other that was handed out was closed. -/
theorem given_of_opening (hd : Database.Opening path flags ms vfs d r) (x : Resource) :
    given d x = freed d x + gained (.connection ·.connection) r x := by
  cases hd with
  | untimed c code hms hcode message extended d hd =>
    simp [given_append, freed_append, freed_of_closing hd, given_of_closing hd, Exchange.gives?,
      Call.frees?, gained]
  | _ => simp [given_append, freed_append, Exchange.gives?, Call.frees?, gained]

/-- An opening lets go of nothing but what it was given. -/
theorem frees_of_opening (hd : Database.Opening path flags ms vfs d r) :
    ∀ e ∈ d, ∀ r, e.call.frees? = some r → ∃ code c, r = .connection c ∧
      ⟨.openConnection path flags vfs, (code, some c)⟩ ∈ d := by
  intro e he r hr
  cases hd with
  | unasked n => cases he
  | without code =>
    rw [List.mem_singleton.mp he] at hr
    cases hr
  | failed c code hcode message extended answer =>
    refine ⟨code, c, ?_, List.mem_cons_self⟩
    simp only [askedFor, List.mem_cons, List.mem_append, List.not_mem_nil, or_false] at he
    rcases he with rfl | (rfl | rfl) | rfl <;> cases hr
    rfl
  | opened c hms =>
    rw [List.mem_singleton.mp he] at hr
    cases hr
  | timed c hms =>
    simp only [List.mem_cons, List.not_mem_nil, or_false] at he
    rcases he with rfl | rfl <;> cases hr
  | untimed c code hms hcode message extended d hd =>
    refine ⟨Code.ok, c, ?_, List.mem_cons_self⟩
    simp only [askedFor, List.mem_cons, List.mem_append, List.not_mem_nil, or_false] at he
    rcases he with rfl | rfl | (rfl | rfl) | he
    all_goals first | cases hr | exact frees_of_closing hd e he r hr

/-- Opening uses nothing but what it has just got. -/
theorem admits_of_opening (hd : Database.Opening path flags ms vfs d r)
    (hle : ∀ x, freed H x ≤ given H x) : Admits H d := by
  have hopen : ∀ answer, Allows H ⟨.openConnection path flags vfs, answer⟩ := by
    intro answer x hx
    simp [Call.uses] at hx
  have hgiven : ∀ code c, Open (H ++ [⟨.openConnection path flags vfs, (code, some c)⟩]) c := by
    intro code c
    have := hle (.connection c)
    simp [Open, freed_append, given_append, Exchange.gives?, Call.frees?]
    omega
  have htimeout : ∀ c code, ∀ x ∈ [Exchange.mk (.busyTimeout c ms) code], x.call.StaysOn c := by
    intro c code x hx
    rw [List.mem_singleton.mp hx]
    exact .of_upkeep? rfl
  cases hd with
  | unasked n => exact trivial
  | without code => exact ⟨hopen _, trivial⟩
  | failed c code hcode message extended answer =>
    refine ⟨hopen _, (hgiven code c).admits_append (staysOn_asked c message extended) fun h => ?_⟩
    exact ⟨h.allows_close answer, trivial⟩
  | opened c hms => exact ⟨hopen _, trivial⟩
  | timed c hms => exact ⟨hopen _, (hgiven _ c).admits (htimeout c _)⟩
  | untimed c code hms hcode message extended d hd =>
    refine ⟨hopen _, (hgiven _ c).admits_append (htimeout c code) fun h => ?_⟩
    exact h.admits_append (staysOn_asked c message extended) fun h' => h'.admits_closing hd

end

section

variable {destination source : Database} {name sourceName : String} {r : Except Error Backup}

/-- A backup that was started was handed out, and nothing is finished. -/
theorem given_of_starting (hd : Backup.Starting destination name source sourceName d r)
    (x : Resource) : given d x = freed d x + gained (.backup ·.handle) r x := by
  cases hd <;> simp [Exchange.gives?, Call.frees?, gained]

/-- Starting a backup gives nothing back. -/
theorem frees_of_starting (hd : Backup.Starting destination name source sourceName d r) :
    ∀ e ∈ d, e.call.frees? = none := by
  cases hd <;> simp [askedFor, Call.frees?]

/-- A backup needs both connections. -/
theorem admits_of_starting (hd : Backup.Starting destination name source sourceName d r)
    (hdestination : Open H destination.connection) (hsource : Open H source.connection) :
    Admits H d := by
  have hallows : ∀ answer, Allows H
      ⟨.backupStart destination.connection name source.connection sourceName, answer⟩ := by
    intro answer x hx
    simp only [Call.uses, List.mem_cons, List.not_mem_nil, or_false] at hx
    rcases hx with rfl | rfl
    · exact .inl hdestination
    · exact .inl hsource
  cases hd with
  | unasked n => exact trivial
  | started b => exact ⟨hallows _, trivial⟩
  | refused code message extended =>
    have hstays : ∀ x ∈ ⟨.errorCode destination.connection, code⟩ ::
        askedFor destination.connection message extended, x.call.StaysOn destination.connection := by
      intro x hx
      rcases List.mem_cons.mp hx with rfl | hx
      · exact .of_upkeep? rfl
      · exact staysOn_asked _ message extended x hx
    refine ⟨hallows none, Open.admits ?_ hstays⟩
    simpa [Open, freed_append, given_append, Exchange.gives?, Call.frees?] using hdestination

end

section

variable {code : Code} {name : String} {arity : Int32} {deterministic : Bool}
  {callbacks : Callbacks} {r : Except Error Unit}

/-- A code is checked on its connection. -/
theorem staysOn_of_checked (hd : code.Checked c d r) : ∀ x ∈ d, x.call.StaysOn c := by
  cases hd with
  | passed hcode => simp
  | failed hcode message extended => exact staysOn_asked c message extended

/-- A registration hands no connection and no backup out, and lets none go. -/
theorem given_of_registering
    (hd : Database.Registering c name arity deterministic callbacks d r) (x : Resource) :
    given d x = 0 := by
  cases hd with
  | unasked n => rfl
  | asked data code h =>
    simp [Exchange.gives?, given_of_staysOn (staysOn_of_checked h)]

/-- Neither does a registration. -/
theorem frees_of_registering
    (hd : Database.Registering c name arity deterministic callbacks d r) :
    ∀ e ∈ d, e.call.frees? = none := by
  cases hd with
  | unasked n => simp
  | asked data code h =>
    simpa [Call.frees?] using fun e he => (staysOn_of_checked h e he).keeps

/-- It needs its connection. -/
theorem admits_of_registering
    (hd : Database.Registering c name arity deterministic callbacks d r) (h : Open H c) :
    Admits H d := by
  cases hd with
  | unasked n => exact trivial
  | asked data code hchecked =>
    have hmade : Open (H ++ [⟨.makeBox callbacks, data⟩]) c := by
      simpa [Open, freed_append, given_append, Exchange.gives?, Call.frees?] using h
    refine ⟨fun x hx => by simp [Call.uses] at hx, fun x hx => ?_, Open.admits ?_
      (staysOn_of_checked hchecked)⟩
    · obtain rfl : x = .connection c := by simpa [Call.uses] using hx
      exact .inl hmade
    · simpa [Open, freed_append, given_append, Exchange.gives?, Call.frees?] using h

/-- It makes a box and gives it to the engine, with its destructor. -/
theorem boxed_of_registering
    (hd : Database.Registering c name arity deterministic callbacks d r) : Boxed d := by
  cases hd with
  | unasked n => exact .apart (by simp)
  | asked data code h =>
    exact .registered callbacks data c name arity deterministic code fun x hx =>
      (staysOn_of_checked h x hx).apart

end

end History

/-! ### What an owner has -/

namespace Owner

open History

variable {w w' : Owner σ} {c : ConnectionHandle} {r : Resource}

/-- An owner has a connection more. -/
theorem held_addDatabase (w : Owner σ) (db : Database) (r : Resource) :
    (w.addDatabase db).held r = w.held r + if .connection db.connection = r then 1 else 0 := by
  cases r with
  | connection c => simp [held, addDatabase, List.countP_cons]
  | backup b => simp [held, addDatabase]

/-- An owner has a backup more. -/
theorem held_addBackup (w : Owner σ) (l : Lent) (r : Resource) :
    (w.addBackup l).held r = w.held r + if .backup l.backup.handle = r then 1 else 0 := by
  cases r with
  | connection c => simp [held, addBackup]
  | backup b => simp [held, addBackup, List.countP_cons]

/-- A connection that is given up was held once more. -/
theorem held_eraseDatabase {i : Nat} {db : Database} (hdb : w.databases[i]? = some db)
    (r : Resource) :
    w.held r = ({ w with databases := w.databases.eraseIdx i } : Owner σ).held r +
      if .connection db.connection = r then 1 else 0 := by
  obtain ⟨hi, rfl⟩ := List.getElem?_eq_some_iff.mp hdb
  rw [← held_addDatabase]
  cases r with
  | connection c =>
    simp only [held, addDatabase]
    rw [(List.getElem_cons_eraseIdx_perm hi).countP_eq]
  | backup b => rfl

/-- So was a backup. -/
theorem held_eraseBackup {i : Nat} {l : Lent} (hl : w.backups[i]? = some l) (r : Resource) :
    w.held r = ({ w with backups := w.backups.eraseIdx i } : Owner σ).held r +
      if .backup l.backup.handle = r then 1 else 0 := by
  obtain ⟨hi, rfl⟩ := List.getElem?_eq_some_iff.mp hl
  rw [← held_addBackup]
  cases r with
  | connection c => rfl
  | backup b =>
    simp only [held, addBackup]
    rw [(List.getElem_cons_eraseIdx_perm hi).countP_eq]

/-- What is borrowed from another connection is still borrowed from one that is held. -/
theorem mem_eraseDatabase {i : Nat} {db db' : Database} (hdb : w.databases[i]? = some db)
    (hne : db' ≠ db) (h : db' ∈ w.databases) : db' ∈ w.databases.eraseIdx i := by
  obtain ⟨hi, rfl⟩ := List.getElem?_eq_some_iff.mp hdb
  rcases List.mem_cons.mp ((List.getElem_cons_eraseIdx_perm hi).mem_iff.mpr h) with heq | hmem
  · exact absurd heq hne
  · exact hmem

/-- The invariant of owners. -/
structure Sound (w : Owner σ) : Prop where
  /-- What was handed out was let go once or is held. -/
  balance : ∀ r, given w.history r = freed w.history r + w.held r
  /-- Nothing was used after it was let go. -/
  admitted : Admits [] w.history
  /-- Every box was given to the engine, or the engine has dropped it. -/
  accounted : ∀ replaces, (boxes replaces w.history).Accounted
  /-- Statements are of connections that are held. -/
  statements : ∀ q ∈ w.statements, q.database ∈ w.databases
  /-- Backups are between connections that are held. -/
  backups : ∀ l ∈ w.backups, l.destination ∈ w.databases ∧ l.source ∈ w.databases

/-- A connection that is held is there. -/
theorem Sound.open_of_mem (h : w.Sound) {db : Database} (hdb : db ∈ w.databases) :
    Open w.history db.connection := by
  have hpos : 0 < w.held (.connection db.connection) :=
    List.countP_pos_iff.mpr ⟨db, hdb, by simp⟩
  have hbalance := h.balance (.connection db.connection)
  rw [Open]
  omega

/-- So is a backup. -/
theorem Sound.freed_lt_of_mem (h : w.Sound) {l : Lent} (hl : l ∈ w.backups) :
    freed w.history (.backup l.backup.handle) < given w.history (.backup l.backup.handle) := by
  have hpos : 0 < w.held (.backup l.backup.handle) :=
    List.countP_pos_iff.mpr ⟨l, hl, by simp⟩
  have hbalance := h.balance (.backup l.backup.handle)
  omega

/-- What is let go in a dealing with the calls `d`. -/
inductive LetsGo (w : Owner σ) (d : History) : Dealing → Resource → Prop where
  /-- An opening closes what it was given itself. -/
  | opening {x : Dealing} (hx : x.opens = true) {path : String} {flags : OpenFlags}
      {vfs : Option String} {code : Code} {c : ConnectionHandle}
      (h : ⟨.openConnection path flags vfs, (code, some c)⟩ ∈ d) : LetsGo w d x (.connection c)
  | dropBackup {i : Nat} {l : Lent} (h : w.backups[i]? = some l) :
      LetsGo w d (.dropBackup i) (.backup l.backup.handle)
  | close {i : Nat} {db : Database} (h : w.databases[i]? = some db) (hlends : w.lends db = false) :
      LetsGo w d (.close i) (.connection db.connection)

/-- What a dealing does to an owner. -/
structure Goes (w : Owner σ) (x : Dealing) (w' : Owner σ) (d : History) : Prop where
  /-- The calls come behind the others. -/
  history : w'.history = w.history ++ d
  /-- They are allowed. -/
  admits : Admits w.history d
  /-- A box that is made in them is given to the engine. -/
  boxed : Boxed d
  /-- Their balance is that of what is held. -/
  balance : ∀ r, given d r + w.held r = freed d r + w'.held r
  /-- Nothing is let go but what may be. -/
  letsGo : ∀ e ∈ d, ∀ r, e.call.frees? = some r → w.LetsGo d x r
  /-- Statements are of connections that are held. -/
  statements : ∀ q ∈ w'.statements, q.database ∈ w'.databases
  /-- Backups are between connections that are held. -/
  backups : ∀ l ∈ w'.backups, l.destination ∈ w'.databases ∧ l.source ∈ w'.databases

/-- The invariant is kept. -/
theorem Sound.of_goes (h : w.Sound) {x : Dealing} {d : History} (hgoes : w.Goes x w' d) :
    w'.Sound where
  balance := fun r => by
    have hbefore := h.balance r
    have hstep := hgoes.balance r
    rw [hgoes.history, given_append, freed_append]
    omega
  admitted := by
    rw [hgoes.history, History.admits_append]
    exact ⟨h.admitted, hgoes.admits⟩
  accounted := fun replaces => by
    rw [hgoes.history, boxes_append]
    exact (h.accounted replaces).foldl_of_boxed hgoes.boxed
  statements := hgoes.statements
  backups := hgoes.backups

variable {x : Dealing}

/-- Nothing is done. -/
theorem Sound.goes_refl (h : w.Sound) : w.Goes x w [] where
  history := (List.append_nil _).symm
  admits := trivial
  boxed := .apart (by simp)
  balance := fun r => rfl
  letsGo := by simp
  statements := h.statements
  backups := h.backups

/-- Calls that stay on a connection that is there; statements may come and go. -/
theorem Sound.goes_enter (h : w.Sound) {o : Observation σ α} {statements : List Statement}
    (hopen : Open w.history c) (hd : ∀ x ∈ o.exchanges, x.call.StaysOn c)
    (hstatements : ∀ q ∈ statements, q.database ∈ w.databases) :
    w.Goes x { w.enter o with statements } o.exchanges where
  history := rfl
  admits := hopen.admits hd
  boxed := .apart fun x hx => (hd x hx).apart
  balance := fun r => by
    rw [given_of_staysOn hd, freed_of_staysOn hd]
    rfl
  letsGo := fun e he r hr => by
    rw [(hd e he).keeps] at hr
    cases hr
  statements := hstatements
  backups := h.backups

/-- What came of it is kept. -/
theorem doing_of_ok {a : Action (Recorder σ) α} {keep : Owner σ → α → Owner σ} {x : α}
    (h : (observe a w.store).result = .ok x) :
    w.doing a keep = keep (w.enter (observe a w.store)) x := by
  simp only [doing, h]

/-- Nothing came of it but its calls. -/
theorem doing_of_error {a : Action (Recorder σ) α} {keep : Owner σ → α → Owner σ} {e : Error}
    (h : (observe a w.store).result = .error e) :
    w.doing a keep = w.enter (observe a w.store) := by
  simp only [doing, h]

/-- An action of which nothing is kept. -/
theorem doing_eq_enter (a : Action (Recorder σ) α) :
    (w.doing a fun w _ => w) = w.enter (observe a w.store) := by
  cases h : (observe a w.store).result with
  | ok x => exact doing_of_ok h
  | error e => exact doing_of_error h

variable [Engine σ]

/-- A backup that is held is used by one call. -/
theorem Sound.goes_useBackup (h : w.Sound) {l : Lent} (hl : l ∈ w.backups)
    {a : Action (Recorder σ) α} {call : Call} {Q : call.Reply → Except Error α → Prop}
    (ha : ∀ id h, Follows id h (fun d r => ∃ reply, d = [⟨call, reply⟩] ∧ Q reply r) a)
    (huses : call.uses = [.backup l.backup.handle]) (hkeeps : call.frees? = none)
    (hacquires : call.acquires = false) (hapart : call.handlesBox = false) :
    ∃ d, w.Goes x (w.doing a fun w _ => w) d := by
  obtain ⟨reply, hd, -⟩ := (Yields.of_any ha).observed w.store
  have hnone : (⟨call, reply⟩ : Exchange).gives? = none := Exchange.gives?_of_not_acquires hacquires
  rw [doing_eq_enter]
  refine ⟨_, congrArg (w.history ++ ·) hd, ⟨fun r hr => ?_, trivial⟩, .apart (by simp [hapart]),
    fun r => ?_, fun e he r hr => ?_, h.statements, h.backups⟩
  · obtain rfl : r = .backup l.backup.handle := by simpa [huses] using hr
    exact .inl (h.freed_lt_of_mem hl)
  · simp [hnone, hkeeps]
    rfl
  · rw [List.mem_singleton.mp he, hkeeps] at hr
    cases hr

/-- What stays on a connection that is held. -/
theorem Sound.goes_staysOn (h : w.Sound) {a : Action (Recorder σ) α} (hopen : Open w.history c)
    (ha : StaysOn c a) : ∃ d, w.Goes x (w.doing a fun w _ => w) d := by
  rw [doing_eq_enter]
  exact ⟨_, h.goes_enter hopen (ha.recorded w.store) h.statements⟩

/-- A function is registered on a connection that is held. -/
theorem Sound.goes_register (h : w.Sound) {db : Database} (hdb : db ∈ w.databases) (name : String)
    (arity : Int32) (deterministic : Bool) (callbacks : Callbacks) :
    ∃ d, w.Goes x (w.doing (db.register name arity deterministic callbacks) fun w _ => w) d := by
  have hregistering := (Yields.of_any fun _ _ =>
    db.register_follows name arity deterministic callbacks).observed w.store
  have hkeeps := frees_of_registering hregistering
  rw [doing_eq_enter]
  refine ⟨_, rfl, admits_of_registering hregistering (h.open_of_mem hdb),
    boxed_of_registering hregistering, fun r => ?_, fun e he r hr => ?_, h.statements, h.backups⟩
  · rw [given_of_registering hregistering, freed, List.countP_eq_zero.mpr fun e he => by
      simp [hkeeps e he]]
    rfl
  · rw [hkeeps e he] at hr
    cases hr

/-- A chore is done on a connection that is held. -/
theorem Sound.goes_chore (h : w.Sound) {c : Chore} (hc : c.database ∈ w.databases) :
    ∃ d, w.Goes x (w.doing c.act fun w _ => w) d := by
  cases hregisters : c.registers with
  | false => exact h.goes_staysOn (h.open_of_mem hc) (c.act_staysOn hregisters)
  | true =>
    cases c with
    | createFunction db name arity deterministic f => exact h.goes_register hc name arity _ _
    | createAggregate db name arity deterministic a => exact h.goes_register hc name arity _ _
    | _ => cases hregisters

/-- Opening keeps the balance, whatever becomes of it. -/
theorem Sound.goes_openWith (h : w.Sound) (hx : x.opens = true) (path : String) (flags : OpenFlags)
    (ms : Int32) (vfs : Option String) :
    ∃ d, w.Goes x (w.doing (Database.openWith path flags ms vfs) addDatabase) d := by
  have hopening :=
    (Yields.of_any fun _ _ => Database.openWith_follows path flags ms vfs).observed w.store
  have hle : ∀ r, freed w.history r ≤ given w.history r := fun r =>
    Nat.le_of_add_right_le (Nat.le_of_eq (h.balance r).symm)
  have hadmits := admits_of_opening hopening hle
  have hgiven := given_of_opening hopening
  let o := observe (Database.openWith path flags ms vfs) w.store
  have hletsGo : ∀ e ∈ o.exchanges, ∀ r, e.call.frees? = some r → w.LetsGo o.exchanges x r := by
    intro e he r hr
    obtain ⟨code, c, rfl, hopen⟩ := frees_of_opening hopening e he r hr
    exact .opening hx hopen
  cases hres : (observe (Database.openWith path flags ms vfs) w.store).result with
  | ok db =>
    rw [hres] at hgiven
    rw [doing_of_ok hres]
    refine ⟨_, rfl, hadmits, .apart hopening.handlesBox_eq, fun r => ?_, hletsGo, ?_, ?_⟩
    · rw [hgiven, held_addDatabase, Nat.add_assoc]
      exact congrArg _ (Nat.add_comm _ _)
    · exact fun q hq => List.mem_cons_of_mem _ (h.statements q hq)
    · exact fun l hl => (h.backups l hl).imp (List.mem_cons_of_mem _) (List.mem_cons_of_mem _)
  | error e =>
    rw [hres] at hgiven
    rw [doing_of_error hres]
    refine ⟨_, rfl, hadmits, .apart hopening.handlesBox_eq, fun r => ?_, hletsGo, h.statements,
      h.backups⟩
    rw [hgiven]
    rfl

/-- A statement is prepared on a connection that is held. -/
theorem Sound.goes_prepare (h : w.Sound) {db : Database} (hdb : db ∈ w.databases) (query : String) :
    ∃ d, w.Goes x (w.doing (Statement.prepare db query) fun w q =>
      { w with statements := q :: w.statements }) d := by
  have hd := (db.prepare_staysOn query).recorded (σ := σ) w.store
  cases hres : (observe (Statement.prepare db query) w.store).result with
  | error e =>
    rw [doing_of_error hres]
    exact ⟨_, h.goes_enter (h.open_of_mem hdb) hd h.statements⟩
  | ok q =>
    have hq : q.database = db := by
      have hrun : Statement.prepare db query w.store.recording = (.ok q, _) := Prod.ext hres rfl
      obtain ⟨id, s₁, -, hpure⟩ := Action.bind_eq_ok hrun
      obtain ⟨rfl, -⟩ := Action.pure_eq_ok hpure
      rfl
    rw [doing_of_ok hres]
    refine ⟨_, h.goes_enter (h.open_of_mem hdb) hd fun q' hq' => ?_⟩
    rcases List.mem_cons.mp hq' with rfl | hq'
    · rwa [hq]
    · exact h.statements q' hq'

/-- A statement that is given up is of a connection that is still held. -/
theorem Sound.goes_dropStatement (h : w.Sound) {i : Nat} {q : Statement}
    (hq : w.statements[i]? = some q) :
    ∃ d, w.Goes x ({ w with statements := w.statements.eraseIdx i }.doing q.drop fun w _ => w) d := by
  have hopen := h.open_of_mem (h.statements q (List.mem_of_getElem? hq))
  rw [doing_eq_enter]
  exact ⟨_, h.goes_enter hopen (q.cursor.release_staysOn.recorded w.store) fun q' hq' =>
    h.statements q' (List.mem_of_mem_eraseIdx hq')⟩

/-- A backup is started between connections that are held. -/
theorem Sound.goes_startBackup (h : w.Sound) {destination source : Database}
    (hdestination : destination ∈ w.databases) (hsource : source ∈ w.databases)
    (name sourceName : String) :
    ∃ d, w.Goes x (w.doing (Backup.start destination name source sourceName) fun w b =>
      w.addBackup ⟨b, destination, source⟩) d := by
  have hstarting := (Yields.of_any fun _ _ =>
    Backup.start_follows destination name source sourceName).observed w.store
  have hadmits := admits_of_starting hstarting (h.open_of_mem hdestination) (h.open_of_mem hsource)
  have hgiven := given_of_starting hstarting
  let o := observe (Backup.start destination name source sourceName) w.store
  have hletsGo : ∀ e ∈ o.exchanges, ∀ r, e.call.frees? = some r → w.LetsGo o.exchanges x r := by
    intro e he r hr
    rw [frees_of_starting hstarting e he] at hr
    cases hr
  cases hres : (observe (Backup.start destination name source sourceName) w.store).result with
  | ok b =>
    rw [hres] at hgiven
    rw [doing_of_ok hres]
    refine ⟨_, rfl, hadmits, .apart hstarting.handlesBox_eq, fun r => ?_, hletsGo, h.statements, ?_⟩
    · rw [hgiven, held_addBackup, Nat.add_assoc]
      exact congrArg _ (Nat.add_comm _ _)
    · intro l hl
      rcases List.mem_cons.mp hl with rfl | hl
      · exact ⟨hdestination, hsource⟩
      · exact h.backups l hl
  | error e =>
    rw [hres] at hgiven
    rw [doing_of_error hres]
    refine ⟨_, rfl, hadmits, .apart hstarting.handlesBox_eq, fun r => ?_, hletsGo, h.statements,
      h.backups⟩
    rw [hgiven]
    rfl

/-- A backup that is given up is finished. -/
theorem Sound.goes_dropBackup (h : w.Sound) {i : Nat} {l : Lent} (hl : w.backups[i]? = some l) :
    ∃ code, w.Goes (.dropBackup i)
      ({ w with backups := w.backups.eraseIdx i }.doing l.backup.drop fun w _ => w)
      [⟨.backupFinish l.backup.handle, code⟩] := by
  obtain ⟨code, hd, -⟩ := (Yields.of_any fun _ _ => l.backup.drop_follows).observed w.store
  rw [doing_eq_enter]
  refine ⟨code, congrArg (w.history ++ ·) hd, ⟨fun r hr => ?_, trivial⟩,
    .apart (by simp [Call.handlesBox]), fun r => ?_, fun e he r hr => ?_, h.statements,
    fun l' hl' => h.backups l' (List.mem_of_mem_eraseIdx hl')⟩
  · obtain rfl : r = .backup l.backup.handle := by simpa [Call.uses] using hr
    exact .inl (h.freed_lt_of_mem (List.mem_of_getElem? hl))
  · rw [held_eraseBackup hl]
    simp [Exchange.gives?, Call.frees?, Nat.add_comm]
    rfl
  · obtain rfl := List.mem_singleton.mp he
    cases hr
    exact .dropBackup hl

/-- A connection is closed when nothing is borrowed from it. -/
theorem Sound.goes_close (h : w.Sound) {i : Nat} {db : Database} (hdb : w.databases[i]? = some db)
    (hlends : w.lends db = false) :
    ∃ d, Database.Closing db.connection d ∧ w.Goes (.close i)
      ({ w with databases := w.databases.eraseIdx i }.doing db.close fun w _ => w) d := by
  have hborrowed := hlends
  simp only [lends, Bool.or_eq_false_iff, List.any_eq_false, decide_eq_true_eq, Bool.or_eq_true,
    not_or] at hborrowed
  obtain ⟨hstatements, hbackups⟩ := hborrowed
  obtain ⟨hclosing, -⟩ := (Yields.of_any fun _ _ => db.close_follows).observed w.store
  have hopen := h.open_of_mem (List.mem_of_getElem? hdb)
  rw [doing_eq_enter]
  refine ⟨_, hclosing, rfl, hopen.admits_closing hclosing, .apart hclosing.handlesBox_eq, fun r => ?_,
    fun e he r hr => ?_, fun q hq => ?_, fun l hl => ?_⟩
  · rw [given_of_closing hclosing, freed_of_closing hclosing, held_eraseDatabase hdb]
    simp [Nat.add_comm]
    rfl
  · obtain rfl := frees_of_closing hclosing e he r hr
    exact .close hdb hlends
  · exact mem_eraseDatabase hdb (hstatements q hq) (h.statements q hq)
  · obtain ⟨hdestination, hsource⟩ := hbackups l hl
    obtain ⟨hd, hs⟩ := h.backups l hl
    exact ⟨mem_eraseDatabase hdb hdestination hd, mem_eraseDatabase hdb hsource hs⟩

/-- What one dealing does. -/
theorem Sound.goes (h : w.Sound) (x : Dealing) : ∃ d, w.Goes x (w.deal x) d := by
  cases x with
  | openWith path flags ms vfs => exact h.goes_openWith rfl path flags ms vfs
  | openOptions o => exact h.goes_openWith rfl o.path o.flags o.busyTimeoutMs o.vfs
  | chore c =>
    rw [deal]
    split
    · rename_i hc
      exact h.goes_chore hc
    · exact ⟨_, h.goes_refl⟩
  | hasTable db table =>
    rw [deal]
    split
    · rename_i hdb
      exact h.goes_staysOn (h.open_of_mem hdb) (db.hasTable_staysOn table)
    · exact ⟨_, h.goes_refl⟩
  | execEach db query params =>
    rw [deal]
    split
    · rename_i hdb
      exact h.goes_staysOn (h.open_of_mem hdb) (db.execEach_staysOn query params)
    · exact ⟨_, h.goes_refl⟩
  | prepare db query =>
    rw [deal]
    split
    · rename_i hdb
      exact h.goes_prepare hdb query
    · exact ⟨_, h.goes_refl⟩
  | use i u =>
    rw [deal]
    split
    · rename_i q hq
      exact h.goes_staysOn (h.open_of_mem (h.statements q (List.mem_of_getElem? hq))) (u.act_staysOn q)
    · exact ⟨_, h.goes_refl⟩
  | dropStatement i =>
    rw [deal]
    split
    · rename_i q hq
      exact h.goes_dropStatement hq
    · exact ⟨_, h.goes_refl⟩
  | startBackup destination name source sourceName =>
    rw [deal]
    split
    · rename_i hheld
      exact h.goes_startBackup hheld.1 hheld.2 name sourceName
    · exact ⟨_, h.goes_refl⟩
  | stepBackup i pages =>
    rw [deal]
    split
    · rename_i l hl
      exact h.goes_useBackup (List.mem_of_getElem? hl) (fun _ _ => l.backup.step_follows pages) rfl rfl
        rfl rfl
    · exact ⟨_, h.goes_refl⟩
  | remaining i =>
    rw [deal]
    split
    · rename_i l hl
      exact h.goes_useBackup (List.mem_of_getElem? hl) (fun _ _ => l.backup.remaining_follows) rfl rfl
        rfl rfl
    · exact ⟨_, h.goes_refl⟩
  | pageCount i =>
    rw [deal]
    split
    · rename_i l hl
      exact h.goes_useBackup (List.mem_of_getElem? hl) (fun _ _ => l.backup.pageCount_follows) rfl rfl
        rfl rfl
    · exact ⟨_, h.goes_refl⟩
  | dropBackup i =>
    rw [deal]
    split
    · rename_i l hl
      exact (h.goes_dropBackup hl).imp' _ fun _ hgoes => hgoes
    · exact ⟨_, h.goes_refl⟩
  | close i =>
    rw [deal]
    split
    · rename_i db hdb
      split
      · exact ⟨_, h.goes_refl⟩
      · rename_i hlends
        obtain ⟨d, -, hgoes⟩ := h.goes_close hdb (Bool.not_eq_true _ ▸ hlends)
        exact ⟨d, hgoes⟩
    · exact ⟨_, h.goes_refl⟩

/-- What one dealing preserves. -/
theorem Sound.deal (h : w.Sound) (x : Dealing) : (w.deal x).Sound := by
  obtain ⟨d, hgoes⟩ := h.goes x
  exact h.of_goes hgoes

/-- What all dealings preserve. -/
theorem run_sound (engine : σ) (dealings : List Dealing) : (run engine dealings).Sound := by
  have hdeals : ∀ (w : Owner σ), w.Sound → (dealings.foldl Owner.deal w).Sound := by
    induction dealings with
    | nil => exact fun w h => h
    | cons x rest ih => exact fun w h => ih _ (h.deal x)
  refine hdeals _ ⟨fun r => ?_, trivial, fun _ => .empty, by simp, by simp⟩
  cases r <;> rfl

end Owner

end GuardedSql
