import GuardedSql.Proofs.Connections
import GuardedSql.Proofs.Guards
import GuardedSql.Proofs.Inquiry
import GuardedSql.Proofs.InteriorNul

/-!
# The scripts of guards

Which scripts transactions and savepoints hand to the engine between their construction and their
drop, on every engine, whatever it answers to each of them and whatever others do with the
connection between two calls of a guard. A guard is open until a script that ends it succeeds; until
then every call hands its script over, and from then on nothing is handed over any more.
-/

namespace GuardedSql

variable {σ κ γ : Type}

/-! ### Running a script -/

/-- Only success is reported as such. -/
theorem Ran.code_of_ok {c : ConnectionHandle} {script : String} {code : Code} {d : History}
    {n : Int32} (h : Ran c script code d (.ok n)) : code = Code.ok := by
  cases h with
  | finished hcode => exact hcode

/-- A script whose failure is told has failed. -/
theorem Ran.code_of_error {c : ConnectionHandle} {script : String} {code : Code} {d : History}
    {e : Error} (h : Ran c script code d (.error e)) : code ≠ Code.ok := by
  cases h with
  | failed hcode => exact hcode

/-- A script without a zero character is handed over once. -/
theorem Database.exec_yields [Engine σ] (db : Database) {script : String}
    (h : '\x00' ∉ script.toList) :
    Yields (σ := σ) (fun d r => ∃ code, Ran db.connection script code d r) (db.exec script) := by
  have hposition := (Nul.position?_eq_none_iff script).mpr h
  have hallowed : Error.refuseNul script = .ok () := by rw [Error.refuseNul, hposition]
  refine (Yields.of_any fun _ _ => db.exec_follows script).mono fun d r hd => ?_
  cases hd with
  | unasked n hrefused =>
    rw [hallowed] at hrefused
    cases hrefused
  | asked code hran => exact ⟨code, hran⟩

/-- What is reported of running a script, and the guard that goes with it. -/
def settled (done failed : γ) : Except Error Int32 → Except Error Unit × γ
  | .ok _ => (.ok (), done)
  | .error e => (.error e, failed)

/-- The guard that is given back goes with the outcome of the script. -/
theorem Database.settle_yields [Engine σ] (db : Database) {script : String}
    (h : '\x00' ∉ script.toList) (done failed : γ) :
    Yields (σ := σ) (fun d r => ∃ code r', Ran db.connection script code d r' ∧
      r = .ok (settled done failed r')) (db.settle script done failed) := by
  refine .bind (db.exec_yields h).attempt (fun d r hd => ?_) fun d e hd => ?_
  · obtain ⟨r', hr, code, hran⟩ := hd
    cases hr
    rw [← List.append_nil d] at hran
    cases r with
    | ok n => exact .pure ⟨code, .ok n, hran, rfl⟩
    | error e => exact .pure ⟨code, .error e, hran, rfl⟩
  · obtain ⟨r', hr, -⟩ := hd
    cases hr

/-! ### Guards of any kind -/

/-- A manner of guarding: what the calls of a guard are for. -/
structure Manner (κ γ : Type) where
  /-- The connection. -/
  connection : ConnectionHandle
  /-- The script of a call. -/
  script : κ → String
  /-- Whether the guard is closed when the script of a call succeeds. -/
  closes : κ → Bool
  /-- What is reported when the guard is closed. -/
  refusal : Error
  /-- The guard as long as it is open. -/
  opened : γ
  /-- The guard when it is closed. -/
  closed : γ

/-- What came of one call of a guard. -/
structure Answered (κ γ : Type) where
  /-- The call. -/
  call : κ
  /-- What was reported. -/
  result : Except Error Unit
  /-- The native calls with their answers. -/
  exchanges : History
  /-- The guard that was given back, if there was one. -/
  guard? : Option γ

/-- An occasion on which a guard is called. -/
structure Occasion (σ κ : Type) where
  /-- What has become of the store since the call before, whoever did it. -/
  meanwhile : Store σ → Store σ
  /-- The call. -/
  call : κ

section

variable (act : κ → γ → Action (Recorder σ) (Except Error Unit × γ))

/-- Calls a guard. -/
def answer (g : γ) (o : Occasion σ κ) (s : Store σ) : Answered κ γ × Store σ :=
  let seen := observe (act o.call g) (o.meanwhile s)
  match seen.result with
  | .ok (result, g') => (⟨o.call, result, seen.exchanges, some g'⟩, seen.store)
  | .error e => (⟨o.call, .error e, seen.exchanges, none⟩, seen.store)

/-- Calls a guard on one occasion after another, each time as the call before gave it back. Gives also
the guard and the store at the end. -/
def answers : γ → List (Occasion σ κ) → Store σ → List (Answered κ γ) × Option γ × Store σ
  | g, [], s => ([], some g, s)
  | g, o :: rest, s =>
    let first := answer act g o s
    match first.1.guard? with
    | none => ([first.1], none, first.2)
    | some g' =>
      let later := answers g' rest first.2
      (first.1 :: later.1, later.2)

end

namespace Manner

variable (m : Manner κ γ)

/-- The guard after the script of a call has succeeded. -/
def after (call : κ) : γ := if m.closes call then m.closed else m.opened

/-- The call handed its script over, and the guard stays open: the script failed, or it is none that
ends the guard. -/
structure Stays (a : Answered κ γ) : Prop where
  /-- The script was run, and what came of it is reported. -/
  ran : ∃ code r, Ran m.connection (m.script a.call) code a.exchanges r ∧
    a.result = r.map (fun _ => ()) ∧ (m.closes a.call = true → code ≠ Code.ok)
  /-- The guard. -/
  guard : a.guard? = some m.opened

/-- The call handed the script over that ends the guard, and it succeeded. -/
structure Closes (a : Answered κ γ) : Prop where
  /-- It is one that ends the guard. -/
  closes : m.closes a.call = true
  /-- The script succeeded. -/
  ran : ∃ n, Ran m.connection (m.script a.call) Code.ok a.exchanges (.ok n)
  /-- So is reported. -/
  result : a.result = .ok ()
  /-- The guard. -/
  guard : a.guard? = some m.closed

/-- The call was refused, and nothing was handed over. -/
structure Refuses (a : Answered κ γ) : Prop where
  /-- There is no call. -/
  exchanges : a.exchanges = []
  /-- It is refused. -/
  result : a.result = .error m.refusal
  /-- The guard. -/
  guard : a.guard? = some m.closed

/-- What the calls of an open guard come to, and the guard after them. -/
inductive Course : List (Answered κ γ) → γ → Prop where
  /-- None of them ends it. -/
  | kept {calls : List (Answered κ γ)} (h : ∀ a ∈ calls, m.Stays a) : Course calls m.opened
  /-- One of them ends it, and those after it are refused. -/
  | ended {before after : List (Answered κ γ)} {a : Answered κ γ} (hbefore : ∀ b ∈ before, m.Stays b)
      (h : m.Closes a) (hafter : ∀ b ∈ after, m.Refuses b) : Course (before ++ a :: after) m.closed

/-- A guard is open or closed at any time. -/
theorem Course.guard_eq {m : Manner κ γ} {calls : List (Answered κ γ)} {g : γ}
    (h : m.Course calls g) : g = m.opened ∨ g = m.closed := by
  cases h with
  | kept => exact .inl rfl
  | ended => exact .inr rfl

/-- What the calls of a guard have to do for that. -/
structure Obeys [Engine σ] (act : κ → γ → Action (Recorder σ) (Except Error Unit × γ)) : Prop where
  /-- An open guard runs the script, and is closed by the success of one that ends it only. -/
  opened : ∀ call, Yields (fun d r => ∃ code r', Ran m.connection (m.script call) code d r' ∧
    r = .ok (settled (m.after call) m.opened r')) (act call m.opened)
  /-- A closed one refuses. -/
  closed : ∀ call, Yields (fun d r => d = [] ∧ r = .ok (.error m.refusal, m.closed))
    (act call m.closed)

end Manner

section

variable {act : κ → γ → Action (Recorder σ) (Except Error Unit × γ)}

/-- A call that gives a guard back. -/
theorem answer_of_result {g g' : γ} {o : Occasion σ κ} {s : Store σ} {result : Except Error Unit}
    (h : (observe (act o.call g) (o.meanwhile s)).result = .ok (result, g')) :
    (answer act g o s).1 =
      ⟨o.call, result, (observe (act o.call g) (o.meanwhile s)).exchanges, some g'⟩ := by
  rw [answer, h]

/-- The calls after one that gave a guard back go on with that guard. -/
theorem answers_of_guard {g g' : γ} {o : Occasion σ κ} {rest : List (Occasion σ κ)} {s : Store σ}
    (h : (answer act g o s).1.guard? = some g') :
    answers act g (o :: rest) s =
      ((answer act g o s).1 :: (answers act g' rest (answer act g o s).2).1,
        (answers act g' rest (answer act g o s).2).2) := by
  rw [answers]
  dsimp only
  rw [h]

end

namespace Manner.Obeys

variable [Engine σ] {m : Manner κ γ} {act : κ → γ → Action (Recorder σ) (Except Error Unit × γ)}

/-- One call of an open guard. -/
theorem answer_opened (h : m.Obeys act) (o : Occasion σ κ) (s : Store σ) :
    m.Stays (answer act m.opened o s).1 ∨ m.Closes (answer act m.opened o s).1 := by
  obtain ⟨code, r, hran, hresult⟩ := (h.opened o.call).observed (o.meanwhile s)
  cases r with
  | error e =>
    have hcode := hran.code_of_error
    rw [answer_of_result hresult]
    exact .inl ⟨⟨code, .error e, hran, rfl, fun _ => hcode⟩, rfl⟩
  | ok n =>
    obtain rfl := hran.code_of_ok
    rw [answer_of_result hresult]
    by_cases hcloses : m.closes o.call = true
    · rw [Manner.after, if_pos hcloses]
      exact .inr ⟨hcloses, ⟨n, hran⟩, rfl, rfl⟩
    · rw [Manner.after, if_neg hcloses]
      exact .inl ⟨⟨Code.ok, .ok n, hran, rfl, fun h => absurd h hcloses⟩, rfl⟩

/-- One call of a closed guard. -/
theorem answer_closed (h : m.Obeys act) (o : Occasion σ κ) (s : Store σ) :
    m.Refuses (answer act m.closed o s).1 := by
  obtain ⟨hexchanges, hresult⟩ := (h.closed o.call).observed (o.meanwhile s)
  rw [answer_of_result hresult]
  exact ⟨hexchanges, rfl, rfl⟩

/-- A closed guard refuses all calls and stays closed. -/
theorem answers_closed (h : m.Obeys act) (os : List (Occasion σ κ)) (s : Store σ) :
    (∀ a ∈ (answers act m.closed os s).1, m.Refuses a) ∧
      (answers act m.closed os s).2.1 = some m.closed := by
  induction os generalizing s with
  | nil => exact ⟨by simp [answers], rfl⟩
  | cons o rest ih =>
    have hfirst := h.answer_closed o s
    obtain ⟨hrest, hlast⟩ := ih (answer act m.closed o s).2
    rw [answers_of_guard hfirst.guard]
    exact ⟨List.forall_mem_cons.mpr ⟨hfirst, hrest⟩, hlast⟩

/-- The calls of an open guard, by induction on the occasions: as long as none ends it, the guard is
as before. -/
theorem answers_opened (h : m.Obeys act) (os : List (Occasion σ κ)) (s : Store σ) :
    ∃ last, (answers act m.opened os s).2.1 = some last ∧
      m.Course (answers act m.opened os s).1 last := by
  induction os generalizing s with
  | nil => exact ⟨m.opened, rfl, .kept (by simp [answers])⟩
  | cons o rest ih =>
    obtain hstays | hcloses := h.answer_opened o s
    · obtain ⟨last, hlast, hrest⟩ := ih (answer act m.opened o s).2
      rw [answers_of_guard hstays.guard]
      refine ⟨last, hlast, ?_⟩
      generalize (answers act m.opened rest (answer act m.opened o s).2).1 = calls at hrest
      cases hrest with
      | kept hcalls => exact .kept (List.forall_mem_cons.mpr ⟨hstays, hcalls⟩)
      | ended hbefore ha hafter =>
        rw [← List.cons_append]
        exact .ended (List.forall_mem_cons.mpr ⟨hstays, hbefore⟩) ha hafter
    · obtain ⟨hrest, hlast⟩ := h.answers_closed rest (answer act m.opened o s).2
      rw [answers_of_guard hcloses.guard]
      refine ⟨m.closed, hlast, ?_⟩
      rw [← List.nil_append (_ :: _)]
      exact .ended (by simp) hcloses hrest

/-- Every call is answered, in its turn: each one gives the guard back for the next one. -/
theorem map_call_answers (h : m.Obeys act) {g : γ} (hg : g = m.opened ∨ g = m.closed)
    (os : List (Occasion σ κ)) (s : Store σ) :
    (answers act g os s).1.map Answered.call = os.map Occasion.call := by
  induction os generalizing g s with
  | nil => rfl
  | cons o rest ih =>
    obtain ⟨g', hg', hguard⟩ : ∃ g', (g' = m.opened ∨ g' = m.closed) ∧
        (answer act g o s).1.guard? = some g' := by
      obtain rfl | rfl := hg
      · obtain hstays | hcloses := h.answer_opened o s
        · exact ⟨_, .inl rfl, hstays.guard⟩
        · exact ⟨_, .inr rfl, hcloses.guard⟩
      · exact ⟨_, .inr rfl, (h.answer_closed o s).guard⟩
    have hcall : (answer act g o s).1.call = o.call := by
      rw [answer]
      split <;> rfl
    rw [answers_of_guard hguard, List.map_cons, List.map_cons, ih hg', hcall]

end Manner.Obeys

/-! ### From construction to drop -/

/-- What came of a guard. -/
inductive GuardLife (κ γ : Type) where
  /-- There was none. -/
  | refused (e : Error) (construction : History)
  /-- It was made, called and dropped. -/
  | led (construction : History) (guard : γ) (calls : List (Answered κ γ)) (drop : History)

/-- Makes a guard, calls it on some occasions, and drops it after something else has happened. -/
def GuardLife.lead (make : Action (Recorder σ) γ)
    (act : κ → γ → Action (Recorder σ) (Except Error Unit × γ))
    (drop : γ → Action (Recorder σ) Unit) (os : List (Occasion σ κ))
    (meanwhile : Store σ → Store σ) (s : Store σ) : GuardLife κ γ :=
  let made := observe make s
  match made.result with
  | .error e => .refused e made.exchanges
  | .ok g =>
    let called := answers act g os made.store
    let dropped :=
      match called.2.1 with
      | none => []
      | some last => (observe (drop last) (meanwhile called.2.2)).exchanges
    .led made.exchanges g called.1 dropped

/-- What a guard hands over in its life, given the calls that are made, what a construction comes to
and what the drop of a guard comes to. -/
inductive Manner.Leads (m : Manner κ γ) (Made : History → Except Error γ → Prop)
    (Dropped : γ → History → Prop) (calls : List κ) : GuardLife κ γ → Prop where
  /-- The construction failed: there is no guard, and that was all. -/
  | refused {e : Error} {construction : History} (hmade : Made construction (.error e)) :
      Leads m Made Dropped calls (.refused e construction)
  /-- The guard was called, each call was answered, and it was dropped as the calls had left it. -/
  | led {construction drop : History} {answered : List (Answered κ γ)} {last : γ}
      (hmade : Made construction (.ok m.opened)) (hcalls : answered.map Answered.call = calls)
      (hcourse : m.Course answered last) (hdrop : Dropped last drop) :
      Leads m Made Dropped calls (.led construction m.opened answered drop)

/-- The life of a guard, from what its construction, its calls and its drop do. -/
theorem Manner.leads_lead [Engine σ] {m : Manner κ γ} {make : Action (Recorder σ) γ}
    {act : κ → γ → Action (Recorder σ) (Except Error Unit × γ)}
    {drop : γ → Action (Recorder σ) Unit}
    {Made : History → Except Error γ → Prop} {Dropped : γ → History → Prop}
    (hmake : Yields Made make) (hopened : ∀ d g, Made d (.ok g) → g = m.opened ∧ m.Obeys act)
    (hdrop : ∀ d g, Made d (.ok g) → ∀ last, last = m.opened ∨ last = m.closed →
      Yields (fun d _ => Dropped last d) (drop last))
    (os : List (Occasion σ κ)) (meanwhile : Store σ → Store σ) (s : Store σ) :
    m.Leads Made Dropped (os.map Occasion.call) (.lead make act drop os meanwhile s) := by
  have hmade := hmake.observed s
  cases hresult : (observe make s).result with
  | error e =>
    rw [hresult] at hmade
    rw [GuardLife.lead, hresult]
    exact .refused hmade
  | ok g =>
    rw [hresult] at hmade
    obtain ⟨rfl, hobeys⟩ := hopened _ g hmade
    rw [GuardLife.lead, hresult]
    dsimp only
    obtain ⟨last, hlast, hcourse⟩ := hobeys.answers_opened os (observe make s).store
    have hcalls := hobeys.map_call_answers (.inl rfl) os (observe make s).store
    have hdropped := hdrop _ _ hmade _ hcourse.guard_eq
    rw [hlast]
    exact .led hmade hcalls hcourse (hdropped.observed _)

/-! ### Transactions -/

namespace Transaction

/-- A transaction is there to be committed. -/
def manner (db : Database) : Manner Unit Transaction where
  connection := db.connection
  script := fun _ => "COMMIT"
  closes := fun _ => true
  refusal := .alreadyCommitted
  opened := { database := db }
  closed := { database := db, committed := true }

/-- What beginning a transaction comes to. -/
inductive Begun (db : Database) (locking : Locking) : History → Except Error Transaction → Prop where
  | begun {n : Int32} {d : History} (h : Ran db.connection locking.beginSql Code.ok d (.ok n)) :
      Begun db locking d (.ok { database := db })
  | refused {code : Code} {e : Error} {d : History}
      (h : Ran db.connection locking.beginSql code d (.error e)) : Begun db locking d (.error e)

/-- What dropping a transaction comes to. -/
inductive Dropped (t : Transaction) : History → Prop where
  /-- It was committed. -/
  | committed (h : t.committed = true) : Dropped t []
  /-- It is rolled back, whatever comes of that. -/
  | rolledBack {code : Code} {d : History} {r : Except Error Int32} (h : t.committed = false)
      (hran : Ran t.database.connection "ROLLBACK" code d r) : Dropped t d

variable [Engine σ]

/-- A transaction begins with its script, or there is no guard. -/
theorem begin_yields (db : Database) (locking : Locking) :
    Yields (σ := σ) (Begun db locking) (begin db locking) := by
  have hnul : '\x00' ∉ locking.beginSql.toList := by cases locking <;> simp [Locking.beginSql]
  refine .bind (db.exec_yields hnul) (fun d n hd => ?_) fun d e hd => ?_
  · obtain ⟨code, hran⟩ := hd
    obtain rfl := hran.code_of_ok
    exact .pure (.begun (by rwa [List.append_nil]))
  · obtain ⟨code, hran⟩ := hd
    exact .refused hran

/-- Its calls of commit go on in the manner of transactions. -/
theorem manner_obeys (db : Database) : (manner db).Obeys (σ := σ) fun _ t => t.commit where
  opened := fun _ => by
    have hnul : '\x00' ∉ "COMMIT".toList := by simp
    have hopen : (manner db).opened.committed = false := rfl
    rw [commit_of_open hopen]
    exact db.settle_yields hnul _ _
  closed := fun _ => by
    have hclosed : (manner db).closed.committed = true := rfl
    rw [commit_of_committed hclosed]
    exact .pure ⟨rfl, rfl⟩

/-- Its end is that of a transaction. -/
theorem drop_yields (t : Transaction) : Yields (σ := σ) (fun d _ => t.Dropped d) t.drop := by
  cases hcommitted : t.committed with
  | true =>
    rw [drop, hcommitted]
    exact .pure (.committed hcommitted)
  | false =>
    rw [drop, hcommitted]
    refine .bind (t.database.exec_yields (by simp)).attempt (fun d r hd => ?_) fun d e hd => ?_
    · obtain ⟨r', -, code, hran⟩ := hd
      exact .pure (.rolledBack hcommitted (by rwa [List.append_nil]))
    · obtain ⟨r', -, code, hran⟩ := hd
      exact .rolledBack hcommitted hran

/-- What a transaction hands over in its life. -/
theorem leads_lead (db : Database) (locking : Locking) (os : List (Occasion σ Unit))
    (meanwhile : Store σ → Store σ) (s : Store σ) :
    (manner db).Leads (Begun db locking) Dropped (os.map Occasion.call)
      (.lead (begin db locking) (fun _ t => t.commit) drop os meanwhile s) := by
  refine Manner.leads_lead (begin_yields db locking) (fun d t ht => ?_)
    (fun _ _ _ t _ => t.drop_yields) os meanwhile s
  cases ht
  exact ⟨rfl, manner_obeys db⟩

end Transaction

/-! ### Savepoints -/

namespace Savepoint

/-- The calls of a savepoint. -/
inductive Request where
  | release
  | rollbackTo
  deriving DecidableEq

/-- Calls a savepoint. -/
def request {σ : Type} [Engine σ] (p : Savepoint) :
    Request → Action σ (Except Error Unit × Savepoint)
  | .release => p.release
  | .rollbackTo => p.rollbackTo

/-- A savepoint is there to be released; it can be rolled back to before. -/
def manner (db : Database) (name : String) : Manner Request Savepoint where
  connection := db.connection
  script
    | .release => releaseSql name
    | .rollbackTo => rollbackSql name
  closes
    | .release => true
    | .rollbackTo => false
  refusal := .alreadyReleased name
  opened := { database := db, name }
  closed := { database := db, name, released := true }

/-- What setting a savepoint comes to. -/
inductive WasSet (db : Database) (name : String) : History → Except Error Savepoint → Prop where
  | set {n : Int32} {d : History} (hname : '\x00' ∉ name.toList)
      (h : Ran db.connection (setSql name) Code.ok d (.ok n)) :
      WasSet db name d (.ok { database := db, name })
  | refused {code : Code} {e : Error} {d : History} (hname : '\x00' ∉ name.toList)
      (h : Ran db.connection (setSql name) code d (.error e)) : WasSet db name d (.error e)
  /-- A name with a zero character does not get to the engine. -/
  | unspeakable {n : Nat} (hname : '\x00' ∈ name.toList)
      (hposition : Nul.position? (setSql name) = some n) :
      WasSet db name [] (.error (.interiorNul n))

/-- What dropping a savepoint comes to. -/
inductive Dropped (p : Savepoint) : History → Prop where
  /-- It was released. -/
  | released (h : p.released = true) : Dropped p []
  /-- It could not be rolled back, so it is not released either. -/
  | failed {code : Code} {e : Error} {d : History} (h : p.released = false)
      (hback : Ran p.database.connection (rollbackSql p.name) code d (.error e)) : Dropped p d
  /-- It was rolled back, and is released, whatever comes of that. -/
  | undone {n : Int32} {code : Code} {d d' : History} {r : Except Error Int32}
      (h : p.released = false)
      (hback : Ran p.database.connection (rollbackSql p.name) Code.ok d (.ok n))
      (hrelease : Ran p.database.connection (releaseSql p.name) code d' r) : Dropped p (d ++ d')

variable [Engine σ]

/-- A savepoint is set with its script, or there is no guard. -/
theorem set_yields (db : Database) (name : String) :
    Yields (σ := σ) (WasSet db name) (set db name) := by
  by_cases hname : '\x00' ∈ name.toList
  · have hposition : Nul.position? (setSql name) ≠ none := fun h =>
      (Nul.position?_eq_none_iff _).mp h (nul_mem_setSql hname)
    obtain ⟨n, hn⟩ := Option.ne_none_iff_exists'.mp hposition
    have hscreens : Screens (σ := σ) [setSql name] (set db name) :=
      (db.exec_screens (setSql name)).bind
    intro s
    rw [hscreens n (by rw [List.findSome?_cons, hn]) s]
    exact ⟨[], .nothing s.engine, .unspeakable hname hn⟩
  · refine .bind (db.exec_yields (nul_not_mem_setSql hname)) (fun d n hd => ?_) fun d e hd => ?_
    · obtain ⟨code, hran⟩ := hd
      obtain rfl := hran.code_of_ok
      exact .pure (.set hname (by rwa [List.append_nil]))
    · obtain ⟨code, hran⟩ := hd
      exact .refused hname hran

/-- Its calls of release and of rolling back go on in the manner of savepoints. -/
theorem manner_obeys (db : Database) {name : String} (hname : '\x00' ∉ name.toList) :
    (manner db name).Obeys (σ := σ) fun call p => p.request call where
  opened := fun call => by
    have hopen : (manner db name).opened.released = false := rfl
    cases call with
    | release =>
      rw [request, release_of_open hopen]
      exact db.settle_yields (nul_not_mem_releaseSql hname) _ _
    | rollbackTo =>
      rw [request, rollbackTo_of_open hopen]
      exact db.settle_yields (nul_not_mem_rollbackSql hname) _ _
  closed := fun call => by
    have hclosed : (manner db name).closed.released = true := rfl
    cases call with
    | release =>
      rw [request, release_of_released hclosed]
      exact .pure ⟨rfl, rfl⟩
    | rollbackTo =>
      rw [request, rollbackTo_of_released hclosed]
      exact .pure ⟨rfl, rfl⟩

/-- Its end is that of a savepoint. -/
theorem drop_yields (p : Savepoint) (hname : '\x00' ∉ p.name.toList) :
    Yields (σ := σ) (fun d _ => p.Dropped d) p.drop := by
  cases hreleased : p.released with
  | true =>
    rw [drop, hreleased]
    exact .pure (.released hreleased)
  | false =>
    rw [drop, hreleased]
    have hback := (p.database.exec_yields (σ := σ) (nul_not_mem_rollbackSql hname)).attempt
    have hrelease := (p.database.exec_yields (σ := σ) (nul_not_mem_releaseSql hname)).attempt
    refine .bind hback (fun d r hd => ?_) fun d e hd => ?_
    · obtain ⟨r', hr, code, hran⟩ := hd
      cases hr
      cases r with
      | error e => exact .pure (.failed hreleased (by rwa [List.append_nil]))
      | ok n =>
        obtain rfl := hran.code_of_ok
        refine .bind hrelease (fun d' r' hd' => ?_) fun d' e hd' => ?_
        · obtain ⟨r'', -, code, hran'⟩ := hd'
          exact .pure (by rw [List.append_nil]; exact .undone hreleased hran hran')
        · obtain ⟨r'', hr'', -⟩ := hd'
          cases hr''
    · obtain ⟨r', hr', -⟩ := hd
      cases hr'

/-- What a savepoint hands over in its life. -/
theorem leads_lead (db : Database) (name : String) (os : List (Occasion σ Request))
    (meanwhile : Store σ → Store σ) (s : Store σ) :
    (manner db name).Leads (WasSet db name) Dropped (os.map Occasion.call)
      (.lead (set db name) (fun call p => p.request call) drop os meanwhile s) := by
  refine Manner.leads_lead (set_yields db name) (fun d p hp => ?_) (fun d p hp last hlast => ?_) os
    meanwhile s
  · cases hp with
    | set hname => exact ⟨rfl, manner_obeys db hname⟩
  · cases hp with
    | set hname =>
      obtain rfl | rfl := hlast
      · exact drop_yields _ hname
      · exact drop_yields _ hname

end Savepoint

/-- On every engine, whatever it answers and whatever happens to the store between the calls:
transactions and savepoints hand over the script of their construction, then the script of each call
until one of those that end the guard succeeds, and at their drop what is left to undo. A call that
fails gives the guard back as open as it was. -/
theorem guards_hand_over_their_scripts [Engine σ] (db : Database) (meanwhile : Store σ → Store σ)
    (s : Store σ) :
    (∀ locking (os : List (Occasion σ Unit)),
      (Transaction.manner db).Leads (Transaction.Begun db locking) Transaction.Dropped
        (os.map Occasion.call)
        (.lead (Transaction.begin db locking) (fun _ t => t.commit) Transaction.drop os meanwhile
          s)) ∧
    ∀ name (os : List (Occasion σ Savepoint.Request)),
      (Savepoint.manner db name).Leads (Savepoint.WasSet db name) Savepoint.Dropped
        (os.map Occasion.call)
        (.lead (Savepoint.set db name) (fun call p => p.request call) Savepoint.drop os meanwhile
          s) := by
  constructor
  · intro locking os
    exact Transaction.leads_lead db locking os meanwhile s
  · intro name os
    exact Savepoint.leads_lead db name os meanwhile s

end GuardedSql
