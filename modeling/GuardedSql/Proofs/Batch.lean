import GuardedSql.Proofs.FirstColumn
import GuardedSql.Proofs.Rounds
import Mathlib.Algebra.Ring.Int.Defs

/-!
# Queries for many lists of parameters

A query that is run for each of some lists of parameters is prepared once and then does what a loop
over the lists does that runs a fresh statement for each: it gives the sum of what the runs give, or
the first error, and no list is seen by the run of another.
-/

namespace GuardedSql

variable {σ : Type} [Engine σ]

/-! ### The sum -/

/-- Whether a number is one of 32 bits. -/
def IsInt32 (z : Int) : Prop := Int32.minValue.toInt ≤ z ∧ z ≤ Int32.maxValue.toInt

instance (z : Int) : Decidable (IsInt32 z) := inferInstanceAs (Decidable (_ ∧ _))

/-- Numbers are added up exactly as long as no sum on the way is too big. -/
theorem Int32.toInt_foldl_add (ns : List Int32) (n : Int32)
    (h : ∀ j, IsInt32 (n.toInt + ((ns.take j).map Int32.toInt).sum)) :
    (ns.foldl (· + ·) n).toInt = n.toInt + (ns.map Int32.toInt).sum := by
  induction ns generalizing n with
  | nil => simp
  | cons m ns ih =>
    have hadd : (n + m).toInt = n.toInt + m.toInt := by
      have hfits := h 1
      simp only [IsInt32, List.take_succ_cons, List.take_zero, List.map_cons, List.map_nil,
        List.sum_cons, List.sum_nil, Int.add_zero] at hfits
      rw [Int32.toInt_add]
      exact Int.bmod_eq_of_le hfits.1 (Int.lt_of_le_of_lt hfits.2 (by decide))
    rw [List.foldl_cons, ih (n + m) fun j => ?_, hadd, List.map_cons, List.sum_cons, Int.add_assoc]
    have hfits := h (j + 1)
    rw [List.take_succ_cons, List.map_cons, List.sum_cons, ← Int.add_assoc] at hfits
    rwa [hadd]

/-! ### The preparation -/

/-- Preparing is one call that compiles, and there is no step. -/
theorem Preparing.compiles {c : ConnectionHandle} {sql : String} {d : History}
    {r : Except Error Cursor} (h : Preparing c sql d r) :
    d.countP (·.call.isPrepare) = 1 ∧ ∀ x ∈ d, x.call.isStep = false := by
  obtain ⟨answer, rest, rfl, hrest⟩ := h.calls
  have haside : ∀ x ∈ rest, x.call.IsAside := fun x hx => by
    obtain ⟨hprepare, hstep, -⟩ := Call.still_of_isInquiry (hrest x hx)
    exact ⟨hstep, hprepare⟩
  rw [List.countP_cons_of_pos rfl, History.countP_isPrepare_of_aside haside]
  exact ⟨rfl, List.forall_mem_cons.mpr ⟨rfl, fun x hx => (haside x hx).1⟩⟩

/-- A statement that was prepared, with its cursor: its columns were asked for at most. -/
theorem Statement.prepare_held {db : Database} {query : String} {s : Store σ} {q : Statement}
    {s₁ : Store (Recorder σ)} (h : Statement.prepare db query s.recording = (.ok q, s₁)) :
    ∃ k, s₁.cursors.get? q.cursor = some k ∧ k.done = false ∧ k.holders = 1 ∧ q.database = db ∧
      (Engine.call (.prepare db.connection query) s.engine).1 = (Code.ok, some k.handle) ∧
      Reaches (Call.describes k.handle) (Engine.call (.prepare db.connection query) s.engine).2
        s₁.engine.engine := by
  obtain ⟨d, engine, hanswers, ⟨e, -, hrun⟩ | ⟨k, hpreparing, hrun⟩⟩ :=
    CursorId.prepare_cases db.connection query s.recording
  · rw [Statement.prepare, Action.bind_of_error hrun] at h
    cases h
  · rw [Statement.prepare, Action.bind_of_ok hrun] at h
    cases h
    have hunused := hpreparing.unused
    obtain ⟨rest, rfl, hrest⟩ := hpreparing.of_ok
    refine ⟨k, Table.get?_set_self _ _ _, hunused.done, hunused.holders, rfl, ?_⟩
    cases hanswers.recorded.2 with
    | call hcall hasked =>
      have hreply := congrArg Prod.fst hcall
      have hengine := congrArg Prod.snd hcall
      exact ⟨hreply, hengine ▸ hasked.reaches hrest⟩

/-! ### The result -/

/-- What a query for some lists of parameters comes to, when the preparation and the whole of it look
like `prepared` and `o`, the cursor of the statement is `k`, and `fresh` is what a loop over the lists
that runs a fresh statement for each comes to from the preparation on. -/
structure RunsFresh (take : Supply σ) (db : Database) (params : List (List Binding)) (k : Cursor)
    (prepared : Observation σ Statement) (o : Observation σ Int32)
    (fresh : Except Error (List Int32) × Store σ) : Prop where
  /-- The result is the sum of what the runs give, or the first error. -/
  result : o.result = fresh.1.map (·.foldl (· + ·) 0)
  /-- The sum is exact when no sum on the way is too big. -/
  sum : ∀ ns, fresh.1 = .ok ns → (∀ j, IsInt32 ((ns.take j).map Int32.toInt).sum) →
    ∃ n, o.result = .ok n ∧ n.toInt = (ns.map Int32.toInt).sum
  /-- The lists are run in their order by the one statement, which is released then. A run sees the
  values of its own list and NULL, and there is none after the first failure. -/
  calls : ∃ d code, o.exchanges = prepared.exchanges ++ d ++ [⟨.finalize k.handle, code⟩] ∧
    Rounds db.connection k.handle params d fresh.1 ∧
    ∀ before answer after, d = before ++ ⟨.step k.handle, answer⟩ :: after →
      ∃ values, params[before.countP (·.call.isStep)]? = some values ∧
        ∀ i, Setting.latest? k.handle i (History.settings before) =
          Setting.latest? k.handle i (.clear k.handle :: Setting.placed k.handle 0 values)
  /-- Until the release the engine cannot be told from the one that the loop leaves. -/
  leaves : ∃ e p, o.store.engine = (Engine.call (.finalize k.handle) e).2 ∧
    Alike db.connection take ⟨e, k.handle⟩ ⟨fresh.2.engine, p⟩

/-- No run asks for a reset. -/
theorem Rounds.ne_needsReset {c : ConnectionHandle} {p : PreparedHandle}
    {params : List (List Binding)} {d : History} {r : Except Error (List Int32)}
    (h : Rounds c p params d r) : r ≠ .error .needsReset := by
  have hfilling : ∀ {n values d e}, Filling c p n values d (.error e) → e ≠ .needsReset := by
    intro n values d e hfill
    generalize hr : (Except.error e : Except Error Unit) = r at hfill
    induction hfill with
    | nil n => cases hr
    | set hfill ih => exact ih hr
    | refused hcode message extended =>
      cases hr
      exact nofun
  induction h with
  | nil => exact nofun
  | unbound hfill => exact fun h => hfilling hfill (Except.error.inj h)
  | failed hfill hrun => cases hrun <;> exact nofun
  | @ran _ _ _ _ _ _ r hfill hrun hrest ih =>
    cases r with
    | ok ns => exact nofun
    | error e => exact ih

/-- Nothing is prepared while the lists are run. -/
theorem Rounds.countP_isPrepare {c : ConnectionHandle} {p : PreparedHandle}
    {params : List (List Binding)} {d : History} {r : Except Error (List Int32)}
    (h : Rounds c p params d r) : d.countP (·.call.isPrepare) = 0 := by
  have hexecuted : ∀ {d r}, Executed c p d r → d.countP (·.call.isPrepare) = 0 := by
    intro d r hrun
    obtain ⟨code, later, rfl, hlater⟩ := hrun.calls
    rw [List.countP_cons_of_neg (by simp [Call.isPrepare]),
      History.countP_isPrepare_of_aside hlater]
  induction h with
  | nil => rfl
  | unbound hfill => exact History.countP_isPrepare_of_aside hfill.renewal_calls
  | failed hfill hrun =>
    rw [← List.append_assoc, List.countP_append,
      History.countP_isPrepare_of_aside hfill.renewal_calls, hexecuted hrun]
  | ran hfill hrun hrest ih =>
    rw [← List.append_assoc, List.countP_append,
      History.countP_isPrepare_of_aside hfill.renewal_calls, List.countP_append, hexecuted hrun, ih]

section

variable {take : Supply σ} {db : Database} {params : List (List Binding)} {k : Cursor}
  {prepared : Observation σ Statement} {o : Observation σ Int32}
  {fresh : Except Error (List Int32) × Store σ}

theorem RunsFresh.ne_needsReset (h : RunsFresh take db params k prepared o fresh) :
    o.result ≠ .error .needsReset := by
  obtain ⟨d, code, -, hrounds, -⟩ := h.calls
  have hnever := hrounds.ne_needsReset
  rw [h.result]
  cases hfresh : fresh.1 with
  | ok ns => exact nofun
  | error e =>
    rw [hfresh] at hnever
    exact fun he => hnever (congrArg Except.error (Except.error.inj he))

/-- What is prepared is prepared before. -/
theorem RunsFresh.countP_isPrepare (h : RunsFresh take db params k prepared o fresh) :
    o.exchanges.countP (·.call.isPrepare) = prepared.exchanges.countP (·.call.isPrepare) := by
  obtain ⟨d, code, hexchanges, hrounds, -⟩ := h.calls
  rw [hexchanges, List.countP_append, List.countP_append, hrounds.countP_isPrepare]
  rfl

end

/-- A statement that was prepared is run as fresh ones are. -/
theorem Database.runsFresh_of_prepare {take : Supply σ} {db : Database} {query : String}
    {s : Store σ} {q : Statement} {s₁ : Store (Recorder σ)}
    (hprepare : Statement.prepare db query s.recording = (.ok q, s₁))
    (hrenewable : ∀ p, (Engine.call (.prepare db.connection query) s.engine).1 = (Code.ok, some p) →
      Renewable db.connection take ⟨(Engine.call (.prepare db.connection query) s.engine).2, p⟩)
    (params : List (List Binding)) :
    ∃ k, s₁.cursors.get? q.cursor = some k ∧
      RunsFresh take db params k (observe (Statement.prepare db query) s)
        (observe (db.execEach query params) s) (q.eachFresh take k params s₁.plain) := by
  obtain ⟨k, hk, hnot, hone, rfl, hanswer, hreaches⟩ := Statement.prepare_held hprepare
  have hx := hrenewable k.handle hanswer
  have htwins : Twins take q q.cursor k.handle k.handle false s₁ s₁.plain :=
    ⟨⟨k, hk, rfl, hnot, hone⟩, ⟨k, hk, rfl, hnot⟩, .refl _⟩
  obtain ⟨d, ns, s₂, t₂, id, p, done, hrun, hfresh, hwent, hlast, hrounds⟩ :=
    runEach_eachFresh hx k params htwins (hreaches.mono fun _ => Call.drives_of_describes)
      (hx.fresh _ hreaches) 0
  obtain ⟨k', hk', hhandle, -, hone'⟩ := hlast.left
  have hdrop := CursorId.release_of_last hk' (by omega)
  have hobserve : observe (q.database.execEach query params) s =
      ⟨ns.map (·.foldl (· + ·) 0), (q.drop s₂).2.engine.exchanges, (q.drop s₂).2.plain⟩ :=
    observe_of_run (by rw [execEach, withStatement_run hprepare, hrun])
  have hprepared : (observe (Statement.prepare q.database query) s).exchanges =
      s₁.engine.exchanges := by
    rw [observe_of_run hprepare]
  refine ⟨k, hk, ?_⟩
  rw [hobserve, hfresh]
  constructor
  · rfl
  · rintro ns rfl hfits
    refine ⟨_, rfl, ?_⟩
    rw [Int32.toInt_foldl_add ns 0 (by simpa using hfits)]
    simp
  · refine ⟨d, (Engine.call (.finalize k.handle) s₂.engine.engine).1, ?_, hrounds,
      fun before answer after hd => hrounds.sees hd⟩
    rw [hprepared, ← hwent.exchanges, Statement.drop, hdrop, hhandle]
    rfl
  · refine ⟨s₂.engine.engine, p, ?_, hlast.alike⟩
    rw [Statement.drop, hdrop, hhandle]
    rfl

/-- A query for some lists of parameters is prepared once and, on an engine that makes a statement as
good as new when it is rewound and its parameters are cleared, does then what a loop over the lists
does that runs a fresh statement for each. When the preparation fails, nothing is run. -/
theorem Database.execEach_runs_fresh (take : Supply σ) (db : Database) (query : String)
    (params : List (List Binding)) (s : Store σ)
    (hrenewable : ∀ p, (Engine.call (.prepare db.connection query) s.engine).1 = (Code.ok, some p) →
      Renewable db.connection take ⟨(Engine.call (.prepare db.connection query) s.engine).2, p⟩) :
    let prepared := observe (Statement.prepare db query) s
    let o := observe (db.execEach query params) s
    o.exchanges.countP (·.call.isPrepare) = 1 ∧ o.result ≠ .error .needsReset ∧
      (∀ e, prepared.result = .error e → o.result = .error e ∧
        o.exchanges = prepared.exchanges ∧ ∀ x ∈ o.exchanges, x.call.isStep = false) ∧
      ∀ q, prepared.result = .ok q → ∃ k, prepared.store.cursors.get? q.cursor = some k ∧
        RunsFresh take db params k prepared o (q.eachFresh take k params prepared.store) := by
  intro prepared o
  obtain ⟨q, r, hpreparing, -⟩ := (Statement.prepare_yields db query).observed s
  obtain ⟨hcount, hnone⟩ := hpreparing.compiles
  rcases hprepare : Statement.prepare db query s.recording with ⟨e | q, s₁⟩
  · have hprepared : prepared = ⟨.error e, s₁.engine.exchanges, s₁.plain⟩ := observe_of_run hprepare
    have ho : o = ⟨.error e, s₁.engine.exchanges, s₁.plain⟩ :=
      observe_of_run (Action.bind_of_error hprepare)
    have hsame : o.exchanges = prepared.exchanges := by rw [ho, hprepared]
    refine ⟨by rwa [hsame], ?_, fun e' he' => ⟨?_, hsame, by rwa [hsame]⟩, fun q hq => ?_⟩
    · have husage := Statement.isUsage_of_prepare (congrArg Prod.fst hprepare)
      rw [ho]
      rintro ⟨⟩
      cases husage
    · rw [hprepared] at he'
      cases he'
      rw [ho]
    · rw [hprepared] at hq
      cases hq
  · have hprepared : prepared = ⟨.ok q, s₁.engine.exchanges, s₁.plain⟩ := observe_of_run hprepare
    obtain ⟨k, hk, hruns⟩ := runsFresh_of_prepare hprepare hrenewable params
    refine ⟨hruns.countP_isPrepare.trans hcount, hruns.ne_needsReset, fun e he => ?_, fun q' hq' => ?_⟩
    · rw [hprepared] at he
      cases he
    · rw [hprepared] at hq'
      cases hq'
      rw [show prepared.store = s₁.plain by rw [hprepared]]
      exact ⟨k, hk, hruns⟩

/-- An engine with one statement on a table whose rows are numbered from 1: a run changes those up to
the value of its parameter. -/
structure OneSlot where
  /-- The value, with zero for NULL. -/
  value : Int32 := 0
  /-- The changed rows of the last run. -/
  changed : Int32 := 0

instance : Engine OneSlot where
  call c s :=
    match c with
    | .prepare .. => ((Code.ok, some ⟨0⟩), s)
    | .bind _ _ (.int n) _ => (Code.ok, { s with value := n })
    | .clearBindings _ => (Code.ok, { s with value := 0 })
    | .step _ => (Code.done, { s with changed := s.value })
    | .changes _ => (s.changed, s)
    | _ => (default, s)

/-- Its statement with the parameter at NULL. -/
def OneSlot.fresh : Supply OneSlot := fun e => (⟨0⟩, { e with value := 0 })

theorem OneSlot.renewable (c : ConnectionHandle) (e : OneSlot) :
    Renewable c OneSlot.fresh ⟨e, ⟨0⟩⟩ := by
  have hrenews : ∀ e, Held.Renews c OneSlot.fresh ⟨e, ⟨0⟩⟩ := fun e => ⟨rfl, rfl, .refl _⟩
  exact ⟨fun e _ => hrenews e, fun e _ _ => hrenews _⟩

/-- The text of the statement. -/
def OneSlot.query : String := "UPDATE t SET b = 0 WHERE a <= ?"

/-- The run of an empty list does not see the value before it. -/
theorem Database.execEach_runs_fresh_of_emptyList :
    ∃ n, (observe (Database.execEach ⟨⟨0⟩, ""⟩ OneSlot.query [[.int 5], [], [.int 7]])
        (⟨{}, {}, 0⟩ : Store OneSlot)).result = .ok n ∧ n.toInt = 12 := by
  obtain ⟨-, -, -, hok⟩ := execEach_runs_fresh OneSlot.fresh ⟨⟨0⟩, ""⟩ OneSlot.query
    [[.int 5], [], [.int 7]] (⟨{}, {}, 0⟩ : Store OneSlot) (by
      intro p hp
      cases hp
      exact OneSlot.renewable _ _)
  obtain ⟨k, hk, hruns⟩ := hok _ rfl
  cases hk
  refine hruns.sum [5, 0, 7] (by decide +kernel) fun j => ?_
  match j with
  | 0 => decide
  | 1 => decide
  | 2 => decide
  | j + 3 =>
    simp only [List.take_succ_cons, List.take_nil]
    decide

end GuardedSql
