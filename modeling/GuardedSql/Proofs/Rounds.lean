import GuardedSql.OneShot
import GuardedSql.Proofs.Twins

/-!
# One statement for many lists

Running one statement for each of some lists of parameters is the same as running a fresh statement
for each of them, on an engine that makes a statement as good as new when it is rewound and its
parameters are cleared.
-/

namespace GuardedSql

variable {σ : Type} [Engine σ]

/-! ### Fresh statements one by one -/

/-- A fresh statement in the place of one. -/
def Statement.another (take : Supply σ) (q : Statement) (k : Cursor) : Action σ Statement := do
  let p ← fun s => (.ok (take s.engine).1, { s with engine := (take s.engine).2 })
  let id ← CursorId.register {
    connection := k.connection, handle := p, columnCount := k.columnCount
    columnIndices := k.columnIndices }
  return { q with cursor := id }

/-- Runs a fresh statement for each list of parameters and tells the changed rows of each run. -/
def Statement.eachFresh (take : Supply σ) (q : Statement) (k : Cursor) :
    List (List Binding) → Action σ (List Int32)
  | [] => return []
  | values :: rest => do
    let fresh ← q.another take k
    fresh.bindAll values
    let changed ← fresh.exec
    return changed :: (← q.eachFresh take k rest)

/-! ### The calls -/

/-- The calls that renew a statement. -/
def renewal (p : PreparedHandle) : History :=
  [⟨.reset p, Code.ok⟩, ⟨.clearBindings p, Code.ok⟩]

/-- The calls of running one statement for each list of parameters, and the changed rows of each run.
The first failure is the end. -/
inductive Rounds (c : ConnectionHandle) (p : PreparedHandle) :
    List (List Binding) → History → Except Error (List Int32) → Prop where
  | nil : Rounds c p [] [] (.ok [])
  /-- A parameter is refused, and there is no run. -/
  | unbound {values : List Binding} {rest : List (List Binding)} {d : History} {e : Error}
      (hfill : Filling c p 0 values d (.error e)) :
      Rounds c p (values :: rest) (renewal p ++ d) (.error e)
  /-- The run fails. -/
  | failed {values : List Binding} {rest : List (List Binding)} {d d' : History} {e : Error}
      (hfill : Filling c p 0 values d (.ok ())) (hrun : Executed c p d' (.error e)) :
      Rounds c p (values :: rest) (renewal p ++ (d ++ d')) (.error e)
  | ran {values : List Binding} {rest : List (List Binding)} {d d' H : History} {n : Int32}
      {r : Except Error (List Int32)} (hfill : Filling c p 0 values d (.ok ()))
      (hrun : Executed c p d' (.ok n)) (hrest : Rounds c p rest H r) :
      Rounds c p (values :: rest) (renewal p ++ (d ++ (d' ++ H))) (r.map (n :: ·))

variable {take : Supply σ} {q : Statement} {id : CursorId} {p p' : PreparedHandle} {done : Bool}

/-- A statement that is renewed and a fresh one cannot be told apart. -/
theorem Twins.renew {s : Store (Recorder σ)} {t : Store σ} (h : Twins take q id p p' done s t)
    (hrenews : Held.Renews q.database.connection take ⟨s.engine.engine, p⟩) (k : Cursor) :
    ∃ s₁ s₂ id₂ t₂, q.reset s = (.ok (), s₁) ∧ q.clearBindings s₁ = (.ok (), s₂) ∧
      s.Went q.database.connection p (renewal p) s₂ ∧
      q.another take k t = (.ok { q with cursor := id₂ }, t₂) ∧
      Twins take q id₂ p (take t.engine).1 false s₂ t₂ := by
  obtain ⟨k₀, hk₀, rfl, -, hone⟩ := h.left
  have hready : (s.ready q.cursor k₀).cursors.get? q.cursor = some k₀.readied :=
    Table.get?_set_self _ _ _
  have hreset : q.reset s = (.ok (), s.ready q.cursor k₀) := by
    have hcode : s.resetCode k₀ = Code.ok := hrenews.reset
    rw [Statement.reset_run hk₀, hcode]
    rfl
  have hcode : (Engine.call (.clearBindings k₀.handle) (s.ready q.cursor k₀).engine.engine).1 =
      Code.ok := hrenews.clear
  have hclear : q.clearBindings (s.ready q.cursor k₀) = (.ok (),
      { s.ready q.cursor k₀ with
        engine := (Engine.call (.clearBindings k₀.handle) (s.ready q.cursor k₀).engine).2 }) := by
    rw [Statement.clearBindings, Action.bind_of_ok (Statement.handle_of_some hready),
      Action.bind_of_ok (native_run _ _)]
    show q.database.check
      (Engine.call (.clearBindings k₀.handle) (s.ready q.cursor k₀).engine.engine).1 _ = _
    rw [hcode]
    rfl
  have hfirst : s.Went q.database.connection k₀.handle [⟨.reset k₀.handle, Code.ok⟩]
      (s.ready q.cursor k₀) := by
    have hcall := Store.Went.call (c := q.database.connection) (.reset k₀.handle)
      (.inr ⟨rfl, rfl⟩) s
    rw [show (Engine.call (.reset k₀.handle) s.engine.engine).1 = Code.ok from hrenews.reset] at hcall
    exact ⟨hcall.exchanges, hcall.reaches⟩
  have hsecond := Store.Went.call (c := q.database.connection)
    (.clearBindings k₀.handle) (.inr ⟨rfl, rfl⟩) (s.ready q.cursor k₀)
  rw [hcode] at hsecond
  exact ⟨_, _, _, _, hreset, hclear, hfirst.trans hsecond, rfl, ⟨_, hready, rfl, rfl, hone⟩,
    ⟨_, Table.get?_set_self _ _ _, rfl, rfl⟩,
    hrenews.alike.trans ((Alike.simulates _ _).fresh h.alike)⟩

/-- Running one statement for each list is running a fresh one for each, if the statement can be
renewed each time. -/
theorem runEach_eachFresh {x : Held σ} (hx : Renewable q.database.connection take x) (k : Cursor)
    (params : List (List Binding)) {s : Store (Recorder σ)} {t : Store σ} {p₀ : PreparedHandle}
    (h : Twins take q id x.handle p₀ done s t)
    (hreaches : Reaches (Call.drives q.database.connection x.handle) x.engine s.engine.engine)
    (hrenews : Held.Renews q.database.connection take ⟨s.engine.engine, x.handle⟩)
    (changed : Int32) :
    ∃ d ns s' t' id' p' done',
      Database.runEach q changed params s = (ns.map (·.foldl (· + ·) changed), s') ∧
      q.eachFresh take k params t = (ns, t') ∧ s.Went q.database.connection x.handle d s' ∧
      Twins take q id' x.handle p' done' s' t' ∧
      Rounds q.database.connection x.handle params d ns := by
  induction params generalizing s t id p₀ done changed with
  | nil => exact ⟨[], .ok [], s, t, _, _, _, rfl, rfl, .refl s, h, .nil⟩
  | cons values rest ih =>
    obtain ⟨s₁, s₂, id₂, t₂, hreset, hclear, hwent₂, hanother, htwins₂⟩ := h.renew hrenews k
    obtain ⟨d, r, s₃, t₃, hbind, hbind', hwent₃, htwins₃, hfill⟩ := bindAll_pairs values s₂ t₂ htwins₂
    rw [Database.runEach, Action.bind_of_ok hreset, Action.bind_of_ok hclear,
      Statement.eachFresh, Action.bind_of_ok hanother]
    cases r with
    | error e =>
      rw [Action.bind_of_error hbind, Action.bind_of_error hbind']
      exact ⟨_, .error e, s₃, t₃, _, _, _, rfl, rfl, hwent₂.trans hwent₃, htwins₃, .unbound hfill⟩
    | ok _ =>
      rw [Action.bind_of_ok hbind, Action.bind_of_ok hbind']
      obtain ⟨d', r, s₄, t₄, done', hexec, hexec', hwent₄, htwins₄, hrun, hfinished⟩ :=
        exec_twins htwins₃
      cases r with
      | error e =>
        rw [Action.bind_of_error hexec, Action.bind_of_error hexec']
        exact ⟨_, .error e, s₄, t₄, _, _, _, rfl, rfl, hwent₂.trans (hwent₃.trans hwent₄), htwins₄,
          .failed hfill hrun⟩
      | ok n =>
        rw [Action.bind_of_ok hexec, Action.bind_of_ok hexec']
        -- the end was found, so the statement can be renewed for the next list
        obtain ⟨hdone, hengine⟩ := hfinished n rfl
        have hreaches₃ := hreaches.trans (hwent₂.trans hwent₃).reaches
        have hrenews₄ : Held.Renews q.database.connection take ⟨s₄.engine.engine, x.handle⟩ := by
          rw [hengine]
          exact hx.finished _ hreaches₃ hdone
        obtain ⟨d'', ns, s₅, t₅, id₅, p₅, done₅, hrest, hrest', hwent₅, htwins₅, hrounds⟩ :=
          ih htwins₄ (hreaches₃.trans hwent₄.reaches) hrenews₄ (changed + n)
        refine ⟨_, ns.map (n :: ·), s₅, t₅, id₅, p₅, done₅, ?_, ?_,
          hwent₂.trans (hwent₃.trans (hwent₄.trans hwent₅)), htwins₅, .ran hfill hrun hrounds⟩
        · rw [hrest]
          cases ns <;> rfl
        · rw [Action.bind_run, hrest']
          cases ns <;> rfl

/-! ### What a run sees -/

/-- A call neither steps a statement nor compiles one. -/
def Call.IsAside (call : Call) : Prop := call.isStep = false ∧ call.isPrepare = false

namespace History

variable {l r before after : History} {x : Exchange}

theorem countP_isStep_of_aside (hl : ∀ x ∈ l, x.call.IsAside) : l.countP (·.call.isStep) = 0 := by
  rw [List.countP_eq_zero]
  intro x hx
  simp [(hl x hx).1]

theorem countP_isPrepare_of_aside (hl : ∀ x ∈ l, x.call.IsAside) :
    l.countP (·.call.isPrepare) = 0 := by
  rw [List.countP_eq_zero]
  intro x hx
  simp [(hl x hx).2]

/-- A step comes after all calls that are none. -/
theorem skip (hl : ∀ y ∈ l, y.call.IsAside) (hx : x.call.isStep = true)
    (h : l ++ r = before ++ x :: after) :
    ∃ before', before = l ++ before' ∧ r = before' ++ x :: after := by
  rcases List.append_eq_append_iff.mp h with ⟨more, hbefore, hr⟩ | ⟨more, hlist, hr⟩
  · exact ⟨more, hbefore, hr⟩
  · cases more with
    | nil => exact ⟨[], by simpa using hlist.symm, by simpa using hr.symm⟩
    | cons y more =>
      obtain ⟨rfl, -⟩ := List.cons.inj hr
      have hnot := (hl x (by rw [hlist]; simp)).1
      rw [hx] at hnot
      cases hnot

end History

section

variable {c : ConnectionHandle} {n : Nat} {values : List Binding} {d : History}

theorem Filling.calls {r : Except Error Unit} (h : Filling c p n values d r) :
    ∀ x ∈ d, x.call.IsAside := by
  induction h with
  | nil n => simp
  | set h ih => simpa [Call.IsAside, Call.isStep, Call.isPrepare] using ih
  | refused hcode message extended =>
    simp [askedFor, Call.IsAside, Call.isStep, Call.isPrepare]

/-- When all were set, that is what was set. -/
theorem Filling.settings (h : Filling c p n values d (.ok ())) :
    History.settings d = Setting.placed p n values := by
  generalize hr : (Except.ok () : Except Error Unit) = r at h
  induction h with
  | nil n => rfl
  | set h ih =>
    rw [← List.singleton_append, History.settings_append, ih hr]
    rfl
  | refused hcode message extended => cases hr

/-- One step comes first. -/
theorem Executed.calls {r : Except Error Int32} (h : Executed c p d r) :
    ∃ code rest, d = ⟨.step p, code⟩ :: rest ∧ ∀ x ∈ rest, x.call.IsAside := by
  cases h with
  | done n => exact ⟨_, _, rfl, by simp [Call.IsAside, Call.isStep, Call.isPrepare]⟩
  | row => exact ⟨_, _, rfl, by simp⟩
  | failed hrow hdone message extended =>
    exact ⟨_, _, rfl, by simp [askedFor, Call.IsAside, Call.isStep, Call.isPrepare]⟩

end

/-- After all parameters were cleared, every one is known. -/
theorem Setting.latest?_clear_isSome (p : PreparedHandle) (i : Int32) (l : List Setting) :
    (latest? p i (.clear p :: l)).isSome = true := by
  have hclear : latest? p i [.clear p] = some .null := by simp [latest?, about]
  rw [← List.singleton_append, latest?_append, hclear]
  cases latest? p i l <;> rfl

/-- The calls that come before a run. -/
theorem settings_renewal {c : ConnectionHandle} {values : List Binding} {d : History}
    (h : Filling c p 0 values d (.ok ())) :
    History.settings (renewal p ++ d) = .clear p :: Setting.placed p 0 values := by
  rw [History.settings_append, h.settings]
  rfl

theorem Filling.renewal_calls {c : ConnectionHandle} {n : Nat} {values : List Binding} {d : History}
    {r : Except Error Unit} (h : Filling c p n values d r) :
    ∀ x ∈ renewal p ++ d, x.call.IsAside := by
  intro x hx
  rcases List.mem_append.mp hx with hx | hx
  · simp only [renewal, List.mem_cons, List.not_mem_nil, or_false] at hx
    rcases hx with rfl | rfl <;> exact ⟨rfl, rfl⟩
  · exact h.calls x hx

/-- The first run sees its own values and NULL. -/
theorem Filling.sees {c : ConnectionHandle} {values : List Binding} {rest : List (List Binding)}
    {d : History} (h : Filling c p 0 values d (.ok ())) :
    ∃ v, (values :: rest)[(renewal p ++ d).countP (·.call.isStep)]? = some v ∧
      ∀ i, Setting.latest? p i (History.settings (renewal p ++ d)) =
        Setting.latest? p i (.clear p :: Setting.placed p 0 v) := by
  have hnone := History.countP_isStep_of_aside h.renewal_calls
  refine ⟨values, by rw [hnone]; rfl, fun i => ?_⟩
  rw [settings_renewal h]

/-- Each list is run by the step of its number, and this sees its own values and NULL. -/
theorem Rounds.sees {c : ConnectionHandle} {params : List (List Binding)} {d : History}
    {r : Except Error (List Int32)} (h : Rounds c p params d r) {before after : History} {code : Code}
    (hd : d = before ++ ⟨.step p, code⟩ :: after) :
    ∃ values, params[before.countP (·.call.isStep)]? = some values ∧
      ∀ i, Setting.latest? p i before.settings =
        Setting.latest? p i (.clear p :: Setting.placed p 0 values) := by
  induction h generalizing before with
  | nil => simp at hd
  | unbound hfill =>
    have hstep := (hfill.renewal_calls ⟨.step p, code⟩ (by rw [hd]; simp)).1
    cases hstep
  | failed hfill hrun =>
    obtain ⟨code', later, rfl, hlater⟩ := hrun.calls
    rw [← List.append_assoc] at hd
    obtain ⟨more, rfl, hmore⟩ := History.skip hfill.renewal_calls rfl hd
    cases more with
    | nil =>
      rw [List.append_nil]
      exact hfill.sees
    | cons y more =>
      obtain ⟨-, hlast⟩ := List.cons.inj hmore
      have hstep := (hlater ⟨.step p, code⟩ (by rw [hlast]; simp)).1
      cases hstep
  | ran hfill hrun hrest ih =>
    obtain ⟨code', later, rfl, hlater⟩ := hrun.calls
    rw [← List.append_assoc] at hd
    obtain ⟨more, rfl, hmore⟩ := History.skip hfill.renewal_calls rfl hd
    cases more with
    | nil =>
      rw [List.append_nil]
      exact hfill.sees
    | cons y more =>
      obtain ⟨rfl, hnext⟩ := List.cons.inj hmore
      obtain ⟨before, rfl, hbefore⟩ := History.skip hlater rfl hnext
      obtain ⟨values, hvalues, hsees⟩ := ih hbefore
      have hcount := History.countP_isStep_of_aside hfill.renewal_calls
      have hcount' := History.countP_isStep_of_aside hlater
      refine ⟨values, ?_, fun i => ?_⟩
      · rw [List.countP_append, hcount, List.countP_cons_of_pos rfl, List.countP_append, hcount',
          Nat.zero_add, Nat.zero_add, List.getElem?_cons_succ]
        exact hvalues
      · have hsome := Setting.latest?_clear_isSome p i (Setting.placed p 0 values)
        rw [← hsees i] at hsome ⊢
        obtain ⟨value, hvalue⟩ := Option.isSome_iff_exists.mp hsome
        rw [← List.cons_append, ← List.append_assoc, History.settings_append, Setting.latest?_append,
          hvalue]
        rfl

end GuardedSql
