import GuardedSql.Proofs.Preparation
import GuardedSql.Proofs.Settings
import GuardedSql.Proofs.Uses

/-!
# What the parameters of a statement hold

The library keeps no copy of what was bound; whether a reset or a read leaves it alone is up to the
engine. On an engine that keeps parameters through these and through a value that it refuses because
there is no such parameter or because the statement is at work, a parameter holds what the last
accepted call about it says, through any use of the statement and of its views. The operations that
make such calls leave everything else alone: where statements stand, and which views can be read.
-/

namespace GuardedSql

/-- What the parameters of an engine's statements hold, with the rules by which that changes. -/
structure ParameterView (σ : Type) [Engine σ] where
  /-- The value of a parameter. -/
  value : σ → PreparedHandle → Int32 → Cell
  /-- A statement that was just prepared has no values yet. -/
  fresh : ∀ {c : ConnectionHandle} {sql : String} {e : σ} {p : PreparedHandle},
    (Engine.call (.prepare c sql) e).1 = (Code.ok, some p) →
      ∀ i, value (Engine.call (.prepare c sql) e).2 p i = .null
  /-- An accepted value goes to its parameter and nowhere else. -/
  accepted : ∀ {p : PreparedHandle} {i : Int32} {v : NativeValue} {copied : Bool} {e : σ},
    (Engine.call (.bind p i v copied) e).1 = Code.ok → ∀ q j,
      value (Engine.call (.bind p i v copied) e).2 q j =
        if q = p ∧ j = i then .ofNative v else value e q j
  /-- A value for no parameter, or for a statement at work, goes nowhere. -/
  refused : ∀ {p : PreparedHandle} {i : Int32} {v : NativeValue} {copied : Bool} {e : σ},
    (Engine.call (.bind p i v copied) e).1 = Code.range ∨
      (Engine.call (.bind p i v copied) e).1 = Code.misuse → ∀ q j,
      value (Engine.call (.bind p i v copied) e).2 q j = value e q j
  /-- Clearing sets all parameters of a statement to NULL. -/
  cleared : ∀ {p : PreparedHandle} {e : σ},
    (Engine.call (.clearBindings p) e).1 = Code.ok → ∀ q j,
      value (Engine.call (.clearBindings p) e).2 q j = if q = p then .null else value e q j
  /-- Clearing that is refused does nothing. -/
  uncleared : ∀ {p : PreparedHandle} {e : σ},
    (Engine.call (.clearBindings p) e).1 ≠ Code.ok → ∀ q j,
      value (Engine.call (.clearBindings p) e).2 q j = value e q j
  /-- Steps, resets and inquiries keep all values. -/
  kept : ∀ {call : Call}, call.moves = true ∨ call.isInquiry = true → ∀ (e : σ) q j,
    value (Engine.call call e).2 q j = value e q j

/-! ### The operations -/

/-- What can be done with statements and views while their parameters are watched. -/
inductive Handling where
  /-- Uses a statement. -/
  | use (q : Statement) (u : Usage)
  /-- Sets a named parameter, with or without a copy. -/
  | bindNamedAs (q : Statement) (name : String) (value : Binding) (copied : Bool)
  /-- Reads a column of the present row. -/
  | readAt (q : Statement) (index : Int32) (g : Getter)
  /-- Reads a named column of the present row. -/
  | readNamed (q : Statement) (name : String) (g : Getter)
  /-- Reads a column that was taken before. -/
  | read (v : Column) (g : Getter)
  /-- Goes on with a walk. -/
  | next (r : Rows)

namespace Handling

/-- Does an operation; the result is dropped. -/
def act {σ : Type} [Engine σ] : Handling → Action σ Unit
  | use q u => u.act q
  | bindNamedAs q name value copied => q.bindNamedAs name value copied
  | readAt q index g => do let _ ← g.read (← q.column index)
  | readNamed q name g => do let _ ← g.read (← q.columnNamed name)
  | read v g => do let _ ← g.read v
  | next r => do let _ ← r.next

/-- Whether it is about parameters. -/
def binds : Handling → Bool
  | use _ u => u.binds
  | bindNamedAs .. => true
  | _ => false

/-- The store after some operations. -/
def run {σ : Type} [Engine σ] (ops : List Handling) (s : Store σ) : Store σ :=
  ops.foldl (fun s h => (h.act s).2) s

end Handling

/-! ### Their calls -/

section

variable {σ : Type} [Engine σ]

/-- What only inquires may be among operations that also move. -/
theorem Looks.moves {E : Error → Prop} {α : Type} {a : Action σ α} (ha : Looks E a) :
    Confined Call.Moves a := ha.asks.confined.mono fun _ hc => .inr hc.1

namespace Handling

variable {h : Handling}

theorem act_asks (hb : h.binds = true) : Asks (σ := σ) Call.Binds h.act := by
  cases h with
  | use q u => exact u.act_asks hb q
  | bindNamedAs q name value copied =>
    exact .of_follows (fun _ => Statement.bindNamedAs_does name value copied)
      (fun _ _ _ hd x hx => (hd.1 x hx).2) fun _ => Call.not_moves_of_binds
  | _ => cases hb

theorem act_confined (hb : h.binds = false) : Confined (σ := σ) Call.Moves h.act := by
  cases h with
  | use q u => exact u.act_confined hb q
  | bindNamedAs => cases hb
  | readAt q index g =>
    refine Looks.moves (.bind (.of_inquires fun _ => Statement.column_inquires index) fun v => ?_)
    exact .discard (g.read_looks v)
  | readNamed q name g =>
    refine Looks.moves (.bind (.of_inquires fun _ => Statement.columnNamed_inquires name) fun v => ?_)
    exact .discard (g.read_looks v)
  | read v g => exact Looks.moves (.discard (g.read_looks v))
  | next r =>
    exact .discard (.of_follows (fun _ => Rows.next_follows) fun _ _ _ hd x hx => (hd.1 x hx).2)

/-- All operations make the calls of a use, and no others. -/
theorem act_uses (h : Handling) : Confined (σ := σ) (·.isUse = true) h.act := by
  cases hb : h.binds with
  | true =>
    refine (act_asks hb).confined.mono fun call hc => ?_
    rcases hc with hc | hc <;> simp [Call.isUse, hc]
  | false =>
    refine (act_confined hb).mono fun call hc => ?_
    rcases hc with hc | hc <;> simp [Call.isUse, hc]

/-- What those calls keep, a run keeps. -/
theorem run_keeps {I : σ → Prop} (hI : KeptBy (·.isUse = true) I) (ops : List Handling) {s : Store σ}
    (hs : I s.engine) : I (run ops s).engine := by
  induction ops generalizing s with
  | nil => exact hs
  | cons h ops ih => exact ih (h.act_uses.makes.keeps hI s hs)

/-- Every statement stays under its name. -/
theorem run_handleOf (ops : List Handling) (s : Store σ) (id : CursorId) :
    (run ops s).handleOf id = s.handleOf id := by
  induction ops generalizing s with
  | nil => rfl
  | cons h ops ih => exact (ih _).trans (h.act_uses.handles s id)

end Handling

/-! ### The values -/

namespace ParameterView

variable (V : ParameterView σ)

/-- A call of a use changes what its setting is about, unless it is a bind that fails in some other
way than those that are known to change nothing. -/
theorem value_call {call : Call} (h : call.isUse = true) (e : σ)
    (horderly : Exchange.isOrderly ⟨call, (Engine.call call e).1⟩ = true) (q : PreparedHandle) (j : Int32) :
    V.value (Engine.call call e).2 q j =
      ((Exchange.setting? ⟨call, (Engine.call call e).1⟩).bind (·.about q j)).getD
        (V.value e q j) := by
  cases hb : call.binds with
  | false =>
    have hkept : call.moves = true ∨ call.isInquiry = true := by
      simpa [Call.isUse, hb] using h
    rw [V.kept hkept, Exchange.setting?_of_not_binds hb]
    rfl
  | true =>
    cases call with
    | bind p i v copied =>
      by_cases hcode : (Engine.call (.bind p i v copied) e).1 = Code.ok
      · have hsetting : Exchange.setting? ⟨.bind p i v copied, (Engine.call (.bind p i v copied) e).1⟩ =
            some (.set p i (.ofNative v)) := if_pos hcode
        rw [V.accepted hcode, hsetting, Option.bind_some, Setting.about]
        by_cases hq : p = q ∧ i = j
        · obtain ⟨rfl, rfl⟩ := hq
          simp
        · rw [if_neg hq, if_neg fun heq => hq ⟨heq.1.symm, heq.2.symm⟩]
          rfl
      · have hsetting : Exchange.setting? ⟨.bind p i v copied, (Engine.call (.bind p i v copied) e).1⟩ =
            none := if_neg hcode
        rw [V.refused (Exchange.refused_of_isOrderly horderly hcode), hsetting]
        rfl
    | clearBindings p =>
      by_cases hcode : (Engine.call (.clearBindings p) e).1 = Code.ok
      · have hsetting : Exchange.setting? ⟨.clearBindings p, (Engine.call (.clearBindings p) e).1⟩ =
            some (.clear p) := if_pos hcode
        rw [V.cleared hcode, hsetting, Option.bind_some, Setting.about]
        by_cases hq : p = q
        · subst hq
          simp
        · rw [if_neg hq, if_neg (Ne.symm hq)]
          rfl
      · have hsetting : Exchange.setting? ⟨.clearBindings p, (Engine.call (.clearBindings p) e).1⟩ =
            none := if_neg hcode
        rw [V.uncleared hcode, hsetting]
        rfl
    | _ => cases hb

/-- On an orderly record, the parameters hold what the last settings in it give them. -/
def Follows (e : σ) (r : Recorder σ) : Prop :=
  History.Orderly r.exchanges → ∀ p i, V.value r.engine p i =
    (Setting.latest? p i (History.settings r.exchanges)).getD (V.value e p i)

/-- That stays so with every call of a use. -/
theorem follows_keptBy (e : σ) : KeptBy (·.isUse = true) (V.Follows e) := by
  intro call r hcall hr horderly p i
  let x : Exchange := ⟨call, (Engine.call call r.engine).1⟩
  have hexchanges : (Engine.call call r).2.exchanges = r.exchanges ++ [x] := rfl
  rw [hexchanges] at horderly ⊢
  obtain ⟨hbefore, hnow⟩ := History.orderly_append.mp horderly
  have hlast : Setting.latest? p i (History.settings [x]) = x.setting?.bind (·.about p i) := by
    cases hx : x.setting? <;> simp [History.settings, Setting.latest?, hx]
  rw [History.settings_append, Setting.latest?_append, hlast]
  refine (V.value_call hcall r.engine (hnow x List.mem_cons_self) p i).trans ?_
  rw [hr hbefore p i]
  cases x.setting?.bind (·.about p i) <;> rfl

theorem follows_recording (s : Store σ) : V.Follows s.engine s.recording.engine :=
  fun _ _ _ => rfl

/-- So it is after one operation. -/
theorem value_observe (h : Handling) (s : Store σ)
    (horderly : History.Orderly (observe h.act s).exchanges) (p : PreparedHandle) (i : Int32) :
    V.value (observe h.act s).store.engine p i =
      (Setting.latest? p i (History.settings (observe h.act s).exchanges)).getD
        (V.value s.engine p i) :=
  h.act_uses.makes.keeps (V.follows_keptBy s.engine) s.recording (V.follows_recording s) horderly p i

/-- A statement that was just prepared has no values. -/
theorem value_prepared {db : Database} {sql : String} {s s' : Store σ} {q : Statement}
    (hq : Statement.prepare db sql s = (.ok q, s')) :
    ∃ p, s'.handleOf q.cursor = some p ∧ ∀ i, V.value s'.engine p i = .null := by
  obtain ⟨d, engine, hanswers, ⟨e, -, hrun⟩ | ⟨k, hpreparing, hrun⟩⟩ :=
    CursorId.prepare_cases db.connection sql s
  · rw [Statement.prepare, Action.bind_of_error hrun] at hq
    cases hq
  · rw [Statement.prepare, Action.bind_of_ok hrun] at hq
    obtain ⟨rfl, rfl⟩ := Action.pure_eq_ok hq
    refine ⟨k.handle, Store.handleOf_of_some (Table.get?_set_self _ _ _), ?_⟩
    -- the columns are counted and named by inquiries, which keep the values
    have hkept : KeptBy (·.isInquiry = true) fun e => ∀ i, V.value e k.handle i = .null :=
      fun call e hc he i => (V.kept (.inr hc) e k.handle i).trans (he i)
    obtain ⟨rest, rfl, hrest⟩ := hpreparing.of_ok
    cases hanswers with
    | @call _ _ _ e₁ _ _ hcall hanswers =>
      have hcode : (Engine.call (.prepare db.connection sql) s.engine).1 = (Code.ok, some k.handle) :=
        congrArg Prod.fst hcall
      have hfresh := V.fresh hcode
      rw [hcall] at hfresh
      exact hanswers.keeps hkept (fun x hx => (hrest x hx).1) hfresh

end ParameterView

/-! ### What is left alone -/

/-- What is found out by looking at a cursor does not depend on the rest of the store. -/
theorem CursorId.live_bind_congr {τ α : Type} {id : CursorId} {f : Cursor → Action τ α}
    {s s' : Store τ} (h : s'.cursors = s.cursors) (hf : ∀ k, (f k s').1 = (f k s).1) :
    ((id.live >>= f) s').1 = ((id.live >>= f) s).1 := by
  cases hk : s.cursors.get? id with
  | none =>
    have hk' : s'.cursors.get? id = none := by rw [h, hk]
    rw [Action.bind_of_error (CursorId.live_of_none hk),
      Action.bind_of_error (CursorId.live_of_none hk')]
  | some k =>
    have hk' : s'.cursors.get? id = some k := by rw [h, hk]
    rw [Action.bind_of_ok (CursorId.live_of_some hk), Action.bind_of_ok (CursorId.live_of_some hk')]
    exact hf k

/-- Statements stand where they stood, and what can be read of them is the same. -/
structure Store.SameViews (s s' : Store σ) : Prop where
  /-- The cursors, with their runs, steps and flags. -/
  cursors : s'.cursors = s.cursors
  /-- Whether a statement is done. -/
  done : ∀ q : Statement, (q.isDone s').1 = (q.isDone s).1
  /-- Whether it stands on a row. -/
  hasRow : ∀ q : Statement, (q.hasRow s').1 = (q.hasRow s).1
  /-- Whether a column can be read. -/
  columns : ∀ v : Column, (v.current s').1 = (v.current s).1
  /-- Whether a row can be read. -/
  rows : ∀ r : Row, (r.current s').1 = (r.current s).1

omit [Engine σ] in
/-- The cursors decide all of that. -/
theorem Store.SameViews.of_cursors {s s' : Store σ} (h : s'.cursors = s.cursors) : s.SameViews s' where
  cursors := h
  done := fun q => CursorId.live_bind_congr h fun k => rfl
  hasRow := fun q => CursorId.live_bind_congr h fun k => rfl
  columns := fun v => CursorId.live_bind_congr h fun k => by
    rw [Action.bind_run, Action.bind_run, require_run, require_run]
    cases k.checkCurrent v.stamp <;> rfl
  rows := fun r => CursorId.live_bind_congr h fun k => by
    rw [Action.bind_run, Action.bind_run, require_run, require_run]
    cases k.checkCurrent r.stamp <;> rfl

namespace Handling

/-- What an operation does to the parameters of all statements, and what it leaves alone. -/
structure Frames (h : Handling) (V : ParameterView σ) (s : Store σ) : Prop where
  /-- The parameters hold what its settings give them, or what they held. -/
  values : History.Orderly (observe h.act s).exchanges → ∀ p i, V.value (observe h.act s).store.engine p i =
    (Setting.latest? p i (History.settings (observe h.act s).exchanges)).getD
      (V.value s.engine p i)
  /-- If it is not about parameters, there are no settings. -/
  plain : h.binds = false → History.settings (observe h.act s).exchanges = []
  /-- If it is about parameters, statements and views do not notice. -/
  views : h.binds = true → s.SameViews (observe h.act s).store

theorem frames (h : Handling) (V : ParameterView σ) (s : Store σ) : h.Frames V s where
  values := V.value_observe h s
  plain := fun hb => by
    refine History.settings_of_not_binds fun x hx => ?_
    have hmoves : x.call.Moves := (act_confined hb).makes.recorded s x hx
    exact Call.binds_of_moves hmoves
  views := fun hb => .of_cursors (act_asks hb s.recording).observe.1

end Handling

/-- Setting a list of values leaves the parameters behind it as they were, whether or not one of
the values is refused. -/
theorem Statement.Sets.bindAll_beyond {q : Statement} {p : PreparedHandle} {s : Store σ}
    (h : q.Sets p s) (V : ParameterView σ) (values : List Binding)
    (horderly : History.Orderly (observe (q.bindAll values) s).exchanges) {i : Int32}
    (hi : ∀ n < values.length, Int32.ofNat (n + 1) ≠ i) :
    V.value (observe (q.bindAll values) s).store.engine p i = V.value s.engine p i := by
  have hvalues := ((Handling.use q (.bindAll values)).frames V s).values horderly p i
  have hnone : Setting.latest? p i (History.settings (observe (q.bindAll values) s).exchanges) =
      none := by
    refine (h.bindAll values).latest? fun n hn => ?_
    rw [Nat.zero_add]
    exact hi n hn
  refine hvalues.trans ?_
  rw [show (Handling.use q (.bindAll values)).act = q.bindAll values from rfl, hnone]
  rfl

/-- On every engine whose parameters can be seen, for every statement that was just prepared and any
operations on statements and views in which no value was refused but for want of a parameter or
because the statement was at work: each parameter of it holds what the last setting of it since then
gives it, or NULL. At every such point the operations on its parameters set what they report and
nothing else, a list of values leaves the parameters behind it alone, and no operation sets anything
unless it is about parameters. Those that are leave the statements and views alone. -/
theorem parameters_follow_bindings (V : ParameterView σ) {db : Database} {sql : String}
    {s₀ s : Store σ} {q : Statement} (hq : Statement.prepare db sql s₀ = (.ok q, s))
    (ops : List Handling)
    (horderly : History.Orderly (Handling.run ops s.recording).engine.exchanges) :
    ∃ p, s.handleOf q.cursor = some p ∧
      let s' := Handling.run ops s.recording
      (∀ i, V.value s'.plain.engine p i =
        (Setting.latest? p i (History.settings s'.engine.exchanges)).getD .null) ∧
      q.Sets p s'.plain ∧
      (∀ values, History.Orderly (observe (q.bindAll values) s'.plain).exchanges →
        ∀ i, (∀ n < values.length, Int32.ofNat (n + 1) ≠ i) →
          V.value (observe (q.bindAll values) s'.plain).store.engine p i =
            V.value s'.plain.engine p i) ∧
      ∀ h : Handling, h.Frames V s'.plain := by
  obtain ⟨p, hp, hnull⟩ := V.value_prepared hq
  refine ⟨p, hp, ?_⟩
  intro s'
  have hfollows : V.Follows s.engine s'.engine :=
    Handling.run_keeps (V.follows_keptBy s.engine) ops (V.follows_recording s)
  have hhandle : s'.plain.handleOf q.cursor = some p :=
    (Handling.run_handleOf ops s.recording q.cursor).trans hp
  obtain ⟨k, hk, rfl⟩ := Option.map_eq_some_iff.mp hhandle
  have hsets : q.Sets k.handle s'.plain := Statement.sets_of_some hk
  refine ⟨fun i => ?_, hsets, fun values hvalues i hi => hsets.bindAll_beyond V values hvalues hi,
    fun h => h.frames V s'.plain⟩
  rw [← hnull i]
  exact hfollows horderly k.handle i

end

/-! ### An engine with two parameters -/

/-- An engine with one statement, that of `SELECT :a, :b`. -/
structure TwoParameters where
  /-- What its parameters hold. -/
  value : Int32 → Cell
  /-- How often it was stepped since it was prepared or rewound. -/
  steps : Nat := 0
  /-- The code of the last call. -/
  code : Code := Code.ok

/-- The statement takes values before its first step only, and after one row it is done. -/
instance : Engine TwoParameters where
  call c e :=
    match c with
    | .prepare .. => ((Code.ok, some ⟨0⟩), ⟨fun _ => .null, 0, Code.ok⟩)
    | .bind p i v _ =>
      if p ≠ ⟨0⟩ ∨ e.steps ≠ 0 then (Code.misuse, { e with code := Code.misuse })
      else if i < 1 ∨ 2 < i then (Code.range, { e with code := Code.range })
      else (Code.ok, ⟨fun j => if j = i then .ofNative v else e.value j, 0, Code.ok⟩)
    | .clearBindings p => (Code.ok, if p = ⟨0⟩ then { e with value := fun _ => .null } else e)
    | .parameterIndex _ name => (if name = ":a" then 1 else if name = ":b" then 2 else 0, e)
    | .parameterCount _ => (2, e)
    | .columnCount _ => (2, e)
    | .columnName _ i => (some (if i = 0 then ":a" else ":b").toUTF8, e)
    | .step _ =>
      let code := if e.steps % 2 = 0 then Code.row else Code.done
      (code, { e with steps := e.steps + 1, code })
    | .reset _ => (Code.ok, { e with steps := 0, code := Code.ok })
    | .errorMessage _ => (some (e.code.description.toUTF8), e)
    | .extendedErrorCode _ => (e.code, e)
    | _ => (default, e)

/-- Its parameters can be seen. -/
def TwoParameters.view : ParameterView TwoParameters where
  value := fun e p i => if p = ⟨0⟩ then e.value i else .null
  fresh := by
    intro c sql e p h i
    obtain rfl : (⟨0⟩ : PreparedHandle) = p := Option.some.inj (congrArg Prod.snd h)
    exact if_pos rfl
  accepted := by
    intro p i v copied e h q j
    by_cases hp : p ≠ ⟨0⟩ ∨ e.steps ≠ 0
    · simp only [Engine.call, if_pos hp] at h
      cases h
    · by_cases hi : i < 1 ∨ 2 < i
      · simp only [Engine.call, if_neg hp, if_pos hi] at h
        cases h
      · obtain rfl : p = ⟨0⟩ := by simpa using (not_or.mp hp).1
        simp only [Engine.call, if_neg hp, if_neg hi]
        by_cases hq : q = ⟨0⟩ <;> simp [hq]
  refused := by
    intro p i v copied e h q j
    by_cases hp : p ≠ ⟨0⟩ ∨ e.steps ≠ 0
    · simp only [Engine.call, if_pos hp]
    · by_cases hi : i < 1 ∨ 2 < i
      · simp only [Engine.call, if_neg hp, if_pos hi]
      · simp only [Engine.call, if_neg hp, if_neg hi] at h
        have hok : ¬(Code.ok = Code.range ∨ Code.ok = Code.misuse) := by decide
        exact absurd h hok
  cleared := by
    intro p e _ q j
    by_cases hp : p = ⟨0⟩
    · subst hp
      by_cases hq : q = ⟨0⟩ <;> simp [Engine.call, hq]
    · by_cases hq : q = p <;> simp [Engine.call, hp, hq]
  uncleared := fun h => absurd rfl h
  kept := by
    intro call h e q j
    cases call with
    | prepare | bind | clearBindings => rcases h with h | h <;> cases h
    | _ => rfl

/-- The statement of that engine. -/
def twoParameters : Statement := ⟨⟨⟨0⟩, ":memory:"⟩, "SELECT :a, :b", ⟨0⟩⟩

/-- The store in which it was just prepared. -/
def twoStore : Store TwoParameters :=
  (Statement.prepare ⟨⟨0⟩, ":memory:"⟩ "SELECT :a, :b" { engine := { value := fun _ => .null } }).2

/-- A value is set and the statement is stepped, so that the next value is refused; it is rewound, and
of three values two are set; the name of a third parameter is unknown. -/
def twoOperations : List Handling :=
  [.use twoParameters (.bindAs 1 (.int 7) true), .use twoParameters .step,
    .use twoParameters (.bindAs 2 (.int 8) true), .use twoParameters .reset,
    .use twoParameters (.bindAll [.int 1, .int 2, .int 3]),
    .bindNamedAs twoParameters ":c" (.int 4) true]

/-- After that the two parameters have the two values. -/
theorem parameters_follow_bindings_of_twoOperations :
    let s := (Handling.run twoOperations twoStore.recording).plain
    TwoParameters.view.value s.engine ⟨0⟩ 1 = .integer 1 ∧
      TwoParameters.view.value s.engine ⟨0⟩ 2 = .integer 2 := by
  have hprepared : Statement.prepare ⟨⟨0⟩, ":memory:"⟩ "SELECT :a, :b"
      { engine := { value := fun _ => .null } } = (.ok twoParameters, twoStore) := rfl
  have horderly : History.Orderly
      (Handling.run twoOperations twoStore.recording).engine.exchanges := by
    decide +kernel
  obtain ⟨p, hp, hvalues, -⟩ :=
    parameters_follow_bindings TwoParameters.view hprepared twoOperations horderly
  obtain rfl : (⟨0⟩ : PreparedHandle) = p := Option.some.inj hp
  exact ⟨(hvalues 1).trans rfl, (hvalues 2).trans rfl⟩

end GuardedSql
