import GuardedSql.Proofs.Renewal
import GuardedSql.Proofs.Settings

/-!
# Two runs at once

A statement and another one that cannot be told from it are set and run with the same results, and
they still cannot be told apart afterwards. The calls of the first are recorded: they are shown on the
way.
-/

namespace GuardedSql

variable {σ α β : Type} [Engine σ]

/-- A statement of which the calls are recorded, and another one in its place. -/
structure Twins (take : Supply σ) (q : Statement) (id : CursorId) (p p' : PreparedHandle)
    (done : Bool) (s : Store (Recorder σ)) (t : Store σ) : Prop where
  /-- The statement. -/
  left : ∃ k, s.cursors.get? q.cursor = some k ∧ k.handle = p ∧ k.done = done ∧ k.holders = 1
  /-- The other one. -/
  right : ∃ k, t.cursors.get? id = some k ∧ k.handle = p' ∧ k.done = done
  /-- They cannot be told apart. -/
  alike : Alike q.database.connection take ⟨s.engine.engine, p⟩ ⟨t.engine, p'⟩

/-- From one store to another some calls were recorded, which a statement may be used with. -/
structure Store.Went (c : ConnectionHandle) (p : PreparedHandle) (s : Store (Recorder σ))
    (d : History) (s' : Store (Recorder σ)) : Prop where
  /-- The calls. -/
  exchanges : s'.engine.exchanges = s.engine.exchanges ++ d
  /-- The engine. -/
  reaches : Reaches (Call.drives c p) s.engine.engine s'.engine.engine

namespace Store.Went

variable {c : ConnectionHandle} {p : PreparedHandle} {s s' s'' : Store (Recorder σ)}
  {d d' : History}

theorem refl (s : Store (Recorder σ)) : s.Went c p [] s := ⟨by simp, .refl _⟩

theorem trans (h : s.Went c p d s') (h' : s'.Went c p d' s'') : s.Went c p (d ++ d') s'' where
  exchanges := by rw [h'.exchanges, h.exchanges, List.append_assoc]
  reaches := h.reaches.trans h'.reaches

end Store.Went

/-- One of those calls. -/
theorem Store.Went.call {c : ConnectionHandle} {p : PreparedHandle} (call : Call)
    (h : call.drives c p) (s : Store (Recorder σ)) :
    s.Went c p [⟨call, (Engine.call call s.engine.engine).1⟩]
      { s with engine := (Engine.call call s.engine).2 } :=
  ⟨rfl, .call h _⟩

/-- Twins after a call on each of them. -/
theorem Twins.call {take : Supply σ} {q : Statement} {id : CursorId} {p p' : PreparedHandle}
    {done : Bool} {s : Store (Recorder σ)} {t : Store σ} (h : Twins take q id p p' done s t)
    {call call' : Call} (hafter : Alike q.database.connection take
      (Held.after ⟨s.engine.engine, p⟩ call) (Held.after ⟨t.engine, p'⟩ call')) :
    Twins take q id p p' done { s with engine := (Engine.call call s.engine).2 }
      { t with engine := (Engine.call call' t.engine).2 } :=
  ⟨h.left, h.right, hafter⟩

section

variable (take : Supply σ) (q : Statement) (id : CursorId) (p p' : PreparedHandle) (done : Bool)

/-- Two actions have the same results on twins, which remain so, and the calls of the first are as
`Q` says. -/
def Pairs (Q : History → Except Error α → Prop) (a : Action (Recorder σ) α) (b : Action σ α) :
    Prop :=
  ∀ s t, Twins take q id p p' done s t → ∃ d r s' t', a s = (r, s') ∧ b t = (r, t') ∧
    s.Went q.database.connection p d s' ∧ Twins take q id p p' done s' t' ∧ Q d r

end

namespace Pairs

variable {take : Supply σ} {q : Statement} {id : CursorId} {p p' : PreparedHandle} {done : Bool}
  {Q : History → Except Error α → Prop}

theorem pure {x : α} (h : Q [] (.ok x)) : Pairs take q id p p' done Q (pure x) (pure x) :=
  fun s t htwins => ⟨[], .ok x, s, t, rfl, rfl, .refl s, htwins, h⟩

theorem throw {e : Error} (h : Q [] (.error e)) :
    Pairs take q id p p' done Q (throw e) (throw e) :=
  fun s t htwins => ⟨[], .error e, s, t, rfl, rfl, .refl s, htwins, h⟩

theorem mono {Q' : History → Except Error α → Prop} {a : Action (Recorder σ) α} {b : Action σ α}
    (h : Pairs take q id p p' done Q a b) (hQ : ∀ d r, Q d r → Q' d r) :
    Pairs take q id p p' done Q' a b := by
  intro s t htwins
  obtain ⟨d, r, s', t', ha, hb, hwent, hlater, hd⟩ := h s t htwins
  exact ⟨d, r, s', t', ha, hb, hwent, hlater, hQ d r hd⟩

/-- A call about the connection comes first. -/
theorem bindAsk {call : Call} {f : call.Reply → Action (Recorder σ) α} {f' : call.Reply → Action σ α}
    (hcall : call.upkeep? = some q.database.connection)
    (h : ∀ reply, Pairs take q id p p' done (fun d r => Q (⟨call, reply⟩ :: d) r) (f reply)
      (f' reply)) :
    Pairs take q id p p' done Q (native call >>= f) (native call >>= f') := by
  intro s t htwins
  obtain ⟨hreply, hafter⟩ := (Alike.simulates _ _).ask htwins.alike call hcall
  have hsame : (Engine.call call t.engine).1 = (Engine.call call s.engine).1 := hreply.symm
  obtain ⟨d, r, s', t', ha, hb, hwent, hlater, hd⟩ := h _ _ _ (htwins.call hafter)
  refine ⟨_, r, s', t', ?_, ?_, (Store.Went.call call (.inl hcall) s).trans hwent, hlater, hd⟩
  · rw [Action.bind_of_ok (native_run _ _)]
    exact ha
  · rw [Action.bind_of_ok (native_run _ _), hsame]
    exact hb

/-- So does asking for the reason of a failure. -/
theorem bindReason {code : Code} {f : Error → Action (Recorder σ) α} {f' : Error → Action σ α}
    (h : ∀ message extended, Pairs take q id p p' done
      (fun d r => Q (askedFor q.database.connection message extended ++ d) r)
      (f (.native message.textOrEmpty code extended))
      (f' (.native message.textOrEmpty code extended))) :
    Pairs take q id p p' done Q (connectionError q.database.connection code >>= f)
      (connectionError q.database.connection code >>= f') := by
  rw [connectionError, connectionError, bind_assoc, bind_assoc]
  refine bindAsk rfl fun message => ?_
  rw [bind_assoc, bind_assoc]
  refine bindAsk rfl fun extended => ?_
  rw [pure_bind, pure_bind]
  exact h message extended

theorem check (code : Code) :
    Pairs take q id p p' done (code.Checked q.database.connection)
      (check q.database.connection code) (check q.database.connection code) := by
  unfold GuardedSql.check
  by_cases hcode : code = Code.ok
  · rw [if_neg (not_not.mpr hcode), if_neg (not_not.mpr hcode)]
    exact pure (.passed hcode)
  · rw [if_pos hcode, if_pos hcode]
    exact bindReason fun message extended => throw (.failed hcode message extended)

/-- One action after another. -/
theorem bind {R : History → Except Error β → Prop} {a : Action (Recorder σ) β} {a' : Action σ β}
    {f : β → Action (Recorder σ) α} {f' : β → Action σ α} (ha : Pairs take q id p p' done R a a')
    (hok : ∀ d x, R d (.ok x) →
      Pairs take q id p p' done (fun d' r => Q (d ++ d') r) (f x) (f' x))
    (herror : ∀ d e, R d (.error e) → Q d (.error e)) :
    Pairs take q id p p' done Q (a >>= f) (a' >>= f') := by
  intro s t htwins
  obtain ⟨d, r, s', t', hrun, hrun', hwent, hlater, hR⟩ := ha s t htwins
  cases r with
  | error e =>
    exact ⟨d, .error e, s', t', Action.bind_of_error hrun, Action.bind_of_error hrun', hwent, hlater,
      herror d e hR⟩
  | ok x =>
    obtain ⟨d', r, s'', t'', hnext, hnext', hwent', hlater', hQ⟩ := hok d x hR s' t' hlater
    exact ⟨d ++ d', r, s'', t'', (Action.bind_of_ok hrun).trans hnext,
      (Action.bind_of_ok hrun').trans hnext', hwent.trans hwent', hlater', hQ⟩

end Pairs

/-! ### Setting parameters -/

section

variable {take : Supply σ} {q : Statement} {id : CursorId} {p p' : PreparedHandle} {done : Bool}

/-- The calls of setting parameters from a place on, and what is reported. -/
inductive Filling (c : ConnectionHandle) (p : PreparedHandle) :
    Nat → List Binding → History → Except Error Unit → Prop where
  | nil (n : Nat) : Filling c p n [] [] (.ok ())
  | set {n : Nat} {value : Binding} {values : List Binding} {d : History} {r : Except Error Unit}
      (h : Filling c p (n + 1) values d r) :
      Filling c p n (value :: values) (⟨.bind p (Int32.ofNat (n + 1)) value.native true, Code.ok⟩ :: d) r
  | refused {n : Nat} {value : Binding} {values : List Binding} {code : Code}
      (hcode : code ≠ Code.ok) (message : NativeText) (extended : Code) :
      Filling c p n (value :: values)
        (⟨.bind p (Int32.ofNat (n + 1)) value.native true, code⟩ :: askedFor c message extended)
        (.error (.native message.textOrEmpty code extended))

/-- One parameter of both is set. -/
theorem bindAs_pairs (i : Int32) (value : Binding) (copied : Bool) :
    Pairs take q id p p' done
      (fun d r => ∃ code d', d = ⟨.bind p i value.native copied, code⟩ :: d' ∧
        code.Checked q.database.connection d' r)
      (q.bindAs i value copied) (Statement.bindAs { q with cursor := id } i value copied) := by
  intro s t htwins
  obtain ⟨hreply, hafter⟩ := (Alike.simulates _ _).bind htwins.alike i value.native copied
  have hsame : (Engine.call (.bind p' i value.native copied) t.engine).1 =
      (Engine.call (.bind p i value.native copied) s.engine).1 := hreply.symm
  have hfirst := Store.Went.call (c := q.database.connection) (.bind p i value.native copied)
    (.inr ⟨rfl, rfl⟩) s
  obtain ⟨d, r, s', t', hchecked, hchecked', hwent, hlater, hd⟩ :=
    Pairs.check (Engine.call (.bind p i value.native copied) s.engine).1 _ _ (htwins.call hafter)
  obtain ⟨k, hk, rfl, -⟩ := htwins.left
  obtain ⟨k', hk', rfl, -⟩ := htwins.right
  refine ⟨_, r, s', t', ?_, ?_, hfirst.trans hwent, hlater, _, d, rfl, hd⟩
  · rw [Statement.bindAs, Action.bind_of_ok (Statement.handle_of_some hk),
      Action.bind_of_ok (native_run _ _)]
    exact hchecked
  · rw [Statement.bindAs, Action.bind_of_ok (Statement.handle_of_some hk'),
      Action.bind_of_ok (native_run _ _), hsame]
    exact hchecked'

/-- The parameters are set in their order until one is refused. -/
theorem bindFrom_pairs (n : Nat) (values : List Binding) :
    Pairs take q id p p' done (Filling q.database.connection p n values)
      (q.bindFrom (Int32.ofNat (n + 1)) values)
      (Statement.bindFrom { q with cursor := id } (Int32.ofNat (n + 1)) values) := by
  induction values generalizing n with
  | nil => exact .pure (.nil n)
  | cons value values ih =>
    have hnext : Int32.ofNat (n + 1) + 1 = Int32.ofNat (n + 1 + 1) := by
      rw [Int32.ofNat_add (n + 1) 1]
      rfl
    refine .bind (bindAs_pairs (Int32.ofNat (n + 1)) value true) (fun d x hd => ?_) fun d e hd => ?_
    · obtain ⟨code, d', rfl, hchecked⟩ := hd
      cases hchecked with
      | passed hcode =>
        rw [hnext, hcode]
        exact (ih (n + 1)).mono fun d r h => .set h
    · obtain ⟨code, d', rfl, hchecked⟩ := hd
      cases hchecked with
      | failed hcode message extended => exact .refused hcode message extended

/-- All values are set from the first parameter on. -/
theorem bindAll_pairs (values : List Binding) :
    Pairs take q id p p' done (Filling q.database.connection p 0 values) (q.bindAll values)
      (Statement.bindAll { q with cursor := id } values) := bindFrom_pairs 0 values

/-! ### Running -/

/-- The calls of running a statement that is not done, and what is reported. -/
inductive Executed (c : ConnectionHandle) (p : PreparedHandle) :
    History → Except Error Int32 → Prop where
  | done (n : Int32) : Executed c p [⟨.step p, Code.done⟩, ⟨.changes c, n⟩] (.ok n)
  | row : Executed c p [⟨.step p, Code.row⟩] (.error .unexpectedRow)
  | failed {code : Code} (hrow : code ≠ Code.row) (hdone : code ≠ Code.done) (message : NativeText)
      (extended : Code) :
      Executed c p (⟨.step p, code⟩ :: askedFor c message extended)
        (.error (.native message.textOrEmpty code extended))

/-- Both are stepped. -/
theorem Twins.advance {s : Store (Recorder σ)} {t : Store σ} {k k' : Cursor}
    (h : Twins take q id k.handle k'.handle false s t) (hk : s.cursors.get? q.cursor = some k) :
    s.stepCode k = t.stepCode k' ∧
      Twins take q id k.handle k'.handle (decide (s.stepCode k = Code.done)) (s.advance q.cursor k)
        (t.advance id k') := by
  obtain ⟨hcode, hafter⟩ := (Alike.simulates _ _).step h.alike
  have hone : k.holders = 1 := by
    obtain ⟨k₀, hk₀, -, -, hone⟩ := h.left
    rw [hk] at hk₀
    cases hk₀
    exact hone
  have hsame : s.stepCode k = t.stepCode k' := hcode
  refine ⟨hsame, ⟨_, Table.get?_set_self _ _ _, rfl, rfl, hone⟩,
    ⟨_, Table.get?_set_self _ _ _, rfl, ?_⟩, hafter⟩
  rw [hsame]
  rfl

/-- Running both gives the same; when the end was found, the changed rows were counted. -/
theorem exec_twins {s : Store (Recorder σ)} {t : Store σ} (h : Twins take q id p p' false s t) :
    ∃ d r s' t' done, q.exec s = (r, s') ∧ Statement.exec { q with cursor := id } t = (r, t') ∧
      s.Went q.database.connection p d s' ∧ Twins take q id p p' done s' t' ∧
      Executed q.database.connection p d r ∧
      ∀ n, r = .ok n → Held.reply ⟨s.engine.engine, p⟩ (.step p) = Code.done ∧
        s'.engine.engine = ((Held.after ⟨s.engine.engine, p⟩ (.step p)).after
          (.changes q.database.connection)).engine := by
  obtain ⟨k, hk, rfl, hnot, -⟩ := h.left
  obtain ⟨k', hk', rfl, hnot'⟩ := h.right
  obtain ⟨hcode, htwins⟩ := h.advance hk
  have hadvance : s.Went q.database.connection k.handle [⟨.step k.handle, s.stepCode k⟩]
      (s.advance q.cursor k) := by
    have hstep := Store.Went.call (c := q.database.connection) (.step k.handle) (.inr ⟨rfl, rfl⟩) s
    exact ⟨hstep.exchanges, hstep.reaches⟩
  rw [Statement.exec_run hk hnot, Statement.exec_run (p := { q with cursor := id }) hk' hnot', ← hcode]
  by_cases hdone : s.stepCode k = Code.done
  · rw [if_pos hdone, if_pos hdone]
    obtain ⟨hreply, hafter⟩ :=
      (Alike.simulates _ _).ask htwins.alike (.changes q.database.connection) rfl
    have hchanges := Store.Went.call (p := k.handle) (.changes q.database.connection)
      (.inl rfl) (s.advance q.cursor k)
    refine ⟨_, _, _, _, _, rfl, Prod.ext (congrArg Except.ok hreply.symm) rfl,
      hadvance.trans hchanges, htwins.call hafter, ?_, ?_⟩
    · rw [hdone]
      exact .done _
    · rintro n -
      exact ⟨hdone, rfl⟩
  · rw [if_neg hdone, if_neg hdone]
    by_cases hrow : s.stepCode k = Code.row
    · rw [if_pos hrow, if_pos hrow]
      refine ⟨_, _, _, _, _, rfl, rfl, hadvance, htwins, ?_, by rintro n ⟨⟩⟩
      rw [hrow]
      exact .row
    · rw [if_neg hrow, if_neg hrow]
      have hfail : Pairs take q id k.handle k'.handle (decide (s.stepCode k = Code.done))
          (fun d r => Executed q.database.connection k.handle (⟨.step k.handle, s.stepCode k⟩ :: d) r ∧
            ∀ n, r ≠ .ok n)
          (connectionError q.database.connection (s.stepCode k) >>= throw)
          (connectionError q.database.connection (s.stepCode k) >>= throw) :=
        .bindReason fun message extended => .throw ⟨by simpa using .failed hrow hdone message extended,
          by simp⟩
      obtain ⟨d, r, s', t', hrun, hrun', hwent, hlater, hexecuted, hnever⟩ := hfail _ _ htwins
      exact ⟨_, r, s', t', _, hrun, hrun', hadvance.trans hwent, hlater, hexecuted,
        fun n hn => absurd hn (hnever n)⟩

end

end GuardedSql
