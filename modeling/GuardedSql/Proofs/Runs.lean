import GuardedSql.Proofs.History

/-!
# Runs through one statement

All that an operation does to a store, it does call by call. `Store.Ran` lists what one call may do
when the operation goes through one statement, or through none: a step or a reset of that statement,
which its cursor takes note of, or any other call that is about no other statement and neither
compiles nor releases one. What each of these keeps, a run keeps, by induction. `Follows` says of an
action that its calls and its result are of a kind, and has one rule for each way to build actions.
-/

namespace GuardedSql

variable {σ α β : Type}

/-- The statement behind a name, if it is there. -/
def Store.handleOf (s : Store σ) (id : CursorId) : Option PreparedHandle :=
  (s.cursors.get? id).map Cursor.handle

/-- A property of engines that calls of a kind keep. -/
def KeptBy [Engine σ] (P : Call → Prop) (I : σ → Prop) : Prop :=
  ∀ call e, P call → I e → I (Engine.call call e).2

/-! ### Answers -/

/-- An engine answers some calls, one after the other, and goes from one state to another. -/
inductive Answers [Engine σ] : σ → History → σ → Prop where
  | nothing (e : σ) : Answers e [] e
  | call {c : Call} {reply : c.Reply} {e e' e'' : σ} {d : History}
      (hcall : Engine.call c e = (reply, e')) (h : Answers e' d e'') :
      Answers e (⟨c, reply⟩ :: d) e''

namespace Answers

variable [Engine σ] {e e' e'' : σ} {d d' : History} {P : Call → Prop} {I : σ → Prop}

/-- One call is answered. -/
theorem single {c : Call} {reply : c.Reply} (h : Engine.call c e = (reply, e')) :
    Answers e [⟨c, reply⟩] e' := .call h (.nothing e')

/-- Calls are answered one after another. -/
theorem trans (h : Answers e d e') (h' : Answers e' d' e'') : Answers e (d ++ d') e'' := by
  induction h with
  | nothing e => exact h'
  | call hcall _ ih => exact .call hcall (ih h')

/-- Between any two of the calls there is a state of the engine. -/
theorem split (h : Answers e (d ++ d') e'') : ∃ e', Answers e d e' ∧ Answers e' d' e'' := by
  induction d generalizing e with
  | nil => exact ⟨e, .nothing e, h⟩
  | cons x d ih =>
    cases h with
    | call hcall h =>
      obtain ⟨e', hd, hd'⟩ := ih h
      exact ⟨e', .call hcall hd, hd'⟩

/-- What the calls of a kind keep is kept. -/
theorem keeps (h : Answers e d e') (hI : KeptBy P I) (hP : ∀ x ∈ d, P x.call) (he : I e) : I e' := by
  induction h with
  | nothing e => exact he
  | @call c reply e e₁ e₂ d hcall _ ih =>
    have hnext := hI c e (hP _ List.mem_cons_self) he
    rw [hcall] at hnext
    exact ih (fun x hx => hP x (List.mem_cons_of_mem _ hx)) hnext

/-- The calls are those that were recorded meanwhile. -/
theorem recorded {r r' : Recorder σ} (h : Answers r d r') :
    r'.exchanges = r.exchanges ++ d ∧ Answers r.engine d r'.engine := by
  induction h with
  | nothing r => exact ⟨(List.append_nil _).symm, .nothing _⟩
  | call hcall _ ih =>
    cases hcall
    exact ⟨by rw [ih.1, List.append_assoc]; rfl, .call rfl ih.2⟩

end Answers

/-! ### Runs -/

/-- The calls that leave the progress of all statements alone, are about the statement of a handle or
about none, and neither compile nor release one. -/
structure Call.Rests (h : Option PreparedHandle) (c : Call) : Prop where
  /-- A call about a statement is about this one. -/
  about : ∀ p, c.prepared? = some p → h = some p
  /-- It neither advances nor rewinds it. -/
  still : c.moves = false
  /-- No statement comes. -/
  keeps : c.isPrepare = false
  /-- No statement goes. -/
  leaves : c.isFinalize = false

/-- A call about the statement. -/
theorem Call.Rests.self {c : Call} {p : PreparedHandle} (h : c.prepared? = some p)
    (hm : c.moves = false) (hf : c.isFinalize = false) : c.Rests (some p) where
  about := fun q hq => h.symm.trans hq
  still := hm
  keeps := by
    cases c with
    | prepare c sql => cases h
    | _ => rfl
  leaves := hf

/-- A call about no statement that does not compile one. -/
theorem Call.Rests.apart {c : Call} {h : Option PreparedHandle} (hc : c.prepared? = none)
    (hk : c.isPrepare = false) : c.Rests h where
  about := fun q hq => by
    rw [hc] at hq
    cases hq
  still := by
    cases c with
    | step p => cases hc
    | reset p => cases hc
    | _ => rfl
  keeps := hk
  leaves := by
    cases c with
    | finalize p => cases hc
    | _ => rfl

/-- A call that keeps a connection up. -/
theorem Call.Rests.upkeep {c : Call} {h : Option PreparedHandle} {connection : ConnectionHandle}
    (hc : c.upkeep? = some connection) : c.Rests h := by
  have hapart := Call.isApart_of_upkeep? hc
  rw [Call.isApart, Bool.and_eq_true, Option.isNone_iff_eq_none, Bool.not_eq_true'] at hapart
  exact .apart hapart.1 hapart.2

/-- From one store to another some calls were made through the statement of a name. -/
inductive Store.Ran [Engine σ] (id : CursorId) : Store σ → History → Store σ → Prop where
  | nothing (s : Store σ) : Ran id s [] s
  /-- A call that only the engine takes note of. -/
  | call {s s' : Store σ} {c : Call} {reply : c.Reply} {engine : σ} {d : History}
      (hcall : Engine.call c s.engine = (reply, engine)) (hrests : c.Rests (s.handleOf id))
      (h : Ran id { s with engine } d s') : Ran id s (⟨c, reply⟩ :: d) s'
  /-- A statement that is not done is advanced. -/
  | step {s s' : Store σ} {k : Cursor} {d : History} (hk : s.cursors.get? id = some k)
      (hdone : k.done = false) (h : Ran id (s.advance id k) d s') :
      Ran id s (⟨.step k.handle, s.stepCode k⟩ :: d) s'
  /-- It is rewound. -/
  | reset {s s' : Store σ} {k : Cursor} {d : History} (hk : s.cursors.get? id = some k)
      (h : Ran id (s.ready id k) d s') : Ran id s (⟨.reset k.handle, s.resetCode k⟩ :: d) s'

namespace Store

variable [Engine σ] {s s' s'' : Store σ} {id j : CursorId} {k : Cursor} {d d' : History}

/-- A step leaves the statements under their names. -/
theorem handleOf_advance (hk : s.cursors.get? id = some k) :
    (s.advance id k).handleOf j = s.handleOf j := by
  rw [handleOf, handleOf, advance]
  by_cases hj : j = id
  · subst hj
    rw [Table.get?_set_self, hk]
    rfl
  · rw [Table.get?_set_of_ne _ _ hj]

/-- So does a reset. -/
theorem handleOf_ready (hk : s.cursors.get? id = some k) :
    (s.ready id k).handleOf j = s.handleOf j := by
  rw [handleOf, handleOf, ready]
  by_cases hj : j = id
  · subst hj
    rw [Table.get?_set_self, hk]
    rfl
  · rw [Table.get?_set_of_ne _ _ hj]

omit [Engine σ] in
/-- A statement that is there has its handle. -/
theorem handleOf_of_some (hk : s.cursors.get? id = some k) : s.handleOf id = some k.handle := by
  rw [handleOf, hk]
  rfl

omit [Engine σ] in
/-- A name without a handle is one without a statement. -/
theorem handleOf_eq_none : s.handleOf id = none ↔ s.cursors.get? id = none :=
  Option.map_eq_none_iff

namespace Ran

/-- Calls are made one after another. -/
theorem trans (h : s.Ran id d s') (h' : s'.Ran id d' s'') : s.Ran id (d ++ d') s'' := by
  induction h with
  | nothing s => exact h'
  | call hcall hrests _ ih => exact .call hcall hrests (ih h')
  | step hk hdone _ ih => exact .step hk hdone (ih h')
  | reset hk _ ih => exact .reset hk (ih h')

/-- The engine has answered the calls. -/
theorem answers (h : s.Ran id d s') : Answers s.engine d s'.engine := by
  induction h with
  | nothing s => exact .nothing _
  | call hcall _ _ ih => exact .call hcall ih
  | step hk hdone _ ih => exact .call rfl ih
  | reset hk _ ih => exact .call rfl ih

/-- Every statement stays under its name. -/
theorem handleOf_eq (h : s.Ran id d s') (j : CursorId) : s'.handleOf j = s.handleOf j := by
  induction h with
  | nothing s => rfl
  | call hcall _ _ ih => exact ih
  | step hk hdone _ ih => exact ih.trans (handleOf_advance hk)
  | reset hk _ ih => exact ih.trans (handleOf_ready hk)

/-- The calls are about the statement or about none, and no statement comes or goes. -/
theorem within (h : s.Ran id d s') {x : Exchange} (hx : x ∈ d) :
    (∀ p, x.call.prepared? = some p → s.handleOf id = some p) ∧
      x.call.isPrepare = false ∧ x.call.isFinalize = false := by
  induction h with
  | nothing s => cases hx
  | call hcall hrests _ ih =>
    rcases List.mem_cons.mp hx with rfl | hx
    · exact ⟨hrests.about, hrests.keeps, hrests.leaves⟩
    · exact ih hx
  | step hk hdone _ ih =>
    rcases List.mem_cons.mp hx with rfl | hx
    · exact ⟨fun p hp => (handleOf_of_some hk).trans hp, rfl, rfl⟩
    · rw [← handleOf_advance hk]
      exact ih hx
  | reset hk _ ih =>
    rcases List.mem_cons.mp hx with rfl | hx
    · exact ⟨fun p hp => (handleOf_of_some hk).trans hp, rfl, rfl⟩
    · rw [← handleOf_ready hk]
      exact ih hx

/-- Without steps and resets the library is left as it was. -/
theorem stays (h : s.Ran id d s') (hd : d.Still) : s' = { s with engine := s'.engine } := by
  induction h with
  | nothing s => rfl
  | call hcall _ _ ih => rw [ih fun x hx => hd x (List.mem_cons_of_mem _ hx)]
  | step hk hdone _ _ => cases hd _ List.mem_cons_self
  | reset hk _ _ => cases hd _ List.mem_cons_self

end Ran

end Store

/-! ### Actions -/

/-- Through a statement that has the handle `h` under the name `id`, or is not there, an action makes
calls that go with its result as `Q` says. -/
def Follows [Engine σ] (id : CursorId) (h : Option PreparedHandle)
    (Q : History → Except Error α → Prop) (a : Action σ α) : Prop :=
  ∀ s : Store σ, s.handleOf id = h → ∃ d, s.Ran id d (a s).2 ∧ Q d (a s).1

namespace Follows

variable [Engine σ] {id : CursorId} {h : Option PreparedHandle}
  {Q : History → Except Error α → Prop} {R : History → Except Error β → Prop}

/-- Nothing is called. -/
theorem pure {x : α} (hQ : Q [] (.ok x)) : Follows (σ := σ) id h Q (pure x) :=
  fun s _ => ⟨[], .nothing s, hQ⟩

/-- It fails before any call. -/
theorem throw {e : Error} (hQ : Q [] (.error e)) : Follows (σ := σ) id h Q (throw e) :=
  fun s _ => ⟨[], .nothing s, hQ⟩

/-- Nothing comes behind a failure. -/
theorem throw_bind {e : Error} {f : β → Action σ α} (hQ : Q [] (.error e)) :
    Follows id h Q (MonadExcept.throw e >>= f) := fun s _ => ⟨[], .nothing s, hQ⟩

/-- What goes with the calls may be said in other words. -/
theorem mono {Q' : History → Except Error α → Prop} {a : Action σ α} (ha : Follows id h Q a)
    (hQ : ∀ d r, Q d r → Q' d r) : Follows id h Q' a := by
  intro s hs
  obtain ⟨d, hd, hr⟩ := ha s hs
  exact ⟨d, hd, hQ d _ hr⟩

/-- The calls about a statement are about that of the handle. -/
theorem within {a : Action σ α} (ha : Follows id h Q a) :
    Follows id h (fun d r => Q d r ∧ ∀ x ∈ d, ∀ p, x.call.prepared? = some p → h = some p) a := by
  intro s hs
  obtain ⟨d, hd, hr⟩ := ha s hs
  exact ⟨d, hd, hr, fun x hx p hp => hs.symm.trans ((hd.within hx).1 p hp)⟩

/-- One action after another. -/
theorem bind {a : Action σ β} {f : β → Action σ α} (ha : Follows id h R a)
    (hok : ∀ d x, R d (.ok x) → Follows id h (fun d' r => Q (d ++ d') r) (f x))
    (herror : ∀ d e, R d (.error e) → Q d (.error e)) : Follows id h Q (a >>= f) := by
  intro s hs
  obtain ⟨d, hd, hR⟩ := ha s hs
  rw [Action.bind_run]
  rcases hrun : a s with ⟨e | x, s'⟩
  · rw [hrun] at hd hR
    exact ⟨d, hd, herror d e hR⟩
  · rw [hrun] at hd hR
    obtain ⟨d', hd', hQ⟩ := hok d x hR s' ((hd.handleOf_eq id).trans hs)
    exact ⟨d ++ d', hd.trans hd', hQ⟩

/-- The result is dropped. -/
theorem discard {a : Action σ β} {Q : History → Except Error Unit → Prop} (ha : Follows id h R a)
    (hQ : ∀ d r, R d r → Q d (r.map fun _ => ())) : Follows id h Q (do let _ ← a) := by
  refine bind ha (fun d x hd => pure ?_) fun d e hd => hQ d _ hd
  rw [List.append_nil]
  exact hQ d _ hd

/-- Whether it fails makes no difference. -/
theorem attempt {a : Action σ β} (ha : Follows id h R a) :
    Follows id h (fun d r => ∃ r', r = .ok r' ∧ R d r') (attempt a) := by
  intro s hs
  obtain ⟨d, hd, hR⟩ := ha s hs
  exact ⟨d, hd, _, rfl, hR⟩

/-- A pure check comes first. -/
theorem bindRequire {e : Except Error β} {f : β → Action σ α}
    (hok : ∀ x, e = .ok x → Follows id h Q (f x)) (herror : ∀ x, e = .error x → Q [] (.error x)) :
    Follows id h Q (require e >>= f) := by
  intro s hs
  rw [Action.bind_run, require_run]
  cases e with
  | error x => exact ⟨[], .nothing s, herror x rfl⟩
  | ok x => exact hok x rfl s hs

/-- A text with a zero character is refused before anything else. -/
theorem bindRefuseNul {text : String} {f : Unit → Action σ α} (hok : Follows id h Q (f ()))
    (herror : ∀ n, Error.refuseNul text = .error (.interiorNul n) → Q [] (.error (.interiorNul n))) :
    Follows id h Q (GuardedSql.require (Error.refuseNul text) >>= f) := by
  refine .bindRequire (fun _ _ => hok) fun e he => ?_
  obtain ⟨n, rfl⟩ : ∃ n, e = .interiorNul n := by
    unfold Error.refuseNul at he
    split at he
    · cases he
      exact ⟨_, rfl⟩
    · cases he
  exact herror n he

/-- The cursor is looked up first. -/
theorem bindLive {f : Cursor → Action σ α} (hnone : h = none → Q [] (.error .statementExpired))
    (hsome : ∀ k, h = some k.handle → Follows id h Q (f k)) : Follows id h Q (id.live >>= f) := by
  intro s hs
  cases hk : s.cursors.get? id with
  | none =>
    rw [Action.bind_of_error (CursorId.live_of_none hk)]
    exact ⟨[], .nothing s, hnone (hs.symm.trans (Store.handleOf_eq_none.mpr hk))⟩
  | some k =>
    rw [Action.bind_of_ok (CursorId.live_of_some hk)]
    exact hsome k (hs.symm.trans (Store.handleOf_of_some hk)) s hs

/-- A call comes first. -/
theorem bindNative {c : Call} {f : c.Reply → Action σ α} (hrests : c.Rests h)
    (hf : ∀ reply, Follows id h (fun d r => Q (⟨c, reply⟩ :: d) r) (f reply)) :
    Follows id h Q (native c >>= f) := by
  intro s hs
  obtain ⟨d, hd, hQ⟩ := hf _ { s with engine := (Engine.call c s.engine).2 } hs
  rw [Action.bind_of_ok (native_run c s)]
  exact ⟨_ :: d, .call rfl (hs ▸ hrests) hd, hQ⟩

/-- A call is all. -/
theorem native {c : Call} (hrests : c.Rests h) {Q : History → Except Error c.Reply → Prop}
    (hQ : ∀ reply, Q [⟨c, reply⟩] (.ok reply)) : Follows (σ := σ) id h Q (native c) :=
  fun _ hs => ⟨_, .call rfl (hs ▸ hrests) (.nothing _), hQ _⟩

/-- An action through a cursor fails at once if that is not there. -/
theorem ofCursor {a : Action σ α}
    (hnone : h = none → ∀ s : Store σ, s.cursors.get? id = none →
      a s = (.error .statementExpired, s) ∧ Q [] (.error .statementExpired))
    (hsome : ∀ (s : Store σ) (k : Cursor), s.cursors.get? id = some k → h = some k.handle →
      ∃ d, s.Ran id d (a s).2 ∧ Q d (a s).1) : Follows id h Q a := by
  intro s hs
  cases hk : s.cursors.get? id with
  | none =>
    obtain ⟨hrun, hQ⟩ := hnone (hs.symm.trans (Store.handleOf_eq_none.mpr hk)) s hk
    rw [hrun]
    exact ⟨[], .nothing s, hQ⟩
  | some k => exact hsome s k hk (hs.symm.trans (Store.handleOf_of_some hk))

end Follows

end GuardedSql
