import GuardedSql.Proofs.ViewSafety

/-!
# Statements live once

Every successful preparation is the first call about a statement, and as long as the client has a
holder of it, that is the statement or a retained column, there are only calls within it. With the
last holder it is released, once, and then there are no more calls about it; what is left of its
views finds nothing.
-/

namespace GuardedSql

variable {σ α : Type}

/-- The life of a statement without a cursor. -/
theorem Life.ended_iff {H : History} : Life none H ↔ ∃ c sql p d code,
    (∀ e ∈ d, Call.Within p e.call) ∧
      H = ⟨.prepare c sql, (Code.ok, some p)⟩ :: (d ++ [⟨.finalize p, code⟩]) := by
  constructor
  · intro h
    cases h with
    | ended hd => exact ⟨_, _, _, _, _, hd, rfl⟩
  · rintro ⟨c, sql, p, d, code, hd, rfl⟩
    exact .ended hd

namespace Client

/-- The history of a statement `p`: one preparation, calls within it, and its release at the end,
which is there when no holder is. -/
def Lives (c : Client σ) (id : CursorId) (p : PreparedHandle) : Prop :=
  ∃ connection sql d, (∀ e ∈ d, Call.Within p e.call) ∧
    ((c.Holds id ∧
        Entry.about c.history id = ⟨.prepare connection sql, (Code.ok, some p)⟩ :: d) ∨
      (¬c.Holds id ∧ ∃ code, Entry.about c.history id =
        ⟨.prepare connection sql, (Code.ok, some p)⟩ :: (d ++ [⟨.finalize p, code⟩])))

variable {c c' : Client σ} {id : CursorId} {p p' : PreparedHandle}

/-- Every statement that got a name lives by the history of that name. -/
theorem Sound.lives (h : c.Sound) (hid : id.number < c.store.nextCursor) : ∃ p, c.Lives id p := by
  have hlife := h.ledger.life id hid
  cases hk : c.store.cursors.get? id with
  | none =>
    rw [hk] at hlife
    obtain ⟨connection, sql, p, d, code, hd, heq⟩ := Life.ended_iff.mp hlife
    have hn : ¬c.Holds id := by
      rw [← h.get?_isSome_iff, hk]
      simp
    exact ⟨p, connection, sql, d, hd, .inr ⟨hn, code, heq⟩⟩
  | some k =>
    rw [hk] at hlife
    obtain ⟨connection, sql, d, hd, heq⟩ := Life.running_iff.mp hlife
    have hholds : c.Holds id := by
      rw [← h.get?_isSome_iff, hk]
      rfl
    exact ⟨k.handle, connection, sql, d, hd, .inl ⟨hholds, heq⟩⟩

/-! ### Nothing is taken back -/

/-- An action adds to the history. -/
theorem history_doing {c₀ : Client σ} {target : Store σ → Option CursorId}
    {a : Action (Recorder σ) α} {keep : Client σ → α → Client σ} (hc : c₀.history = c.history)
    (hkeep : ∀ c' x, (keep c' x).history = c'.history) :
    c.history <+: (c₀.doing target a keep).history := by
  rw [← hc]
  rcases hres : a c₀.store.recording with ⟨e | x, s'⟩
  · rw [doing_of_error hres]
    exact List.prefix_append _ _
  · rw [doing_of_ok hres, hkeep]
    exact List.prefix_append _ _

theorem history_addStep (c : Client σ) (i : Nat) (step : Option (Except Error Row) × Rows) :
    (c.addStep i step).history = c.history := by
  rw [addStep]
  split <;> rfl

theorem history_addTaken (c : Client σ) (i since : Nat) (step : Option (Column × ColumnRange)) :
    (c.addTaken i since step).history = c.history := by
  cases step <;> rfl

/-- An operation only adds calls. -/
theorem history_perform [Engine σ] (c : Client σ) (op : Operation) :
    c.history <+: (c.perform op).history := by
  cases op with
  | prepare | firstColumn | hasTable | execEach | exec =>
    exact history_doing rfl fun _ _ => rfl
  | use | dropStatement | column | columnNamed | row | read | label | cloneColumn | dropColumn
  | rowColumn | rowColumnNamed =>
    rw [perform]
    split
    · exact history_doing rfl fun _ _ => rfl
    · exact List.prefix_rfl
  | next i =>
    rw [perform]
    split
    · split
      · exact history_doing rfl fun c' => history_addStep c' i
      · exact List.prefix_rfl
    · exact List.prefix_rfl
  | takeFront | takeBack =>
    rw [perform]
    split
    · exact (history_addTaken ..).symm ▸ List.prefix_rfl
    · exact List.prefix_rfl
  | walk | cloneRow | columns | cloneColumns =>
    rw [perform]
    split <;> exact List.prefix_rfl
  | dropWalk | dropRow | dropColumns => exact List.prefix_rfl

/-! ### One life -/

/-- A release is not within a statement. -/
theorem not_within_finalize {q : PreparedHandle} : ¬Call.Within q (.finalize p) := fun h => by
  cases h.leaves

/-- A history that goes on tells of the same one of the engine's statements. -/
theorem Lives.unique (h : c.Lives id p) (h' : c'.Lives id p') {d : History}
    (hd : Entry.about c'.history id = Entry.about c.history id ++ d) : p' = p := by
  have hgiven : ∀ {c : Client σ} {p : PreparedHandle}, c.Lives id p →
      (Entry.about c.history id).head?.bind Exchange.given? = some p := by
    rintro c p ⟨_, _, _, -, ⟨-, heq⟩ | ⟨-, _, heq⟩⟩ <;>
      rw [heq] <;> rfl
  have hp := hgiven h
  have hp' := hgiven h'
  rw [hd, List.head?_append] at hp'
  cases hhead : (Entry.about c.history id).head? with
  | none =>
    rw [hhead] at hp
    cases hp
  | some e =>
    rw [hhead] at hp hp'
    exact Option.some.inj (hp'.symm.trans hp)

/-- No holder comes back, and no call is made after the release. -/
theorem Lives.ended (h : c.Lives id p) (h' : c'.Lives id p) {d : History}
    (hd : Entry.about c'.history id = Entry.about c.history id ++ d) (hn : ¬c.Holds id) :
    ¬c'.Holds id ∧ d = [] := by
  obtain ⟨_, _, d₀, -, ⟨hholds, -⟩ | ⟨-, code, heq⟩⟩ := h
  · exact absurd hholds hn
  rw [heq, List.cons_append] at hd
  obtain ⟨_, _, d₁, hd₁, ⟨-, heq'⟩ | ⟨hn', code', heq'⟩⟩ := h' <;> rw [heq'] at hd <;>
    have htail := (List.cons.inj hd).2
  · refine absurd (hd₁ ⟨.finalize p, code⟩ ?_) not_within_finalize
    rw [htail]
    simp
  · refine ⟨hn', ?_⟩
    rcases List.eq_nil_or_concat d with hnil | ⟨init, last, rfl⟩
    · exact hnil
    · rw [List.concat_eq_append, ← List.append_assoc] at htail
      obtain ⟨hinit, -⟩ := List.append_inj' htail rfl
      refine absurd (hd₁ ⟨.finalize p, code⟩ ?_) not_within_finalize
      rw [hinit]
      simp

/-- With the last holder the statement is released. -/
theorem Lives.release (h : c.Lives id p) (h' : c'.Lives id p) {d : History}
    (hd : Entry.about c'.history id = Entry.about c.history id ++ d) (hholds : c.Holds id)
    (hn : ¬c'.Holds id) :
    ∃ d' code, d = d' ++ [⟨.finalize p, code⟩] ∧ ∀ e ∈ d', e.call.Within p := by
  obtain ⟨_, _, d₀, hd₀, ⟨-, heq⟩ | ⟨hnot, -⟩⟩ := h
  swap
  · exact absurd hholds hnot
  obtain ⟨_, _, d₁, hd₁, ⟨hholds', -⟩ | ⟨-, code, heq'⟩⟩ := h'
  · exact absurd hholds' hn
  rw [heq, heq', List.cons_append] at hd
  have htail := (List.cons.inj hd).2
  rcases List.eq_nil_or_concat d with rfl | ⟨init, last, rfl⟩
  · rw [List.append_nil] at htail
    refine absurd (hd₀ ⟨.finalize p, code⟩ ?_) not_within_finalize
    rw [← htail]
    simp
  · rw [List.concat_eq_append, ← List.append_assoc] at htail
    obtain ⟨hinit, hlast⟩ := List.append_inj' htail rfl
    refine ⟨init, code, by rw [List.concat_eq_append, hlast], fun e he => hd₁ e ?_⟩
    rw [hinit]
    exact List.mem_append_right _ he

/-- A name that was given out stays given out. -/
theorem Sound.next_le [Engine σ] (h : c.Sound) (op : Operation)
    (hid : id.number < c.store.nextCursor) :
    id.number < (c.perform op).store.nextCursor := by
  obtain ⟨p, _, _, d, -, ⟨-, heq⟩ | ⟨-, _, heq⟩⟩ := h.lives hid
  all_goals
    by_contra hfresh
    have hnil := ((h.perform op).ledger.fresh id (by omega)).2.2
    obtain ⟨l, hl⟩ := c.history_perform op
    rw [← hl, Entry.about_append, heq] at hnil
    cases hnil

variable [Engine σ]

/-- On every engine and after any operations: all successful preparations are of statements with a
name, and calls that have no name are about no statement. Every statement with a name lives once:
it is prepared, there are calls within it, and it is released exactly when the client has no
holder left. The operation that takes the last holder away ends with the release, and after that
no operation makes a call about the statement. From then on all reads and questions of a column of
it, and all columns of a row of it, end with `statementExpired` and without a call. -/
theorem statement_lives_once (engine : σ) (ops : List Operation) :
    let c := run engine ops
    (∀ e ∈ c.history, e.exchange.opens = true → ∃ id, e.cursor = some id ∧
      id.number < c.store.nextCursor) ∧
    (∀ e ∈ c.history, e.cursor = none → e.exchange.call.prepared? = none) ∧
    ∀ id, id.number < c.store.nextCursor → ∃ p, c.Lives id p ∧
      (∀ op, c.Holds id → ¬(c.perform op).Holds id → ∃ d code, (∀ e ∈ d, Call.Within p e.call) ∧
        Entry.about (c.perform op).history id =
          Entry.about c.history id ++ (d ++ [⟨.finalize p, code⟩])) ∧
      (¬c.Holds id →
        (∀ op, ¬(c.perform op).Holds id ∧
          Entry.about (c.perform op).history id = Entry.about c.history id) ∧
        (∀ v : Column, v.cursor = id →
          (∀ g : Getter, observe (g.read v) c.store = ⟨.error .statementExpired, [], c.store⟩) ∧
          ∀ a : Label, observe (a.read v) c.store = ⟨.error .statementExpired, [], c.store⟩) ∧
        ∀ r : Row, r.cursor = id →
          (∀ i, observe (r.columnAt i) c.store = ⟨.error .statementExpired, [], c.store⟩) ∧
          ∀ n, observe (r.columnNamed n) c.store = ⟨.error .statementExpired, [], c.store⟩) := by
  intro c
  have hsound : c.Sound := run_sound engine ops
  refine ⟨?_, fun e he hnone => (hsound.ledger.entered e he hnone).1, ?_⟩
  · rintro ⟨target, x⟩ he hopens
    cases target with
    | none =>
      rw [(hsound.ledger.entered _ he rfl).2] at hopens
      cases hopens
    | some id =>
      refine ⟨id, rfl, ?_⟩
      by_contra hfresh
      have hnil := (hsound.ledger.fresh id (by omega)).2.2
      have hmem := Entry.mem_about.mpr he
      rw [hnil] at hmem
      cases hmem
  · intro id hid
    obtain ⟨p, hlives⟩ := hsound.lives hid
    have hnext : ∀ op, ∃ d, (c.perform op).Lives id p ∧
        Entry.about (c.perform op).history id = Entry.about c.history id ++ d := by
      intro op
      obtain ⟨l, hl⟩ := c.history_perform op
      have hd : Entry.about (c.perform op).history id =
          Entry.about c.history id ++ Entry.about l id := by rw [← hl, Entry.about_append]
      obtain ⟨p', hlives'⟩ := (hsound.perform op).lives (hsound.next_le op hid)
      cases hlives.unique hlives' hd
      exact ⟨_, hlives', hd⟩
    refine ⟨p, hlives, ?_, ?_⟩
    · intro op hholds hn
      obtain ⟨d, hlives', hd⟩ := hnext op
      obtain ⟨d', code, rfl, hwithin⟩ := hlives.release hlives' hd hholds hn
      exact ⟨d', code, hwithin, hd⟩
    · intro hn
      have hnone := hsound.get?_of_not_holds hn
      refine ⟨?_, ?_, ?_⟩
      · intro op
        obtain ⟨d, hlives', hd⟩ := hnext op
        obtain ⟨hn', rfl⟩ := hlives.ended hlives' hd hn
        exact ⟨hn', by rw [hd, List.append_nil]⟩
      · rintro v rfl
        exact ⟨fun g => (g.reads v).expired.observe_eq hnone,
          fun a => (a.labels v).expired.observe_eq hnone⟩
      · rintro r rfl
        exact ⟨fun i => (Row.columnAt_expires i).observe_eq hnone,
          fun n => (Row.columnNamed_expires n).observe_eq hnone⟩

/-- The one statement is given up, and its column is left. -/
def columnLeft : List Operation := oneColumn ++ [.dropStatement 0]

/-- A column that is not retained does not keep its statement: it is released, and the column
expired. -/
theorem statement_lives_once_of_columnLeft :
    ∃ p, (run (⟨[Code.row]⟩ : Script) columnLeft).Lives ⟨0⟩ p ∧
      observe (Getter.int32.read { cursor := ⟨0⟩, index := 0, stamp := ⟨0, 1⟩ })
          (run (⟨[Code.row]⟩ : Script) columnLeft).store =
        ⟨.error .statementExpired, [], (run (⟨[Code.row]⟩ : Script) columnLeft).store⟩ := by
  have hnext : (run (⟨[Code.row]⟩ : Script) columnLeft).store.nextCursor = 1 := rfl
  have hstatements : (run (⟨[Code.row]⟩ : Script) columnLeft).statements = [] := rfl
  have hcolumns : (run (⟨[Code.row]⟩ : Script) columnLeft).columns =
      [⟨{ cursor := ⟨0⟩, index := 0, stamp := ⟨0, 1⟩ }, 4⟩] := rfl
  have hn : ¬(run (⟨[Code.row]⟩ : Script) columnLeft).Holds ⟨0⟩ := by
    rintro (⟨q, hq, -⟩ | ⟨t, ht, hr, -⟩)
    · rw [hstatements] at hq
      cases hq
    · rw [hcolumns] at ht
      rw [List.mem_singleton.mp ht] at hr
      cases hr
  obtain ⟨p, hlives, -, hgone⟩ := (statement_lives_once (⟨[Code.row]⟩ : Script) columnLeft).2.2 ⟨0⟩
    (by rw [hnext]; exact Nat.one_pos)
  exact ⟨p, hlives, ((hgone hn).2.1 _ rfl).1 .int32⟩

end Client

end GuardedSql
