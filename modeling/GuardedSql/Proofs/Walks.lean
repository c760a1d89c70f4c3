import GuardedSql.Proofs.Lifetime
import GuardedSql.Proofs.StatementMachine

/-!
# Walks over rows

What a walk over the rows of a statement gives does not depend on what was done with the statement
before. The first call of `next` rewinds the statement and steps it, every later one steps it once,
and each step is yielded once. `Walked` is a walk of a client that does other things between the
calls, as long as it keeps the statement and leaves it where it is; `Course` is what comes of it.
-/

namespace GuardedSql

variable {σ α : Type}

/-! ### The check of a row -/

/-- A row is the one that its statement stands on. -/
def Row.IsCurrent (r : Row) (s : Store σ) : Prop := ∃ k, (observe r.current s).result = .ok k

/-- The check of a row, written out. -/
theorem Row.isCurrent_iff {r : Row} {s : Store σ} {k : Cursor}
    (h : s.cursors.get? r.cursor = some k) :
    r.IsCurrent s ↔ k.hasRow = true ∧ r.stamp = k.stamp := by
  have hlive : r.cursor.live s.recording = (.ok k, s.recording) := CursorId.live_of_some h
  rw [Row.IsCurrent, observe_eq, Row.current, Action.bind_of_ok hlive, Action.bind_run, require_run,
    Cursor.checkCurrent]
  by_cases hc : k.hasRow ∧ r.stamp = k.stamp
  · rw [if_pos hc]
    exact ⟨fun _ => hc, fun _ => ⟨k, rfl⟩⟩
  · rw [if_neg hc]
    refine ⟨?_, fun h => absurd h hc⟩
    rintro ⟨_, h⟩
    cases h

/-! ### One call of `next` -/

/-- What a walk yields for the code of a step: the row, the end, or an error of the code. -/
def Code.YieldedAs (code : Code) (row : Row) (item : Option (Except Error Row)) : Prop :=
  if code = Code.row then item = some (.ok row)
  else if code = Code.done then item = none
  else ∃ message extended, item = some (.error (.native message code extended))

/-- A row that is yielded is the one that was stepped to. -/
theorem Code.YieldedAs.eq_of_row {code : Code} {row row' : Row}
    (h : code.YieldedAs row (some (.ok row'))) : row' = row := by
  rw [YieldedAs] at h
  split at h
  · cases h
    rfl
  · split at h
    · cases h
    · obtain ⟨_, _, h⟩ := h
      cases h

/-- A row or the end is yielded without a call behind the step. -/
def Code.IsPlain (code : Code) : Prop := code = Code.row ∨ code = Code.done

namespace Rows

/-- What a walk yields is as its code says. -/
theorem Yielded.yieldedAs {c : ConnectionHandle} {row : Row} {code : Code} {d : History}
    {item : Option (Except Error Row)} (h : Yielded c row code d item) : code.YieldedAs row item := by
  cases h with
  | row h => rw [Code.YieldedAs, if_pos h]
  | done h => rw [Code.YieldedAs, if_neg (by rw [h]; decide), if_pos h]
  | failed hrow hdone message extended =>
    rw [Code.YieldedAs, if_neg hrow, if_neg hdone]
    exact ⟨_, extended, rfl⟩

/-- Only for a failure there are calls behind the step. -/
theorem Yielded.eq_nil {c : ConnectionHandle} {row : Row} {code : Code} {d : History}
    {item : Option (Except Error Row)} (h : Yielded c row code d item) (hplain : code.IsPlain) :
    d = [] := by
  cases h with
  | row h => rfl
  | done h => rfl
  | failed hrow hdone message extended => exact absurd hplain (not_or.mpr ⟨hrow, hdone⟩)

variable [Engine σ] {r : Rows} {k : Cursor}

/-- The cursor that the next step of a walk starts from. -/
def standing (r : Rows) (k : Cursor) : Cursor := if r.started then k else k.readied

/-- A call of `next` rewinds the statement at first, and then makes one step and yields it. -/
theorem next_recorded {s : Store σ} (hf : r.finished = false)
    (h : s.cursors.get? r.statement.cursor = some k) (hd : (r.standing k).done = false) :
    ∃ code item reset rest,
      (observe r.next s).result = .ok (item, r.stepped code) ∧
      (observe r.next s).exchanges = reset ++ ⟨.step k.handle, code⟩ :: rest ∧
      (if r.started then reset = [] else ∃ answer, reset = [⟨.reset k.handle, answer⟩]) ∧
      (∀ e ∈ rest, e.call.prepared? = none) ∧ (code.IsPlain → rest = []) ∧
      code.YieldedAs (r.rowAfter (r.standing k) code) item := by
  have hyields {s' : Store (Recorder σ)} (hk : s'.cursors.get? r.statement.cursor = some (r.standing k))
      (hnext : r.next s.recording = advance { r with started := true } s') :
      ∃ code item rest,
        (observe r.next s).result = .ok (item, r.stepped code) ∧
        (observe r.next s).exchanges =
          s'.engine.exchanges ++ ⟨.step (r.standing k).handle, code⟩ :: rest ∧
        (∀ e ∈ rest, e.call.prepared? = none) ∧ (code.IsPlain → rest = []) ∧
        code.YieldedAs (r.rowAfter (r.standing k) code) item := by
    obtain ⟨item, rest, s'', hran, hrun, hitem⟩ := advance_run hf hk hd
    have hcalls := hran.answers.recorded.1
    refine ⟨_, item, rest, ?_, ?_, fun e he => ?_, hitem.eq_nil, hitem.yieldedAs⟩
    · rw [observe_eq, hnext, hrun]
    · rw [observe_eq, hnext, hrun, List.append_cons]
      exact hcalls
    · exact (Exchange.apart_of_isApart (Call.isApart_of_upkeep? (hitem.asks he).1)).1
  cases hs : r.started with
  | true =>
    have hstanding : r.standing k = k := by rw [standing, if_pos hs]
    have hfound : s.recording.cursors.get? r.statement.cursor = some (r.standing k) := by
      rw [hstanding]
      exact h
    obtain ⟨code, item, rest, hresult, hexchanges, hrest⟩ := hyields hfound (next_of_started hs hf)
    refine ⟨code, item, [], rest, hresult, ?_, rfl, hrest⟩
    rw [hexchanges, hstanding]
    rfl
  | false =>
    have hstanding : r.standing k = k.readied := by rw [standing, if_neg (by simp [hs])]
    have hready : (s.recording.ready r.statement.cursor k).cursors.get? r.statement.cursor =
        some (r.standing k) := by
      rw [hstanding]
      exact Table.get?_set_self _ _ _
    obtain ⟨code, item, rest, hresult, hexchanges, hrest⟩ :=
      hyields hready (next_of_not_started hs hf h)
    refine ⟨code, item, [⟨.reset k.handle, s.recording.resetCode k⟩], rest, hresult, ?_, ⟨_, rfl⟩,
      hrest⟩
    rw [hexchanges, hstanding]
    rfl

end Rows

/-! ### Calls between steps -/

/-- Calls about a connection leave all statements where they are. -/
theorem History.still_of_connection {d : History} (h : ∀ e ∈ d, e.call.prepared? = none) :
    d.Still := by
  intro e he
  obtain ⟨call, reply⟩ := e
  have hnone := h _ he
  cases call with
  | step p => cases hnone
  | reset p => cases hnone
  | _ => rfl

namespace Client

variable {c c' : Client σ} {id : CursorId}

/-- What comes of a step of a walk is no statement. -/
theorem statements_addStep (c : Client σ) (i : Nat) (step : Option (Except Error Row) × Rows) :
    (c.addStep i step).statements = c.statements := by
  rw [addStep]
  split <;> rfl

variable [Engine σ]

/-- One operation only adds calls and names. -/
theorem Sound.later_perform (h : c.Sound) (op : Operation) : c.Later (c.perform op) := by
  refine ⟨c.history_perform op, ?_⟩
  by_contra hlt
  have hlast : (⟨c.store.nextCursor - 1⟩ : CursorId).number < c.store.nextCursor := by
    dsimp only
    omega
  have hnext := h.next_le op hlast
  dsimp only at hnext
  omega

/-- So do several. -/
theorem Sound.later_performs (h : c.Sound) (ops : List Operation) :
    c.Later (ops.foldl Client.perform c) := by
  induction ops generalizing c with
  | nil => exact ⟨List.prefix_rfl, Nat.le_refl _⟩
  | cons op rest ih =>
    have hfirst := h.later_perform op
    have hrest := ih (h.perform op)
    exact ⟨hfirst.history.trans hrest.history, Nat.le_trans hfirst.next hrest.next⟩

omit [Engine σ] in
/-- A row is current as long as its statement has a holder and was not moved since it was taken. -/
theorem Sound.row_isCurrent_iff (h : c.Sound) {r : Row} {since : Nat}
    (hm : c.Minted r.cursor r.stamp since) (hholds : c.Holds r.cursor) :
    r.IsCurrent c.store ↔ ¬c.MovedSince since r.cursor := by
  obtain ⟨k, hk⟩ := Option.isSome_iff_exists.mp (h.get?_isSome_iff.mpr hholds)
  rw [Row.isCurrent_iff hk, h.current_iff hm hk]

/-- So it is with a row that was kept, whatever is done later. -/
theorem Sound.kept_isCurrent_iff (h : c.Sound) {t : Taken Row} (ht : t ∈ c.rows)
    (ops : List Operation) :
    let c' := ops.foldl Client.perform c
    c'.Holds t.view.cursor → (t.view.IsCurrent c'.store ↔ ¬c'.MovedSince t.since t.view.cursor) :=
  (h.performs ops).row_isCurrent_iff ((h.rows t ht).mono (h.later_performs ops))

end Client

/-! ### Walks of a client -/

/-- A moment in a walk of a client. -/
structure Moment (σ : Type) where
  /-- The client. -/
  client : Client σ
  /-- The walk. -/
  walk : Rows

namespace Moment

variable [Engine σ]

/-- What the next call of `next` does. -/
def next (m : Moment σ) : Observation σ (Option (Except Error Row) × Rows) :=
  observe m.walk.next m.client.store

/-- The moment after that call, which is made on the walk at a place. -/
def after (m : Moment σ) (i : Nat) : Moment σ where
  client := m.client.perform (.next i)
  walk :=
    match m.next.result with
    | .ok (_, walk) => walk
    | .error _ => m.walk

/-- What a call of `next` does is entered for the statement of the walk, and what is yielded is
kept. -/
theorem perform_next (m : Moment σ) (hq : m.walk.statement ∈ m.client.statements) {i : Nat}
    (hi : m.client.walks[i]? = some m.walk) {item : Option (Except Error Row)} {walk : Rows}
    (h : m.next.result = .ok (item, walk)) :
    m.client.perform (.next i) =
      (m.client.enter (some m.walk.statement.cursor) m.next).addStep i (item, walk) := by
  rw [next] at h ⊢
  simp only [Client.perform, hi, if_pos hq, Client.doing, h]

theorem after_walk (m : Moment σ) (i : Nat) {item : Option (Except Error Row)} {walk : Rows}
    (h : m.next.result = .ok (item, walk)) : (m.after i).walk = walk := by
  simp only [after, h]

/-- A call of `next` makes one step of the walk, behind `n` others, and yields what its code says. A
row is that of the step, and it is current until its statement is moved again or has no holder. -/
structure Steps (m : Moment σ) (q : Statement) (n : Nat) (code : Code) : Prop where
  /-- The first call rewinds the statement, and every call steps it once. -/
  calls : ∃ k reset rest, m.client.store.cursors.get? q.cursor = some k ∧
    m.next.exchanges = reset ++ ⟨.step k.handle, code⟩ :: rest ∧
    (if n = 0 then ∃ answer, reset = [⟨.reset k.handle, answer⟩] else reset = []) ∧
    (∀ e ∈ rest, e.call.prepared? = none) ∧ (code.IsPlain → rest = [])
  /-- A row, the end or an error is yielded. -/
  yields : ∃ row item walk, m.next.result = .ok (item, walk) ∧ code.YieldedAs row item ∧
    row.cursor = q.cursor ∧ row.row = n + 1
  /-- A row stays current. -/
  stays : ∀ (row : Row) (walk : Rows) (i : Nat) (ops : List Operation),
    m.next.result = .ok (some (.ok row), walk) → m.client.walks[i]? = some m.walk →
    let c₁ := m.client.perform (.next i)
    let c := ops.foldl Client.perform c₁
    c.Holds q.cursor → (row.IsCurrent c.store ↔ ¬c.MovedSince c₁.history.length q.cursor)

end Moment

section

variable [Engine σ]

/-- A walk over the rows of a statement: the moments at which `next` was called, and the present one.
Between the calls the client may do all that keeps the statement and does not move it. -/
inductive Walked (c₀ : Client σ) (q : Statement) : List (Moment σ) → Moment σ → Prop
  /-- The walk is made. -/
  | start (i : Nat) (h : c₀.statements[i]? = some q) :
      Walked c₀ q [] ⟨c₀.perform (.walk i), q.rows⟩
  /-- It goes on. -/
  | next {calls : List (Moment σ)} {m : Moment σ} (i : Nat) (h : Walked c₀ q calls m)
      (hi : m.client.walks[i]? = some m.walk) : Walked c₀ q (calls ++ [m]) (m.after i)
  /-- Something else is done. -/
  | other {calls : List (Moment σ)} {m : Moment σ} (op : Operation) (h : Walked c₀ q calls m)
      (hq : q ∈ (m.client.perform op).statements)
      (hs : ¬(m.client.perform op).MovedSince m.client.history.length q.cursor) :
      Walked c₀ q calls ⟨m.client.perform op, m.walk⟩

/-- What comes of the calls of `next` in a walk whose steps gave some codes: each step is yielded
once, all but the last were rows, and behind one that was none there is nothing more. -/
structure Course (q : Statement) (codes : List Code) (calls : List (Moment σ)) : Prop where
  /-- A step is made in a call. -/
  length_le : codes.length ≤ calls.length
  /-- The walk goes on behind rows only. -/
  rows : ∀ code ∈ codes.dropLast, code = Code.row
  /-- It ends with the end or an error. -/
  ended : codes.length < calls.length → ∃ code, codes.getLast? = some code ∧ code ≠ Code.row
  /-- The calls that make a step. -/
  steps : ∀ (n : Nat) (code : Code) (m : Moment σ), codes[n]? = some code → calls[n]? = some m → m.Steps q n code
  /-- The calls behind the end. -/
  rest : ∀ (n : Nat) (m : Moment σ), codes.length ≤ n → calls[n]? = some m →
    m.next = ⟨.ok (none, m.walk), [], m.client.store⟩

/-- What is true at every moment of a walk. -/
structure Walking (q : Statement) (codes : List Code) (calls : List (Moment σ)) (m : Moment σ) :
    Prop where
  /-- The course of the walk. -/
  course : Course q codes calls
  /-- The client is sound. -/
  sound : m.client.Sound
  /-- It holds the statement. -/
  held : q ∈ m.client.statements
  /-- The walk is one over its rows. -/
  statement : m.walk.statement = q
  /-- It began with the first call. -/
  started : m.walk.started = true ↔ calls ≠ []
  /-- It is over if the last step gave no row. -/
  finished : m.walk.finished = true ↔ ∃ code, codes.getLast? = some code ∧ code ≠ Code.row
  /-- Its steps are those of the statement since its last reset. -/
  codes : calls ≠ [] → (Entry.about m.client.history q.cursor).codes = codes

namespace Walking

variable {q : Statement} {codes : List Code} {calls : List (Moment σ)} {m : Moment σ}

/-- A walk that has not begun was not called. -/
theorem eq_nil (h : Walking q codes calls m) (hs : m.walk.started = false) : calls = [] := by
  by_contra hne
  rw [h.started.mpr hne] at hs
  cases hs

/-- As long as a walk is not over, every call made a step. -/
theorem length_eq (h : Walking q codes calls m) (hf : m.walk.finished = false) :
    codes.length = calls.length := by
  refine Nat.le_antisymm h.course.length_le (Nat.not_lt.mp fun hlt => ?_)
  have hover := h.finished.mpr (h.course.ended hlt)
  rw [hf] at hover
  cases hover

/-- Every call gave a row then. -/
theorem eq_row (h : Walking q codes calls m) (hf : m.walk.finished = false) :
    ∀ code ∈ codes, code = Code.row := by
  intro code hcode
  rcases List.eq_nil_or_concat codes with rfl | ⟨init, last, rfl⟩
  · cases hcode
  · rw [List.concat_eq_append] at h hcode
    have hrows := h.course.rows
    rw [List.dropLast_concat] at hrows
    obtain hinit | hlast := List.mem_append.mp hcode
    · exact hrows code hinit
    · by_contra hne
      rw [List.mem_singleton] at hlast
      have hover := h.finished.mpr ⟨last, by simp, hlast ▸ hne⟩
      rw [hf] at hover
      cases hover

/-- The next step of a walk that is not over is not refused, and it is counted with the others. -/
theorem standing (h : Walking q codes calls m) (hf : m.walk.finished = false) {k : Cursor}
    (hk : m.client.store.cursors.get? q.cursor = some k) :
    (m.walk.standing k).done = false ∧ (m.walk.standing k).step = codes.length := by
  have htracks := (h.sound.ledger.held _ k hk).2.2
  cases hs : m.walk.started with
  | true =>
    have hcodes := h.codes (h.started.mp hs)
    rw [Rows.standing, if_pos hs, htracks.step, hcodes]
    refine ⟨?_, rfl⟩
    rw [← Bool.not_eq_true, htracks.done, History.lastCode?, hcodes]
    intro hlast
    cases h.eq_row hf _ (List.mem_of_getLast? hlast)
  | false =>
    rw [Rows.standing, if_neg (by simp [hs]), h.length_eq hf, h.eq_nil hs]
    exact ⟨rfl, rfl⟩

/-- The first call rewinds the statement. -/
theorem reset_eq (h : Walking q codes calls m) (hf : m.walk.finished = false) {k : Cursor}
    {reset : List Exchange} (hr : if m.walk.started then reset = []
      else ∃ answer, reset = [⟨.reset k.handle, answer⟩]) :
    if codes.length = 0 then ∃ answer, reset = [⟨.reset k.handle, answer⟩] else reset = [] := by
  rw [h.length_eq hf]
  cases hs : m.walk.started with
  | true =>
    rw [hs, if_pos rfl] at hr
    rw [if_neg fun hzero => h.started.mp hs (List.eq_nil_of_length_eq_zero hzero)]
    exact hr
  | false =>
    rw [hs, if_neg (by simp)] at hr
    rw [if_pos (by rw [h.eq_nil hs]; rfl)]
    exact hr

/-- The steps of the walk are those of the statement once it was rewound. -/
theorem codes_rewound (h : Walking q codes calls m) (hf : m.walk.finished = false) {k : Cursor}
    {reset : List Exchange} (hr : if m.walk.started then reset = []
      else ∃ answer, reset = [⟨.reset k.handle, answer⟩]) :
    History.codes (Entry.about m.client.history q.cursor ++ reset) = codes := by
  cases hs : m.walk.started with
  | true =>
    rw [hs, if_pos rfl] at hr
    rw [hr, List.append_nil]
    exact h.codes (h.started.mp hs)
  | false =>
    rw [hs, if_neg (by simp)] at hr
    obtain ⟨answer, rfl⟩ := hr
    have hlen := h.length_eq hf
    rw [h.eq_nil hs] at hlen
    rw [History.codes_append_reset, List.eq_nil_of_length_eq_zero hlen]

/-- A walk that is made. -/
theorem start {c₀ : Client σ} (h : c₀.Sound) {i : Nat} (hi : c₀.statements[i]? = some q) :
    Walking q [] [] ⟨c₀.perform (.walk i), q.rows⟩ where
  course := ⟨Nat.le_refl _, by simp, by simp, by simp, by simp⟩
  sound := h.perform (.walk i)
  held := by
    simp only [Client.perform, hi]
    exact List.mem_of_getElem? hi
  statement := rfl
  started := by simp [Statement.rows]
  finished := by simp [Statement.rows]
  codes := by simp

/-- A walk that is over stays as it is. -/
theorem next_of_finished (h : Walking q codes calls m) {i : Nat}
    (hi : m.client.walks[i]? = some m.walk) (hf : m.walk.finished = true) :
    Walking q codes (calls ++ [m]) (m.after i) := by
  have hnext : m.next = ⟨.ok (none, m.walk), [], m.client.store⟩ := by
    rw [Moment.next, observe_eq, Rows.next_of_finished hf]
    rfl
  have hq : m.walk.statement ∈ m.client.statements := h.statement ▸ h.held
  have hperform := m.perform_next hq hi (congrArg Observation.result hnext)
  have hwalk := m.after_walk i (congrArg Observation.result hnext)
  have hlen := h.course.length_le
  have hlast := h.finished.mp hf
  have hcalls : calls ≠ [] := by
    rintro rfl
    obtain ⟨code, hcode, -⟩ := hlast
    rw [List.eq_nil_of_length_eq_zero (Nat.le_zero.mp hlen)] at hcode
    cases hcode
  refine ⟨⟨?_, h.course.rows, fun _ => hlast, ?_, ?_⟩, h.sound.perform (.next i), ?_, ?_, ?_, ?_,
    ?_⟩
  · rw [List.length_append]
    omega
  · intro n code m' hcode hm'
    rw [List.getElem?_append_left] at hm'
    · exact h.course.steps n code m' hcode hm'
    · exact Nat.lt_of_lt_of_le (List.getElem?_eq_some_iff.mp hcode).1 hlen
  · intro n m' hn hm'
    by_cases hlt : n < calls.length
    · rw [List.getElem?_append_left hlt] at hm'
      exact h.course.rest n m' hn hm'
    · rw [List.getElem?_append_right (Nat.not_lt.mp hlt)] at hm'
      cases List.mem_singleton.mp (List.mem_of_getElem? hm')
      exact hnext
  · rw [Moment.after, hperform, Client.statements_addStep]
    exact h.held
  · rw [hwalk, h.statement]
  · rw [hwalk, h.started]
    simp [hcalls]
  · rw [hwalk, h.finished]
  · intro _
    rw [Moment.after, hperform, Client.history_addStep, h.statement, Client.about_enter, hnext,
      List.append_nil]
    exact h.codes hcalls

/-- A walk that is not over makes one step. -/
theorem next_of_not_finished (h : Walking q codes calls m) {i : Nat}
    (hi : m.client.walks[i]? = some m.walk) (hf : m.walk.finished = false) :
    ∃ code, Walking q (codes ++ [code]) (calls ++ [m]) (m.after i) := by
  have hq : m.walk.statement ∈ m.client.statements := h.statement ▸ h.held
  obtain ⟨k, hk⟩ := Option.isSome_iff_exists.mp
    (h.sound.get?_isSome_iff.mpr (.inl ⟨q, h.held, rfl⟩))
  obtain ⟨hdone, hstep⟩ := h.standing hf hk
  obtain ⟨code, item, reset, rest, hres, hexchanges, hreset, hrest, hplain, hitem⟩ :=
    Rows.next_recorded hf (h.statement ▸ hk) hdone
  rw [show observe m.walk.next m.client.store = m.next from rfl] at hres hexchanges
  have hperform := m.perform_next hq hi hres
  have hwalk := m.after_walk i hres
  have hlen := h.length_eq hf
  have hsteps : m.Steps q codes.length code := by
    refine ⟨⟨k, reset, rest, hk, hexchanges, h.reset_eq hf hreset, hrest, hplain⟩, ?_, ?_⟩
    · refine ⟨_, item, _, hres, hitem, h.statement ▸ rfl, ?_⟩
      exact congrArg (· + 1) hstep
    · intro row walk j ops hrow hj c₁ c hholds
      have hc₁ : c₁ = (m.client.enter (some m.walk.statement.cursor) m.next).addStep j
          (some (.ok row), walk) := m.perform_next hq hj hrow
      have hkept : ⟨row, c₁.history.length⟩ ∈ c₁.rows := by
        rw [hc₁]
        exact List.mem_cons_self
      have hcursor : row.cursor = q.cursor := by
        rw [hrow] at hres
        cases hres
        rw [hitem.eq_of_row, Rows.rowAfter, h.statement]
      have hcurrent := (h.sound.perform (.next j)).kept_isCurrent_iff hkept ops
      rw [hcursor] at hcurrent
      exact hcurrent hholds
  refine ⟨code, ⟨?_, ?_, ?_, ?_, ?_⟩, h.sound.perform (.next i), ?_, ?_, ?_, ?_, ?_⟩
  · simp [hlen]
  · rw [List.dropLast_concat]
    exact h.eq_row hf
  · simp [hlen]
  · intro n code' m' hcode hm'
    by_cases hlt : n < codes.length
    · rw [List.getElem?_append_left hlt] at hcode
      rw [List.getElem?_append_left (hlen ▸ hlt)] at hm'
      exact h.course.steps n code' m' hcode hm'
    · have hle := (List.getElem?_eq_some_iff.mp hcode).1
      rw [List.length_append, List.length_singleton] at hle
      obtain rfl : n = codes.length := by omega
      rw [List.getElem?_concat_length] at hcode
      rw [hlen, List.getElem?_concat_length] at hm'
      cases hcode
      cases hm'
      exact hsteps
  · intro n m' hn hm'
    have hlt := (List.getElem?_eq_some_iff.mp hm').1
    simp only [List.length_append, List.length_singleton] at hn hlt
    omega
  · rw [Moment.after, hperform, Client.statements_addStep]
    exact h.held
  · rw [hwalk, Rows.stepped, h.statement]
  · rw [hwalk]
    simp [Rows.stepped]
  · rw [hwalk]
    simp [Rows.stepped]
  · intro _
    have hstill := History.still_of_connection hrest
    rw [Moment.after, hperform, Client.history_addStep, h.statement, Client.about_enter, hexchanges,
      List.append_cons, ← List.append_assoc, ← List.append_assoc,
      History.codes_append_still _ hstill, History.codes_append_step, h.codes_rewound hf hreset]

/-- What does not move the statement leaves a walk as it is. -/
theorem other (h : Walking q codes calls m) {op : Operation}
    (hq : q ∈ (m.client.perform op).statements)
    (hs : ¬(m.client.perform op).MovedSince m.client.history.length q.cursor) :
    Walking q codes calls ⟨m.client.perform op, m.walk⟩ where
  course := h.course
  sound := h.sound.perform op
  held := hq
  statement := h.statement
  started := h.started
  finished := h.finished
  codes := fun hcalls => by
    obtain ⟨l, hl⟩ := m.client.history_perform op
    have hstill := Client.still_iff_not_movedSince.mpr hs
    rw [← hl, List.drop_left] at hstill
    rw [← hl, Entry.about_append, History.codes_append_still _ hstill]
    exact h.codes hcalls

end Walking

variable {q : Statement} {codes : List Code} {calls : List (Moment σ)} {m : Moment σ}

/-- What is true of a walk at first stays true. -/
theorem Walked.walking {c₀ : Client σ} (hc : c₀.Sound) (h : Walked c₀ q calls m) :
    ∃ codes, Walking q codes calls m := by
  induction h with
  | start i hi => exact ⟨[], .start hc hi⟩
  | @next calls m i _ hi ih =>
    obtain ⟨codes, hwalking⟩ := ih
    cases hf : m.walk.finished with
    | true => exact ⟨codes, hwalking.next_of_finished hi hf⟩
    | false =>
      obtain ⟨code, hnext⟩ := hwalking.next_of_not_finished hi hf
      exact ⟨codes ++ [code], hnext⟩
  | other op _ hq hs ih =>
    obtain ⟨codes, hwalking⟩ := ih
    exact ⟨codes, hwalking.other hq hs⟩

/-- All errors in a walk are those of its steps. -/
theorem Course.native_of_error (h : Course q codes calls) (hm : m ∈ calls) {e : Error} {walk : Rows}
    (he : m.next.result = .ok (some (.error e), walk)) :
    ∃ message code extended, e = .native message code extended := by
  obtain ⟨n, hn⟩ := List.getElem?_of_mem hm
  by_cases hlt : n < codes.length
  · obtain ⟨row, item, walk', hres, hitem, -⟩ :=
      (h.steps n _ m (List.getElem?_eq_getElem hlt) hn).yields
    rw [he] at hres
    cases hres
    rw [Code.YieldedAs] at hitem
    split at hitem
    · cases hitem
    · split at hitem
      · cases hitem
      · obtain ⟨message, extended, heq⟩ := hitem
        cases heq
        exact ⟨message, _, extended, rfl⟩
  · rw [h.rest n m (Nat.not_lt.mp hlt) hn] at he
    cases he

end

namespace Client

variable [Engine σ]

/-- On every engine and after any operations, whatever became of a statement: making a walk over
its rows asks the engine nothing, and all its calls together take the course of the codes that the
steps give. So no call says that a reset is needed or that there is no row. -/
theorem walk_yields_rows (engine : σ) (ops : List Operation) (q : Statement) :
    let c₀ := run engine ops
    (∀ i, (c₀.perform (.walk i)).store = c₀.store ∧ (c₀.perform (.walk i)).history = c₀.history) ∧
    ∀ calls m, Walked c₀ q calls m →
      (∃ codes, Course q codes calls) ∧
      ∀ m' ∈ calls, ∀ walk, m'.next.result ≠ .ok (some (.error .needsReset), walk) ∧
        m'.next.result ≠ .ok (some (.error .noRow), walk) := by
  intro c₀
  refine ⟨fun i => ?_, fun calls m hwalked => ?_⟩
  · rw [perform]
    split <;> exact ⟨rfl, rfl⟩
  · obtain ⟨codes, hwalking⟩ := hwalked.walking (run_sound engine ops)
    refine ⟨⟨codes, hwalking.course⟩, fun m' hm' walk => ⟨fun he => ?_, fun he => ?_⟩⟩
    · obtain ⟨_, _, _, heq⟩ := hwalking.course.native_of_error hm' he
      cases heq
    · obtain ⟨_, _, _, heq⟩ := hwalking.course.native_of_error hm' he
      cases heq

/-- A walk over a statement that was left on its first row, called once more than it has an end. -/
theorem walk_yields_rows_of_oneColumn :
    ∃ q codes calls m, Walked (run (⟨[Code.row, Code.row, Code.done]⟩ : Script) oneColumn) q calls m ∧
      calls.length = 3 ∧ Course q codes calls := by
  have hstart : Walked (run (⟨[Code.row, Code.row, Code.done]⟩ : Script) oneColumn)
      ⟨⟨⟨0⟩, ""⟩, "SELECT a FROM t", ⟨0⟩⟩ [] _ := .start 0 rfl
  have hwalked := Walked.next 0 (.next 0 (.next 0 hstart rfl) rfl) rfl
  obtain ⟨⟨codes, hcourse⟩, -⟩ := (walk_yields_rows _ _ _).2 _ _ hwalked
  exact ⟨_, codes, _, _, hwalked, rfl, hcourse⟩

end Client

end GuardedSql
