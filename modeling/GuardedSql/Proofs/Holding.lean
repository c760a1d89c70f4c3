import GuardedSql.Proofs.Inquiry
import GuardedSql.Proofs.Ledger
import GuardedSql.Proofs.Preparation

/-!
# Holders come and go

A statement is prepared with one holder. A retained column is one more; with the last one that
goes the statement is released. `Enters` says that an action keeps the ledger, with all its calls
entered under one name; it is shown for the preparation of a statement, for retaining and for
letting go, and from these for the queries that need a statement for a moment only.
-/

namespace GuardedSql

variable {σ α : Type}

/-! ### Keeping the ledger -/

/-- What leads from the store `s` to `s'`, and from the count of holders `n` to `n'`, keeps the
ledger when its calls are entered under `target`. -/
def Enters (target : Option CursorId) (s s' : Store (Recorder σ)) (n n' : CursorId → Nat) : Prop :=
  ∀ l, Ledger s l n → ∃ d, s'.engine.exchanges = s.engine.exchanges ++ d ∧
    s.nextCursor ≤ s'.nextCursor ∧ Ledger s' (l ++ d.map (Entry.mk target)) n'

/-- The name of a statement that came meanwhile, if one did. -/
def Store.opened {τ : Type} (s s' : Store τ) : Option CursorId :=
  if s.nextCursor < s'.nextCursor then some ⟨s.nextCursor⟩ else none

namespace Enters

variable {target : Option CursorId} {s s' s'' : Store (Recorder σ)} {n n' n'' : CursorId → Nat}
  {id : CursorId} {a : Action (Recorder σ) α}

theorem refl : Enters target s s n n := fun l h => ⟨[], by simp, Nat.le_refl _, by simpa using h⟩

theorem trans (h : Enters target s s' n n') (h' : Enters target s' s'' n' n'') :
    Enters target s s'' n n'' := by
  intro l hl
  obtain ⟨d, hd, hle, hl'⟩ := h l hl
  obtain ⟨d', hd', hle', hl''⟩ := h' _ hl'
  refine ⟨d ++ d', by rw [hd', hd, List.append_assoc], Nat.le_trans hle hle', ?_⟩
  rwa [List.map_append, ← List.append_assoc]

/-- An operation through a statement with a holder. -/
theorem through (ha : Through id a) (hn : 0 < n id) : Enters (some id) s (a s).2 n n := by
  intro l hl
  obtain ⟨k, hk⟩ := Option.isSome_iff_exists.mp (hl.get?_isSome_iff.mpr hn)
  obtain ⟨k', d, hpass⟩ := ha s k hk
  exact ⟨d, hpass.recorded, Nat.le_of_eq hpass.next.symm, hl.passage hk hpass⟩

/-- Retaining is entering nothing and having one holder more. -/
theorem retain (hpos : 0 < n id) (hn : Raised id n n') :
    Enters target s (id.retain s).2 n n' := by
  intro l hl
  obtain ⟨k, hk⟩ := Option.isSome_iff_exists.mp (hl.get?_isSome_iff.mpr hpos)
  have hself : n' id = k.holders + 1 := by rw [hn.self, (hl.held id k hk).1]
  rw [CursorId.retain_run hk]
  refine ⟨[], by simp, Nat.le_refl _, ?_⟩
  rw [List.map_nil, List.append_nil]
  refine hl.recounted hk (Nat.succ_pos _) ?_ ?_ hself hn.others <;> rfl

/-- A statement came first, and then there were calls about it. -/
theorem opening (h : Enters (some ⟨s.nextCursor⟩) s s' n n') (hnext : s.nextCursor < s'.nextCursor)
    (h' : Enters (some ⟨s.nextCursor⟩) s' s'' n' n'') :
    Enters (s.opened s'') s s'' n n'' := by
  intro l hl
  obtain ⟨_, _, _, hl'⟩ := h l hl
  obtain ⟨_, _, hle, _⟩ := h' _ hl'
  have hopened : s.opened s'' = some ⟨s.nextCursor⟩ := if_pos (by omega)
  rw [hopened]
  exact h.trans h' l hl

variable [Engine σ]

/-- Calls about no statement. -/
theorem quiet (ha : Asks (·.isApart = true) a) : Enters none s (a s).2 n n := by
  intro l hl
  obtain ⟨d, hd, hcalls⟩ := ha.makes.appended s
  have hnext : (a s).2.nextCursor = s.nextCursor := by rw [(ha s).stays]
  have hapart (x : Exchange) (hx : x ∈ d) := Exchange.apart_of_isApart (hcalls x hx)
  refine ⟨d, hd, Nat.le_of_eq hnext.symm, hl.quiet ?_ hnext hapart⟩
  rw [(ha s).stays]

/-- Releasing is entering the release with the last holder, and nothing before. -/
theorem release (hn : Raised id n' n) : Enters (some id) s (id.release s).2 n n' := by
  intro l hl
  have hself := hn.self
  obtain ⟨k, hk⟩ := Option.isSome_iff_exists.mp (hl.get?_isSome_iff.mpr (by omega : 0 < n id))
  have hholders := (hl.held id k hk).1
  by_cases hlast : k.holders ≤ 1
  · rw [CursorId.release_of_last hk hlast]
    refine ⟨_, rfl, Nat.le_refl _, ?_⟩
    refine hl.closed hk hlast ?_ ?_ hn <;> rfl
  · rw [CursorId.release_of_more hk (by omega)]
    have hself' : n' id = k.holders - 1 := by omega
    refine ⟨[], by simp, Nat.le_refl _, ?_⟩
    rw [List.map_nil, List.append_nil]
    refine hl.recounted hk (by omega) ?_ ?_ hself' (fun j hj => (hn.others j hj).symm) <;> rfl

end Enters

/-! ### Statements and queries -/

section

variable [Engine σ] {db : Database} {query : String} {s : Store (Recorder σ)}

/-- What the preparation of a statement does to the ledger. -/
theorem Statement.prepare_enters (db : Database) (query : String) (s : Store (Recorder σ)) :
    (∃ e s', Statement.prepare db query s = (.error e, s') ∧
      ∀ n, Enters (s.opened s') s s' n n) ∨
    ∃ s', Statement.prepare db query s = (.ok ⟨db, query, ⟨s.nextCursor⟩⟩, s') ∧
      s.nextCursor < s'.nextCursor ∧
      ∀ n n', Raised ⟨s.nextCursor⟩ n n' → Enters (some ⟨s.nextCursor⟩) s s' n n' := by
  obtain ⟨d, engine, hanswers, ⟨e, hpreparing, hrun⟩ | ⟨k, hpreparing, hrun⟩⟩ :=
    CursorId.prepare_cases db.connection query s
  · refine .inl ⟨e, _, Action.bind_of_error hrun, fun n l hl => ?_⟩
    have hopened : s.opened { s with engine } = none := if_neg (Nat.lt_irrefl _)
    rw [hopened]
    exact ⟨d, hanswers.recorded.1, Nat.le_refl _, hl.quiet rfl rfl hpreparing.apart⟩
  · refine .inr ⟨_, Action.bind_of_ok hrun, Nat.lt_succ_self _, fun n n' hn l hl => ?_⟩
    refine ⟨d, hanswers.recorded.1, Nat.le_succ _, ?_⟩
    have htracks := hpreparing.tracks
    obtain ⟨rest, rfl, hrest⟩ := hpreparing.of_ok
    have hwithin : ∀ x ∈ rest, x.call.Within k.handle := fun x hx =>
      .self (hrest x hx).2 (Call.still_of_isInquiry (hrest x hx).1).2.2
    refine hl.opened ?_ ?_ hpreparing.unused.holders hwithin htracks hn <;> rfl

namespace Database

/-- A query whose statement is gone at the end. -/
theorem withStatement_enters {use : Statement → Action (Recorder σ) α}
    (huse : ∀ q, Through (Statement.cursor q) (use q)) (n : CursorId → Nat) :
    Enters (s.opened (db.withStatement query use s).2) s (db.withStatement query use s).2 n n := by
  obtain ⟨e, s', hrun, henters⟩ | ⟨s', hrun, hnext, henters⟩ :=
    Statement.prepare_enters db query s
  · rw [withStatement, Action.bind_of_error hrun]
    exact henters n
  · rw [withStatement, Action.bind_of_ok hrun, ensuring_run]
    have hn := raised_raise ⟨s.nextCursor⟩ n
    exact .opening (henters n _ hn) hnext
      (.trans (.through (huse ⟨db, query, _⟩) hn.pos) (.release hn))

end Database

end

end GuardedSql
