import GuardedSql.Proofs.Client
import GuardedSql.Sql.Machine

/-!
# Equality of column ranges

Two ranges are compared by their places as long as both statements are there, and by whether they are
at their ends once a statement is gone. This is symmetric. It is transitive, too, unless the range in
the middle is the only one whose statement is gone: it is equal to all ranges at their ends then,
which need not be equal to each other.
-/

namespace GuardedSql

variable {σ : Type}

namespace ColumnRange

/-- The statement of a range is there. -/
def IsLive (a : ColumnRange) (s : Store σ) : Prop := (s.cursors.get? a.cursor).isSome = true

/-- A range is found equal to another one. -/
def Equals (a b : ColumnRange) (s : Store σ) : Prop := (a.equal b s).1 = .ok true

variable {a b c : ColumnRange} {s : Store σ}

/-- While both statements are there, equal ranges are the same. -/
theorem equals_of_isLive (ha : a.IsLive s) (hb : b.IsLive s) : a.Equals b s ↔ a = b := by
  obtain ⟨k, hk⟩ := Option.isSome_iff_exists.mp ha
  obtain ⟨l, hl⟩ := Option.isSome_iff_exists.mp hb
  have hrun : a.equal b s = (.ok (a == b), s) := by
    have hfound : a.cursor.find? s = (.ok (some k), s) := by rw [CursorId.find?, hk]
    have hfound' : b.cursor.find? s = (.ok (some l), s) := by rw [CursorId.find?, hl]
    rw [equal, Action.bind_of_ok hfound, Action.bind_of_ok hfound']
    rfl
  rw [Equals, hrun]
  constructor
  · intro h
    exact beq_iff_eq.mp (Except.ok.inj h)
  · rintro rfl
    rw [beq_self_eq_true]

/-- Once a statement is gone, equal ranges are those at their ends. -/
theorem equals_of_not_isLive (h : ¬(a.IsLive s ∧ b.IsLive s)) :
    a.Equals b s ↔ a.isExhausted = true ∧ b.isExhausted = true := by
  have hrun : a.equal b s = (.ok (a.isExhausted && b.isExhausted), s) := by
    have hfound (r : ColumnRange) : r.cursor.find? s = (.ok (s.cursors.get? r.cursor), s) := rfl
    rw [equal, Action.bind_of_ok (hfound a), Action.bind_of_ok (hfound b)]
    cases ha : s.cursors.get? a.cursor with
    | none => rfl
    | some k =>
      cases hb : s.cursors.get? b.cursor with
      | none => rfl
      | some l =>
        have hboth : a.IsLive s ∧ b.IsLive s := ⟨by rw [IsLive, ha]; rfl, by rw [IsLive, hb]; rfl⟩
        exact absurd hboth h
  rw [Equals, hrun, Except.ok.injEq, Bool.and_eq_true]

/-- Equal ranges are at their ends if one of them is. -/
theorem Equals.isExhausted (h : a.Equals b s) (ha : a.isExhausted = true) : b.isExhausted = true := by
  by_cases hlive : a.IsLive s ∧ b.IsLive s
  · rwa [← (equals_of_isLive hlive.1 hlive.2).mp h]
  · exact ((equals_of_not_isLive hlive).mp h).2

theorem Equals.symm (h : a.Equals b s) : b.Equals a s := by
  by_cases hlive : a.IsLive s ∧ b.IsLive s
  · have heq := (equals_of_isLive hlive.1 hlive.2).mp h
    exact (equals_of_isLive hlive.2 hlive.1).mpr heq.symm
  · have hends := (equals_of_not_isLive hlive).mp h
    exact (equals_of_not_isLive (mt And.symm hlive)).mpr hends.symm

/-- Ranges of live statements are compared through one of a live statement. -/
theorem Equals.trans_of_isLive (h : a.Equals b s) (h' : b.Equals c s) (hb : b.IsLive s) :
    a.Equals c s := by
  by_cases ha : a.IsLive s
  · rwa [(equals_of_isLive ha hb).mp h]
  · have hends := (equals_of_not_isLive fun hlive => ha hlive.1).mp h
    have hend := h'.isExhausted hends.2
    exact (equals_of_not_isLive fun hlive => ha hlive.1).mpr ⟨hends.1, hend⟩

/-- All ranges that are equal to one of a statement that is gone are at their ends. -/
theorem Equals.isExhausted_of_not_isLive (h : a.Equals b s) (hb : ¬b.IsLive s) :
    a.isExhausted = true ∧ b.isExhausted = true :=
  (equals_of_not_isLive fun hlive => hb hlive.2).mp h

end ColumnRange

/-! ### A statement that is gone between two that are there -/

namespace Client

/-- On a private database, three statements for one column stand on their rows, the column of each is
taken out of a range, and the second statement is given up. -/
def middleGone : Client Sql.Machine :=
  match Database.openInMemory ({ engine := {} } : Store Sql.Machine) with
  | (.error _, s) => run s.engine []
  | (.ok db, s) => run s.engine [
      .prepare db "SELECT 1", .use 0 .step, .row 0, .columns 0, .takeFront 0,
      .prepare db "SELECT 1", .use 0 .step, .row 0, .columns 0, .takeFront 0,
      .prepare db "SELECT 1", .use 0 .step, .row 0, .columns 0, .takeFront 0,
      .dropStatement 1]

/-- The range over the one column of a statement, after that column was taken. -/
def ended (n : Nat) : ColumnRange := ⟨⟨n⟩, ⟨0, 1⟩, 1, 1⟩

/-- What there is of the three statements and ranges. -/
theorem middleGone_ranges :
    middleGone.ranges.map Taken.view = [ended 2, ended 1, ended 0] ∧
      ((ended 0).IsLive middleGone.store ∧ (ended 2).IsLive middleGone.store ∧
        ¬(ended 1).IsLive middleGone.store) ∧
      (ended 0).Equals (ended 1) middleGone.store ∧ (ended 1).Equals (ended 2) middleGone.store ∧
      ¬(ended 0).Equals (ended 2) middleGone.store := by
  unfold ColumnRange.IsLive ColumnRange.Equals
  decide +kernel

end Client

/-- On every store, whichever statements are gone: equality of ranges is symmetric, and it is
transitive unless the statement in the middle is the only one that is gone. Then all ranges are at
their ends, and the outer two are equal only if they are the same. -/
theorem ranges_equal_partially (s : Store σ) (a b c : ColumnRange) :
    (a.Equals b s → b.Equals a s) ∧
      (a.Equals b s → b.Equals c s → (a.IsLive s → c.IsLive s → b.IsLive s) → a.Equals c s) ∧
      (a.Equals b s → b.Equals c s → a.IsLive s → c.IsLive s → ¬b.IsLive s →
        (a.isExhausted = true ∧ b.isExhausted = true ∧ c.isExhausted = true) ∧
          (a.Equals c s ↔ a = c)) := by
  refine ⟨fun h => h.symm, fun h h' hmiddle => ?_, fun h h' ha hc hb => ?_⟩
  · by_cases hb : b.IsLive s
    · exact h.trans_of_isLive h' hb
    · have hfirst := h.isExhausted_of_not_isLive hb
      have hlast := h'.symm.isExhausted_of_not_isLive hb
      have houter : ¬(a.IsLive s ∧ c.IsLive s) := fun hlive => hb (hmiddle hlive.1 hlive.2)
      exact (ColumnRange.equals_of_not_isLive houter).mpr ⟨hfirst.1, hlast.1⟩
  · have hfirst := h.isExhausted_of_not_isLive hb
    have hlast := h'.symm.isExhausted_of_not_isLive hb
    exact ⟨⟨hfirst.1, hfirst.2, hlast.1⟩, ColumnRange.equals_of_isLive ha hc⟩

/-- The ranges of three statements of which the second one is gone. -/
theorem ranges_equal_partially_of_middleGone :
    (Client.ended 1).Equals (Client.ended 0) Client.middleGone.store ∧
      (Client.ended 1).Equals (Client.ended 1) Client.middleGone.store ∧
      (Client.ended 0).isExhausted = true ∧
      ((Client.ended 0).Equals (Client.ended 2) Client.middleGone.store ↔
        Client.ended 0 = Client.ended 2) := by
  obtain ⟨-, ⟨hlive, hlive', hgone⟩, hfirst, hsecond, -⟩ := Client.middleGone_ranges
  obtain ⟨hsymm, -, hends⟩ := ranges_equal_partially Client.middleGone.store (Client.ended 0)
    (Client.ended 1) (Client.ended 2)
  obtain ⟨-, htrans, -⟩ := ranges_equal_partially Client.middleGone.store (Client.ended 1)
    (Client.ended 0) (Client.ended 1)
  have hback := hsymm hfirst
  obtain ⟨⟨hend, -⟩, houter⟩ := hends hfirst hsecond hlive hlive' hgone
  exact ⟨hback, htrans hback hfirst fun h => absurd h hgone, hend, houter⟩

namespace Client

/-- Equality of the ranges is not transitive: those of the first and of the third statement are both
equal to that of the second one, but not to each other. -/
theorem equality_not_transitive_of_middleGone :
    ¬∀ a ∈ middleGone.ranges, ∀ b ∈ middleGone.ranges, ∀ c ∈ middleGone.ranges,
      a.view.Equals b.view middleGone.store → b.view.Equals c.view middleGone.store →
        a.view.Equals c.view middleGone.store := by
  intro htransitive
  obtain ⟨hranges, -, hfirst, hsecond, hthird⟩ := middleGone_ranges
  have hmem (n : Nat) (hn : ended n ∈ [ended 2, ended 1, ended 0]) :
      ∃ t ∈ middleGone.ranges, t.view = ended n := by
    rwa [← hranges, List.mem_map] at hn
  obtain ⟨a, ha, hviewa⟩ := hmem 0 (by simp)
  obtain ⟨b, hb, hviewb⟩ := hmem 1 (by simp)
  obtain ⟨c, hc, hviewc⟩ := hmem 2 (by simp)
  have hequal := htransitive a ha b hb c hc
  rw [hviewa, hviewb, hviewc] at hequal
  exact hthird (hequal hfirst hsecond)

end Client

end GuardedSql
