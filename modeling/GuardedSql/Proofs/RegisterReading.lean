import GuardedSql.Proofs.Carriage
import GuardedSql.Proofs.SingleValue


/-!
# Reading registers

What the getters of a column give for the register in which the engine keeps its value.
-/

namespace GuardedSql

open Sql

/-- A value of the present row of a statement is in a register. -/
structure Sql.Machine.Shows (m : Machine) (p : PreparedHandle) (i : Int32) (r : Register) : Prop where
  /-- The index is one of a column. -/
  index : ¬i < 0
  /-- The value. -/
  register : ∃ x row, m.statements.get? p.number = some x ∧ x.row = some row ∧
    row[i.toInt.toNat]? = some r

namespace Sql.Machine.Shows

variable {α : Type} {m : Machine} {p : PreparedHandle} {i j : Int32} {r : Register}

/-- A read gives what it makes of the register, and leaves there what it turns it into. -/
theorem readColumn (h : m.Shows p i r) (f : Register → α × Register) :
    (Work.readColumn p.number i f m).1 = (f r).1 ∧
      (Work.readColumn p.number i f m).2.Shows p i (f r).2 := by
  obtain ⟨x, row, hx, hrow, hr⟩ := h.register
  let x' : Prepared := { x with row := some (row.set i.toInt.toNat (f r).2) }
  have hlt : i.toInt.toNat < row.length := (List.getElem?_eq_some_iff.mp hr).1
  have hrun : Work.readColumn p.number i f m =
      ((f r).1, { m with statements := m.statements.set p.number x' }) := by
    rw [Work.readColumn, Work.bind_run, Work.statement?_run, hx]
    dsimp only
    rw [hrow, Option.getD_some, if_neg h.index, hr]
    dsimp only
    rw [Work.bind_run, Work.modifyStatement_run _ hx]
    rfl
  rw [hrun]
  exact ⟨rfl, h.index, x', _, Table.get?_set_self _ _ _, rfl, List.getElem?_set_self hlt⟩

/-- A read of another value leaves the register alone. -/
theorem readElsewhere (h : m.Shows p i r) (hj : j ≠ i) (f : Register → α × Register) :
    (Work.readColumn p.number j f m).2.Shows p i r := by
  obtain ⟨x, row, hx, hrow, hr⟩ := h.register
  rw [Work.readColumn, Work.bind_run, Work.statement?_run, hx]
  dsimp only
  rw [hrow, Option.getD_some]
  by_cases hlow : j < 0
  · rw [if_pos hlow]
    exact ⟨h.index, x, row, hx, hrow, hr⟩
  · rw [if_neg hlow]
    have hother : j.toInt.toNat ≠ i.toInt.toNat := fun heq => hj <| Int32.toInt_inj.mp <| by
      have hi := h.index
      rw [Int32.lt_iff_toInt_lt, Int32.toInt_zero] at hi hlow
      omega
    cases hvalue : row[j.toInt.toNat]? with
    | none => exact ⟨h.index, x, row, hx, hrow, hr⟩
    | some r' =>
      dsimp only
      rw [Work.bind_run, Work.modifyStatement_run _ hx]
      refine ⟨h.index, _, _, Table.get?_set_self _ _ _, rfl, ?_⟩
      rw [List.getElem?_set_ne hother, hr]

end Sql.Machine.Shows

/-- What is not too big has no more bytes than a value may have. -/
theorem Cell.size_le {c : Cell} (h : c.isTooBig = false) : c.size ≤ maxBytes := by
  simpa [isTooBig] using h

theorem eq_empty_of_isEmpty {b : ByteArray} (h : b.isEmpty = true) : b = .empty :=
  ByteArray.size_eq_zero_iff.mp (beq_iff_eq.mp h)

/-- What can be stored can be counted in 32 bits. -/
theorem Column.byteCount_ofNat {n : Nat} (h : n ≤ Cell.maxBytes) :
    Column.byteCount (Int32.ofNat n) = n := by
  unfold Cell.maxBytes at h
  rw [byteCount, Int32.toInt_ofNat_of_lt (by omega), Int.toNat_natCast]

/-- All bytes of a buffer are taken out. -/
theorem heldBytes_size {b : ByteArray} (h : b.size ≤ Cell.maxBytes) :
    heldBytes (some b) (Int32.ofNat b.size) = b := by
  rw [heldBytes, Column.byteCount_ofNat h, ByteArray.extract_zero_size]

/-- So they are when there is no buffer if there are none. -/
theorem heldBytes_of_isEmpty {b : ByteArray} (h : b.size ≤ Cell.maxBytes) :
    heldBytes (if b.isEmpty then none else some b) (Int32.ofNat b.size) = b := by
  by_cases hempty : b.isEmpty = true
  · rw [if_pos hempty, eq_empty_of_isEmpty hempty]
    rfl
  · rw [if_neg hempty, heldBytes_size h]

end GuardedSql
