import GuardedSql.Proofs.Calls
import GuardedSql.Proofs.Stepping
import Mathlib.Data.List.Induction

/-!
# The history of a statement

The calls made on a prepared statement, with the engine's answers, say all there is to know
about its progress: how often it was rewound, and which codes its steps gave since. `Tracks`
ties the four cells of a cursor and the flag of its statement to that history; a step of a
statement that is not done and a reset keep the tie, whatever code the engine answers with.
-/

namespace GuardedSql

/-- The exchanges about one statement, the oldest first. -/
abbrev History := List Exchange

/-- An exchange that advances or rewinds is a step or a reset, answered with a code. -/
theorem Exchange.of_moves {e : Exchange} (h : e.call.moves = true) :
    (∃ p code, e = ⟨.step p, code⟩) ∨ ∃ p code, e = ⟨.reset p, code⟩ := by
  obtain ⟨c, reply⟩ := e
  cases c with
  | step p => exact .inl ⟨p, reply, rfl⟩
  | reset p => exact .inr ⟨p, reply, rfl⟩
  | _ => cases h

namespace History

/-- The codes of the steps since the last reset, after one more exchange. -/
def codesAfter (codes : List Code) : Exchange → List Code
  | ⟨.reset _, _⟩ => []
  | ⟨.step _, code⟩ => codes ++ [code]
  | _ => codes

/-- The codes of the steps since the last reset, the oldest first. -/
def codes (H : History) : List Code := H.foldl codesAfter []

/-- The code of the last step since the last reset, if there was one. -/
def lastCode? (H : History) : Option Code := H.codes.getLast?

/-- How often the statement was rewound. -/
def resets (H : History) : Nat := H.countP (·.call.isReset)

/-- The row that the statement stands on, or would stand on. -/
def stamp (H : History) : Stamp := ⟨H.resets, H.codes.length⟩

/-- No step follows one that found the end, unless a reset is between them. -/
def Guarded (H : History) : Prop :=
  ∀ (before : History) (e : Exchange) (after : History),
    H = before ++ e :: after → e.call.isStep = true → before.lastCode? ≠ some Code.done

/-- Whether no exchange advances or rewinds the statement. -/
def Still (H : History) : Prop := ∀ e ∈ H, e.call.moves = false

/-- Other calls than steps and resets do not count. -/
theorem codesAfter_of_still {e : Exchange} (h : e.call.moves = false) (codes : List Code) :
    codesAfter codes e = codes := by
  obtain ⟨c, reply⟩ := e
  cases c with
  | step p => cases h
  | reset p => cases h
  | _ => rfl

@[simp] theorem codes_append_step (H : History) (h : PreparedHandle) (code : Code) :
    codes (H ++ [⟨.step h, code⟩]) = H.codes ++ [code] := by
  simp only [codes, List.foldl_append, List.foldl_cons, List.foldl_nil, codesAfter]

@[simp] theorem codes_append_reset (H : History) (h : PreparedHandle) (code : Code) :
    codes (H ++ [⟨.reset h, code⟩]) = [] := by
  simp only [codes, List.foldl_append, List.foldl_cons, List.foldl_nil, codesAfter]

@[simp] theorem resets_append_step (H : History) (h : PreparedHandle) (code : Code) :
    resets (H ++ [⟨.step h, code⟩]) = H.resets := by
  simp [resets, Call.isReset]

@[simp] theorem resets_append_reset (H : History) (h : PreparedHandle) (code : Code) :
    resets (H ++ [⟨.reset h, code⟩]) = H.resets + 1 := by
  simp [resets, Call.isReset]

/-- Calls between steps and resets leave the codes as they are. -/
theorem codes_append_still (H : History) {d : History} (hd : d.Still) :
    codes (H ++ d) = H.codes := by
  induction d generalizing H with
  | nil => rw [List.append_nil]
  | cons e d ih =>
    have he : codes (H ++ [e]) = H.codes := by
      simp only [codes, List.foldl_append, List.foldl_cons, List.foldl_nil]
      exact codesAfter_of_still (hd e List.mem_cons_self) _
    rw [List.append_cons, ih (H ++ [e]) fun e' he' => hd e' (List.mem_cons_of_mem e he'), he]

/-- They leave the number of resets as it is. -/
theorem resets_append_still (H : History) {d : History} (hd : d.Still) :
    resets (H ++ d) = H.resets := by
  have hzero : resets d = 0 := by
    apply List.countP_eq_zero.mpr
    intro e he hr
    have hm := hd e he
    simp only [Call.moves, hr, Bool.or_true] at hm
    cases hm
  simp only [resets, List.countP_append] at hzero ⊢
  omega

/-- Nothing was stepped too often at first. -/
theorem Guarded.nil : Guarded [] := by
  intro before e after hsplit
  simp at hsplit

/-- The last exchange of a history decides which step could break the guard. -/
theorem Guarded.append_one {H : History} (hg : H.Guarded) {e : Exchange}
    (he : e.call.isStep = true → H.lastCode? ≠ some Code.done) : Guarded (H ++ [e]) := by
  intro before f after hsplit hf
  rcases List.eq_nil_or_concat after with rfl | ⟨init, last, rfl⟩
  · obtain ⟨rfl, hfe⟩ := List.append_inj' hsplit rfl
    cases hfe
    exact he hf
  · have hinit : H = before ++ f :: init := by
      have hs : H ++ [e] = (before ++ f :: init) ++ [last] := by simpa using hsplit
      exact (List.append_inj' hs rfl).1
    exact hg before f init hinit hf

/-- Calls between steps and resets are always allowed. -/
theorem Guarded.append_still {H : History} (hg : H.Guarded) {d : History} (hd : d.Still) :
    Guarded (H ++ d) := by
  induction d generalizing H with
  | nil => rwa [List.append_nil]
  | cons e d ih =>
    rw [List.append_cons]
    refine ih (hg.append_one fun he => ?_) fun e' he' => hd e' (List.mem_cons_of_mem e he')
    have hm := hd e List.mem_cons_self
    rw [Call.moves, he] at hm
    cases hm

/-- The row of an earlier moment is at most the present one. -/
theorem stamp_append (H d : History) :
    H.resets < resets (H ++ d) ∨
      H.resets = resets (H ++ d) ∧ H.codes.length ≤ (codes (H ++ d)).length := by
  induction d using List.reverseRecOn with
  | nil => rw [List.append_nil]; omega
  | append_singleton d e ih =>
    rw [← List.append_assoc]
    cases he : e.call.moves with
    | false =>
      have hs : Still [e] := by simpa [Still] using he
      rw [resets_append_still _ hs, codes_append_still _ hs]
      exact ih
    | true =>
      obtain ⟨p, code, rfl⟩ | ⟨p, code, rfl⟩ := Exchange.of_moves he
      · rw [resets_append_step, codes_append_step, List.length_append]
        omega
      · rw [resets_append_reset]
        omega

/-- A step or a reset leads to a row that there was not before: no pair of a run and a step
comes twice. -/
theorem stamp_append_eq_iff (H d : History) : stamp (H ++ d) = H.stamp ↔ d.Still := by
  constructor
  · intro h e he
    rw [← Bool.not_eq_true]
    intro hmoves
    obtain ⟨d₁, d₂, rfl⟩ := List.append_of_mem he
    have hafter := stamp_append (H ++ d₁ ++ [e]) d₂
    have hbefore := stamp_append H d₁
    simp only [stamp, Stamp.mk.injEq] at h
    simp only [List.append_assoc, List.cons_append, List.nil_append] at h hafter hbefore
    obtain ⟨p, code, rfl⟩ | ⟨p, code, rfl⟩ := Exchange.of_moves hmoves
    · have hr := resets_append_step (H ++ d₁) p code
      have hc := congrArg List.length (codes_append_step (H ++ d₁) p code)
      simp only [List.append_assoc, List.length_append, List.length_singleton] at hr hc
      omega
    · have hr := resets_append_reset (H ++ d₁) p code
      simp only [List.append_assoc] at hr
      omega
  · intro h
    rw [stamp, resets_append_still H h, codes_append_still H h, stamp]

end History

/-- The four cells of a cursor and the flag of its statement are what the history says, and the
history is guarded. -/
structure Cursor.Tracks (c : Cursor) (H : History) : Prop where
  /-- The runs are the resets. -/
  run : c.run = H.resets
  /-- The steps are those since the last reset. -/
  step : c.step = H.codes.length
  /-- There is a row if the last of them gave one. -/
  hasRow : c.hasRow = true ↔ H.lastCode? = some Code.row
  /-- The statement is done if the last of them found the end. -/
  done : c.done = true ↔ H.lastCode? = some Code.done
  /-- No step was made of a statement that was done. -/
  guarded : H.Guarded

namespace Cursor.Tracks

variable {c : Cursor} {H : History}

/-- The cells name the row of the history. -/
theorem stamp_eq (h : c.Tracks H) : c.stamp = H.stamp := by
  rw [Cursor.stamp, History.stamp, h.run, h.step]

/-- What does not advance or rewind the statement leaves its cells right. -/
theorem still (h : c.Tracks H) {d : History} (hd : d.Still) : c.Tracks (H ++ d) where
  run := by rw [H.resets_append_still hd]; exact h.run
  step := by rw [H.codes_append_still hd]; exact h.step
  hasRow := by rw [History.lastCode?, H.codes_append_still hd]; exact h.hasRow
  done := by rw [History.lastCode?, H.codes_append_still hd]; exact h.done
  guarded := h.guarded.append_still hd

/-- The number of holders is no part of the progress. -/
theorem recount (h : c.Tracks H) (holders : Nat) : { c with holders }.Tracks H :=
  ⟨h.run, h.step, h.hasRow, h.done, h.guarded⟩

/-- The cells after a step of a statement that is not done. -/
theorem advanced (h : c.Tracks H) (hd : c.done = false) (p : PreparedHandle) (code : Code) :
    (c.advanced code).Tracks (H ++ [⟨.step p, code⟩]) where
  run := by rw [History.resets_append_step]; exact h.run
  step := by
    rw [History.codes_append_step, List.length_append, ← h.step]
    rfl
  hasRow := by
    rw [History.lastCode?, History.codes_append_step, List.getLast?_concat]
    simp [Cursor.advanced, Cursor.stepped]
  done := by
    rw [History.lastCode?, History.codes_append_step, List.getLast?_concat]
    simp [Cursor.advanced]
  guarded := by
    refine h.guarded.append_one fun _ hlast => ?_
    rw [h.done.mpr hlast] at hd
    cases hd

/-- The cells after a reset. -/
theorem readied (h : c.Tracks H) (p : PreparedHandle) (code : Code) :
    c.readied.Tracks (H ++ [⟨.reset p, code⟩]) where
  run := by
    rw [History.resets_append_reset, ← h.run]
    rfl
  step := by
    rw [History.codes_append_reset]
    rfl
  hasRow := by
    rw [History.lastCode?, History.codes_append_reset]
    simp [Cursor.readied, Cursor.rewound]
  done := by
    rw [History.lastCode?, History.codes_append_reset]
    simp [Cursor.readied]
  guarded := h.guarded.append_one fun hs => by cases hs

/-- A cursor that was neither advanced nor rewound yet. -/
theorem fresh {H : History} (hs : H.Still) (hr : c.run = 0) (hst : c.step = 0)
    (hrow : c.hasRow = false) (hdone : c.done = false) : c.Tracks H := by
  have hnil : c.Tracks [] :=
    { run := hr
      step := hst
      hasRow := by rw [hrow]; simp [History.lastCode?, History.codes]
      done := by rw [hdone]; simp [History.lastCode?, History.codes]
      guarded := .nil }
  exact hnil.still hs

end Cursor.Tracks

end GuardedSql
