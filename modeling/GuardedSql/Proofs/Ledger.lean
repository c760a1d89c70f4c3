import GuardedSql.Proofs.Passage

/-!
# The ledger of statements

Every native call is entered under the name of the statement that it was made for. The ledger
then shows the life of each statement: one successful preparation, calls about it, and one
release, which is there exactly when no holder is left. `Ledger` ties a store, its entries and
a count of holders together; it is kept by every kind of action that the library is made of.
-/

namespace GuardedSql

/-- A native call, entered for a statement or for none. -/
structure Entry where
  /-- The name of the statement, if the call was made for one. -/
  cursor : Option CursorId
  /-- The call and its answer. -/
  exchange : Exchange

namespace Entry

/-- The history of a statement. -/
def about (l : List Entry) (id : CursorId) : History :=
  l.filterMap fun e => if e.cursor = some id then some e.exchange else none

/-- Histories grow as the entries do. -/
theorem about_append (l l' : List Entry) (id : CursorId) :
    about (l ++ l') id = about l id ++ about l' id := by
  rw [about, List.filterMap_append]
  rfl

/-- What was entered for a statement is its history. -/
theorem about_map_self (d : History) (id : CursorId) :
    about (d.map (Entry.mk (some id))) id = d := by
  have hkept : (fun e : Entry => if e.cursor = some id then some e.exchange else none) ∘
      Entry.mk (some id) = some := funext fun x => if_pos rfl
  rw [about, List.filterMap_map, hkept, List.filterMap_some]

/-- What was entered for another statement or for none is not part of the history. -/
theorem about_map_of_ne {target : Option CursorId} {id : CursorId} (d : History)
    (h : target ≠ some id) : about (d.map (Entry.mk target)) id = [] := by
  rw [about, List.filterMap_map]
  exact List.filterMap_eq_nil_iff.mpr fun x _ => if_neg h

/-- The history of a statement is what was entered under its name. -/
theorem mem_about {l : List Entry} {id : CursorId} {x : Exchange} :
    x ∈ about l id ↔ ⟨some id, x⟩ ∈ l := by
  rw [about, List.mem_filterMap]
  constructor
  · rintro ⟨⟨target, y⟩, hm, hy⟩
    split at hy
    · rename_i ht
      cases hy
      rwa [← ht]
    · cases hy
  · intro hm
    exact ⟨_, hm, by rw [if_pos rfl]⟩

end Entry

/-- The engine's statement that a preparation gave. -/
def Exchange.given? : Exchange → Option PreparedHandle
  | ⟨.prepare .., (_, p)⟩ => p
  | _ => none

/-- The life of a statement, as its history shows it: of one with the cursor that is given, or of
one that is over. -/
inductive Life : Option Cursor → History → Prop where
  /-- It was prepared, and calls within it were made. -/
  | running {k : Cursor} {c : ConnectionHandle} {sql : String} {d : History}
      (hd : ∀ e ∈ d, e.call.Within k.handle) :
      Life (some k) (⟨.prepare c sql, (Code.ok, some k.handle)⟩ :: d)
  /-- At the end it was released. -/
  | ended {p : PreparedHandle} {c : ConnectionHandle} {sql : String} {d : History} {code : Code}
      (hd : ∀ e ∈ d, e.call.Within p) :
      Life none (⟨.prepare c sql, (Code.ok, some p)⟩ :: (d ++ [⟨.finalize p, code⟩]))

namespace Life

variable {k k' : Cursor} {H d : History}

/-- The life of a statement that has a cursor. -/
theorem running_iff : Life (some k) H ↔ ∃ c sql d, (∀ e ∈ d, e.call.Within k.handle) ∧
    H = ⟨.prepare c sql, (Code.ok, some k.handle)⟩ :: d := by
  constructor
  · intro h
    cases h with
    | running hd => exact ⟨_, _, _, hd, rfl⟩
  · rintro ⟨c, sql, d, hd, rfl⟩
    exact .running hd

/-- The history tells which one of the engine's statements it is about. -/
theorem handle_eq (h : Life (some k) H) (h' : Life (some k') H) : k'.handle = k.handle := by
  obtain ⟨_, _, _, -, rfl⟩ := running_iff.mp h
  obtain ⟨_, _, _, -, heq⟩ := running_iff.mp h'
  have hgiven := congrArg (fun H : History => H.head?.bind Exchange.given?) heq
  exact (Option.some.inj hgiven).symm

/-- Calls within the statement prolong its life. -/
theorem goOn (h : Life (some k) H) (hp : k'.handle = k.handle)
    (hd : ∀ e ∈ d, e.call.Within k.handle) : Life (some k') (H ++ d) := by
  obtain ⟨c, sql, d₀, hd₀, rfl⟩ := running_iff.mp h
  rw [List.cons_append, ← hp]
  refine .running fun e he => ?_
  rw [hp]
  rcases List.mem_append.mp he with he | he
  · exact hd₀ e he
  · exact hd e he

/-- The release ends it. -/
theorem finish (h : Life (some k) H) {code : Code} :
    Life none (H ++ [⟨.finalize k.handle, code⟩]) := by
  obtain ⟨c, sql, d, hd, rfl⟩ := running_iff.mp h
  rw [List.cons_append]
  exact .ended hd

end Life

/-- A store, the entries of all native calls, and how many holders each statement has. -/
structure Ledger {σ : Type} (s : Store σ) (l : List Entry) (n : CursorId → Nat) : Prop where
  /-- Names that were not given out stand for nothing. -/
  fresh : ∀ id, s.nextCursor ≤ id.number →
    s.cursors.get? id = none ∧ n id = 0 ∧ Entry.about l id = []
  /-- A cursor counts its holders and is what its history says. -/
  held : ∀ id k, s.cursors.get? id = some k →
    k.holders = n id ∧ 0 < n id ∧ k.Tracks (Entry.about l id)
  /-- Without a cursor there is no holder. -/
  gone : ∀ id, s.cursors.get? id = none → n id = 0
  /-- The history of each statement is a life. -/
  life : ∀ id, id.number < s.nextCursor → Life (s.cursors.get? id) (Entry.about l id)
  /-- No statement is stepped after its end. -/
  guarded : ∀ id, (Entry.about l id).Guarded
  /-- Calls about statements are entered for statements. -/
  entered : ∀ e ∈ l, e.cursor = none →
    e.exchange.call.prepared? = none ∧ e.exchange.opens = false

/-- One holder more of one statement. -/
structure Raised (id : CursorId) (n n' : CursorId → Nat) : Prop where
  /-- The statement has one holder more. -/
  self : n' id = n id + 1
  /-- The others have as many as before. -/
  others : ∀ j, j ≠ id → n' j = n j

/-- The count with one holder more of a statement. -/
def raise (id : CursorId) (n : CursorId → Nat) : CursorId → Nat :=
  fun j => if j = id then n j + 1 else n j

theorem raised_raise (id : CursorId) (n : CursorId → Nat) : Raised id n (raise id n) where
  self := if_pos rfl
  others := fun _ hj => if_neg hj

/-- What was raised is positive. -/
theorem Raised.pos {id : CursorId} {n n' : CursorId → Nat} (h : Raised id n n') : 0 < n' id := by
  rw [h.self]
  exact Nat.succ_pos _

namespace Ledger

variable {σ : Type} {s s' : Store σ} {l : List Entry} {n n' : CursorId → Nat} {id : CursorId}
  {k k' : Cursor} {d : History}

/-- A cursor has a name that was given out. -/
theorem number_lt (h : Ledger s l n) (hk : s.cursors.get? id = some k) :
    id.number < s.nextCursor := by
  by_contra hn
  have hnone := (h.fresh id (by omega)).1
  rw [hk] at hnone
  cases hnone

/-- The life of a statement that has a cursor. -/
theorem life_of_some (h : Ledger s l n) (hk : s.cursors.get? id = some k) :
    Life (some k) (Entry.about l id) := by
  rw [← hk]
  exact h.life id (h.number_lt hk)

/-- A statement has a cursor as long as it has holders. -/
theorem get?_isSome_iff (h : Ledger s l n) : (s.cursors.get? id).isSome = true ↔ 0 < n id := by
  cases hk : s.cursors.get? id with
  | none => simp [h.gone id hk]
  | some k => simpa using (h.held id k hk).2.1

/-- At first nothing is entered. -/
theorem start (engine : σ) : Ledger { engine } [] fun _ => 0 where
  fresh := fun _ _ => ⟨rfl, rfl, rfl⟩
  held := fun _ _ h => by cases h
  gone := fun _ _ => rfl
  life := fun _ h => by cases h
  guarded := fun _ => .nil
  entered := by simp

/-- What happens to one statement only is entered for it, and the ledger is kept if it is kept for
that statement. -/
theorem touch (h : Ledger s l n) (hothers : ∀ j, j ≠ id → s'.cursors.get? j = s.cursors.get? j)
    (hcount : ∀ j, j ≠ id → n' j = n j)
    (hnext : ∀ j, j ≠ id → (j.number < s'.nextCursor ↔ j.number < s.nextCursor))
    (hid : id.number < s'.nextCursor)
    (hheld : ∀ k, s'.cursors.get? id = some k →
      k.holders = n' id ∧ 0 < n' id ∧ k.Tracks (Entry.about l id ++ d))
    (hgone : s'.cursors.get? id = none → n' id = 0)
    (hlife : Life (s'.cursors.get? id) (Entry.about l id ++ d))
    (hguarded : History.Guarded (Entry.about l id ++ d)) :
    Ledger s' (l ++ d.map (Entry.mk (some id))) n' := by
  have hself : Entry.about (l ++ d.map (Entry.mk (some id))) id = Entry.about l id ++ d := by
    rw [Entry.about_append, Entry.about_map_self]
  have hother : ∀ j, j ≠ id →
      Entry.about (l ++ d.map (Entry.mk (some id))) j = Entry.about l j := by
    intro j hj
    rw [Entry.about_append, Entry.about_map_of_ne d (by simpa using hj.symm), List.append_nil]
  refine ⟨?_, ?_, ?_, ?_, ?_, ?_⟩
  · intro j hj
    have hne : j ≠ id := by
      rintro rfl
      omega
    have hold : s.nextCursor ≤ j.number := Nat.not_lt.mp fun hlt => by
      have := (hnext j hne).mpr hlt
      omega
    rw [hothers j hne, hcount j hne, hother j hne]
    exact h.fresh j hold
  · intro j q hq
    by_cases hj : j = id
    · subst hj
      rw [hself]
      exact hheld q hq
    · rw [hothers j hj] at hq
      rw [hcount j hj, hother j hj]
      exact h.held j q hq
  · intro j hj
    by_cases hne : j = id
    · subst hne
      exact hgone hj
    · rw [hcount j hne]
      exact h.gone j (by rwa [hothers j hne] at hj)
  · intro j hj
    by_cases hne : j = id
    · subst hne
      rwa [hself]
    · rw [hothers j hne, hother j hne]
      exact h.life j ((hnext j hne).mp hj)
  · intro j
    by_cases hne : j = id
    · subst hne
      rwa [hself]
    · rw [hother j hne]
      exact h.guarded j
  · intro e he hnone
    rcases List.mem_append.mp he with he | he
    · exact h.entered e he hnone
    · obtain ⟨x, _, rfl⟩ := List.mem_map.mp he
      cases hnone

/-- An operation through one statement. -/
theorem passage {s s' : Store (Recorder σ)} (h : Ledger s l n) (hk : s.cursors.get? id = some k)
    (hp : Passage id k k' d s s') : Ledger s' (l ++ d.map (Entry.mk (some id))) n := by
  obtain ⟨hholders, hpos, htracks⟩ := h.held id k hk
  have hlt := h.number_lt hk
  refine h.touch hp.others (fun _ _ => rfl) (fun j _ => by rw [hp.next]) (by rwa [hp.next]) ?_ ?_ ?_
    (hp.tracks _ htracks).guarded
  · intro q hq
    rw [hp.found] at hq
    cases hq
    refine ⟨?_, hpos, hp.tracks _ htracks⟩
    rw [hp.continues]
    exact hholders
  · intro hnone
    rw [hp.found] at hnone
    cases hnone
  · rw [hp.found]
    exact (h.life_of_some hk).goOn (Passage.handle_eq hp.continues) hp.within

/-- A new statement. -/
theorem opened (h : Ledger s l n) {c : ConnectionHandle} {sql : String}
    (hs : s'.cursors = s.cursors.set ⟨s.nextCursor⟩ k) (hnext : s'.nextCursor = s.nextCursor + 1)
    (hone : k.holders = 1) (hwithin : ∀ e ∈ d, e.call.Within k.handle)
    (htracks : k.Tracks (⟨.prepare c sql, (Code.ok, some k.handle)⟩ :: d))
    (hn : Raised ⟨s.nextCursor⟩ n n') :
    Ledger s' (l ++ (⟨.prepare c sql, (Code.ok, some k.handle)⟩ :: d).map
      (Entry.mk (some ⟨s.nextCursor⟩))) n' := by
  obtain ⟨-, hzero, hnil⟩ := h.fresh ⟨s.nextCursor⟩ (Nat.le_refl _)
  have hself : n' ⟨s.nextCursor⟩ = 1 := by rw [hn.self, hzero]
  have hfound : s'.cursors.get? ⟨s.nextCursor⟩ = some k := by rw [hs, Table.get?_set_self]
  refine h.touch ?_ hn.others ?_ ?_ ?_ ?_ ?_ (by rw [hnil]; exact htracks.guarded)
  · intro j hj
    rw [hs, Table.get?_set_of_ne _ _ hj]
  · intro j hj
    have hne : j.number ≠ s.nextCursor := fun he => hj (by rw [← he])
    rw [hnext]
    omega
  · rw [hnext]
    exact Nat.lt_succ_self _
  · intro q hq
    rw [hfound] at hq
    cases hq
    rw [hnil, List.nil_append, hself]
    exact ⟨hone, Nat.one_pos, htracks⟩
  · intro hnone
    rw [hfound] at hnone
    cases hnone
  · rw [hfound, hnil]
    exact .running hwithin

/-- Calls about no statement. -/
theorem quiet (h : Ledger s l n) (hs : s'.cursors = s.cursors)
    (hnext : s'.nextCursor = s.nextCursor)
    (hd : ∀ e ∈ d, e.call.prepared? = none ∧ e.opens = false) :
    Ledger s' (l ++ d.map (Entry.mk none)) n := by
  have hsame : ∀ j, Entry.about (l ++ d.map (Entry.mk none)) j = Entry.about l j := by
    intro j
    rw [Entry.about_append, Entry.about_map_of_ne d (by simp), List.append_nil]
  refine ⟨?_, ?_, ?_, ?_, ?_, ?_⟩
  · intro j hj
    rw [hsame, hs]
    exact h.fresh j (by omega)
  · intro j q hq
    rw [hsame]
    exact h.held j q (by rwa [hs] at hq)
  · intro j hj
    exact h.gone j (by rwa [hs] at hj)
  · intro j hj
    rw [hsame, hs]
    exact h.life j (by omega)
  · intro j
    rw [hsame]
    exact h.guarded j
  · intro e he hnone
    rcases List.mem_append.mp he with he | he
    · exact h.entered e he hnone
    · obtain ⟨x, hx, rfl⟩ := List.mem_map.mp he
      exact hd x hx

/-- A statement gets another number of holders, which is not zero. -/
theorem recounted (h : Ledger s l n) (hk : s.cursors.get? id = some k) {m : Nat} (hm : 0 < m)
    (hs : s'.cursors = s.cursors.set id { k with holders := m })
    (hnext : s'.nextCursor = s.nextCursor) (hself : n' id = m)
    (hcount : ∀ j, j ≠ id → n' j = n j) : Ledger s' l n' := by
  obtain ⟨-, -, htracks⟩ := h.held id k hk
  have hlt := h.number_lt hk
  have hfound : s'.cursors.get? id = some { k with holders := m } := by rw [hs, Table.get?_set_self]
  have hlife : Life (s'.cursors.get? id) (Entry.about l id ++ []) := by
    rw [hfound]
    exact (h.life_of_some hk).goOn rfl (by simp)
  have hempty : Ledger s' (l ++ List.map (Entry.mk (some id)) []) n' := by
    refine h.touch ?_ hcount ?_ ?_ ?_ ?_ hlife (by rw [List.append_nil]; exact htracks.guarded)
    · intro j hj
      rw [hs, Table.get?_set_of_ne _ _ hj]
    · intro j _
      rw [hnext]
    · rwa [hnext]
    · intro q hq
      rw [hfound] at hq
      cases hq
      rw [List.append_nil, hself]
      exact ⟨rfl, hm, htracks.recount m⟩
    · intro hnone
      rw [hfound] at hnone
      cases hnone
  simpa using hempty

/-- The last holder of a statement goes, and the statement is released. -/
theorem closed (h : Ledger s l n) (hk : s.cursors.get? id = some k) (hlast : k.holders ≤ 1)
    (hs : s'.cursors = s.cursors.erase id) (hnext : s'.nextCursor = s.nextCursor) {code : Code}
    (hn : Raised id n' n) :
    Ledger s' (l ++ [Exchange.mk (.finalize k.handle) code].map (Entry.mk (some id))) n' := by
  obtain ⟨hholders, -, htracks⟩ := h.held id k hk
  have hlt := h.number_lt hk
  have hfound : s'.cursors.get? id = none := by rw [hs, Table.get?_erase_self]
  refine h.touch ?_ (fun j hj => (hn.others j hj).symm) ?_ ?_ ?_ ?_ ?_
    (htracks.guarded.append_one fun hs => by cases hs)
  · intro j hj
    rw [hs, Table.get?_erase_of_ne _ hj]
  · intro j _
    rw [hnext]
  · rwa [hnext]
  · intro q hq
    rw [hfound] at hq
    cases hq
  · intro _
    have hself := hn.self
    omega
  · rw [hfound]
    exact (h.life_of_some hk).finish

end Ledger

end GuardedSql
