import GuardedSql.Proofs.Runs

/-!
# Operations through one statement

Nearly all operations go through one statement: they look its cursor up and make calls on its
connection or on the engine's statement behind it. `Passage` says all that such an operation may
do: every other cursor stays, the calls name no other statement and release none, and the cells
of its own cursor stay tied to the history. Every run is one.
-/

namespace GuardedSql

/-- The calls that an operation through a statement may make: no statement comes or goes, and
no other one is touched. -/
structure Call.Within (p : PreparedHandle) (c : Call) : Prop where
  /-- A call about a statement is about this one. -/
  about : ∀ q, c.prepared? = some q → q = p
  /-- No statement comes. -/
  keeps : c.isPrepare = false
  /-- No statement goes. -/
  leaves : c.isFinalize = false

/-- A call about the statement that does not release it. -/
theorem Call.Within.self {p : PreparedHandle} {c : Call} (h : c.prepared? = some p)
    (hf : c.isFinalize = false) : c.Within p where
  about := fun q hq => by
    rw [h] at hq
    exact (Option.some.inj hq).symm
  keeps := by
    cases c with
    | prepare c sql => cases h
    | _ => rfl
  leaves := hf

/-- The cursors differ in their progress only. -/
def Cursor.Continues (c c' : Cursor) : Prop :=
  c' = { c with run := c'.run, step := c'.step, hasRow := c'.hasRow, done := c'.done }

/-- What an operation through the cursor `id` did: from the cursor `c` to `c'`, from the store `s`
to `s'`, with the exchanges `d`. -/
structure Passage {σ : Type} (id : CursorId) (c c' : Cursor) (d : History)
    (s s' : Store (Recorder σ)) : Prop where
  /-- The cursor is still there. -/
  found : s'.cursors.get? id = some c'
  /-- It went on at most. -/
  continues : c.Continues c'
  /-- The other cursors are as before. -/
  others : ∀ j, j ≠ id → s'.cursors.get? j = s.cursors.get? j
  /-- There is no new cursor. -/
  next : s'.nextCursor = s.nextCursor
  /-- The exchanges are those recorded since. -/
  recorded : s'.engine.exchanges = s.engine.exchanges ++ d
  /-- They are within the statement. -/
  within : ∀ e ∈ d, e.call.Within c.handle
  /-- The cells stay tied to the history. -/
  tracks : ∀ H : History, c.Tracks H → c'.Tracks (H ++ d)

namespace Passage

variable {σ : Type} {id : CursorId} {c c' c'' : Cursor} {d d' : History}
  {s s' s'' : Store (Recorder σ)}

/-- Nothing happens. -/
theorem refl (h : s.cursors.get? id = some c) : Passage id c c [] s s where
  found := h
  continues := rfl
  others := fun _ _ => rfl
  next := rfl
  recorded := (List.append_nil _).symm
  within := by simp
  tracks := fun H ht => by rwa [List.append_nil]

theorem handle_eq (h : c.Continues c') : c'.handle = c.handle := by rw [h]

/-- One operation after another. -/
theorem trans (h : Passage id c c' d s s') (h' : Passage id c' c'' d' s' s'') :
    Passage id c c'' (d ++ d') s s'' where
  found := h'.found
  continues := by
    rw [Cursor.Continues, h'.continues, h.continues]
  others := fun j hj => (h'.others j hj).trans (h.others j hj)
  next := h'.next.trans h.next
  recorded := by rw [h'.recorded, h.recorded, List.append_assoc]
  within := by
    intro e he
    rcases List.mem_append.mp he with he | he
    · exact h.within e he
    · rw [← handle_eq h.continues]
      exact h'.within e he
  tracks := fun H ht => by
    rw [← List.append_assoc]
    exact h'.tracks _ (h.tracks H ht)

variable [Engine σ]

/-- A call that only the engine takes note of. -/
theorem call {call : Call} {reply : call.Reply} {engine : Recorder σ}
    (hk : s.cursors.get? id = some c) (hcall : Engine.call call s.engine = (reply, engine))
    (hrests : call.Rests (some c.handle)) :
    Passage id c c [⟨call, reply⟩] s { s with engine } where
  found := hk
  continues := rfl
  others := fun _ _ => rfl
  next := rfl
  recorded := (Answers.single hcall).recorded.1
  within := by
    intro e he
    rw [List.mem_singleton.mp he]
    exact ⟨fun q hq => (Option.some.inj (hrests.about q hq)).symm, hrests.keeps, hrests.leaves⟩
  tracks := fun H ht => ht.still fun e he => by
    rw [List.mem_singleton.mp he]
    exact hrests.still

/-- A step that its statement takes note of. -/
theorem advance (hd : c.done = false) :
    Passage id c (c.advanced (s.stepCode c)) [⟨.step c.handle, s.stepCode c⟩] s
      (s.advance id c) where
  found := Table.get?_set_self _ _ _
  continues := rfl
  others := fun j hj => Table.get?_set_of_ne _ _ hj
  next := rfl
  recorded := rfl
  within := by
    intro e he
    rw [List.mem_singleton.mp he]
    exact .self rfl rfl
  tracks := fun H ht => ht.advanced hd c.handle (s.stepCode c)

/-- A reset of a statement. -/
theorem ready : Passage id c c.readied [⟨.reset c.handle, s.resetCode c⟩] s (s.ready id c) where
  found := Table.get?_set_self _ _ _
  continues := rfl
  others := fun j hj => Table.get?_set_of_ne _ _ hj
  next := rfl
  recorded := rfl
  within := by
    intro e he
    rw [List.mem_singleton.mp he]
    exact .self rfl rfl
  tracks := fun H ht => ht.readied c.handle (s.resetCode c)

/-- Every run through a statement that is there is a passage. -/
theorem of_ran (h : s.Ran id d s') (hk : s.cursors.get? id = some c) :
    ∃ c', Passage id c c' d s s' := by
  induction h generalizing c with
  | nothing s => exact ⟨c, .refl hk⟩
  | call hcall hrests _ ih =>
    obtain ⟨c', hrest⟩ := ih hk
    rw [Store.handleOf_of_some hk] at hrests
    exact ⟨c', (Passage.call hk hcall hrests).trans hrest⟩
  | @step s s' k d hk' hdone _ ih =>
    obtain rfl : c = k := Option.some.inj (hk.symm.trans hk')
    have hfirst : Passage id c (c.advanced (s.stepCode c)) _ s (s.advance id c) := .advance hdone
    obtain ⟨c', hrest⟩ := ih hfirst.found
    exact ⟨c', hfirst.trans hrest⟩
  | @reset s s' k d hk' _ ih =>
    obtain rfl : c = k := Option.some.inj (hk.symm.trans hk')
    have hfirst : Passage id c c.readied _ s (s.ready id c) := .ready
    obtain ⟨c', hrest⟩ := ih hfirst.found
    exact ⟨c', hfirst.trans hrest⟩

end Passage

/-- An action on a statement that is there is a passage. -/
def Through {σ α : Type} (id : CursorId) (a : Action (Recorder σ) α) : Prop :=
  ∀ (s : Store (Recorder σ)) (c : Cursor), s.cursors.get? id = some c →
    ∃ c' d, Passage id c c' d s (a s).2

/-- What follows one statement goes through it. -/
theorem Through.of_follows {σ α : Type} [Engine σ] {id : CursorId} {a : Action (Recorder σ) α}
    {Q : Option PreparedHandle → History → Except Error α → Prop}
    (ha : ∀ h, Follows id h (Q h) a) : Through id a := by
  intro s c hc
  obtain ⟨d, hd, -⟩ := ha _ s rfl
  obtain ⟨c', hpass⟩ := Passage.of_ran hd hc
  exact ⟨c', d, hpass⟩

end GuardedSql
