import GuardedSql.Proofs.Telling

/-!
# Reads through a column

To read a value through a column is to check the column, then to ask the engine for the value, and
after that to ask it about the same column only. `Column.Reads` says this of an action: without its
statement it fails, on another row it fails, and on the row of the column its first call reads a
value. What is asked of a column whatever row its statement stands on is one that `Column.Labels` is
about. Everything that is known of reads follows.
-/

namespace GuardedSql

variable {σ α β : Type}

/-- An action finds nothing under a name without a cursor, and does nothing. -/
def Expires (id : CursorId) (a : Action σ α) : Prop :=
  ∀ s, s.cursors.get? id = none → a s = (.error .statementExpired, s)

/-- Looking for a cursor is what expires. -/
theorem Expires.live {id : CursorId} : Expires (σ := σ) id id.live := fun _ h =>
  CursorId.live_of_none h

/-- All that begins by looking expires. -/
theorem Expires.bind {id : CursorId} {a : Action σ α} {f : α → Action σ β} (h : Expires id a) :
    Expires id (a >>= f) := fun s hs => Action.bind_of_error (h s hs)

/-- What expires makes no call and changes nothing. -/
theorem Expires.observe_eq {id : CursorId} {a : Action (Recorder σ) α} (h : Expires id a)
    {s : Store σ} (hs : s.cursors.get? id = none) :
    observe a s = ⟨.error .statementExpired, [], s⟩ := by
  rw [GuardedSql.observe_eq, h s.recording hs]
  rfl

namespace Column

/-! ### Questions about a column -/

/-- A cursor stands on the row of a column. -/
abbrev OnRow (v : Column) (k : Cursor) : Prop := k.hasRow = true ∧ v.stamp = k.stamp

/-- What came of an action through a column: calls about the column only, and no failure for the sake
of the statement or of the row. -/
structure Serves [Engine σ] (v : Column) (s : Store σ) (p : PreparedHandle) (d : History)
    (r : Except Error α × Store σ) : Prop where
  /-- The calls. -/
  ran : s.Ran v.cursor d r.2
  /-- They are about the column. -/
  about : ∀ x ∈ d, x.call.column? = some (p, v.index)
  /-- The statement is there, and so is the row. -/
  present : ∀ e, r.1 = .error e → e.isExpiry = false ∧ e.isNative = false

/-- An action is served through a column as long as the cursor of the column, with the engine's
statement `p`, is as `C` says. -/
def Served [Engine σ] (v : Column) (C : Cursor → Prop) (p : PreparedHandle) (a : Action σ α) : Prop :=
  ∀ (s : Store σ) (k : Cursor), s.cursors.get? v.cursor = some k → k.handle = p → C k →
    ∃ d, v.Serves s p d (a s)

/-- On the row of the column its first call reads a value. -/
def Fetches [Engine σ] (v : Column) (p : PreparedHandle) (a : Action σ α) : Prop :=
  ∀ (s : Store σ) (k : Cursor), s.cursors.get? v.cursor = some k → k.handle = p → v.OnRow k →
    ∃ x d, v.Serves s p (x :: d) (a s) ∧ x.call.isColumnRead = true

section

variable [Engine σ] {v : Column} {s : Store σ} {p : PreparedHandle} {d : History}
  {C : Cursor → Prop}

/-- Questions about a column leave the library as it is. -/
theorem Serves.stays {r : Except Error α × Store σ} (h : v.Serves s p d r) :
    r.2 = { s with engine := r.2.engine } :=
  h.ran.stays fun x hx => Call.not_moves_of_isInquiry (Call.isInquiry_of_column? (h.about x hx)).1

/-- They are inquiries about the statement. -/
theorem Serves.asks {r : Except Error α × Store σ} (h : v.Serves s p d r) {x : Exchange}
    (hx : x ∈ d) : x.call.Asks := by
  obtain ⟨hi, hp⟩ := Call.isInquiry_of_column? (h.about x hx)
  exact ⟨hi, Option.isSome_iff_exists.mpr ⟨p, hp⟩⟩

/-- One question about the column. -/
theorem Serves.native {k : Cursor} (hk : s.cursors.get? v.cursor = some k) (hp : k.handle = p)
    {call : Call} (h : call.column? = some (p, v.index)) :
    v.Serves s p [⟨call, (Engine.call call s.engine).1⟩] (GuardedSql.native call s) := by
  obtain ⟨hi, hprepared⟩ := Call.isInquiry_of_column? h
  have hrests : call.Rests (s.handleOf v.cursor) := by
    rw [Store.handleOf_of_some hk, hp]
    exact .self hprepared (Call.not_moves_of_isInquiry hi) (Call.still_of_isInquiry hi).2.2
  refine ⟨.call rfl hrests (.nothing _), fun x hx => ?_, nofun⟩
  rw [List.mem_singleton.mp hx]
  exact h

/-- One action after another: the store that the first one leaves has the same cursors. -/
theorem Serves.bind {k : Cursor} (hk : s.cursors.get? v.cursor = some k) (hp : k.handle = p)
    (hC : C k) {a : Action σ α} {f : α → Action σ β} (ha : v.Serves s p d (a s))
    (hf : ∀ x, v.Served C p (f x)) : ∃ d', v.Serves s p (d ++ d') ((a >>= f) s) := by
  rw [Action.bind_run]
  rcases hrun : a s with ⟨e | x, s'⟩
  · rw [hrun] at ha
    refine ⟨[], ?_⟩
    rw [List.append_nil]
    exact ⟨ha.ran, ha.about, fun e' he => ha.present e' (Except.error.inj he ▸ rfl)⟩
  · rw [hrun] at ha
    have hk' : s'.cursors.get? v.cursor = some k := by
      have hstays : s' = { s with engine := s'.engine } := ha.stays
      rwa [hstays]
    obtain ⟨d', hd'⟩ := hf x s' k hk' hp hC
    refine ⟨d', ha.ran.trans hd'.ran, fun y hy => ?_, hd'.present⟩
    rcases List.mem_append.mp hy with hy | hy
    · exact ha.about y hy
    · exact hd'.about y hy

namespace Served

theorem pure {x : α} : v.Served (σ := σ) C p (pure x) :=
  fun s _ _ _ _ => ⟨[], .nothing s, nofun, nofun⟩

theorem throw {e : Error} (he : e.isExpiry = false ∧ e.isNative = false) :
    v.Served (σ := σ) (α := α) C p (throw e) :=
  fun s _ _ _ _ => ⟨[], .nothing s, nofun, fun _ h => Except.error.inj h ▸ he⟩

/-- A check of the library is all. -/
theorem require {r : Except Error α}
    (hr : ∀ e, r = .error e → e.isExpiry = false ∧ e.isNative = false) :
    v.Served (σ := σ) C p (require r) := fun s _ _ _ _ => ⟨[], .nothing s, nofun, hr⟩

/-- One question about the column is all. -/
theorem native {call : Call} (h : call.column? = some (p, v.index)) :
    v.Served (σ := σ) C p (native call) := fun _ _ hk hp _ => ⟨_, .native hk hp h⟩

/-- One question after another. -/
theorem bind {a : Action σ α} {f : α → Action σ β} (ha : v.Served C p a)
    (hf : ∀ x, v.Served C p (f x)) : v.Served C p (a >>= f) := by
  intro s k hk hp hC
  obtain ⟨d, hd⟩ := ha s k hk hp hC
  obtain ⟨d', hd'⟩ := hd.bind hk hp hC hf
  exact ⟨d ++ d', hd'⟩

end Served

namespace Fetches

/-- The value is read, and nothing else. -/
theorem native {call : Call} (hread : call.isColumnRead = true)
    (h : call.column? = some (p, v.index)) : v.Fetches (σ := σ) p (native call) :=
  fun _ _ hk hp _ => ⟨_, [], .native hk hp h, hread⟩

/-- Questions come behind the value. -/
theorem bind {a : Action σ α} {f : α → Action σ β} (ha : v.Fetches p a)
    (hf : ∀ x, v.Served v.OnRow p (f x)) : v.Fetches p (a >>= f) := by
  intro s k hk hp hrow
  obtain ⟨x, d, hd, hread⟩ := ha s k hk hp hrow
  obtain ⟨d', hd'⟩ := hd.bind hk hp hrow hf
  exact ⟨x, d ++ d', hd', hread⟩

end Fetches

end

/-! ### On every row -/

/-- An action checks a column, then reads its value, and after that asks about the column only. -/
structure Reads [Engine σ] (v : Column) (a : Action σ α) : Prop where
  /-- Without its statement it fails. -/
  expired : Expires v.cursor a
  /-- On any other row it fails without a call. -/
  stale : ∀ (s : Store σ) (k : Cursor), s.cursors.get? v.cursor = some k →
    ¬v.OnRow k → a s = (.error (.staleRow v.row k.step), s)
  /-- On the row of the column the value is read. -/
  current : ∀ p, v.Fetches p a

namespace Reads

variable [Engine σ] {v : Column}

/-- On its row a read asks about its column only. -/
theorem served {a : Action σ α} (ha : v.Reads a) (p : PreparedHandle) : v.Served v.OnRow p a := by
  intro s k hk hp hrow
  obtain ⟨x, d, hd, -⟩ := ha.current p s k hk hp hrow
  exact ⟨x :: d, hd⟩

/-- The column is checked first. -/
theorem of_current {f : PreparedHandle → Action σ α} (hf : ∀ p, v.Fetches p (f p)) :
    v.Reads (v.current >>= f) where
  expired := .bind (.bind .live)
  stale := fun s k hk hrow => by
    rw [Action.bind_of_error ((current_run hk).trans (if_neg hrow))]
  current := fun p s k hk hp hrow => by
    rw [Action.bind_of_ok ((current_run hk).trans (if_pos hrow)), hp]
    exact hf p s k hk hp hrow

/-- What is read may be gone on with. -/
theorem bind {a : Action σ α} {f : α → Action σ β} (ha : v.Reads a)
    (hf : ∀ x p, v.Served v.OnRow p (f x)) : v.Reads (a >>= f) where
  expired := ha.expired.bind
  stale := fun s k hk hrow => Action.bind_of_error (ha.stale s k hk hrow)
  current := fun p => (ha.current p).bind fun x => hf x p

/-- To read is to inquire, and the errors are those of the library. -/
theorem inquires {a : Action σ α} (ha : v.Reads a) (h : Option PreparedHandle) :
    Inquires v.cursor h (·.isNative = false) a := by
  refine Follows.ofCursor (fun _ s hk => ⟨ha.expired s hk, nofun, ?_⟩) fun s k hk _ => ?_
  · exact fun _ he => Except.error.inj he ▸ rfl
  · by_cases hrow : v.OnRow k
    · obtain ⟨d, hd⟩ := ha.served k.handle s k hk rfl hrow
      exact ⟨d, hd.ran, fun _ => hd.asks, fun e he => (hd.present e he).2⟩
    · rw [ha.stale s k hk hrow]
      exact ⟨[], .nothing s, nofun, fun _ he => Except.error.inj he ▸ rfl⟩

end Reads

/-- What is asked of a column without a look at the row. -/
structure Labels [Engine σ] (v : Column) (a : Action σ α) : Prop where
  /-- Without its statement it fails. -/
  expired : Expires v.cursor a
  /-- With it, it is answered. -/
  served : ∀ C p, v.Served C p a

namespace Labels

variable [Engine σ] {v : Column}

/-- The statement is looked up first. -/
theorem of_statement {f : PreparedHandle → Action σ α} (hf : ∀ C p, v.Served C p (f p)) :
    v.Labels (v.statement >>= f) where
  expired := .bind (.bind .live)
  served := fun C p s k hk hp hC => by
    have hstatement : v.statement s = (.ok p, s) := by
      rw [Column.statement, Action.bind_of_ok (CursorId.live_of_some hk), hp]
      rfl
    rw [Action.bind_of_ok hstatement]
    exact hf C p s k hk hp hC

/-- To ask for a label is to inquire. -/
theorem inquires {a : Action σ α} (ha : v.Labels a) (h : Option PreparedHandle) :
    Inquires v.cursor h (·.isNative = false) a := by
  refine Follows.ofCursor (fun _ s hk => ⟨ha.expired s hk, nofun, ?_⟩) fun s k hk _ => ?_
  · exact fun _ he => Except.error.inj he ▸ rfl
  · obtain ⟨d, hd⟩ := ha.served (fun _ => True) k.handle s k hk rfl trivial
    exact ⟨d, hd.ran, fun _ => hd.asks, fun e he => (hd.present e he).2⟩

end Labels

/-! ### The reads -/

section

variable [Engine σ] (v : Column)

/-- A number is read with one call behind the check of the row. -/
theorem int32_reads : v.Reads (σ := σ) v.int32 := .of_current fun _ => .native rfl rfl

/-- So is a wide one. -/
theorem int64_reads : v.Reads (σ := σ) v.int64 := .of_current fun _ => .native rfl rfl

/-- A natural number is cut out of a wide one. -/
theorem uint32_reads : v.Reads (σ := σ) v.uint32 := v.int64_reads.bind fun _ _ => .pure

/-- A real number is read with one call, too. -/
theorem real_reads : v.Reads (σ := σ) v.real := .of_current fun _ => .native rfl rfl

/-- Text is read with its length. -/
theorem textOr_reads (default : String) : v.Reads (σ := σ) (v.textOr default) := by
  refine .of_current fun p => .bind (.native rfl rfl) fun buffer? => ?_
  cases buffer? with
  | none => exact .pure
  | some buffer => exact .bind (.native rfl) fun _ => .pure

/-- So are bytes. -/
theorem blob_reads : v.Reads (σ := σ) v.blob := by
  refine .of_current fun p => .bind (.native rfl rfl) fun buffer? => ?_
  refine .bind (.native rfl) fun n => ?_
  cases buffer? with
  | none => exact .pure
  | some buffer => exact .pure

/-- Bytes that are no text are refused. -/
theorem string_reads : v.Reads (σ := σ) v.string := by
  refine v.blob_reads.bind fun bytes p => .require fun e he => ?_
  unfold Error.readText at he
  split at he
  · cases he
  · cases he
    exact ⟨rfl, rfl⟩

/-- The type is read as a number. -/
theorem type_reads : v.Reads (σ := σ) v.type :=
  .of_current fun _ => .bind (.native rfl rfl) fun _ => .pure

/-- The type of a value says how it is read. -/
theorem value_reads : v.Reads (σ := σ) v.value := by
  refine v.type_reads.bind fun t p => ?_
  cases t with
  | null => exact .pure
  | integer => exact .bind (v.int64_reads.served p) fun _ => .pure
  | float => exact .bind (v.real_reads.served p) fun _ => .pure
  | text => exact .bind ((v.textOr_reads "").served p) fun _ => .pure
  | blob => exact .bind (v.blob_reads.served p) fun _ => .pure

/-- Whether it is a given one is read off. -/
theorem hasType_reads (t : ColumnType) : v.Reads (σ := σ) (v.hasType t) :=
  v.type_reads.bind fun _ _ => .pure

/-- The size of a text is asked for. -/
theorem byteSize_reads : v.Reads (σ := σ) v.byteSize := .of_current fun _ => .native rfl rfl

/-- So is its size in UTF-16. -/
theorem utf16Size_reads : v.Reads (σ := σ) v.utf16Size := .of_current fun _ => .native rfl rfl

/-! ### The labels -/

/-- The name of a column is asked for, on whatever row. -/
theorem name_labels : v.Labels (σ := σ) v.name :=
  .of_statement fun _ _ => .bind (.native rfl) fun _ => .pure

/-- So is the name of the column that it comes from. -/
theorem originName_labels : v.Labels (σ := σ) v.originName :=
  .of_statement fun _ _ => .bind (.native rfl) fun _ => .pure

/-- A column without a declared type is one that was computed. -/
theorem declaredType_labels : v.Labels (σ := σ) v.declaredType := by
  refine .of_statement fun C p => .bind (.native rfl) fun text => ?_
  split
  · exact .pure
  · exact .throw ⟨rfl, rfl⟩

end

end Column

end GuardedSql
