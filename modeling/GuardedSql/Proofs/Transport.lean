import GuardedSql.Proofs.Calling

/-!
# Values in transport

A value goes to an engine as a parameter or as the result of a function, and comes back through a
column or as an argument. On every engine that carries values, all ways to the engine store the same
cell, all ways back give the same value, and there and back again gives what was sent, unless a
native call fails on the way. Only NaN is lost, which no cell can hold.
-/

namespace GuardedSql

/-- What an engine keeps of a value. -/
def Value.stored : Value → Value
  | .real x => if x.isNaN then .null else .real x
  | v => v

/-! ### Cells -/

namespace Cell

/-- A blob of no zeros is the blob without bytes. -/
theorem ofNative_blob (b : ByteArray) : ofNative (binding b).native = .blob b := by
  show ofNative (if b.isEmpty then .zeros 0 else .blob b) = _
  by_cases hempty : b.isEmpty = true
  · rw [if_pos hempty, eq_empty_of_isEmpty hempty]
    rfl
  · rw [if_neg hempty]
    rfl

/-- What is stored for a value reads as what is kept of it. -/
theorem value_ofValue (v : Value) : (ofValue v).value = v.stored := by
  cases v with
  | null => rfl
  | integer n => rfl
  | real x =>
    show (ofFloat x).value = if x.isNaN then .null else .real x
    rw [ofFloat]
    split <;> rfl
  | text s => exact congrArg Value.text (Utf8.decodeLossy_toUTF8 s)
  | blob b => exact congrArg value (ofNative_blob b)

end Cell

/-- The native call that binds a value is the one that makes it a result. -/
theorem Value.native_binding (v : Value) : (binding v).native = v.native := by
  cases v <;> rfl

/-! ### Types -/

/-- The types whose members can be bound and read. -/
inductive Scalar where
  | int32
  | uint32
  | int64
  | bool
  | real
  | text
  | bytes

namespace Scalar

/-- The members of a type. -/
@[reducible] def Carrier : Scalar → Type
  | int32 => Int32
  | uint32 => UInt32
  | int64 => Int64
  | bool => Bool
  | real => Float
  | text => String
  | bytes => ByteArray

instance : (k : Scalar) → Bindable k.Carrier
  | int32 => inferInstanceAs (Bindable Int32)
  | uint32 => inferInstanceAs (Bindable UInt32)
  | int64 => inferInstanceAs (Bindable Int64)
  | bool => inferInstanceAs (Bindable Bool)
  | real => inferInstanceAs (Bindable Float)
  | text => inferInstanceAs (Bindable String)
  | bytes => inferInstanceAs (Bindable ByteArray)

instance : (k : Scalar) → Readable k.Carrier
  | int32 => inferInstanceAs (Readable Int32)
  | uint32 => inferInstanceAs (Readable UInt32)
  | int64 => inferInstanceAs (Readable Int64)
  | bool => inferInstanceAs (Readable Bool)
  | real => inferInstanceAs (Readable Float)
  | text => inferInstanceAs (Readable String)
  | bytes => inferInstanceAs (Readable ByteArray)

/-- The members that are stored: all but NaN. -/
def Kept : (k : Scalar) → k.Carrier → Prop
  | real, x => x.isNaN = false
  | _, _ => True

end Scalar

/-- The types whose members can be made values. -/
inductive Convertible where
  | int32
  | int64
  | real
  | text
  | bytes
  | option (k : Convertible)

namespace Convertible

/-- The members of a type. -/
@[reducible] def Carrier : Convertible → Type
  | int32 => Int32
  | int64 => Int64
  | real => Float
  | text => String
  | bytes => ByteArray
  | option k => Option k.Carrier

instance bindable : (k : Convertible) → Bindable k.Carrier
  | int32 => inferInstanceAs (Bindable Int32)
  | int64 => inferInstanceAs (Bindable Int64)
  | real => inferInstanceAs (Bindable Float)
  | text => inferInstanceAs (Bindable String)
  | bytes => inferInstanceAs (Bindable ByteArray)
  | option k => have := bindable k; inferInstanceAs (Bindable (Option k.Carrier))

instance convertible : (k : Convertible) → ToValue k.Carrier
  | int32 => inferInstanceAs (ToValue Int32)
  | int64 => inferInstanceAs (ToValue Int64)
  | real => inferInstanceAs (ToValue Float)
  | text => inferInstanceAs (ToValue String)
  | bytes => inferInstanceAs (ToValue ByteArray)
  | option k => have := convertible k; inferInstanceAs (ToValue (Option k.Carrier))

/-- A member is stored as the value that is made of it, though the native call may be another. -/
theorem ofNative_toValue (k : Convertible) (x : k.Carrier) :
    Cell.ofNative (binding x).native = Cell.ofNative (binding (toValue x)).native := by
  induction k with
  | option k ih =>
    cases x with
    | none => rfl
    | some y => exact ih y
  | _ => rfl

end Convertible

/-! ### The getters -/

namespace Store.Offers

variable {σ : Type} [Engine σ] {C : Carriage σ} {s : Store σ} {v : Column} {c : Cell}

/-- The column is not refused. -/
theorem current_run (h : s.Offers C v c) :
    ∃ p, v.current s = (.ok p, s) ∧ C.Shows s.engine p v.index c := by
  obtain ⟨k, hk, hrow, hstamp, hshows⟩ := h
  exact ⟨k.handle, by rw [Column.current_run hk, if_pos ⟨hrow, hstamp⟩], hshows⟩

/-- Its type is that of the cell, and the value can still be read. -/
theorem type (h : s.Offers C v c) :
    ∃ s', v.type s = (.ok c.columnType, s') ∧ s'.Offers C v c := by
  obtain ⟨k, hk, hrow, hstamp, hshows⟩ := h
  obtain ⟨htype, hlater⟩ := C.columnType hshows
  have hcurrent : v.current s = (.ok k.handle, s) := by
    rw [Column.current_run hk, if_pos ⟨hrow, hstamp⟩]
  refine ⟨{ s with engine := (Engine.call (.columnType k.handle v.index) s.engine).2 }, ?_,
    k, hk, hrow, hstamp, hlater⟩
  rw [Column.type, Action.bind_of_ok hcurrent, Action.bind_of_ok (native_run _ _), htype]
  rfl

theorem isNull (h : s.Offers C v c) :
    ∃ s', v.isNull s = (.ok (c.columnType == .null), s') ∧ s'.Offers C v c := by
  obtain ⟨s', hrun, hoffers⟩ := h.type
  exact ⟨s', Action.bind_of_ok hrun, hoffers⟩

theorem int32 {n : Int64} (h : s.Offers C v (.integer n)) :
    ∃ s', v.int32 s = (.ok n.toInt32, s') := by
  obtain ⟨p, hcurrent, hshows⟩ := h.current_run
  exact ⟨_, by rw [Column.int32, Action.bind_of_ok hcurrent, native_run, C.columnInt hshows]⟩

theorem int64 {n : Int64} (h : s.Offers C v (.integer n)) : ∃ s', v.int64 s = (.ok n, s') := by
  obtain ⟨p, hcurrent, hshows⟩ := h.current_run
  exact ⟨_, by rw [Column.int64, Action.bind_of_ok hcurrent, native_run, C.columnInt64 hshows]⟩

theorem real {x : Float} (h : s.Offers C v (.real x)) : ∃ s', v.real s = (.ok x, s') := by
  obtain ⟨p, hcurrent, hshows⟩ := h.current_run
  exact ⟨_, by rw [Column.real, Action.bind_of_ok hcurrent, native_run, C.columnDouble hshows]⟩

/-- A text, whose bytes need not be one. -/
theorem text {b : ByteArray} (h : s.Offers C v (.text b)) :
    ∃ s', v.text s = (.ok (Utf8.decodeLossy b), s') := by
  obtain ⟨p, hcurrent, hshows⟩ := h.current_run
  have hheld := C.columnText hshows
  dsimp only at hheld
  rcases hcall : Engine.call (.columnText p v.index) s.engine with ⟨buffer?, e⟩
  rw [hcall] at hheld
  have hbuffer : native (.columnText p v.index) s = (.ok buffer?, { s with engine := e }) := by
    rw [native_run, hcall]
  rw [Column.text, Column.textOr, Action.bind_of_ok hcurrent, Action.bind_of_ok hbuffer, ← hheld]
  -- without a buffer the bytes are not counted
  cases buffer? with
  | none => exact ⟨_, rfl⟩
  | some buffer => exact ⟨_, Action.bind_of_ok (native_run _ _)⟩

/-- The bytes of a text or a blob. -/
theorem blob {b : ByteArray} (h : s.Offers C v (.text b) ∨ s.Offers C v (.blob b)) :
    ∃ s', v.blob s = (.ok b, s') := by
  obtain ⟨p, hcurrent, hshows⟩ : ∃ p, v.current s = (.ok p, s) ∧
      (C.Shows s.engine p v.index (.text b) ∨ C.Shows s.engine p v.index (.blob b)) := by
    rcases h with h | h
    · obtain ⟨p, hcurrent, hshows⟩ := h.current_run
      exact ⟨p, hcurrent, .inl hshows⟩
    · obtain ⟨p, hcurrent, hshows⟩ := h.current_run
      exact ⟨p, hcurrent, .inr hshows⟩
  have hheld := C.columnBlob hshows
  dsimp only at hheld
  rcases hcall : Engine.call (.columnBlob p v.index) s.engine with ⟨buffer?, e⟩
  rw [hcall] at hheld
  have hbuffer : native (.columnBlob p v.index) s = (.ok buffer?, { s with engine := e }) := by
    rw [native_run, hcall]
  rw [Column.blob, Action.bind_of_ok hcurrent, Action.bind_of_ok hbuffer,
    Action.bind_of_ok (native_run _ _), ← hheld]
  cases buffer? with
  | none => exact ⟨_, rfl⟩
  | some buffer => exact ⟨_, rfl⟩

/-- A detached copy is the value of the cell. -/
theorem value (h : s.Offers C v c) : ∃ s', v.value s = (.ok c.value, s') := by
  obtain ⟨s₁, htype, h₁⟩ := h.type
  cases c with
  | null => exact ⟨s₁, Action.bind_of_ok htype⟩
  | integer n =>
    obtain ⟨s₂, hrun⟩ := h₁.int64
    exact ⟨s₂, (Action.bind_of_ok htype).trans (Action.bind_of_ok hrun)⟩
  | real x =>
    obtain ⟨s₂, hrun⟩ := h₁.real
    exact ⟨s₂, (Action.bind_of_ok htype).trans (Action.bind_of_ok hrun)⟩
  | text b =>
    obtain ⟨s₂, hrun⟩ := h₁.text
    exact ⟨s₂, (Action.bind_of_ok htype).trans (Action.bind_of_ok hrun)⟩
  | blob b =>
    obtain ⟨s₂, hrun⟩ := blob (.inr h₁)
    exact ⟨s₂, (Action.bind_of_ok htype).trans (Action.bind_of_ok hrun)⟩

end Store.Offers

/-! ### Members of types -/

namespace Scalar

/-- The cell of a stored real is that real. -/
theorem ofNative_real {x : Float} (hx : x.isNaN = false) :
    Cell.ofNative (binding x).native = .real x := if_neg (by rw [hx]; decide)

variable {σ : Type} [Engine σ] {C : Carriage σ} {s : Store σ} {v : Column}

/-- A stored member is read back from its cell. -/
theorem read_run (k : Scalar) {x : k.Carrier} (hx : k.Kept x)
    (h : s.Offers C v (.ofNative (binding x).native)) :
    ∃ s', v.read k.Carrier s = (.ok x, s') := by
  cases k with
  | int32 =>
    obtain ⟨s', hrun⟩ := h.int32
    refine ⟨s', hrun.trans ?_⟩
    show (Except.ok x.toInt64.toInt32, s') = (.ok x, s')
    rw [Int32.toInt32_toInt64]
  | uint32 =>
    obtain ⟨s', hrun⟩ := h.int64
    refine ⟨s', (Action.bind_of_ok hrun).trans ?_⟩
    show (Except.ok x.toUInt64.toInt64.toUInt64.toUInt32, s') = (.ok x, s')
    rw [UInt64.toUInt64_toInt64, UInt32.toUInt32_toUInt64]
  | int64 => exact h.int64
  | bool =>
    obtain ⟨s', hrun⟩ := h.int64
    refine ⟨s', (Action.bind_of_ok hrun).trans ?_⟩
    cases x <;> rfl
  | real =>
    rw [ofNative_real hx] at h
    exact h.real
  | text =>
    obtain ⟨s', hrun⟩ := Store.Offers.blob (.inl h)
    refine ⟨s', (Action.bind_of_ok hrun).trans ?_⟩
    show (Error.readText x.toUTF8, s') = (.ok x, s')
    rw [Error.readText, Utf8.decode?_toUTF8]
  | bytes =>
    rw [Cell.ofNative_blob] at h
    exact Store.Offers.blob (.inr h)

/-- The cell of a stored member is not NULL. -/
theorem columnType_ne_null (k : Scalar) {x : k.Carrier} (hx : k.Kept x) :
    ((Cell.ofNative (binding x).native).columnType == .null) = false := by
  cases k with
  | real =>
    rw [ofNative_real hx]
    rfl
  | bytes =>
    rw [Cell.ofNative_blob]
    rfl
  | _ => rfl

/-- So is one that may be missing. -/
theorem readOption_run (k : Scalar) {o : Option k.Carrier} (ho : ∀ x ∈ o, k.Kept x)
    (h : s.Offers C v (.ofNative (binding o).native)) :
    ∃ s', v.read (Option k.Carrier) s = (.ok o, s') := by
  obtain ⟨s₁, hnull, h₁⟩ := h.isNull
  cases o with
  | none => exact ⟨s₁, Action.bind_of_ok hnull⟩
  | some x =>
    obtain ⟨s₂, hrun⟩ := k.read_run (ho x rfl) h₁
    have hsome : v.isNull s = (.ok false, s₁) := by
      rw [hnull]
      exact congrArg (fun b => (Except.ok b, s₁)) (k.columnType_ne_null (ho x rfl))
    exact ⟨s₂, (Action.bind_of_ok hsome).trans (Action.bind_of_ok hrun)⟩

end Scalar

/-! ### Parameters -/

section

variable {σ : Type} [Engine σ] {C : Carriage σ} {s s₁ s₂ : Store σ} {q : Statement} {i : Int32}
  {a b : Binding} {copied copied' : Bool}

/-- What a parameter is bound to is the only change. -/
theorem Statement.parameter_of_bindAs (h : q.bindAs i a copied s = (.ok (), s₁)) :
    ∃ k, s.cursors.get? q.cursor = some k ∧ s₁.cursors = s.cursors ∧
      ∀ p j, C.parameter s₁.engine p j =
        if p = k.handle ∧ j = i then some (.ofNative a.native) else C.parameter s.engine p j := by
  obtain ⟨p, s₀, hhandle, hcall⟩ := Action.bind_eq_ok h
  obtain ⟨k, s₀', hlive, hk⟩ := Action.bind_eq_ok hhandle
  obtain ⟨hk', rfl⟩ := CursorId.live_eq_ok hlive
  cases hk
  rw [Action.bind_of_ok (native_run _ _)] at hcall
  obtain ⟨hcode, rfl⟩ := check_eq_ok hcall
  exact ⟨k, hk', rfl, fun p j => C.bound hcode⟩

/-- Bindings with the same cell make no difference to any parameter, copied or not. -/
theorem Statement.parameters_agree (hcell : Cell.ofNative a.native = Cell.ofNative b.native)
    (h₁ : q.bindAs i a copied s = (.ok (), s₁)) (h₂ : q.bindAs i b copied' s = (.ok (), s₂))
    (p : PreparedHandle) (j : Int32) : C.parameter s₁.engine p j = C.parameter s₂.engine p j := by
  obtain ⟨k, hk, -, hbound⟩ := parameter_of_bindAs (C := C) h₁
  obtain ⟨k', hk', -, hbound'⟩ := parameter_of_bindAs (C := C) h₂
  obtain rfl : k = k' := Option.some.inj (hk.symm.trans hk')
  rw [hbound, hbound', hcell]

/-- A name is looked up alike before either. -/
theorem Statement.parameters_agree_named {name : String}
    (h₁ : (do q.bindAs (← q.parameterIndex name) a copied) s = (.ok (), s₁))
    (h₂ : (do q.bindAs (← q.parameterIndex name) a copied') s = (.ok (), s₂))
    (p : PreparedHandle) (j : Int32) : C.parameter s₁.engine p j = C.parameter s₂.engine p j := by
  obtain ⟨i, s₀, hindex, h₁⟩ := Action.bind_eq_ok h₁
  obtain ⟨i', s₀', hindex', h₂⟩ := Action.bind_eq_ok h₂
  rw [hindex] at hindex'
  cases hindex'
  exact parameters_agree rfl h₁ h₂ p j

/-- A result that is no error is the cell of the value. -/
theorem CallContext.result_of_setResult {c : CallContext} {v : Value}
    (h : (c.setResult v).failure? = none) : (c.setResult v).result = .ofValue v := by
  cases hsize : (Cell.ofValue v).isTooBig with
  | true =>
    rw [setResult, hsize] at h
    cases h
  | false =>
    rw [setResult, hsize]
    rfl

end

/-! ### Transport -/

/-- How values travel through a connection, whatever there is on it and has happened before. -/
structure Database.Transports {σ : Type} [Engine σ] (C : Carriage σ) (db : Database)
    (s : Store σ) : Prop where
  /-- A value is the same native call as a parameter and as a result, and its cell reads as what is
  kept of it. -/
  cell : ∀ v : Value, (binding v).native = v.native ∧ (Cell.ofValue v).value = v.stored
  /-- What is bound is what a column gives. -/
  value : ∀ (v : Value) (copied : Bool),
    (observe (db.ask "SELECT ?" (binding v) copied Column.value) s).Gives v.stored
  /-- A function gets what is bound, and a column gives what the function returns. -/
  call : ∀ (f : ScalarFunction) (deterministic copied : Bool) (v w : Value),
    f [v.stored] = .returned w →
    (observe (db.call f deterministic (binding v) copied Column.value) s).Gives w.stored
  /-- Members of the plain types are read as they were bound. -/
  member : ∀ (k : Scalar) (x : k.Carrier) (copied : Bool), k.Kept x →
    (observe (db.ask "SELECT ?" (binding x) copied (Column.read k.Carrier)) s).Gives x
  /-- So are those that may be missing. -/
  option : ∀ (k : Scalar) (o : Option k.Carrier) (copied : Bool), (∀ x ∈ o, k.Kept x) →
    (observe (db.ask "SELECT ?" (binding o) copied (Column.read (Option k.Carrier))) s).Gives o
  /-- A column gives of any cell what a function gets of it. -/
  argument : ∀ (v : Column) (c : Cell) (a : Argument), s.Offers C v c → a.Presents c →
    (v.value s).1 = .ok a.value
  /-- A value that is bound is the cell that it is as a result. -/
  result : ∀ (q : Statement) (i : Int32) (v : Value) (copied : Bool) (s' : Store σ)
    (context : CallContext), q.bindAs i (binding v) copied s = (.ok (), s') →
    (context.setResult v).failure? = none →
    s'.parameter? C q i = some (context.setResult v).result
  /-- It makes no difference to any parameter whether a member or its value is bound. -/
  conversion : ∀ (k : Convertible) (x : k.Carrier) (q : Statement) (i : Int32) (s₁ s₂ : Store σ),
    q.bind i x s = (.ok (), s₁) → q.bind i (toValue x) s = (.ok (), s₂) →
    C.parameter s₁.engine = C.parameter s₂.engine
  /-- It makes no difference whether a text is copied. -/
  sharedText : ∀ (q : Statement) (i : Int32) (text : String) (s₁ s₂ : Store σ),
    q.bindSharedText i text s = (.ok (), s₁) → q.bind i text s = (.ok (), s₂) →
    C.parameter s₁.engine = C.parameter s₂.engine
  /-- Nor does it for a named parameter. -/
  sharedTextNamed : ∀ (q : Statement) (name text : String) (s₁ s₂ : Store σ),
    q.bindSharedTextNamed name text s = (.ok (), s₁) → q.bindNamed name text s = (.ok (), s₂) →
    C.parameter s₁.engine = C.parameter s₂.engine
  /-- It makes no difference whether bytes are copied. -/
  sharedBlob : ∀ (q : Statement) (i : Int32) (bytes : ByteArray) (s₁ s₂ : Store σ),
    q.bindSharedBlob i bytes s = (.ok (), s₁) → q.bind i bytes s = (.ok (), s₂) →
    C.parameter s₁.engine = C.parameter s₂.engine
  /-- Nor does it for a named parameter. -/
  sharedBlobNamed : ∀ (q : Statement) (name : String) (bytes : ByteArray) (s₁ s₂ : Store σ),
    q.bindSharedBlobNamed name bytes s = (.ok (), s₁) → q.bindNamed name bytes s = (.ok (), s₂) →
    C.parameter s₁.engine = C.parameter s₂.engine

/-- On every engine that carries values, all ways of a value to it and back agree. -/
theorem Database.transports {σ : Type} [Engine σ] (C : Carriage σ) (db : Database) (s : Store σ) :
    db.Transports C s where
  cell := fun v => ⟨v.native_binding, Cell.value_ofValue v⟩
  value := fun v copied => by
    refine (db.ask_parameter (C := C) (binding v) copied fun s' w hoffers => ?_).gives
    obtain ⟨s'', hvalue⟩ := hoffers.value
    rw [hvalue, v.native_binding, ← Cell.value_ofValue]
    rfl
  call := fun f deterministic copied v w hf => by
    have hreturned : f [(Cell.ofNative (binding v).native).value] = .returned w := by
      rw [v.native_binding, ← hf, ← Cell.value_ofValue]
      rfl
    refine (db.call_delivers (C := C) (binding v) copied deterministic hreturned
      fun s' u hoffers => ?_).gives
    obtain ⟨s'', hvalue⟩ := hoffers.value
    rw [hvalue, Cell.value_ofValue]
  member := fun k x copied hx => by
    refine (db.ask_parameter (C := C) (binding x) copied fun s' w hoffers => ?_).gives
    obtain ⟨s'', hread⟩ := k.read_run hx hoffers
    rw [hread]
  option := fun k o copied ho => by
    refine (db.ask_parameter (C := C) (binding o) copied fun s' w hoffers => ?_).gives
    obtain ⟨s'', hread⟩ := k.readOption_run ho hoffers
    rw [hread]
  argument := fun v c a hoffers ha => by
    obtain ⟨s', hvalue⟩ := hoffers.value
    rw [hvalue, ha.value_eq]
  result := fun q i v copied s' context h hresult => by
    obtain ⟨k, hk, hcursors, hbound⟩ := Statement.parameter_of_bindAs (C := C) h
    rw [Store.parameter?, hcursors, hk, CallContext.result_of_setResult hresult, Cell.ofValue,
      ← v.native_binding]
    exact (hbound k.handle i).trans (if_pos ⟨rfl, rfl⟩)
  conversion := fun k x q i s₁ s₂ h₁ h₂ =>
    funext fun p => funext (Statement.parameters_agree (k.ofNative_toValue x) h₁ h₂ p)
  sharedText := fun q i text s₁ s₂ h₁ h₂ =>
    funext fun p => funext (Statement.parameters_agree rfl h₁ h₂ p)
  sharedTextNamed := fun q name text s₁ s₂ h₁ h₂ =>
    funext fun p => funext (Statement.parameters_agree_named h₁ h₂ p)
  sharedBlob := fun q i bytes s₁ s₂ h₁ h₂ =>
    funext fun p => funext (Statement.parameters_agree rfl h₁ h₂ p)
  sharedBlobNamed := fun q name bytes s₁ s₂ h₁ h₂ =>
    funext fun p => funext (Statement.parameters_agree_named h₁ h₂ p)

/-- A private database. -/
def privateDatabase : Database := ⟨⟨1⟩, ":memory:"⟩

/-- The store after the private database was opened. -/
def privateStore : Store Sql.Machine := (Database.openInMemory ({ engine := {} } : Store Sql.Machine)).2

/-- That is what opening one gives. -/
theorem openInMemory_private :
    (Database.openInMemory ({ engine := {} } : Store Sql.Machine)).1 = .ok privateDatabase := by
  decide +kernel

/-- A function that returns its first argument. -/
def firstArgument : ScalarFunction := fun args => .returned (args.headD .null)

/-- Seen without a failed call, an action that gives a result has it. -/
theorem Observation.Gives.result_eq {σ α : Type} {o : Observation σ α} {x : α} (h : o.Gives x)
    (hclean : (o.exchanges.any fun y => y.failure?.isSome) = false) : o.result = .ok x := by
  obtain hok | ⟨-, y, hy, hfailed⟩ := h
  · exact hok
  · rw [List.any_eq_false] at hclean
    exact absurd hfailed (hclean y hy)

/-- A text with a zero character, bytes without any, and a number that is large for its type, on the
private database of the engine of this project, of which no call fails. -/
theorem Database.transports_of_private :
    (Database.openInMemory ({ engine := {} } : Store Sql.Machine)).1 = .ok privateDatabase ∧
      (observe (privateDatabase.ask "SELECT ?" (binding (Value.text "a\x00b")) false Column.value)
        privateStore).result = .ok (.text "a\x00b") ∧
      (observe (privateDatabase.call firstArgument true (binding (Value.blob .empty)) true
        Column.value) privateStore).result = .ok (.blob .empty) ∧
      (observe (privateDatabase.ask "SELECT ?" (binding (some (4294967295 : UInt32))) true
        (Column.read (Option UInt32))) privateStore).result = .ok (some 4294967295) := by
  have htransports := Database.transports Sql.Machine.carriage privateDatabase privateStore
  refine ⟨openInMemory_private, ?_, ?_, ?_⟩
  · exact (htransports.value (.text "a\x00b") false).result_eq (by decide +kernel)
  · exact (htransports.call firstArgument true true (.blob .empty) (.blob .empty) rfl).result_eq
      (by decide +kernel)
  · refine (htransports.option .uint32 (some 4294967295) true ?_).result_eq (by decide +kernel)
    exact fun _ _ => trivial

end GuardedSql
