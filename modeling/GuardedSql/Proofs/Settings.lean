import GuardedSql.Proofs.Operations
import GuardedSql.Proofs.Views

/-!
# Settings

The parameters of a statement live in the engine. What they hold can be told from the calls that set
them and were accepted. A binding operation reports to its caller just what it changed: one
parameter, all of them, or the beginning of a list up to the one that was refused.
-/

namespace GuardedSql

/-- A change of parameters that the engine accepted. -/
inductive Setting where
  /-- One parameter was set. -/
  | set (p : PreparedHandle) (index : Int32) (value : Cell)
  /-- All parameters of a statement were set to NULL. -/
  | clear (p : PreparedHandle)

namespace Setting

/-- The value that it gives a parameter, if it is about that one. -/
def about (p : PreparedHandle) (i : Int32) : Setting → Option Cell
  | set q j value => if q = p ∧ j = i then some value else none
  | clear q => if q = p then some .null else none

/-- The value that the last of some settings about a parameter gives it, if there is one. -/
def latest? (p : PreparedHandle) (i : Int32) (l : List Setting) : Option Cell :=
  l.reverse.findSome? (about p i)

/-- Later settings come first. -/
theorem latest?_append (p : PreparedHandle) (i : Int32) (l l' : List Setting) :
    latest? p i (l ++ l') = (latest? p i l').or (latest? p i l) := by
  rw [latest?, List.reverse_append, List.findSome?_append]
  rfl

/-- The settings that give a list of values to the parameters after the first `n`. -/
def placed (p : PreparedHandle) (n : Nat) (values : List Binding) : List Setting :=
  (values.zipIdx n).map fun (value, k) => .set p (Int32.ofNat (k + 1)) (.ofNative value.native)

/-- They are about no other parameters. -/
theorem latest?_placed {p q : PreparedHandle} {i : Int32} {n : Nat} {values : List Binding}
    (h : ∀ k < values.length, Int32.ofNat (n + k + 1) ≠ i) :
    latest? q i (placed p n values) = none := by
  refine List.findSome?_eq_none_iff.mpr fun d hd => ?_
  obtain ⟨⟨value, k⟩, hk, rfl⟩ := List.mem_map.mp (List.mem_reverse.mp hd)
  obtain ⟨hle, hlt, -⟩ := List.mem_zipIdx hk
  have hne : Int32.ofNat (k + 1) ≠ i := by
    have hplace := h (k - n) (by omega)
    rwa [Nat.add_sub_cancel' hle] at hplace
  exact if_neg fun heq => hne heq.2

end Setting

/-- The change that an exchange made, if the engine accepted one. -/
def Exchange.setting? : Exchange → Option Setting
  | ⟨.bind p i value _, code⟩ => if code = Code.ok then some (.set p i (.ofNative value)) else none
  | ⟨.clearBindings p, code⟩ => if code = Code.ok then some (.clear p) else none
  | _ => none

/-- The accepted changes of a history, the oldest first. -/
def History.settings (H : History) : List Setting := H.filterMap Exchange.setting?

/-- Whether a call is one of those made while a statement is used. -/
def Call.isUse (c : Call) : Bool := c.binds || c.moves || c.isInquiry

theorem Exchange.setting?_of_not_binds {e : Exchange} (h : e.call.binds = false) :
    e.setting? = none := by
  obtain ⟨call, reply⟩ := e
  cases call with
  | bind p i value copied => cases h
  | clearBindings p => cases h
  | _ => rfl

/-- Other calls make no settings. -/
theorem History.settings_of_not_binds {H : History} (h : ∀ e ∈ H, e.call.binds = false) :
    H.settings = [] :=
  List.filterMap_eq_nil_iff.mpr fun e he => Exchange.setting?_of_not_binds (h e he)

theorem History.settings_append (H H' : History) : settings (H ++ H') = H.settings ++ H'.settings :=
  List.filterMap_append

/-- Whether a value, if it was not accepted, was refused in a way that sets nothing: there is no such
parameter, or the statement is at work. A value that is too long, say, is refused in another way. -/
def Exchange.isOrderly : Exchange → Bool
  | ⟨.bind .., code⟩ => code = Code.ok || code = Code.range || code = Code.misuse
  | _ => true

/-- So it was with all values. -/
def History.Orderly (H : History) : Prop := ∀ x ∈ H, x.isOrderly = true

instance (H : History) : Decidable H.Orderly :=
  inferInstanceAs (Decidable (∀ x ∈ H, x.isOrderly = true))

theorem Exchange.refused_of_isOrderly {p : PreparedHandle} {i : Int32} {v : NativeValue}
    {copied : Bool} {code : Code} (h : Exchange.isOrderly ⟨.bind p i v copied, code⟩ = true)
    (hcode : code ≠ Code.ok) : code = Code.range ∨ code = Code.misuse := by
  simpa [isOrderly, hcode] using h

theorem History.orderly_append {H H' : History} :
    Orderly (H ++ H') ↔ H.Orderly ∧ H'.Orderly := List.forall_mem_append

/-! ### What an operation reports -/

variable {σ : Type}

/-- An operation either succeeded, and then some settings were made, or it failed and made none. -/
def Observation.Settles (o : Observation σ Unit) (l : List Setting) : Prop :=
  (o.result = .ok () ∧ History.settings o.exchanges = l) ∨
    ∃ e, o.result = .error e ∧ History.settings o.exchanges = []

/-- Between two stores some exchanges were recorded, and the library was left as it was. -/
structure Records (s s' : Store (Recorder σ)) (d : History) : Prop where
  /-- The exchanges. -/
  exchanges : s'.engine.exchanges = s.engine.exchanges ++ d
  /-- The cursors. -/
  cursors : s'.cursors = s.cursors

namespace Records

variable {s s' s'' : Store (Recorder σ)} {d d' : History}

theorem refl (s : Store (Recorder σ)) : Records s s [] := ⟨(List.append_nil _).symm, rfl⟩

theorem trans (h : Records s s' d) (h' : Records s' s'' d') : Records s s'' (d ++ d') where
  exchanges := by rw [h'.exchanges, h.exchanges, List.append_assoc]
  cursors := h'.cursors.trans h.cursors

/-- A run that does not move its statement leaves the cursors. -/
theorem of_ran [Engine σ] {id : CursorId} (h : s.Ran id d s') (hd : d.Still) : Records s s' d where
  exchanges := h.answers.recorded.1
  cursors := by rw [h.stays hd]

/-- What an observation shows. -/
theorem observe {α : Type} {a : Action (Recorder σ) α} {s : Store σ}
    (h : Records s.recording s' d) {r : Except Error α} (ha : a s.recording = (r, s')) :
    (observe a s).result = r ∧ (observe a s).exchanges = d := by
  rw [observe_eq, ha]
  exact ⟨rfl, h.exchanges⟩

end Records

/-- How the code of a call about parameters is reported. -/
structure Code.Settled (code : Code) (rest : History) (r : Except Error Unit) : Prop where
  /-- Success is reported as such, and anything else as an error of its code. -/
  result : if code = Code.ok then r = .ok ()
    else ∃ message extended, r = .error (.native message code extended)
  /-- Nothing is set to make the error. -/
  plain : History.settings rest = []

namespace Code.Settled

variable {code : Code} {rest : History} {r : Except Error Unit}

/-- A setting is made exactly if it is reported. -/
theorem settles (h : code.Settled rest r) {first : Exchange} {d : Setting}
    (hfirst : first.setting? = if code = Code.ok then some d else none) {o : Observation σ Unit}
    (hresult : o.result = r) (hexchanges : o.exchanges = first :: rest) : o.Settles [d] := by
  have hsettings : History.settings o.exchanges = first.setting?.toList := by
    rw [hexchanges, ← List.singleton_append, History.settings_append, h.plain, List.append_nil]
    cases hsetting : first.setting? <;> simp [History.settings, hsetting]
  have hreport := h.result
  by_cases hcode : code = Code.ok
  · rw [if_pos hcode] at hreport hfirst
    exact .inl ⟨hresult.trans hreport, by rw [hsettings, hfirst]; rfl⟩
  · rw [if_neg hcode] at hreport hfirst
    obtain ⟨message, extended, hr⟩ := hreport
    exact .inr ⟨_, hresult.trans hr, by rw [hsettings, hfirst]; rfl⟩

end Code.Settled

namespace Statement

variable [Engine σ] {q : Statement} {k : Cursor} {s : Store (Recorder σ)}

/-- A code that is checked is reported, and nothing is set. -/
theorem settled_of_checked {c : ConnectionHandle} {code : Code} {d : History} {r : Except Error Unit}
    (h : code.Checked c d r) : code.Settled d r := by
  have hplain : History.settings d = [] := by
    refine History.settings_of_not_binds fun x hx => Call.binds_of_moves (.inr (h.asks hx).2)
  refine ⟨?_, hplain⟩
  cases h with
  | passed hcode => rw [if_pos hcode]
  | failed hcode message extended =>
    rw [if_neg hcode]
    exact ⟨_, extended, rfl⟩

/-- An operation on parameters that makes one call reports what it sets. -/
theorem Filling.records {x : PreparedHandle → Code → Exchange} {a : Action (Recorder σ) Unit}
    (h : s.cursors.get? q.cursor = some k)
    (ha : Follows q.cursor (some k.handle) (Filling q.database.connection (some k.handle) x) a)
    (hbinds : ∀ p code, (x p code).call.binds = true) :
    ∃ code rest r s', a s = (r, s') ∧ Records s s' (x k.handle code :: rest) ∧
      code.Settled rest r := by
  obtain ⟨d, hran, hfilling⟩ := ha s (Store.handleOf_of_some h)
  rcases hrun : a s with ⟨r, s'⟩
  rw [hrun] at hran hfilling
  cases hfilling with
  | gone hnone => cases hnone
  | @asked p hp code rest r hchecked =>
    cases hp
    have hstill : History.Still (x k.handle code :: rest) := List.forall_mem_cons.mpr
      ⟨Call.not_moves_of_binds (.inl (hbinds _ _)),
        fun y hy => Call.not_moves_of_isInquiry (hchecked.asks hy).2⟩
    exact ⟨code, rest, r, s', rfl, .of_ran hran hstill, settled_of_checked hchecked⟩

/-- One parameter is set by one call. -/
theorem bindAs_records (h : s.cursors.get? q.cursor = some k) (i : Int32) (value : Binding)
    (copied : Bool) :
    ∃ code rest r s', q.bindAs i value copied s = (r, s') ∧
      Records s s' (⟨.bind k.handle i value.native copied, code⟩ :: rest) ∧ code.Settled rest r :=
  Filling.records h (bindAs_follows i value copied) fun _ _ => rfl

/-- So are all of them when they are cleared. -/
theorem clearBindings_records (h : s.cursors.get? q.cursor = some k) :
    ∃ code rest r s', q.clearBindings s = (r, s') ∧
      Records s s' (⟨.clearBindings k.handle, code⟩ :: rest) ∧ code.Settled rest r :=
  Filling.records h clearBindings_follows fun _ _ => rfl

/-- How setting parameters from a place on went: all were set, or those before one that was refused. -/
inductive Filled (p : PreparedHandle) (n : Nat) (values : List Binding) (d : History) :
    Except Error Unit → Prop where
  /-- All were set. -/
  | all (hset : History.settings d = Setting.placed p n values) : Filled p n values d (.ok ())
  /-- One was refused. -/
  | upTo (j : Nat) (value : Binding) (message : String) (code extended : Code)
      (hvalue : values[j]? = some value) (hcode : code ≠ Code.ok)
      (hrefused : ⟨.bind p (Int32.ofNat (n + j + 1)) value.native true, code⟩ ∈ d)
      (hset : History.settings d = Setting.placed p n (values.take j)) :
      Filled p n values d (.error (.native message code extended))

/-- Nothing is set but the parameters that the values are for. -/
theorem Filled.latest? {p : PreparedHandle} {n : Nat} {values : List Binding} {d : History}
    {r : Except Error Unit} (h : Filled p n values d r) {i : Int32}
    (hi : ∀ j < values.length, Int32.ofNat (n + j + 1) ≠ i) :
    Setting.latest? p i (History.settings d) = none := by
  cases h with
  | all hset =>
    rw [hset]
    exact Setting.latest?_placed hi
  | upTo j value message code extended hvalue hcode hrefused hset =>
    rw [hset]
    refine Setting.latest?_placed fun m hm => hi m ?_
    rw [List.length_take] at hm
    omega

/-- The parameters are set in their order until one is refused. -/
theorem bindFrom_records (h : s.cursors.get? q.cursor = some k) (n : Nat) (values : List Binding) :
    ∃ d r s', q.bindFrom (Int32.ofNat (n + 1)) values s = (r, s') ∧ Records s s' d ∧
      Filled k.handle n values d r := by
  induction values generalizing n s with
  | nil => exact ⟨[], .ok (), s, rfl, .refl s, .all rfl⟩
  | cons value values ih =>
    obtain ⟨code, rest, r, s', hrun, hrecords, hsettled⟩ :=
      bindAs_records h (Int32.ofNat (n + 1)) value true
    have hbind : q.bind (Int32.ofNat (n + 1)) value s = (r, s') := hrun
    have hset : History.settings
          (⟨.bind k.handle (Int32.ofNat (n + 1)) value.native true, code⟩ :: rest) =
        if code = Code.ok then [.set k.handle (Int32.ofNat (n + 1)) (.ofNative value.native)]
        else [] := by
      rw [← List.singleton_append, History.settings_append, hsettled.plain, List.append_nil]
      by_cases hcode : code = Code.ok <;> simp [History.settings, Exchange.setting?, hcode]
    have hresult := hsettled.result
    by_cases hcode : code = Code.ok
    · rw [if_pos hcode] at hresult hset
      subst hresult
      have hfound : s'.cursors.get? q.cursor = some k := hrecords.cursors ▸ h
      obtain ⟨d, r, s'', hrun', hrecords', hfilled⟩ := ih hfound (n + 1)
      have hnext : Int32.ofNat (n + 1) + 1 = Int32.ofNat (n + 1 + 1) := by
        rw [Int32.ofNat_add (n + 1) 1]
        rfl
      refine ⟨_, r, s'', ?_, hrecords.trans hrecords', ?_⟩
      · rw [bindFrom, Action.bind_of_ok hbind, hnext, hrun']
      · cases hfilled with
        | all hall =>
          refine .all ?_
          rw [History.settings_append, hset, hall]
          rfl
        | upTo j refused message code extended hvalue hcode hrefused hupTo =>
          refine .upTo (j + 1) refused message code extended hvalue hcode ?_ ?_
          · rw [show n + (j + 1) + 1 = n + 1 + j + 1 by omega]
            exact List.mem_append_right _ hrefused
          · rw [History.settings_append, hset, hupTo]
            rfl
    · rw [if_neg hcode] at hresult hset
      obtain ⟨message, extended, rfl⟩ := hresult
      refine ⟨_, .error (.native message code extended), s', ?_, hrecords, ?_⟩
      · rw [bindFrom, Action.bind_of_error hbind]
      · exact .upTo 0 value message code extended rfl hcode List.mem_cons_self hset

/-- All ways to set a named parameter are this one. -/
theorem bindNamed_eq {α : Type} [Bindable α] (name : String) (value : α) :
    bindNamed (σ := σ) q name value = q.bindNamedAs name (binding value) true := rfl

theorem bindSharedTextNamed_eq_bindNamedAs (name text : String) :
    bindSharedTextNamed (σ := σ) q name text = q.bindNamedAs name (.text text) false := rfl

theorem bindSharedBlobNamed_eq_bindNamedAs (name : String) (bytes : ByteArray) :
    bindSharedBlobNamed (σ := σ) q name bytes = q.bindNamedAs name (.blob bytes) false := rfl

/-- A name without a zero character is asked for. -/
theorem parameterIndex_run {name : String} (hname : '\x00' ∉ name.toList)
    (h : s.cursors.get? q.cursor = some k) :
    ∃ i engine, i = (Engine.call (.parameterIndex k.handle name) s.engine.engine).1 ∧
      Records s { s with engine } [⟨.parameterIndex k.handle name, i⟩] ∧
      q.parameterIndex name s =
        (if i = 0 then .error (.unknownParameter name) else .ok i, { s with engine }) := by
  have hpasses : Error.refuseNul name = .ok () := by
    rw [Error.refuseNul, (Nul.position?_eq_none_iff name).mpr hname]
  have hchecked : require (Error.refuseNul name) s = (.ok (), s) := by
    rw [require_run, hpasses]
  refine ⟨_, (Engine.call (.parameterIndex k.handle name) s.engine).2, rfl, ⟨rfl, rfl⟩, ?_⟩
  rw [parameterIndex, Action.bind_of_ok hchecked, Action.bind_of_ok (handle_of_some h),
    Action.bind_of_ok (native_run _ _)]
  split <;> rename_i hzero
  · exact congrArg (·, _) (if_pos hzero).symm
  · exact congrArg (·, _) (if_neg hzero).symm

/-- What the operations on the parameters of a statement report, and what they set. -/
structure Sets {τ : Type} [Engine τ] (q : Statement) (p : PreparedHandle) (s : Store τ) : Prop where
  /-- A value is set, or there is an error and it is not. -/
  bindAs : ∀ i value copied,
    (observe (q.bindAs i value copied) s).Settles [.set p i (.ofNative value.native)]
  /-- All are set to NULL, or there is an error and none is. -/
  clearBindings : (observe q.clearBindings s).Settles [.clear p]
  /-- A name with a zero character is refused without a call. -/
  misnamed : ∀ name value copied, '\x00' ∈ name.toList →
    let o := observe (q.bindNamedAs name value copied) s
    (∃ n, o.result = .error (.interiorNul n)) ∧ o.exchanges = []
  /-- A name that no parameter has is refused when the engine says so. -/
  unknown : ∀ name value copied, '\x00' ∉ name.toList →
    (Engine.call (.parameterIndex p name) s.engine).1 = 0 →
      let o := observe (q.bindNamedAs name value copied) s
      o.result = .error (.unknownParameter name) ∧ o.exchanges = [⟨.parameterIndex p name, 0⟩]
  /-- Any other name stands for the index that the engine has for it. -/
  named : ∀ name value copied, '\x00' ∉ name.toList →
    ∀ i, (Engine.call (.parameterIndex p name) s.engine).1 = i → i ≠ 0 →
      (observe (q.bindNamedAs name value copied) s).Settles [.set p i (.ofNative value.native)]
  /-- A list of values is set from the first parameter on, up to one that is refused. -/
  bindAll : ∀ values,
    Filled p 0 values (observe (q.bindAll values) s).exchanges (observe (q.bindAll values) s).result

/-- That is so for every statement that is held, on any engine. -/
theorem sets_of_some {s : Store σ} (h : s.cursors.get? q.cursor = some k) :
    q.Sets k.handle s := by
  have hk : s.recording.cursors.get? q.cursor = some k := h
  refine ⟨fun i value copied => ?_, ?_, fun name value copied hname => ?_,
    fun name value copied hname hzero => ?_, fun name value copied hname i hi hne => ?_,
    fun values => ?_⟩
  · obtain ⟨code, rest, r, s', hrun, hrecords, hsettled⟩ := bindAs_records hk i value copied
    obtain ⟨hresult, hexchanges⟩ := hrecords.observe hrun
    exact hsettled.settles rfl hresult hexchanges
  · obtain ⟨code, rest, r, s', hrun, hrecords, hsettled⟩ := clearBindings_records hk
    obtain ⟨hresult, hexchanges⟩ := hrecords.observe hrun
    exact hsettled.settles rfl hresult hexchanges
  · cases hposition : Nul.position? name with
    | none => exact absurd hname ((Nul.position?_eq_none_iff name).mp hposition)
    | some n =>
      have hrefused : require (Error.refuseNul name) s.recording =
          (.error (.interiorNul n), s.recording) := by
        rw [require_run, Error.refuseNul, hposition]
      have hrun : q.bindNamedAs name value copied s.recording =
          (.error (.interiorNul n), s.recording) :=
        Action.bind_of_error (Action.bind_of_error hrefused)
      obtain ⟨hresult, hexchanges⟩ := (Records.refl s.recording).observe hrun
      exact ⟨⟨n, hresult⟩, hexchanges⟩
  · obtain ⟨i, engine, hi, hrecords, hindex⟩ := parameterIndex_run hname hk
    obtain rfl : i = 0 := hi.trans hzero
    rw [if_pos rfl] at hindex
    exact hrecords.observe (Action.bind_of_error hindex)
  · obtain ⟨j, engine, hj, hasked, hindex⟩ := parameterIndex_run hname hk
    obtain rfl : j = i := hj.trans hi
    rw [if_neg hne] at hindex
    obtain ⟨code, rest, r, s', hrun, hrecords, hsettled⟩ :=
      bindAs_records (q := q) (s := { s.recording with engine }) hk j value copied
    have hnamed : q.bindNamedAs name value copied s.recording = (r, s') := by
      rw [bindNamedAs, Action.bind_of_ok hindex]
      exact hrun
    obtain ⟨hresult, hexchanges⟩ := (hasked.trans hrecords).observe hnamed
    -- the question for the index is no setting
    let last : Observation σ Unit := ⟨r, ⟨.bind k.handle j value.native copied, code⟩ :: rest, s⟩
    have hlast : last.Settles [.set k.handle j (.ofNative value.native)] := hsettled.settles rfl rfl rfl
    obtain ⟨hr, hset⟩ | ⟨e, hr, hset⟩ := hlast
    · exact .inl ⟨hresult.trans hr, by rw [hexchanges, History.settings_append, hset]; rfl⟩
    · exact .inr ⟨e, hresult.trans hr, by rw [hexchanges, History.settings_append, hset]; rfl⟩
  · obtain ⟨d, r, s', hrun, hrecords, hfilled⟩ := bindFrom_records hk 0 values
    obtain ⟨hresult, hexchanges⟩ := hrecords.observe (a := q.bindAll values) hrun
    rw [hresult, hexchanges]
    exact hfilled

end Statement

end GuardedSql
