import GuardedSql.Proofs.Runs

/-!
# What operations tell

An operation that only inquires fails, if it fails, for reasons of the library. Of the others the
codes of some calls are looked at: such an operation goes no further than the first of them that
fails, and asks its connection for the reason at once. `Inquires` and `Does` say this of operations
through one statement, together with the kinds of calls that they make.
-/

namespace GuardedSql

variable {σ α β : Type}

/-! ### Checks of the library -/

section

variable {e : Error}

/-- The library's own checks fail with errors of its own. -/
theorem Error.isNative_of_refuseNul {text : String} (h : refuseNul text = .error e) :
    e.isNative = false := by
  unfold refuseNul at h
  split at h <;> cases h
  rfl

namespace Cursor

variable {k : Cursor}

/-- That a statement has no row is found out by the library. -/
theorem isNative_of_checkRow (h : k.checkRow = .error e) : e.isNative = false := by
  unfold checkRow at h
  split at h <;> cases h
  rfl

/-- So is an index that is out of range. -/
theorem isNative_of_checkIndex {index : Int32} (h : k.checkIndex index = .error e) :
    e.isNative = false := by
  unfold checkIndex at h
  split at h <;> cases h
  rfl

/-- So is a view of a row that is gone. -/
theorem isNative_of_checkCurrent {stamp : Stamp} (h : k.checkCurrent stamp = .error e) :
    e.isNative = false := by
  unfold checkCurrent at h
  split at h <;> cases h
  rfl

/-- So is a name that no column has. -/
theorem isNative_of_columnIndex {name : String} (h : k.columnIndex name = .error e) :
    e.isNative = false := by
  unfold columnIndex at h
  split at h <;> cases h
  rfl

end Cursor

end

/-! ### Operations that only inquire -/

/-- An inquiry about a statement. -/
abbrev Call.Asks (c : Call) : Prop := c.isInquiry = true ∧ c.prepared?.isSome = true

/-- Through the statement of a name an action only inquires about it, and its error, if there is one,
is as `E` says. -/
def Inquires [Engine σ] (id : CursorId) (h : Option PreparedHandle) (E : Error → Prop)
    (a : Action σ α) : Prop :=
  Follows id h (fun d r => (∀ x ∈ d, x.call.Asks) ∧ ∀ e, r = .error e → E e) a

namespace Inquires

variable [Engine σ] {id : CursorId} {h : Option PreparedHandle} {E : Error → Prop}

/-- Nothing is asked. -/
theorem pure {x : α} : Inquires (σ := σ) id h E (pure x) := Follows.pure ⟨nofun, nofun⟩

/-- It fails without asking. -/
theorem throw {e : Error} (he : E e) : Inquires (σ := σ) (α := α) id h E (throw e) :=
  Follows.throw ⟨nofun, fun _ hr => Except.error.inj hr ▸ he⟩

/-- Nothing comes behind a failure. -/
theorem throw_bind {e : Error} {f : β → Action σ α} (he : E e) :
    Inquires id h E (MonadExcept.throw e >>= f) :=
  Follows.throw_bind ⟨nofun, fun _ hr => Except.error.inj hr ▸ he⟩

/-- One inquiry after another. -/
theorem bind {a : Action σ β} {f : β → Action σ α} (ha : Inquires id h E a)
    (hf : ∀ x, Inquires id h E (f x)) : Inquires id h E (a >>= f) := by
  refine Follows.bind ha (fun d x hd => (hf x).mono fun d' r hr => ⟨fun y hy => ?_, hr.2⟩)
    fun d e hd => ⟨hd.1, fun e' he => hd.2 e' (Except.error.inj he ▸ rfl)⟩
  rcases List.mem_append.mp hy with hy | hy
  · exact hd.1 y hy
  · exact hr.1 y hy

/-- The cursor is looked up first. -/
theorem bindLive {f : Cursor → Action σ α} (hE : E .statementExpired)
    (hf : ∀ k, h = some k.handle → Inquires id h E (f k)) : Inquires id h E (id.live >>= f) :=
  Follows.bindLive (fun _ => ⟨nofun, fun _ he => Except.error.inj he ▸ hE⟩) hf

/-- A pure check comes first. -/
theorem bindRequire {r : Except Error β} {f : β → Action σ α} (hr : ∀ e, r = .error e → E e)
    (hf : ∀ x, Inquires id h E (f x)) : Inquires id h E (require r >>= f) :=
  Follows.bindRequire (fun x _ => hf x) fun e he =>
    ⟨nofun, fun _ he' => Except.error.inj he' ▸ hr e he⟩

/-- A pure check is all. -/
theorem require {r : Except Error α} (hr : ∀ e, r = .error e → E e) :
    Inquires (σ := σ) id h E (require r) := fun s _ => ⟨[], .nothing s, nofun, hr⟩

/-- The statement is asked something. -/
theorem native {c : Call} {p : PreparedHandle} (hp : h = some p) (hc : c.prepared? = some p)
    (hi : c.isInquiry = true) : Inquires (σ := σ) id h E (native c) := by
  subst hp
  refine Follows.native ?_ fun reply => ⟨fun x hx => ?_, nofun⟩
  · exact .self hc (Call.not_moves_of_isInquiry hi) (Call.still_of_isInquiry hi).2.2
  · rw [List.mem_singleton.mp hx]
    exact ⟨hi, Option.isSome_iff_exists.mpr ⟨p, hc⟩⟩

/-- A list of inquiries. -/
theorem mapM {γ : Type} {f : γ → Action σ α} (hf : ∀ x, Inquires id h E (f x)) (l : List γ) :
    Inquires id h E (l.mapM f) := by
  induction l with
  | nil => exact pure
  | cons x rest ih =>
    rw [List.mapM_cons]
    exact bind (hf x) fun _ => bind ih fun _ => pure

end Inquires

/-! ### Reasons -/

/-- The connection is asked for the reason of a failure. -/
def askedFor (c : ConnectionHandle) (message : NativeText) (extended : Code) : History :=
  [⟨.errorMessage c, message⟩, ⟨.extendedErrorCode c, extended⟩]

/-- The connection is asked, and nothing else is done with it. -/
theorem asks_of_mem_askedFor {c : ConnectionHandle} {message : NativeText} {extended : Code}
    {x : Exchange} (hx : x ∈ askedFor c message extended) :
    x.call.upkeep? = some c ∧ x.call.isInquiry = true := by
  rcases List.mem_cons.mp hx with rfl | hx
  · exact ⟨rfl, rfl⟩
  · rw [List.mem_singleton.mp hx]
    exact ⟨rfl, rfl⟩

/-- To check a code is to ask for the reason if it is one of a failure. -/
inductive Code.Checked (c : ConnectionHandle) (code : Code) : History → Except Error Unit → Prop where
  | passed (hcode : code = Code.ok) : Checked c code [] (.ok ())
  | failed (hcode : code ≠ Code.ok) (message : NativeText) (extended : Code) :
      Checked c code (askedFor c message extended)
        (.error (.native message.textOrEmpty code extended))

/-- Nothing is done but to ask. -/
theorem Code.Checked.asks {c : ConnectionHandle} {code : Code} {d : History} {r : Except Error Unit}
    (h : code.Checked c d r) {x : Exchange} (hx : x ∈ d) :
    x.call.upkeep? = some c ∧ x.call.isInquiry = true := by
  cases h with
  | passed hcode => cases hx
  | failed hcode message extended => exact asks_of_mem_askedFor hx

section

variable [Engine σ] {id : CursorId} {h : Option PreparedHandle}

/-- The reason of a failure is asked for first. -/
theorem Follows.bindReason {Q : History → Except Error α → Prop} {c : ConnectionHandle} {code : Code}
    {f : Error → Action σ α}
    (hf : ∀ message extended, Follows id h (fun d r => Q (askedFor c message extended ++ d) r)
      (f (.native message.textOrEmpty code extended))) :
    Follows id h Q (connectionError c code >>= f) := by
  rw [connectionError, bind_assoc]
  refine .bindNative (.apart rfl rfl) fun message => ?_
  rw [bind_assoc]
  refine .bindNative (.apart rfl rfl) fun extended => ?_
  rw [pure_bind]
  exact hf message extended

/-- So it is for a failure that is reported. -/
theorem fail_follows (c : ConnectionHandle) (code : Code) :
    Follows (σ := σ) (α := α) id h (fun d r => ∃ message extended, d = askedFor c message extended ∧
      r = .error (.native message.textOrEmpty code extended))
      (connectionError c code >>= MonadExcept.throw) :=
  .bindReason fun message extended => .throw ⟨message, extended, List.append_nil _, rfl⟩

/-- A code is checked along one of its two paths. -/
theorem check_follows (c : ConnectionHandle) (code : Code) :
    Follows (σ := σ) id h (code.Checked c) (check c code) := by
  unfold check
  split
  · rename_i hcode
    exact .bindReason fun message extended => .throw (.failed hcode message extended)
  · rename_i hcode
    exact .pure (.passed (not_not.mp hcode))

end

/-! ### Failing calls -/

namespace History

/-- No call failed. -/
def Clean (d : History) : Prop := ∀ x ∈ d, x.failure? = none

variable {d d' : History} {x : Exchange}

/-- No call has not failed. -/
theorem clean_nil : Clean [] := fun _ h => absurd h List.not_mem_nil

/-- Neither has one that did not. -/
theorem clean_singleton (h : x.failure? = none) : Clean [x] := fun y hy => by
  rwa [List.mem_singleton.mp hy]

/-- Calls that went well follow upon calls that went well. -/
theorem Clean.append (h : Clean d) (h' : Clean d') : Clean (d ++ d') := fun x hx => by
  rcases List.mem_append.mp hx with hx | hx
  · exact h x hx
  · exact h' x hx

/-- Questions do not fail. -/
theorem clean_of_isInquiry (h : ∀ x ∈ d, x.call.isInquiry = true) : Clean d := fun x hx =>
  Exchange.failure?_of_isInquiry (h x hx)

end History

/-- A call failed, on the connection or on a statement, the connection was asked for the reason then,
and that is what an error tells. -/
inductive History.Reports (c : ConnectionHandle) (d : History) : Error → Prop where
  | intro {before after : History} {x : Exchange} {code : Code} (text : NativeText) (extended : Code)
      (hd : d = before ++ x :: (askedFor c text extended ++ after)) (hx : x.failure? = some code)
      (hon : x.connection? = some c ∨ x.call.prepared?.isSome = true) :
      Reports c d (.native text.textOrEmpty code extended)

/-- Calls came before. -/
theorem History.Reports.prepend {c : ConnectionHandle} {d d' : History} {e : Error}
    (h : d'.Reports c e) : History.Reports c (d ++ d') e := by
  cases h with
  | intro text extended hd hx hon => exact .intro text extended (by rw [hd, List.append_assoc]) hx hon

/-- The failing call may be the first one. -/
theorem History.Reports.first {c : ConnectionHandle} {d after : History} {x : Exchange} {code : Code}
    (text : NativeText) (extended : Code) (hd : d = x :: (askedFor c text extended ++ after))
    (hx : x.failure? = some code) (hon : x.connection? = some c ∨ x.call.prepared?.isSome = true) :
    d.Reports c (.native text.textOrEmpty code extended) :=
  .intro text extended (hd.trans (List.nil_append _).symm) hx hon

/-- It may be the last one, too, whose code is checked. -/
theorem History.Reports.of_checked {c : ConnectionHandle} {d : History} {x : Exchange} {code : Code}
    {e : Error} (h : code.Checked c d (.error e)) (hx : x.failure? = code.failure?)
    (hon : x.connection? = some c ∨ x.call.prepared?.isSome = true) : History.Reports c (x :: d) e := by
  cases h with
  | failed hcode message extended =>
    have hasked : askedFor c message extended = askedFor c message extended ++ [] :=
      (List.append_nil _).symm
    exact .first message extended (congrArg _ hasked) (hx.trans (if_neg hcode)) hon

/-- Such an error is none of use. -/
theorem History.Reports.isUsage_eq {c : ConnectionHandle} {d : History} {e : Error}
    (h : d.Reports c e) : e.isUsage = false := by
  cases h with
  | intro text extended hd hx hon => rfl

/-- How the calls of a part of an operation go together with its result. -/
inductive Told (c : ConnectionHandle) (E : History → Error → Prop) (d : History) :
    Except Error α → Prop where
  /-- No call failed, and the error, if there is one, is as `E` says. -/
  | sound {r : Except Error α} (hd : d.Clean) (hr : ∀ e, r = .error e → E d e) : Told c E d r
  /-- The last call failed, on the connection or on a statement, and the connection was asked for the
  reason. -/
  | failed {before : History} {x : Exchange} {code : Code} (text : NativeText) (extended : Code)
      (hd : d = before ++ x :: askedFor c text extended) (hbefore : before.Clean)
      (hx : x.failure? = some code) (hon : x.connection? = some c ∨ x.call.prepared?.isSome = true) :
      Told c E d (.error (.native text.textOrEmpty code extended))

namespace Told

variable {c : ConnectionHandle} {E : History → Error → Prop} {d d' : History} {r : Except Error α}
  {x : α} {e : Error}

/-- It succeeds, and no call failed. -/
theorem ok (h : d.Clean) : Told c E d (.ok x) := .sound h nofun

/-- It fails by itself, and no call did. -/
theorem error (h : d.Clean) (he : E d e) : Told (α := α) c E d (.error e) :=
  .sound h fun _ hr => Except.error.inj hr ▸ he

/-- The first call failed. -/
theorem failed_first {x : Exchange} {code : Code} (text : NativeText) (extended : Code)
    (hx : x.failure? = some code) (hon : x.connection? = some c ∨ x.call.prepared?.isSome = true) :
    Told (α := α) c E (x :: askedFor c text extended)
      (.error (.native text.textOrEmpty code extended)) :=
  .failed text extended (List.nil_append _).symm History.clean_nil hx hon

/-- An operation that succeeds has made no failing call. -/
theorem clean_of_ok (h : Told c E d (.ok x)) : d.Clean := by
  cases h with
  | sound hd hr => exact hd

/-- An error is as `E` says or tells of the last call. -/
theorem reports (h : Told (α := α) c E d (.error e)) : E d e ∨ d.Reports c e := by
  cases h with
  | sound hd hr => exact .inl (hr e rfl)
  | failed text extended hd hbefore hx hon =>
    rw [← List.append_nil (askedFor c text extended)] at hd
    exact .inr (.intro text extended hd hx hon)

/-- An error does not depend on what the result would have been. -/
theorem of_error (h : Told c E d (.error e : Except Error α)) :
    Told c E d (.error e : Except Error β) := by
  cases h with
  | sound hd hr => exact .error hd (hr e rfl)
  | failed text extended hd hbefore hx hon => exact .failed text extended hd hbefore hx hon

/-- Errors of the library may be described in other words. -/
theorem mono {E' : History → Error → Prop} (h : Told c E d r) (hE : ∀ e, E d e → E' d e) :
    Told c E' d r := by
  cases h with
  | sound hd hr => exact .sound hd fun e he => hE e (hr e he)
  | failed text extended hd hbefore hx hon => exact .failed text extended hd hbefore hx hon

/-- Calls that went well came before. -/
theorem prependOf {E' : History → Error → Prop} (h : Told c E d' r) (hd : d.Clean)
    (hE : ∀ e, E d' e → E' (d ++ d') e) : Told c E' (d ++ d') r := by
  cases h with
  | sound hd' hr => exact .sound (hd.append hd') fun e he => hE e (hr e he)
  | failed text extended hd' hbefore hx hon =>
    refine .failed text extended ?_ (hd.append hbefore) hx hon
    rw [hd', List.append_assoc]

/-- They make no difference to an error that is of the same kind behind all of them. -/
theorem prepend {E : Error → Prop} (h : Told c (fun _ => E) d' r) (hd : d.Clean) :
    Told c (fun _ => E) (d ++ d') r := h.prependOf hd fun _ he => he

/-- A call whose code is checked behind it. -/
theorem of_checked {x : Exchange} {code : Code} {r : Except Error Unit} (h : code.Checked c d r)
    (hx : x.failure? = code.failure?)
    (hon : x.connection? = some c ∨ x.call.prepared?.isSome = true) : Told c E (x :: d) r := by
  cases h with
  | passed hcode => exact .ok (History.clean_singleton (hx.trans (if_pos hcode)))
  | failed hcode message extended =>
    exact .failed_first message extended (hx.trans (if_neg hcode)) hon

end Told

/-! ### Operations whose calls are looked at -/

/-- An error of the library; one about its use is found out by asking. -/
def Error.Early (d : History) (e : Error) : Prop :=
  e.isNative = false ∧ (e.isUsage = true → ∀ x ∈ d, x.call.isInquiry = true)

/-- Through the statement of a name an action makes calls of a kind, and what fails among them it
tells of with the reasons of a connection. -/
def Does [Engine σ] (id : CursorId) (h : Option PreparedHandle) (c : ConnectionHandle)
    (K : Call → Prop) (E : History → Error → Prop) (a : Action σ α) : Prop :=
  Follows id h (fun d r => (∀ x ∈ d, K x.call) ∧ Told c E d r) a

namespace Does

variable [Engine σ] {id : CursorId} {h : Option PreparedHandle} {c : ConnectionHandle}
  {K K' : Call → Prop} {E E' : History → Error → Prop}

/-- Nothing is called. -/
theorem pure {x : α} : Does (σ := σ) id h c K E (pure x) :=
  Follows.pure ⟨nofun, .ok History.clean_nil⟩

/-- It fails before any call. -/
theorem throw {e : Error} (he : E [] e) : Does (σ := σ) (α := α) id h c K E (throw e) :=
  Follows.throw ⟨nofun, .error History.clean_nil he⟩

/-- Nothing comes behind a failure. -/
theorem throw_bind {e : Error} {f : β → Action σ α} (he : E [] e) :
    Does id h c K E (MonadExcept.throw e >>= f) :=
  Follows.throw_bind ⟨nofun, .error History.clean_nil he⟩

/-- Calls and errors of a kind are of every wider one. -/
theorem mono {a : Action σ α} (ha : Does id h c K E a) (hK : ∀ call, K call → K' call)
    (hE : ∀ d e, E d e → E' d e) : Does id h c K' E' a :=
  Follows.mono ha fun d _ hd => ⟨fun x hx => hK _ (hd.1 x hx), hd.2.mono fun e => hE d e⟩

/-- One action after another. -/
theorem bind {E : Error → Prop} {a : Action σ β} {f : β → Action σ α}
    (ha : Does id h c K (fun _ => E) a) (hf : ∀ x, Does id h c K (fun _ => E) (f x)) :
    Does id h c K (fun _ => E) (a >>= f) := by
  refine Follows.bind ha (fun d x hd => Follows.mono (hf x) fun d' r hr => ⟨fun y hy => ?_, ?_⟩)
    fun d e hd => ⟨hd.1, hd.2.of_error⟩
  · rcases List.mem_append.mp hy with hy | hy
    · exact hd.1 y hy
    · exact hr.1 y hy
  · exact hr.2.prepend hd.2.clean_of_ok

/-- The result is made into another one. -/
theorem map {a : Action σ β} {f : β → α} (ha : Does id h c K E a) :
    Does id h c K E (a >>= fun x => Pure.pure (f x)) := by
  refine Follows.bind ha (fun d x hd => Follows.pure ?_) fun d e hd => ⟨hd.1, hd.2.of_error⟩
  rw [List.append_nil]
  exact ⟨hd.1, .ok hd.2.clean_of_ok⟩

/-- A call whose code nobody looks at. -/
theorem native {call : Call} (hrests : call.Rests h) (hK : K call) (hi : call.isInquiry = true) :
    Does (σ := σ) id h c K E (native call) := by
  refine Follows.native hrests fun reply => ⟨fun x hx => ?_, .ok ?_⟩
  · rw [List.mem_singleton.mp hx]
    exact hK
  · exact History.clean_singleton (Exchange.failure?_of_isInquiry hi)

/-- What only inquires may be a part of it. -/
theorem of_inquires {E : Error → Prop} {a : Action σ α} (ha : Inquires id h E a)
    (hK : ∀ call : Call, call.Asks → K call) : Does id h c K (fun _ => E) a :=
  Follows.mono ha fun _ _ hd =>
    ⟨fun x hx => hK _ (hd.1 x hx), .sound (History.clean_of_isInquiry fun x hx => (hd.1 x hx).1) hd.2⟩

end Does

end GuardedSql
