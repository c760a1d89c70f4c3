import GuardedSql.Proofs.InteriorNul
import GuardedSql.Proofs.Transport
import GuardedSql.Proofs.Walks

/-!
# Functions that fail

A closure that panics or gives an error leaves an error with the engine, and the statement that calls
it fails with the text and the code of that. There is one way out: a native error can have any code,
and the engine takes a code that is not positive for none. The text is then the value of the call.
-/

namespace GuardedSql

variable {W S σ : Type}

/-! ### Text up to its first zero byte -/

namespace Utf8

/-- The bytes of an array are read from the front. -/
theorem toList_loop (b : ByteArray) (i : Nat) (r : List UInt8) :
    ByteArray.toList.loop b i r = r.reverse ++ b.data.toList.drop i := by
  fun_induction ByteArray.toList.loop b i r with
  | case1 i r hi ih =>
    have hlt : i < b.data.toList.length := by
      rw [Array.length_toList]
      exact hi
    have hget : b.get! i = b.data.toList[i] := by
      show b.data[i]! = _
      rw [getElem!_pos b.data i hi, Array.getElem_toList]
    rw [ih, List.reverse_cons, List.append_assoc, List.drop_eq_getElem_cons hlt, hget]
    rfl
  | case2 i r hi =>
    have hge : b.data.toList.length ≤ i := by
      rw [Array.length_toList]
      exact Nat.le_of_not_lt hi
    rw [List.drop_eq_nil_of_le hge, List.append_nil]

theorem toList_eq (b : ByteArray) : b.toList = b.data.toList := by
  rw [ByteArray.toList, toList_loop, List.reverse_nil, List.nil_append, List.drop_zero]

/-- The bytes of a text are those of its first character and the rest. -/
theorem bytes_cons (c : Char) (l : List Char) :
    (c :: l).utf8Encode.data.toList = String.utf8EncodeChar c ++ l.utf8Encode.data.toList := by
  rw [← List.singleton_append, List.utf8Encode_append, List.utf8Encode_singleton,
    ByteArray.toList_data_append, List.toList_data_toByteArray]

/-- Only the zero character has a zero byte. -/
theorem ne_zero_of_mem_encode {c : Char} (h : c ≠ '\x00') : ∀ b ∈ String.utf8EncodeChar c, b ≠ 0 := by
  have hpos : c.val.toNat ≠ 0 := fun h0 => h (Char.ext (UInt32.toNat_inj.mp h0))
  have hbyte {n : Nat} (h1 : n ≠ 0) (h2 : n < 256) : UInt8.ofNat n ≠ 0 := by
    intro he
    have hn := congrArg UInt8.toNat he
    rw [UInt8.toNat_ofNat_of_lt' h2] at hn
    exact h1 hn
  intro b hb
  rw [String.utf8EncodeChar] at hb
  -- one byte, or a mark and one to three bytes behind it
  split_ifs at hb
  all_goals simp only [List.mem_cons, List.not_mem_nil, or_false] at hb
  · rw [hb]
    exact hbyte hpos (by omega)
  · rcases hb with rfl | rfl <;> exact hbyte (by omega) (by omega)
  · rcases hb with rfl | rfl | rfl <;> exact hbyte (by omega) (by omega)
  · rcases hb with rfl | rfl | rfl | rfl <;> exact hbyte (by omega) (by omega)

theorem ne_zero_of_mem_bytes {l : List Char} (h : ∀ c ∈ l, c ≠ '\x00') :
    ∀ b ∈ l.utf8Encode.data.toList, b ≠ 0 := by
  induction l with
  | nil => simp
  | cons c l ih =>
    intro b hb
    rw [bytes_cons] at hb
    rcases List.mem_append.mp hb with hb | hb
    · exact ne_zero_of_mem_encode (h c List.mem_cons_self) b hb
    · exact ih (fun x hx => h x (List.mem_cons_of_mem _ hx)) b hb

/-- A text is cut before its first zero byte where it is cut before its first zero character. -/
theorem beforeNul_toUTF8 (text : String) : beforeNul text.toUTF8 = (Nul.before text).toUTF8 := by
  let p : Char → Bool := (· != '\x00')
  let front : ByteArray := (text.toList.takeWhile p).utf8Encode
  let back : ByteArray := (text.toList.dropWhile p).utf8Encode
  have hsplit : text.toUTF8 = front ++ back := by
    rw [String.toUTF8_eq_toByteArray, ← List.utf8Encode_append, List.takeWhile_append_dropWhile,
      ← String.toByteArray_ofList, String.ofList_toList]
  have hbefore : (Nul.before text).toUTF8 = front := by
    rw [Nul.before, String.toUTF8_eq_toByteArray, String.toByteArray_ofList]
  have hfront : front.data.toList.findIdx? (· == 0) = none := by
    rw [List.findIdx?_eq_none_iff]
    have hchars : ∀ c ∈ text.toList.takeWhile p, c ≠ '\x00' := fun c hc => by
      simpa [p] using List.mem_takeWhile_imp hc
    simpa using ne_zero_of_mem_bytes hchars
  rw [hbefore, beforeNul, toList_eq, hsplit, ByteArray.toList_data_append, List.findIdx?_append,
    hfront, Option.none_or]
  cases hback : text.toList.dropWhile p with
  | nil => simp [back, hback]
  | cons c rest =>
    have hzero : c = '\x00' := by
      have hhead := List.head?_dropWhile_not p text.toList
      rw [hback] at hhead
      simpa [p] using hhead
    have hfirst : back.data.toList = 0 :: rest.utf8Encode.data.toList := by
      show (text.toList.dropWhile p).utf8Encode.data.toList = _
      rw [hback, bytes_cons, hzero]
      rfl
    have hsize : front.data.toList.length = front.size := Array.length_toList
    rw [hfirst, List.findIdx?_cons]
    simp only [BEq.rfl, if_true, Option.map_some, Nat.zero_add]
    exact ByteArray.extract_append_eq_left hsize

end Utf8

/-! ### What closures leave -/

/-- How a closure failed, if it did: the code of its error, or that of a failure without one of its
own, and the error in words. -/
def Outcome.failure? {α : Type} : Outcome α → Option (Code × String)
  | returned _ => none
  | failed e => some (if e.isNative then e.code else Code.error, e.message)
  | panicked => some (Code.error, panicMessage)

/-- The value that a closure returned, if it did. -/
def Outcome.value? {α : Type} : Outcome α → Option α
  | returned x => some x
  | _ => none

/-- A context with an error. -/
def CallContext.reporting (code : Code) (message : String) : CallContext :=
  { result := .text message.toUTF8, pending := if code = 0 then -1 else code }

namespace CallContext

/-- It is one for the engine if the code is positive; a zero character cuts the text. -/
theorem failure?_reporting (code : Code) (message : String) :
    (reporting code message).failure? =
      if 0 < code then some (code, (Nul.before message).toUTF8) else none := by
  have hpositive : 0 < (reporting code message).pending ↔ 0 < code := by
    rw [reporting]
    dsimp only
    by_cases hzero : code = 0
    · rw [if_pos hzero, hzero]
      decide
    · rw [if_neg hzero]
  rw [failure?]
  by_cases hcode : 0 < code
  · have hzero : code ≠ 0 := fun h => by
      rw [h] at hcode
      exact absurd hcode (by decide)
    rw [if_pos (hpositive.mpr hcode), if_pos hcode]
    show some ((reporting code message).pending, Utf8.beforeNul message.toUTF8) = _
    rw [reporting, if_neg hzero, Utf8.beforeNul_toUTF8]
  · rw [if_neg fun h => hcode (hpositive.mp h), if_neg hcode]

/-- An error for the engine has a code. -/
theorem ne_ok_of_failure {c : CallContext} {code : Code} {text : ByteArray}
    (h : c.failure? = some (code, text)) : code ≠ Code.ok := by
  rw [failure?] at h
  split at h
  · rename_i hpositive
    have hcode : c.pending = code := by
      split at h <;> cases h <;> rfl
    rintro rfl
    rw [hcode] at hpositive
    exact absurd hpositive (by decide)
  · cases h

/-- An error is reported with its code if it has one. -/
theorem failWith_fresh (e : Error) :
    failWith {} e = reporting (if e.isNative then e.code else Code.error) e.message := by
  rw [failWith]
  cases hnative : e.isNative with
  | true => rfl
  | false => rfl

end CallContext

/-- What is reported of a failed closure. -/
theorem Outcome.report_of_failure {o : Outcome Value} {code : Code} {message : String}
    (h : o.failure? = some (code, message)) : CallContext.report {} o = .reporting code message := by
  cases o with
  | returned v => cases h
  | failed e =>
    cases h
    exact CallContext.failWith_fresh e
  | panicked =>
    cases h
    rfl

theorem Outcome.reportStep_of_failure {o : Outcome Unit} {code : Code} {message : String}
    (h : o.failure? = some (code, message)) :
    CallContext.reportStep {} o = .reporting code message := by
  cases o with
  | returned v => cases h
  | failed e =>
    cases h
    exact CallContext.failWith_fresh e
  | panicked =>
    cases h
    rfl

/-- What is reported of one that is well. -/
theorem Outcome.report_of_value {o : Outcome Value} (h : o.failure? = none)
    (hsize : ∀ v, o.value? = some v → (Cell.ofValue v).isTooBig = false) :
    (CallContext.report {} o).pending = 0 := by
  cases o with
  | returned v =>
    rw [CallContext.report, CallContext.setResult, hsize v rfl]
    rfl
  | failed e => cases h
  | panicked => cases h

theorem Outcome.reportStep_of_returned {o : Outcome Unit} (h : o.failure? = none) :
    CallContext.reportStep {} o = {} := by
  cases o with
  | returned v => rfl
  | failed e => cases h
  | panicked => cases h

/-! ### Calls of functions -/

/-- A call of a function, with a fresh context. -/
inductive FunctionCall : Type 1 where
  /-- Of a scalar function. -/
  | scalar (f : ScalarFunction) (args : List Argument)
  /-- Of an aggregate, for a row, with the slot of the group. -/
  | step {W S : Type} (a : Aggregate (StateM W) S) (slot : Option S) (args : List Argument) (w : W)
  /-- Of an aggregate, for the end of a group. -/
  | finish {W S : Type} (a : Aggregate (StateM W) S) (slot : Option S) (w : W)

namespace FunctionCall

/-- The context that its callback leaves. -/
def context : FunctionCall → CallContext
  | scalar f args => f.callback args {}
  | step a slot args w => (a.stepCallback (some slot) args {} w).1.2
  | finish a slot w => (a.finishCallback slot {} w).1.2

/-- How the closure takes a row, with the state that there is or a fresh one. -/
def rowOutcome (a : Aggregate (StateM W) S) (slot : Option S) (args : List Argument) (w : W) :
    Outcome Unit :=
  match slot with
  | some s => (a.step s (args.map Argument.value) w).1.2
  | none =>
    match a.init w with
    | (some s, w) => (a.step s (args.map Argument.value) w).1.2
    | (none, _) => .panicked

/-- How the closure failed, if it did. -/
def failure? : FunctionCall → Option (Code × String)
  | scalar f args => (f (args.map Argument.value)).failure?
  | step a slot args w => (rowOutcome a slot args w).failure?
  | finish a slot w => (a.finish slot w).1.failure?

/-- The value that the closure returned, if it is one that returns values. -/
def value? : FunctionCall → Option Value
  | scalar f args => (f (args.map Argument.value)).value?
  | step .. => none
  | finish a slot w => (a.finish slot w).1.value?

/-- Whether it is for the end of a group. -/
def isFinish : FunctionCall → Bool
  | finish .. => true
  | _ => false

/-- The closure returned, and the engine can hold what it returned. -/
def IsWell (x : FunctionCall) : Prop :=
  x.failure? = none ∧ ∀ v, x.value? = some v → (Cell.ofValue v).isTooBig = false

/-- The closure failed with a code that is none for the engine. -/
def IsLost (x : FunctionCall) : Prop :=
  x.isFinish = false ∧ ∃ code message, x.failure? = some (code, message) ∧ ¬0 < code

/-- Nothing is left that an engine could take for an error: nothing is pending, or, unless it is for
the end of a group, no positive code. -/
def Passes (x : FunctionCall) : Prop :=
  x.context.failure? = none ∧ (x.isFinish = true → x.context.pending = 0)

/-- A row is reported on as the closure took it. -/
theorem context_step (a : Aggregate (StateM W) S) (slot : Option S) (args : List Argument) (w : W) :
    (step a slot args w).context = CallContext.reportStep {} (rowOutcome a slot args w) := by
  cases slot with
  | some s => rfl
  | none =>
    rw [context, Aggregate.stepCallback, rowOutcome]
    simp only [bind, StateT.bind]
    rcases a.init w with ⟨_ | s, w'⟩ <;> rfl

/-- A failed closure is reported on with its code and its text. -/
theorem context_of_failure {x : FunctionCall} {code : Code} {message : String}
    (h : x.failure? = some (code, message)) : x.context = .reporting code message := by
  cases x with
  | scalar f args => exact Outcome.report_of_failure h
  | step a slot args w =>
    rw [context_step]
    exact Outcome.reportStep_of_failure h
  | finish a slot w => exact Outcome.report_of_failure h

/-- One that is well leaves no error. -/
theorem IsWell.passes {x : FunctionCall} (h : x.IsWell) : x.Passes := by
  have hpending : x.context.pending = 0 := by
    cases x with
    | scalar f args => exact Outcome.report_of_value h.1 h.2
    | step a slot args w =>
      rw [context_step, Outcome.reportStep_of_returned h.1]
    | finish a slot w => exact Outcome.report_of_value h.1 h.2
  refine ⟨?_, fun _ => hpending⟩
  rw [CallContext.failure?, if_neg (by rw [hpending]; decide)]

/-- Neither does one whose error is lost. -/
theorem IsLost.passes {x : FunctionCall} (h : x.IsLost) : x.Passes := by
  obtain ⟨hfinish, code, message, hfailure, hcode⟩ := h
  refine ⟨?_, fun hf => by rw [hfinish] at hf; cases hf⟩
  rw [context_of_failure hfailure, CallContext.failure?_reporting, if_neg hcode]

end FunctionCall

/-! ### Statements that call them -/

section

variable [Engine σ]

/-- A connection tells a code and a text about the last call. -/
structure Store.Tells (s : Store σ) (c : ConnectionHandle) (code : Code) (text : ByteArray) :
    Prop where
  /-- The text. -/
  message : (Engine.call (.errorMessage c) s.engine).1.textOrEmpty = Utf8.decodeLossy text
  /-- The code. -/
  code : (Engine.call (.extendedErrorCode c) (Engine.call (.errorMessage c) s.engine).2).1 = code

/-- The next step of a statement makes calls of functions, up to the first that leaves an error, and
it has no other reason to fail. -/
structure Store.Evaluates (s : Store σ) (q : Statement) (k : Cursor)
    (calls : List FunctionCall) : Prop where
  /-- An error that is left is that of the step. -/
  raised : ∀ {before x after code text}, calls = before ++ x :: after →
    (∀ y ∈ before, y.Passes) → x.context.failure? = some (code, text) →
      s.stepCode k = code.primary ∧
        (s.advance q.cursor k).Tells q.database.connection code text
  /-- Without one, the step gives a row or finds the end. -/
  passed : (∀ x ∈ calls, x.Passes) → (s.stepCode k).IsPlain

/-- Wherever a statement is stepped, it fails with an error. -/
structure Statement.FailsWith (q : Statement) (s : Store σ) (e : Error) : Prop where
  /-- By a step. -/
  step : (q.step s).1 = .error e
  /-- By a run to the end. -/
  exec : (q.exec s).1 = .error e
  /-- By a step that gives its code. -/
  stepCode : (q.stepCode s).1 = .ok e.code

/-- What a connection tells is the error of the call. -/
theorem Store.Tells.connectionError {s : Store σ} {c : ConnectionHandle} {full : Code}
    {text : ByteArray} (h : s.Tells c full text) (code : Code) :
    ∃ s', GuardedSql.connectionError c code s =
      (.ok (.native (Utf8.decodeLossy text) code full), s') := by
  rw [← h.message, ← h.code]
  exact ⟨_, rfl⟩

/-- A step whose code is none of a row or the end fails with what the connection tells. -/
theorem Statement.failsWith_of_tells {q : Statement} {s : Store σ} {k : Cursor} {full : Code}
    {text : ByteArray} (hk : s.cursors.get? q.cursor = some k) (hd : k.done = false)
    (hcode : ¬(s.stepCode k).IsPlain)
    (h : (s.advance q.cursor k).Tells q.database.connection full text) :
    q.FailsWith s (.native (Utf8.decodeLossy text) (s.stepCode k) full) := by
  have hrow : s.stepCode k ≠ Code.row := fun hrow => hcode (.inl hrow)
  have hdone : s.stepCode k ≠ Code.done := fun hdone => hcode (.inr hdone)
  have hfail {α : Type} :
      ((connectionError q.database.connection (s.stepCode k) >>= throw : Action σ α)
        (s.advance q.cursor k)).1 =
          .error (.native (Utf8.decodeLossy text) (s.stepCode k) full) := by
    obtain ⟨s', herror⟩ := h.connectionError (s.stepCode k)
    rw [Action.bind_of_ok herror]
    rfl
  constructor
  case step =>
    rw [Statement.step_run hk hd, if_neg hrow, if_neg hdone]
    exact hfail
  case exec =>
    rw [Statement.exec_run hk hd, if_neg hdone, if_neg hrow]
    exact hfail
  case stepCode => rw [Statement.stepCode_run hk hd, Error.code]

end

/-! ### On the engine at work -/

section

open Sql

variable {s : Store Machine} {q : Statement} {db : Database} {f : ScalarFunction} {c : Cell}

/-- A connection that was told of a fault tells it. -/
theorem Store.tells_of_fault {c : ConnectionHandle} {code : Code} {text : ByteArray}
    (h : Work.Tells s.engine c.number code (Utf8.decodeLossy text)) (hcode : code ≠ Code.ok) :
    s.Tells c code text := by
  obtain ⟨k, hk, hc, hm⟩ := h
  have hconnection := Work.connection_run hk
  constructor
  case message =>
    show NativeText.textOrEmpty (Work.errorMessage c.number s.engine).1 = _
    rw [Work.errorMessage, Work.bind_run, hconnection, hc, if_neg hcode, hm]
    exact Utf8.decodeLossy_toUTF8 _
  case code =>
    show (Work.connection c.number s.engine).1.code = _
    rw [hconnection]
    exact hc

/-- A query for the value of a scalar function calls it once in its first step, unless the engine
makes something else of the code. -/
theorem Store.evaluates_of_waits {k : Cursor} {y : Prepared}
    (hy : s.engine.statements.get? k.handle.number = some y)
    (hconnection : y.connection = q.database.connection.number)
    (hopen : (s.engine.connections.get? q.database.connection.number).isSome = true)
    (hwaits : y.Waits (Quest.call f).term c)
    (hcode : ∀ code text,
      (f.callback [(Register.ofCell c).argument] {}).failure? = some (code, text) →
        code ≠ Work.outOfMemoryInFile ∧ code.primary ≠ Fault.schema) :
    s.Evaluates q k [.scalar f [(Register.ofCell c).argument]] := by
  let left := f.callback [(Register.ofCell c).argument] {}
  constructor
  case raised =>
    intro before x after code text hcalls _ hleft
    obtain ⟨rfl, hx, rfl⟩ :
        [] = before ∧ .scalar f [(Register.ofCell c).argument] = x ∧ [] = after := by
      cases before with
      | nil => exact ⟨rfl, List.cons.inj hcalls⟩
      | cons y rest => simp at hcalls
    rw [← hx] at hleft
    obtain ⟨hmemory, hschema⟩ := hcode code text hleft
    obtain ⟨m, hstep, htells⟩ := Work.step_waiting_failed hy hwaits (Quest.eval_call_of_failed hleft)
      hmemory hschema
    have hengine : (s.advance q.cursor k).engine = m := congrArg Prod.snd hstep
    rw [hconnection] at htells
    refine ⟨congrArg Prod.fst hstep, Store.tells_of_fault ?_ (CallContext.ne_ok_of_failure hleft)⟩
    rw [hengine]
    exact htells hopen
  case passed =>
    intro hall
    have hnone : left.failure? = none := (hall _ List.mem_cons_self).1
    obtain ⟨m, y', hstep, -⟩ := Work.step_waiting hy hwaits (Quest.eval_call_of_passed hnone)
    exact .inl (congrArg Prod.fst hstep)

/-- Every scalar function that is registered is called so, by a query for its value at NULL. -/
theorem Database.evaluates_of_created {deterministic : Bool}
    (h : (db.createFunction "f" 1 deterministic f s).1 = .ok ())
    (hcode : ∀ code text,
      (f.callback [(Register.ofCell .null).argument] {}).failure? = some (code, text) →
        code ≠ Work.outOfMemoryInFile ∧ code.primary ≠ Fault.schema) :
    ∃ q s' k, Statement.prepare db "SELECT f(?)" (db.createFunction "f" 1 deterministic f s).2 =
        (.ok q, s') ∧ s'.cursors.get? q.cursor = some k ∧ k.done = false ∧
      s'.Evaluates q k [.scalar f [(Register.ofCell .null).argument]] := by
  let made := Engine.call (.makeBox (.ofScalar f)) s.engine
  let register : Call :=
    .createFunction db.connection "f" 1 deterministic (.ofScalar f) made.1 (some destroy)
  let s₁ : Store Machine := { s with engine := (Engine.call register made.2).2 }
  have hrun : db.createFunction "f" 1 deterministic f s =
      GuardedSql.check db.connection (Engine.call register made.2).1 s₁ := rfl
  have hcreated : GuardedSql.check db.connection (Engine.call register made.2).1 s₁ =
      (.ok (), (db.createFunction "f" 1 deterministic f s).2) := by
    rw [← hrun]
    exact Prod.ext h rfl
  obtain ⟨hok, hs₁⟩ := check_eq_ok hcreated
  obtain ⟨hresolve, hopen⟩ := Machine.resolve_of_registered hok
  obtain ⟨m, y, hprepare, hy, hconnection, hstill, hwaits⟩ :=
    Machine.prepare_awaits isQueryFor_call hresolve
  have hasks : Machine.carriage.Asks m ⟨s₁.engine.nextNumber⟩ (.call f) := ⟨y, _, hy, hwaits, rfl⟩
  have hcount : (Engine.call (.columnCount ⟨s₁.engine.nextNumber⟩) m).1 = 1 :=
    (Machine.carriage.columnCount hasks).1
  obtain ⟨k, hhandle, hdone, -, hcursor⟩ := CursorId.prepare_of_single (s := s₁) hprepare hcount
  rw [hs₁]
  refine ⟨_, _, k, Action.bind_of_ok hcursor, Table.get?_set_self _ _ _, hdone, ?_⟩
  refine Store.evaluates_of_waits ?_ hconnection (hstill.trans hopen) hwaits hcode
  rw [hhandle]
  exact hy

end

/-! ### All functions -/

/-- On every engine, for every statement whose next step makes calls of functions: the first closure
that panics or gives an error with a positive code makes the statement fail, with the text of the
error up to its first zero character, and with its code, unless the code is one that means a row or
the end. As long as all closures return, or give errors without a positive code before a group ends,
it does not fail, and the text of such an error is the value of the call. -/
theorem failing_functions_fail_statements [Engine σ] {s : Store σ} {q : Statement} {k : Cursor}
    {calls : List FunctionCall} (hk : s.cursors.get? q.cursor = some k) (hd : k.done = false)
    (h : s.Evaluates q k calls) :
    (∀ before x after code message, calls = before ++ x :: after →
      (∀ y ∈ before, y.IsWell ∨ y.IsLost) → x.failure? = some (code, message) → 0 < code →
        (q.stepCode s).1 = .ok code.primary ∧
        (¬code.primary.IsPlain →
          q.FailsWith s (.native (Nul.before message) code.primary code))) ∧
    ((∀ x ∈ calls, x.IsWell ∨ x.IsLost) → ∃ more, (q.step s).1 = .ok more) ∧
    ∀ x : FunctionCall, ∀ code message, x.failure? = some (code, message) → ¬0 < code →
      x.context.failure? = none ∧ x.context.result = .text message.toUTF8 := by
  have hpasses (y : FunctionCall) (hy : y.IsWell ∨ y.IsLost) : y.Passes :=
    hy.elim FunctionCall.IsWell.passes FunctionCall.IsLost.passes
  refine ⟨?_, fun hall => ?_, ?_⟩
  · intro before x after code message hcalls hbefore hfailure hpositive
    have hleft : x.context.failure? = some (code, (Nul.before message).toUTF8) := by
      rw [FunctionCall.context_of_failure hfailure, CallContext.failure?_reporting,
        if_pos hpositive]
    obtain ⟨hcode, htells⟩ := h.raised hcalls (fun y hy => hpasses y (hbefore y hy)) hleft
    refine ⟨by rw [Statement.stepCode_run hk hd, hcode], fun hplain => ?_⟩
    have hfails := Statement.failsWith_of_tells hk hd (hcode ▸ hplain) htells
    rwa [hcode, Utf8.decodeLossy_toUTF8] at hfails
  · have hplain := h.passed fun x hx => hpasses x (hall x hx)
    rw [Statement.step_run hk hd]
    rcases hplain with hrow | hdone
    · exact ⟨true, by rw [if_pos hrow]⟩
    · have hrow : s.stepCode k ≠ Code.row := by
        rw [hdone]
        decide
      exact ⟨false, by rw [if_neg hrow, if_pos hdone]⟩
  · intro x code message hfailure hcode
    rw [FunctionCall.context_of_failure hfailure, CallContext.failure?_reporting, if_neg hcode]
    exact ⟨rfl, rfl⟩

/-- A function that fails with a native error, and a zero character in its text. -/
def takenTwice : ScalarFunction := fun _ => .failed (.native "taken\x00twice" 2067 2067)

theorem takenTwice_created :
    (privateDatabase.createFunction "f" 1 true takenTwice privateStore).1 = .ok () := by
  decide +kernel

/-- On the private database its statement fails with the text up to that character. -/
theorem failing_functions_fail_statements_of_takenTwice :
    ∃ q s, Statement.prepare privateDatabase "SELECT f(?)"
        (privateDatabase.createFunction "f" 1 true takenTwice privateStore).2 = (.ok q, s) ∧
      q.FailsWith s (.native "taken" Code.constraint 2067) := by
  have hcode : ∀ code text,
      (takenTwice.callback [(Sql.Register.ofCell .null).argument] {}).failure? = some (code, text) →
        code ≠ Sql.Work.outOfMemoryInFile ∧ code.primary ≠ Sql.Fault.schema := by
    intro code text h
    cases h
    decide
  obtain ⟨q, s, k, hprepare, hk, hdone, hevaluates⟩ :=
    Database.evaluates_of_created takenTwice_created hcode
  obtain ⟨hfails, -⟩ := failing_functions_fail_statements hk hdone hevaluates
  obtain ⟨-, hfails⟩ := hfails [] _ [] 2067 "taken\x00twice" rfl (by simp) rfl (by decide)
  have hbefore : Nul.before "taken\x00twice" = "taken" := by decide +kernel
  have hprimary : Code.primary 2067 = Code.constraint := by decide
  rw [hbefore, hprimary] at hfails
  refine ⟨q, s, hprepare, hfails ?_⟩
  rintro (h | h) <;> exact absurd h (by decide)

/-- A function that fails with a native error whose code is that of success. -/
def voided : ScalarFunction := fun _ => .failed (.native "nope" 0 0)

/-- Its statement does not fail: the text of the error is the value of the call. -/
theorem voided_gives_its_text :
    (voided [.null]).failure? = some (0, "nope") ∧
      (privateDatabase.call voided true .null true (fun v => v.textOr "") privateStore).1 =
        .ok "nope" ∧
      ¬ ∀ f : ScalarFunction, (f [.null]).failure?.isSome →
        ∃ e, (privateDatabase.call f true .null true (fun v => v.textOr "") privateStore).1 =
          .error e := by
  have hgiven : (privateDatabase.call voided true .null true (fun v => v.textOr "")
      privateStore).1 = .ok "nope" := by
    decide +kernel
  refine ⟨rfl, hgiven, fun hfails => ?_⟩
  obtain ⟨e, he⟩ := hfails voided rfl
  rw [hgiven] at he
  cases he

end GuardedSql
