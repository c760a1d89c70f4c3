import GuardedSql.Proofs.Asking
import GuardedSql.Proofs.RegisterReading

/-!
# Calling a registered function

What the engine of this project makes of the queries for one value. A query for its parameter gives
the cell that was bound. A function of one argument is called through a query for its value: the query
means the function that was registered last under the name, the function gets the parameter, and what
it leaves is the value of the query. With the registers of the columns this is all that `Carriage`
asks of an engine.
-/

namespace GuardedSql

open Sql

/-! ### Texts that ask for a value -/

/-- A text is read as a query for the value of an expression, with one parameter. -/
def IsQueryFor (query : String) (e : Expr) : Prop :=
  ∃ text names k, parseFirst (Token.visibleChars query) =
    .ok (some ⟨.select (.selecting e text), { count := 1, names }⟩, k)

/-- The expression whose value a statement asks for, if it does just that and has one parameter. -/
def Sql.Parsed.asked? : Parsed → Option Expr
  | ⟨.select (.mk [⟨[.expr e none _], .nothing, none, []⟩] []), ⟨1, _⟩⟩ => some e
  | _ => none

/-- The expression whose value a text asks for. -/
def asked? (query : String) : Option Expr :=
  (parseFirst (Token.visibleChars query)).toOption.bind fun (p, _) => p.bind Parsed.asked?

/-- Whether an expression is the first parameter. -/
def Sql.Expr.isParameter : Expr → Bool
  | .param n => n == 1
  | _ => false

theorem Sql.Parsed.asked?_eq_some {p : Parsed} {e : Expr} (h : p.asked? = some e) :
    ∃ text names, p = ⟨.select (.selecting e text), { count := 1, names }⟩ := by
  unfold asked? at h
  split at h
  · cases h
    exact ⟨_, _, rfl⟩
  · cases h

theorem eq_ok_of_toOption {ε α : Type} {r : Except ε α} {x : α} (h : r.toOption = some x) :
    r = .ok x := by
  cases r with
  | error e => cases h
  | ok y =>
    cases h
    rfl

theorem isQueryFor_of_asked {query : String} {e : Expr} (h : asked? query = some e) :
    IsQueryFor query e := by
  obtain ⟨⟨parsed, k⟩, hparse, h⟩ := Option.bind_eq_some_iff.mp h
  obtain ⟨p, hp, h⟩ := Option.bind_eq_some_iff.mp h
  obtain ⟨text, names, rfl⟩ := Parsed.asked?_eq_some h
  refine ⟨text, names, k, ?_⟩
  rw [eq_ok_of_toOption hparse]
  exact congrArg (fun p => Except.ok (p, k)) hp

/-- What a text asks for is known by a test that only one expression passes. -/
theorem IsQueryFor.of_test {query : String} {e : Expr} (test : Expr → Bool)
    (hunique : ∀ x, test x = true → x = e) (h : (asked? query).any test = true) :
    IsQueryFor query e := by
  cases hasked : asked? query with
  | none =>
    rw [hasked] at h
    cases h
  | some x =>
    rw [hasked] at h
    obtain rfl := hunique x h
    exact isQueryFor_of_asked hasked

theorem Sql.Expr.eq_of_isParameter {e : Expr} (h : e.isParameter = true) : e = .param 1 := by
  unfold isParameter at h
  split at h
  · rw [eq_of_beq h]
  · cases h

theorem isQueryFor_parameter : IsQueryFor "SELECT ?" (.param 1) :=
  .of_test Expr.isParameter (fun _ => Expr.eq_of_isParameter) (by decide +kernel)

namespace Sql

/-! ### Names of functions -/

/-- The newest function of a name and a number of arguments is the one that a call means. -/
theorem Catalog.callee_of_newest {c : Catalog} {r : Registered} {others : List Registered}
    {name : String} {n : Nat} (h : c.functions = r :: others) (hname : sameName r.name name = true)
    (hn : r.arity = n) : c.callee name n = .ok (.registered r.callbacks) := by
  have hnamed : c.functions.filter (fun f => sameName f.name name) =
      r :: others.filter (fun f => sameName f.name name) := by
    rw [h, List.filter_cons, if_pos hname]
  rw [callee, hnamed, List.find?_cons_of_pos (by simp [hn])]
  rfl

/-- A call of a scalar function is resolved as soon as its argument is. -/
theorem Context.resolve_call {c : Context} {name : String} {e : Expr} {t : Term}
    {call : List Argument → CallContext → CallContext}
    (hcallee : c.catalog.callee name 1 = .ok (.registered (.scalar call)))
    (he : c.resolve e [] = .ok (t, [])) :
    c.resolve (.call name [e] false) [] = .ok (.user call [t], []) := by
  have hcontext : c.forArgs name 1 = c := by
    rw [forArgs, hcallee]
  have hargs : c.resolveList [e] [] = .ok ([t], []) := by
    rw [resolveList, resolveList]
    show (c.resolve e >>= _) [] = _
    simp only [bind, StateT.bind, he]
    rfl
  have hcall : c.resolveCall name [t] = (pure (.user call [t]) : Resolver Term) := by
    rw [resolveCall, List.length_singleton, hcallee]
  rw [resolve]
  show ((c.forArgs name 1).resolveList [e] >>= fun terms => c.resolveCall name terms) [] = _
  rw [hcontext]
  simp only [bind, StateT.bind, hargs]
  show c.resolveCall name [t] [] = _
  rw [hcall]
  rfl

namespace Work

variable {m : Machine} {c : Nat} {k : Connection}

theorem connection_run (hk : m.connections.get? c = some k) : connection c m = (k, m) := by
  show ((m.connections.get? c).getD default, m) = _
  rw [hk]
  rfl

theorem modifyConnection_run (f : Connection → Connection) (hk : m.connections.get? c = some k) :
    modifyConnection c f m = ((), { m with connections := m.connections.set c (f k) }) := by
  rw [← Table.modify_of_get? hk]
  rfl

theorem get_run (m : Machine) : (get : Work Machine) m = (m, m) := rfl

/-- A function that is registered is the newest of its connection. -/
theorem createFunction_newest {name : String} {arity : Int32} {callbacks : Callbacks}
    (h : (createFunction c name arity callbacks m).1 = Code.ok) :
    ∃ others, (catalog c (createFunction c name arity callbacks m).2).1.functions =
      ⟨name, arity.toInt, callbacks⟩ :: others := by
  have hnewest (k : Connection) (m' : Machine) (hk' : m'.connections.get? c = some k)
      (others : List Registered) :
      (catalog c (modifyConnection c (fun connection => { connection with
        functions := ⟨name, arity.toInt, callbacks⟩ :: others }) m').2).1.functions =
      ⟨name, arity.toInt, callbacks⟩ :: others := by
    rw [modifyConnection_run _ hk', catalog, bind_run, connection_run (Table.get?_set_self _ _ _)]
    rfl
  revert h
  rw [createFunction]
  dsimp only
  split
  · intro h
    cases h
  · rw [bind_run, get_run]
    dsimp only
    cases hk : m.connections.get? c with
    | none =>
      intro h
      cases h
    | some k =>
      rw [Option.isNone_some, if_neg (by decide), bind_run, connection_run hk]
      dsimp only
      split
      · rw [bind_run]
        split
        · intro h
          cases h
        · rw [bind_run]
          exact fun _ => ⟨_, hnewest k _ hk _⟩
      · exact fun _ => ⟨_, hnewest k _ hk _⟩

/-- A connection with functions is there. -/
theorem isSome_of_functions {r : Registered} {others : List Registered}
    (h : (catalog c m).1.functions = r :: others) : (m.connections.get? c).isSome := by
  cases hk : m.connections.get? c with
  | some k => rfl
  | none =>
    have hfunctions : (catalog c m).1.functions = ((m.connections.get? c).getD default).functions :=
      rfl
    rw [hfunctions, hk] at h
    cases h

end Work

end Sql

/-- The call of a function with the one parameter of a query. -/
def callOfParameter : Expr := .call "f" [.param 1] false

/-- Whether an expression is that call. -/
def Sql.Expr.isCallOfParameter : Expr → Bool
  | .call name [e] false => name == "f" && e.isParameter
  | _ => false

theorem Sql.Expr.eq_of_isCallOfParameter {e : Expr} (h : e.isCallOfParameter = true) :
    e = callOfParameter := by
  unfold isCallOfParameter at h
  split at h
  · obtain ⟨hname, hparameter⟩ := Bool.and_eq_true_iff.mp h
    rw [eq_of_beq hname, eq_of_isParameter hparameter, callOfParameter]
  · cases h

theorem isQueryFor_call : IsQueryFor "SELECT f(?)" callOfParameter :=
  .of_test Expr.isCallOfParameter (fun _ => Expr.eq_of_isCallOfParameter) (by decide +kernel)

/-! ### The registers of values -/

namespace Sql.Register

variable {c : Cell}

theorem columnType_ofCell (c : Cell) : (ofCell c).columnType = c.columnType := by
  cases c <;> rfl

/-- A fresh register of a text or a blob has all bytes, and a buffer if there are any. -/
theorem blob_ofCell {b : ByteArray} (h : c = .text b ∨ c = .blob b) :
    (ofCell c).blob.1 = (if b.isEmpty then none else some b) ∧
      ((ofCell c).blob.2.byteCount false).1 = b.size := by
  rcases h with rfl | rfl
  · exact ⟨rfl, rfl⟩
  · exact ⟨rfl, rfl⟩

/-- A callback gets an argument that answers as the cell does. -/
theorem argument_presents (h : c.isTooBig = false) : (ofCell c).argument.Presents c where
  type := by
    show ColumnType.ofRaw (ofCell c).columnType.raw = _
    rw [ColumnType.ofRaw_raw, columnType_ofCell]
  int64 n hc := by
    rw [hc]
    rfl
  double x hc := by
    rw [hc]
    rfl
  text b hc := by
    rw [hc] at h ⊢
    exact heldBytes_size (Cell.size_le h)
  blob b hc := by
    rw [hc] at h ⊢
    exact heldBytes_of_isEmpty (Cell.size_le h)

end Sql.Register

/-! ### The engine carries values -/

/-- The term of a query. -/
def Quest.term : Quest → Term
  | parameter => .param 1
  | call f => .user f.callback [.param 1]

section

variable {f : ScalarFunction} {c : Cell}

/-- A function is called with the parameter. -/
theorem Quest.eval_call (f : ScalarFunction) (c : Cell) :
    (Quest.call f).term.eval { params := [c] } = Term.userResult f.callback [c] := rfl

/-- It gives what it leaves as its result. -/
theorem Quest.eval_call_of_passed
    (h : (f.callback [(Register.ofCell c).argument] {}).failure? = none) :
    (Quest.call f).term.eval { params := [c] } =
      .ok (f.callback [(Register.ofCell c).argument] {}).result := by
  rw [eval_call, Term.userResult, List.map_singleton, h]

/-- It fails with what it reports. -/
theorem Quest.eval_call_of_failed {code : Code} {text : ByteArray}
    (h : (f.callback [(Register.ofCell c).argument] {}).failure? = some (code, text)) :
    (Quest.call f).term.eval { params := [c] } =
      .error { code, message := some (Utf8.decodeLossy text) } := by
  rw [eval_call, Term.userResult, List.map_singleton, h]

end

namespace Sql.Machine

/-- The cell of a parameter. -/
def parameter (m : Machine) (p : PreparedHandle) (i : Int32) : Option Cell :=
  if i < 1 then none
  else (m.statements.get? p.number).bind fun x => x.bindings[i.toInt.toNat - 1]?

/-- A statement for the value of a term waits for its first step. -/
def Awaits (m : Machine) (p : PreparedHandle) (t : Term) : Prop :=
  ∃ y c, m.statements.get? p.number = some y ∧ y.Waits t c ∧ c.isTooBig = false

/-- A value of the present row is in a fresh register. -/
def Keeps (m : Machine) (p : PreparedHandle) (i : Int32) (c : Cell) : Prop :=
  m.Shows p i (.ofCell c) ∧ c.isTooBig = false

variable {m : Machine} {p q : PreparedHandle} {i j : Int32} {v : NativeValue} {copied : Bool}
  {t : Term} {c x : Cell} {b : ByteArray}

/-- A value that is bound is the cell of its parameter, and nothing else changes. -/
theorem parameter_of_bind (h : (Engine.call (.bind p i v copied) m).1 = Code.ok) :
    (Engine.call (.bind p i v copied) m).2.parameter q j =
      if q = p ∧ j = i then some (.ofNative v) else m.parameter q j := by
  obtain ⟨y, hy, hlow, hhigh, -, hstatements⟩ := Work.bind_eq_ok h
  have hlater : (Engine.call (.bind p i v copied) m).2.statements =
      m.statements.set p.number
        { y with bindings := y.bindings.set (i.toInt.toNat - 1) (.ofNative v) } := hstatements
  have hone : (1 : Int32).toInt = 1 := by decide
  rw [parameter, parameter, hlater]
  by_cases hq : q = p
  · obtain rfl := hq
    rw [Table.get?_set_self, hy]
    dsimp only [Option.bind_some]
    by_cases hj : j = i
    · obtain rfl := hj
      rw [if_neg hlow, if_pos ⟨rfl, rfl⟩]
      rw [Int32.lt_iff_toInt_lt, hone] at hlow
      exact List.getElem?_set_self (by omega)
    · rw [if_neg (fun hand : q = q ∧ j = i => hj hand.2)]
      by_cases hjlow : j < 1
      · rw [if_pos hjlow, if_pos hjlow]
      · rw [if_neg hjlow, if_neg hjlow]
        rw [Int32.lt_iff_toInt_lt, hone] at hlow hjlow
        have hother : i.toInt.toNat - 1 ≠ j.toInt.toNat - 1 := fun heq =>
          hj (Int32.toInt_inj.mp (by omega))
        exact List.getElem?_set_ne hother
  · have hnumber : q.number ≠ p.number := fun heq =>
      hq (by cases p; cases q; exact congrArg PreparedHandle.mk heq)
    rw [if_neg (fun hand : q = p ∧ j = i => hq hand.1), Table.get?_set_of_ne _ _ hnumber]

namespace Awaits

/-- The value that it waits with is its parameter. -/
theorem waits (h : m.Awaits p t) (hc : m.parameter p 1 = some c) :
    ∃ y, m.statements.get? p.number = some y ∧ y.Waits t c ∧ c.isTooBig = false := by
  obtain ⟨y, c', hy, hwaits, hsize⟩ := h
  have hparameter : m.parameter p 1 = some c' := by
    rw [parameter, if_neg (by decide), hy]
    show y.bindings[0]? = _
    rw [hwaits.bindings]
    rfl
  obtain rfl : c' = c := Option.some.inj (hparameter.symm.trans hc)
  exact ⟨y, hy, hwaits, hsize⟩

/-- Binding its parameter leaves it waiting. -/
theorem bind (h : m.Awaits p t) (hok : (Engine.call (.bind p i v copied) m).1 = Code.ok) :
    (Engine.call (.bind p i v copied) m).2.Awaits p t := by
  obtain ⟨y, c, hy, hwaits, -⟩ := h
  obtain ⟨y', hy', hlow, hhigh, hsize, hstatements⟩ := Work.bind_eq_ok hok
  obtain rfl : y = y' := Option.some.inj (hy.symm.trans hy')
  have hfirst : i.toInt.toNat - 1 = 0 := by
    rw [hwaits.bindings, List.length_singleton] at hhigh
    omega
  rw [hfirst] at hstatements
  refine ⟨_, _, ?_, hwaits.rebind (.ofNative v), hsize⟩
  show (Work.bind p.number i v m).2.statements.get? p.number = _
  rw [hstatements]
  exact Table.get?_set_self _ _ _

/-- Its first step gives a row with the value of its term. -/
theorem step (h : m.Awaits p t) (hc : m.parameter p 1 = some c)
    (ht : t.eval { params := [c] } = .ok x) :
    (Engine.call (.step p) m).1 = Code.row ∧
      (Engine.call (.step p) m).2.Shows p 0 (.ofCell x) := by
  obtain ⟨y, hy, hwaits, -⟩ := h.waits hc
  obtain ⟨m', y', hstep, hy', hrow⟩ := Work.step_waiting hy hwaits ht
  have hcall : Engine.call (.step p) m = (Code.row, m') := hstep
  rw [hcall]
  exact ⟨rfl, Int32.lt_irrefl, y', _, hy', hrow, rfl⟩

/-- So the step of a call comes to what the function leaves, unless it does not fit. -/
theorem stepCall {f : ScalarFunction} {w : Value} (h : m.Awaits p (Quest.call f).term)
    (hc : m.parameter p 1 = some c) (hf : f [(Register.ofCell c).argument.value] = .returned w) :
    let answer := Engine.call (.step p) m
    let left := f.callback [(Register.ofCell c).argument] {}
    answer.1 ≠ Code.done ∧
      (answer.1 = Code.row → left.failure? = none ∧ answer.2.Keeps p 0 left.result) := by
  intro answer left
  have hleft : left = CallContext.setResult {} w := by
    show CallContext.report {} (f [(Register.ofCell c).argument.value]) = _
    rw [hf]
    rfl
  cases hsize : (Cell.ofValue w).isTooBig with
  | false =>
    have hfits : left = { result := .ofValue w } := by
      rw [hleft, CallContext.setResult, hsize]
      rfl
    have hpassed : left.failure? = none := by
      rw [hfits]
      rfl
    obtain ⟨hrow, hshows⟩ := h.step hc (Quest.eval_call_of_passed hpassed)
    have hresult : (f.callback [(Register.ofCell c).argument] {}).result = .ofValue w :=
      congrArg CallContext.result hfits
    rw [hresult] at hshows
    have hplain : Code.row ≠ Code.done := by decide
    rw [hfits]
    exact ⟨ne_of_eq_of_ne hrow hplain, fun _ => ⟨rfl, hshows, hsize⟩⟩
  | true =>
    have hrefused : left =
        { result := .text Code.tooBig.description.toUTF8, pending := Code.tooBig } := by
      rw [hleft, CallContext.setResult, hsize]
      rfl
    have hfailed : left.failure? =
        some (Code.tooBig, Utf8.beforeNul Code.tooBig.description.toUTF8) := by
      rw [hrefused]
      rfl
    obtain ⟨y, hy, hwaits, -⟩ := h.waits hc
    obtain ⟨m', hstep, -⟩ := Work.step_waiting_failed hy hwaits (Quest.eval_call_of_failed hfailed)
      (by decide) (by decide)
    have hanswer : answer.1 = Code.primary Code.tooBig := congrArg Prod.fst hstep
    have hdone : Code.primary Code.tooBig ≠ Code.done := by decide
    have hrow : Code.primary Code.tooBig ≠ Code.row := by decide
    exact ⟨ne_of_eq_of_ne hanswer hdone, fun h => absurd (hanswer.symm.trans h) hrow⟩

end Awaits

/-- A text that is read as a query for the value of an expression compiles to its statement. -/
theorem prepare_awaits {c : ConnectionHandle} {query : String} {e : Expr}
    (hquery : IsQueryFor query e)
    (ht : (Work.catalog c.number m).1.bare.resolve e [] = .ok (t, [])) :
    ∃ m' y, Engine.call (.prepare c query) m = ((Code.ok, some ⟨m.nextNumber⟩), m') ∧
      m'.statements.get? m.nextNumber = some y ∧ y.connection = c.number ∧
      (m'.connections.get? c.number).isSome =
        (m.connections.get? c.number).isSome ∧ y.Waits t .null := by
  obtain ⟨text, names, k, hparse⟩ := hquery
  exact Work.prepare_selecting hparse ht

/-- A call means the function that was just registered. -/
theorem resolve_of_registered {connection : ConnectionHandle} {f : ScalarFunction}
    {deterministic : Bool} {data : UserData} {destructor : Option Destructor}
    (h : (Engine.call (.createFunction connection "f" 1 deterministic (.ofScalar f) data destructor)
      m).1 = Code.ok) :
    let m' := (Engine.call
      (.createFunction connection "f" 1 deterministic (.ofScalar f) data destructor) m).2
    (Work.catalog connection.number m').1.bare.resolve callOfParameter [] =
        .ok ((Quest.call f).term, []) ∧
      (m'.connections.get? connection.number).isSome = true := by
  have hok : (Work.createFunction connection.number "f" 1 (.ofScalar f) m).1 = Code.ok := h
  obtain ⟨others, hothers⟩ := Work.createFunction_newest hok
  have hname : sameName "f" "f" = true := by decide +kernel
  have hcallee := Catalog.callee_of_newest (n := 1) hothers hname rfl
  exact ⟨Context.resolve_call hcallee rfl, Work.isSome_of_functions hothers⟩

namespace Keeps

/-- A call that reads a fresh register. -/
theorem readColumn {α : Type} (h : m.Keeps p i c) (f : Register → α × Register) :
    (Work.readColumn p.number i f m).1 = (f (.ofCell c)).1 ∧
      (Work.readColumn p.number i f m).2.Shows p i (f (.ofCell c)).2 :=
  h.1.readColumn f

/-- The bytes of a text or a blob that was not read yet. -/
theorem columnBlob (h : m.Keeps p i c) (hc : c = .text b ∨ c = .blob b) :
    let buffer := Engine.call (.columnBlob p i) m
    heldBytes buffer.1 (Engine.call (.columnBytes p i) buffer.2).1 = b := by
  intro buffer
  obtain ⟨hbuffer, hshows⟩ := h.readColumn Register.blob
  obtain ⟨hcount, -⟩ := hshows.readColumn fun r =>
    (Int32.ofNat (r.byteCount false).1, (r.byteCount false).2)
  obtain ⟨hheld, hsize⟩ := Register.blob_ofCell hc
  have hbuffer' : buffer.1 = if b.isEmpty then none else some b := hbuffer.trans hheld
  have hcount' : (Engine.call (.columnBytes p i) buffer.2).1 = Int32.ofNat b.size :=
    hcount.trans (congrArg Int32.ofNat hsize)
  have hfits : b.size ≤ Cell.maxBytes := by
    rcases hc with rfl | rfl
    · exact Cell.size_le h.2
    · exact Cell.size_le h.2
  rw [hbuffer', hcount', heldBytes_of_isEmpty hfits]

end Keeps

/-- The engine keeps and gives values as it is assumed of all engines. -/
def carriage : Carriage Machine where
  parameter := parameter
  Asks m p quest := m.Awaits p quest.term
  Shows := Keeps
  bound := parameter_of_bind
  bind := Awaits.bind
  prepare {m c} := by
    intro answer _
    obtain ⟨m', y, hrun, hy, -, -, hwaits⟩ :=
      prepare_awaits (m := m) (c := c) isQueryFor_parameter rfl
    have hanswer : answer = _ := hrun
    rw [hanswer]
    exact ⟨_, rfl, y, _, hy, hwaits, rfl⟩
  prepareCall {m c f deterministic data destructor} := by
    intro registered answer hok _
    obtain ⟨hresolve, -⟩ := resolve_of_registered hok
    obtain ⟨m', y, hrun, hy, -, -, hwaits⟩ := prepare_awaits isQueryFor_call hresolve
    have hanswer : answer = _ := hrun
    rw [hanswer]
    exact ⟨_, rfl, y, _, hy, hwaits, rfl⟩
  columnCount {m p quest} h := by
    refine ⟨?_, h⟩
    obtain ⟨y, c, hy, hwaits, -⟩ := h
    show ((m.statements.get? p.number).map _).getD 0 = _
    rw [hy]
    exact congrArg Int32.ofNat hwaits.selects.columns
  columnName h := h
  step {m p c} := by
    intro answer hasks hc
    obtain ⟨-, -, -, hsize⟩ := hasks.waits hc
    obtain ⟨hrow, hshows⟩ := hasks.step hc rfl
    have hplain : Code.row ≠ Code.done := by decide
    exact ⟨ne_of_eq_of_ne hrow hplain, fun _ => ⟨hshows, hsize⟩⟩
  stepCall {m p f c} := by
    intro answer hasks hc
    obtain ⟨-, -, -, hsize⟩ := hasks.waits hc
    exact ⟨_, Register.argument_presents hsize, fun v hv => hasks.stepCall hc hv⟩
  columnType {m p i c} h := by
    obtain ⟨hreply, hshows⟩ := h.readColumn fun r => (r.columnType.raw, r)
    have hanswer : (Engine.call (.columnType p i) m).1 = (Register.ofCell c).columnType.raw := hreply
    rw [hanswer, ColumnType.ofRaw_raw, Register.columnType_ofCell]
    exact ⟨rfl, hshows, h.2⟩
  columnInt h := (h.readColumn fun r => (r.int64.toInt32, r)).1
  columnInt64 h := (h.readColumn fun r => (r.int64, r)).1
  columnDouble h := (h.readColumn fun r => (r.double, r)).1
  columnText {m p i b} h := by
    obtain ⟨hbuffer, hshows⟩ := h.readColumn Register.text
    obtain ⟨hcount, -⟩ := hshows.readColumn fun r =>
      (Int32.ofNat (r.byteCount false).1, (r.byteCount false).2)
    exact (congrArg₂ heldBytes hbuffer hcount).trans (heldBytes_size (Cell.size_le h.2))
  columnBlob h := h.elim (·.columnBlob (.inl rfl)) (·.columnBlob (.inr rfl))

end Sql.Machine

end GuardedSql
