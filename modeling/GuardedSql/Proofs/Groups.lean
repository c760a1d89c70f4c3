import GuardedSql.Callback
import Mathlib.Logic.Function.Basic

/-!
# Groups of an aggregate

The engine calls back for the rows of many groups in any order, and at the end once for each group.
It may have no memory for the slot of a group, and the closures of the aggregate may panic in any of
these calls; what they do may depend on what they did before. A callback with the calls of closures
that it made is `Served`; what is served to one group is a `Lifecycle`, whatever is served to others
between.
-/

namespace GuardedSql

variable {W S : Type}

/-! ### What closures are asked -/

/-- A call of a closure of an aggregate, with its answer. -/
inductive Asked (S : Type) where
  /-- For a fresh state; none if making it panicked. -/
  | init (made : Option S)
  /-- To take a row into a state. -/
  | step (state : S) (args : List Value) (after : S) (outcome : Outcome Unit)
  /-- For the result, of a state or of none. -/
  | finish (state : Option S) (outcome : Outcome Value)

namespace Asked

/-- The closure of an aggregate gave this answer. -/
def By (a : Aggregate (StateM W) S) : Asked S → Prop
  | init made => ∃ w, (a.init w).1 = made
  | step state args after outcome => ∃ w, (a.step state args w).1 = (after, outcome)
  | finish state outcome => ∃ w, (a.finish state w).1 = outcome

/-- The closure did not come back. -/
def Panicked : Asked S → Prop
  | init made => made = none
  | step _ _ _ outcome => outcome = .panicked
  | finish _ outcome => outcome = .panicked

/-- A state was made. -/
def creates : Asked S → Bool
  | init (some _) => true
  | _ => false

/-- A state was given away. -/
def consumes : Asked S → Bool
  | finish (some _) _ => true
  | _ => false

end Asked

namespace Aggregate

/-- The closures with a note of each call. -/
def noting (a : Aggregate (StateM W) S) : Aggregate (StateM (W × List (Asked S))) S where
  init := fun (w, asked) =>
    let (made, w) := a.init w
    (made, (w, asked ++ [.init made]))
  step state args := fun (w, asked) =>
    let ((after, outcome), w) := a.step state args w
    ((after, outcome), (w, asked ++ [.step state args after outcome]))
  finish state := fun (w, asked) =>
    let (outcome, w) := a.finish state w
    (outcome, (w, asked ++ [.finish state outcome]))

end Aggregate

/-! ### Callbacks -/

/-- A callback that the engine makes, with the context that it gives. -/
inductive GroupCall where
  /-- For a row of a group, with or without memory for its slot. -/
  | step (group : Nat) (memory : Bool) (args : List Argument) (context : CallContext)
  /-- For the end of a group. -/
  | finish (group : Nat) (context : CallContext)

/-- The group of a callback. -/
def GroupCall.group : GroupCall → Nat
  | step group _ _ _ => group
  | finish group _ => group

/-- A callback with what came of it. -/
structure Served (S : Type) where
  /-- The callback. -/
  call : GroupCall
  /-- The calls of closures that it made, the oldest first. -/
  asked : List (Asked S)
  /-- The context that it left. -/
  context : CallContext

/-- The slots of the groups, as the engine keeps them. -/
abbrev Slots (S : Type) := Nat → Option S

namespace Aggregate

section

variable {m : Type → Type} [Monad m]

/-- Makes a callback with the slot of its group. A slot in which there is a state needs no more
memory. -/
def call (a : Aggregate m S) (slot : Option S) : GroupCall → m (Option S × CallContext)
  | .step _ memory args c =>
    a.stepCallback (if memory || slot.isSome then some slot else none) args c
  | .finish _ c => a.finishCallback slot c

/-- Makes callbacks, one after the other; the contexts that they leave. -/
def callAll (a : Aggregate m S) (slots : Slots S) : List GroupCall → m (Slots S × List CallContext)
  | [] => return (slots, [])
  | b :: rest => do
    let (slot, context) ← a.call (slots b.group) b
    let (slots, contexts) ← a.callAll (Function.update slots b.group slot) rest
    return (slots, context :: contexts)

end

/-- Makes a callback, and tells what came of it. -/
def serve (a : Aggregate (StateM W) S) (slots : Slots S) (b : GroupCall) :
    StateM W (Slots S × Served S) := fun w =>
  let ((slot, context), (w, asked)) := a.noting.call (slots b.group) b (w, [])
  ((Function.update slots b.group slot, ⟨b, asked, context⟩), w)

/-- Makes callbacks, one after the other, and tells what came of them. -/
def serveAll (a : Aggregate (StateM W) S) (slots : Slots S) :
    List GroupCall → StateM W (Slots S × List (Served S))
  | [] => return (slots, [])
  | b :: rest => do
    let (slots, e) ← a.serve slots b
    let (slots, served) ← a.serveAll slots rest
    return (slots, e :: served)

end Aggregate

/-! ### One callback -/

/-- What a callback may make of the slot of its group: the closures that it asks, their answers, and
what it reports. -/
inductive Served.Leads (a : Aggregate (StateM W) S) : Option S → Served S → Option S → Prop where
  /-- There is no memory for a slot, and no closure is asked. -/
  | starved {group : Nat} {args : List Argument} {c : CallContext} :
      Leads a none ⟨.step group false args c, [], c.setNoMemory⟩ none
  /-- No state can be made. -/
  | unborn {group : Nat} {args : List Argument} {c : CallContext} (hinit : (Asked.init none).By a) :
      Leads a none ⟨.step group true args c, [.init none], c.setError panicMessage⟩ none
  /-- A state is made, and takes the row. -/
  | born {group : Nat} {args : List Argument} {c : CallContext} {s after : S}
      {outcome : Outcome Unit} (hinit : (Asked.init (some s)).By a)
      (hstep : (Asked.step s (args.map Argument.value) after outcome).By a) :
      Leads a none
        ⟨.step group true args c, [.init (some s), .step s (args.map Argument.value) after outcome],
          c.reportStep outcome⟩
        (some after)
  /-- The state that there is takes the row. -/
  | fed {group : Nat} {memory : Bool} {args : List Argument} {c : CallContext} {s after : S}
      {outcome : Outcome Unit} (hstep : (Asked.step s (args.map Argument.value) after outcome).By a) :
      Leads a (some s)
        ⟨.step group memory args c, [.step s (args.map Argument.value) after outcome],
          c.reportStep outcome⟩
        (some after)
  /-- What there is is given away. -/
  | finished {group : Nat} {c : CallContext} {slot : Option S} {outcome : Outcome Value}
      (hfinish : (Asked.finish slot outcome).By a) :
      Leads a slot ⟨.finish group c, [.finish slot outcome], c.report outcome⟩ none

namespace Served.Leads

variable {a : Aggregate (StateM W) S} {slot slot' : Option S} {e : Served S}

/-- All answers are those of the closures. -/
theorem by_closure (h : e.Leads a slot slot') : ∀ x ∈ e.asked, x.By a := by
  cases h with
  | starved => simp
  | unborn hinit => simpa using hinit
  | born hinit hstep => simpa using ⟨hinit, hstep⟩
  | fed hstep => simpa using hstep
  | finished hfinish => simpa using hfinish

/-- A panic is a failure of the function. -/
theorem failure?_of_panicked (h : e.Leads a slot slot') (hp : ∃ x ∈ e.asked, x.Panicked) :
    e.context.failure? = some (Code.error, panicMessage.toUTF8) := by
  have hnul : Utf8.beforeNul panicMessage.toUTF8 = panicMessage.toUTF8 := by decide +kernel
  have hreport : ∀ c : CallContext,
      (c.setError panicMessage).failure? = some (Code.error, panicMessage.toUTF8) := fun c =>
    congrArg (fun text => some (Code.error, text)) hnul
  obtain ⟨x, hx, hpanicked⟩ := hp
  cases h with
  | starved => cases hx
  | @unborn _ _ c => exact hreport c
  | @born _ _ c =>
    rcases List.mem_cons.mp hx with rfl | hx
    · cases hpanicked
    · cases List.mem_singleton.mp hx
      cases hpanicked
      exact hreport c
  | @fed _ _ _ c =>
    cases List.mem_singleton.mp hx
    cases hpanicked
    exact hreport c
  | @finished _ c =>
    cases List.mem_singleton.mp hx
    cases hpanicked
    exact hreport c

end Served.Leads

namespace Aggregate

variable (a : Aggregate (StateM W) S)

/-- The first step of a group makes its state, and goes on with it. -/
theorem noting_stepCallback_none (args : List Argument) (c : CallContext) (w : W)
    (asked : List (Asked S)) :
    a.noting.stepCallback (some none) args c (w, asked) =
      match a.init w with
      | (none, w') => ((none, c.setError panicMessage), (w', asked ++ [.init none]))
      | (some s, w') =>
        a.noting.stepCallback (some (some s)) args c (w', asked ++ [.init (some s)]) := by
  have hinit : a.noting.init (w, asked) =
      ((a.init w).1, ((a.init w).2, asked ++ [.init (a.init w).1])) := rfl
  simp only [stepCallback, bind, StateT.bind, hinit]
  rcases a.init w with ⟨_ | s, w'⟩ <;> rfl

/-- A group that has a state gets no more memory. -/
theorem call_some (s : S) (group : Nat) (memory : Bool) (args : List Argument) (c : CallContext) :
    a.call (some s) (.step group memory args c) = a.stepCallback (some (some s)) args c := by
  rw [call, Option.isSome_some, Bool.or_true, if_pos rfl]

/-- A callback leads on from the slot of its group. -/
theorem noting_call_leads (slot : Option S) (b : GroupCall) (w : W) :
    let r := a.noting.call slot b (w, [])
    (Served.mk b r.2.2 r.1.2).Leads a slot r.1.1 := by
  cases b with
  | finish group c => exact .finished ⟨w, rfl⟩
  | step group memory args c =>
    cases slot with
    | some s =>
      rw [call_some]
      exact .fed ⟨w, rfl⟩
    | none =>
      cases memory with
      | false => exact .starved
      | true =>
        rw [call, Bool.true_or, if_pos rfl, noting_stepCallback_none]
        rcases hinit : a.init w with ⟨_ | s, w'⟩
        · exact .unborn ⟨w, by rw [hinit]⟩
        · exact .born ⟨w, by rw [hinit]⟩ ⟨w', rfl⟩

/-- Noting the calls changes nothing else. -/
theorem noting_call_plain (slot : Option S) (b : GroupCall) (w : W) (asked : List (Asked S)) :
    ((a.noting.call slot b (w, asked)).1, (a.noting.call slot b (w, asked)).2.1) =
      a.call slot b w := by
  cases b with
  | finish group c => rfl
  | step group memory args c =>
    cases slot with
    | some s =>
      rw [call_some, call_some]
      rfl
    | none =>
      cases memory with
      | false => rfl
      | true =>
        rw [call, Bool.true_or, if_pos rfl, noting_stepCallback_none, call, Bool.true_or, if_pos rfl,
          stepCallback]
        simp only [bind, StateT.bind]
        rcases a.init w with ⟨_ | s, w'⟩ <;> rfl

end Aggregate

/-! ### Callbacks in any order -/

/-- Callbacks for one group, each of which leads on from where the one before led to. -/
inductive Served.Chain (a : Aggregate (StateM W) S) : Option S → List (Served S) → Option S → Prop where
  /-- There is none. -/
  | nil {slot : Option S} : Chain a slot [] slot
  /-- There is one before others. -/
  | cons {slot slot' slot'' : Option S} {e : Served S} {rest : List (Served S)}
      (hlead : e.Leads a slot slot') (hrest : Chain a slot' rest slot'') :
      Chain a slot (e :: rest) slot''

namespace Aggregate

variable (a : Aggregate (StateM W) S)

/-- One callback and the rest. -/
theorem serveAll_cons (slots : Slots S) (b : GroupCall) (rest : List GroupCall) (w : W) :
    a.serveAll slots (b :: rest) w =
      let r := a.noting.call (slots b.group) b (w, [])
      let r' := a.serveAll (Function.update slots b.group r.1.1) rest r.2.1
      ((r'.1.1, ⟨b, r.2.2, r.1.2⟩ :: r'.1.2), r'.2) := rfl

/-- Each callback is served. -/
theorem map_call_serveAll (slots : Slots S) (calls : List GroupCall) (w : W) :
    (a.serveAll slots calls w).1.2.map (·.call) = calls := by
  induction calls generalizing slots w with
  | nil => rfl
  | cons b rest ih =>
    rw [serveAll_cons]
    exact congrArg (b :: ·) (ih _ _)

/-- Telling what came of the callbacks changes nothing. -/
theorem serveAll_plain (slots : Slots S) (calls : List GroupCall) (w : W) :
    a.callAll slots calls w =
      let r := a.serveAll slots calls w
      ((r.1.1, r.1.2.map (·.context)), r.2) := by
  induction calls generalizing slots w with
  | nil => rfl
  | cons b rest ih =>
    have hplain := a.noting_call_plain (slots b.group) b w []
    rw [serveAll_cons, callAll]
    simp only [bind, StateT.bind, ← hplain, ih]
    rfl

/-- Whatever is done for other groups, the callbacks for one are a chain. -/
theorem serveAll_chain (slots : Slots S) (calls : List GroupCall) (w : W) (group : Nat) :
    let r := a.serveAll slots calls w
    Served.Chain a (slots group) (r.1.2.filter (·.call.group = group)) (r.1.1 group) := by
  induction calls generalizing slots w with
  | nil => exact .nil
  | cons b rest ih =>
    rw [serveAll_cons]
    have hlead := a.noting_call_leads (slots b.group) b w
    have hrest := ih (Function.update slots b.group (a.noting.call (slots b.group) b (w, [])).1.1)
      (a.noting.call (slots b.group) b (w, [])).2.1
    dsimp only at hlead hrest ⊢
    by_cases hgroup : b.group = group
    · subst hgroup
      rw [Function.update_self] at hrest
      rw [List.filter_cons_of_pos (by simp)]
      exact .cons hlead hrest
    · rw [Function.update_of_ne (Ne.symm hgroup)] at hrest
      rw [List.filter_cons_of_neg (by simpa using hgroup)]
      exact hrest

end Aggregate

/-! ### The life of a state -/

namespace Served

/-- What is served to a group that has a state: its steps, each of which goes on with the state that
the one before left, and then the end, to which the state is given away. -/
inductive Fed : S → List (Served S) → Prop where
  /-- A row. -/
  | step {s after : S} {e : Served S} {rest : List (Served S)} {group : Nat} {memory : Bool}
      {args : List Argument} {c : CallContext} {outcome : Outcome Unit}
      (hcall : e.call = .step group memory args c)
      (hasked : e.asked = [.step s (args.map Argument.value) after outcome])
      (hrest : Fed after rest) : Fed s (e :: rest)
  /-- The end. -/
  | finish {s : S} {e : Served S} {outcome : Outcome Value}
      (hasked : e.asked = [.finish (some s) outcome]) : Fed s [e]

/-- What is served to a group. -/
inductive Lifecycle : List (Served S) → Prop where
  /-- There is no memory for the slot, which is reported, and a later step may try again. -/
  | starved {e : Served S} {rest : List (Served S)} {group : Nat} {args : List Argument}
      {c : CallContext} (hcall : e.call = .step group false args c) (hasked : e.asked = [])
      (hcontext : e.context = c.setNoMemory) (hrest : Lifecycle rest) : Lifecycle (e :: rest)
  /-- Making a state panics, and a later step may try again. -/
  | unborn {e : Served S} {rest : List (Served S)} {group : Nat} {args : List Argument}
      {c : CallContext} (hcall : e.call = .step group true args c) (hasked : e.asked = [.init none])
      (hrest : Lifecycle rest) : Lifecycle (e :: rest)
  /-- A state is made; it takes the row of the step, and then those of the later ones. -/
  | born {s after : S} {e : Served S} {rest : List (Served S)} {group : Nat} {args : List Argument}
      {c : CallContext} {outcome : Outcome Unit} (hcall : e.call = .step group true args c)
      (hasked : e.asked = [.init (some s), .step s (args.map Argument.value) after outcome])
      (hrest : Fed after rest) : Lifecycle (e :: rest)
  /-- The end comes before there is a state. -/
  | empty {e : Served S} {outcome : Outcome Value} (hasked : e.asked = [.finish none outcome]) :
      Lifecycle [e]

/-- No other state is made for a group that has one, and this one is given away once. -/
theorem Fed.counts {s : S} {own : List (Served S)} (h : Fed s own) :
    (own.flatMap (·.asked)).countP Asked.creates = 0 ∧
      (own.flatMap (·.asked)).countP Asked.consumes = 1 := by
  induction h with
  | step hcall hasked hrest ih =>
    rw [List.flatMap_cons, hasked, List.countP_append, List.countP_append, ih.1, ih.2]
    exact ⟨rfl, rfl⟩
  | finish hasked =>
    rw [List.flatMap_singleton, hasked]
    exact ⟨rfl, rfl⟩

/-- One state is made at most, and as many are given away. -/
theorem Lifecycle.counts {own : List (Served S)} (h : Lifecycle own) :
    (own.flatMap (·.asked)).countP Asked.creates =
        (own.flatMap (·.asked)).countP Asked.consumes ∧
      (own.flatMap (·.asked)).countP Asked.creates ≤ 1 := by
  induction h with
  | starved hcall hasked hcontext hrest ih =>
    rw [List.flatMap_cons, hasked, List.nil_append]
    exact ih
  | unborn hcall hasked hrest ih =>
    rw [List.flatMap_cons, hasked, List.countP_append, List.countP_append]
    simpa [Asked.creates, Asked.consumes] using ih
  | born hcall hasked hrest =>
    rw [List.flatMap_cons, hasked, List.countP_append, List.countP_append, hrest.counts.1,
      hrest.counts.2]
    exact ⟨rfl, Nat.le_refl _⟩
  | empty hasked =>
    rw [List.flatMap_singleton, hasked]
    exact ⟨rfl, Nat.zero_le _⟩

namespace Chain

variable {a : Aggregate (StateM W) S} {slot slot' : Option S} {own : List (Served S)} {group : Nat}
  {rows : List (Bool × List Argument × CallContext)} {c : CallContext}

/-- All callbacks of a chain lead from some slot to another. -/
theorem leads (h : Chain a slot own slot') : ∀ e ∈ own, ∃ before after, e.Leads a before after := by
  induction h with
  | nil => simp
  | cons hlead hrest ih =>
    intro e he
    rcases List.mem_cons.mp he with rfl | he
    · exact ⟨_, _, hlead⟩
    · exact ih e he

/-- The end empties the slot. -/
theorem finish (h : Chain a slot own slot') (hcalls : own.map (·.call) = [.finish group c]) :
    ∃ e outcome, own = [e] ∧ e.asked = [.finish slot outcome] ∧ slot' = none := by
  cases h with
  | nil => cases hcalls
  | cons hlead hrest =>
    cases hrest with
    | nil =>
      cases hlead with
      | finished => exact ⟨_, _, rfl, rfl, rfl⟩
      | starved | unborn | born | fed => cases hcalls
    | cons => cases (List.cons.inj hcalls).2

/-- A group that has a state is fed. -/
theorem fed {s : S} (h : Chain a (some s) own slot')
    (hcalls : own.map (·.call) =
      rows.map (fun r => GroupCall.step group r.1 r.2.1 r.2.2) ++ [.finish group c]) :
    Fed s own ∧ slot' = none := by
  induction rows generalizing s own with
  | nil =>
    obtain ⟨e, outcome, rfl, hasked, hslot⟩ := h.finish hcalls
    exact ⟨.finish hasked, hslot⟩
  | cons row rest ih =>
    cases h with
    | nil => cases hcalls
    | cons hlead hrest =>
      obtain ⟨hcall, hcalls'⟩ := List.cons.inj hcalls
      cases hlead with
      | finished => cases hcall
      | fed =>
        obtain ⟨hfed, hslot⟩ := ih hrest hcalls'
        exact ⟨.step rfl rfl hfed, hslot⟩

/-- A group that gets its rows and then its end has a life. -/
theorem lifecycle (h : Chain a none own slot')
    (hcalls : own.map (·.call) =
      rows.map (fun r => GroupCall.step group r.1 r.2.1 r.2.2) ++ [.finish group c]) :
    Lifecycle own ∧ slot' = none := by
  induction rows generalizing own with
  | nil =>
    obtain ⟨e, outcome, rfl, hasked, hslot⟩ := h.finish hcalls
    exact ⟨.empty hasked, hslot⟩
  | cons row rest ih =>
    cases h with
    | nil => cases hcalls
    | cons hlead hrest =>
      obtain ⟨hcall, hcalls'⟩ := List.cons.inj hcalls
      cases hlead with
      | finished => cases hcall
      | starved =>
        obtain ⟨hlife, hslot⟩ := ih hrest hcalls'
        exact ⟨.starved rfl rfl rfl hlife, hslot⟩
      | unborn =>
        obtain ⟨hlife, hslot⟩ := ih hrest hcalls'
        exact ⟨.unborn rfl rfl hlife, hslot⟩
      | born =>
        obtain ⟨hfed, hslot⟩ := hrest.fed hcalls'
        exact ⟨.born rfl rfl hfed, hslot⟩

end Chain

end Served

namespace Aggregate

/-- For all closures, which may panic in any call, and all callbacks in any order, with memory for
their slots or without: what is asked is answered by the closures, and no panic gets out of a
callback, it is a failure of the function. What
is served to a group that gets any number of rows and then its end is a life of one state at most,
which is not that of any other group; nothing is left in the slot, and a state that was made was
given away once. -/
theorem groups_live_once (a : Aggregate (StateM W) S) (calls : List GroupCall) (w : W) :
    let r := a.serveAll (fun _ => none) calls w
    let served := r.1.2
    served.map (·.call) = calls ∧
    a.callAll (fun _ => none) calls w = ((r.1.1, served.map (·.context)), r.2) ∧
    (∀ e ∈ served, (∀ x ∈ e.asked, x.By a) ∧
      ((∃ x ∈ e.asked, x.Panicked) →
        e.context.failure? = some (Code.error, panicMessage.toUTF8))) ∧
    ∀ (group : Nat) (rows : List (Bool × List Argument × CallContext)) (c : CallContext),
      calls.filter (·.group = group) =
        rows.map (fun row => GroupCall.step group row.1 row.2.1 row.2.2) ++ [.finish group c] →
      let own := served.filter (·.call.group = group)
      let asked := own.flatMap (·.asked)
      Served.Lifecycle own ∧ r.1.1 group = none ∧
        asked.countP Asked.creates = asked.countP Asked.consumes ∧
        asked.countP Asked.creates ≤ 1 := by
  intro r served
  have hchain := a.serveAll_chain (fun _ => none) calls w
  have hcalls := a.map_call_serveAll (fun _ => none) calls w
  refine ⟨hcalls, a.serveAll_plain _ calls w, fun e he => ?_, fun group rows c hgroup => ?_⟩
  · obtain ⟨_, _, hlead⟩ := (hchain e.call.group).leads e (List.mem_filter.mpr ⟨he, by simp⟩)
    exact ⟨hlead.by_closure, hlead.failure?_of_panicked⟩
  · have hown : (served.filter (·.call.group = group)).map (·.call) =
        calls.filter (·.group = group) := by
      rw [← hcalls, List.filter_map]
      rfl
    obtain ⟨hlife, hslot⟩ := (hchain group).lifecycle (hown.trans hgroup)
    exact ⟨hlife, hslot, hlife.counts⟩

/-- An aggregate whose closure for a state panics when it is called for the first time, and counts
its calls. -/
def secondTry : Aggregate (StateM Nat) (List Value) where
  init := fun n => (if n = 0 then none else some [], n + 1)
  step state args := return (state ++ args, .returned ())
  finish state := return .returned ((state.bind List.head?).getD .null)

/-- A whole number, as it is read in the ways that an aggregate reads it. -/
def digit (n : Int64) : Argument where
  type := ColumnType.integer.raw
  int64 := n
  double := Float.ofInt n.toInt
  text := some (toString n).toUTF8
  blob := some (toString n).toUTF8
  bytes := 1

/-- The rows of two groups in turns; there is no memory for the first of them. -/
def inTurns : List GroupCall :=
  [.step 0 false [digit 1] {}, .step 0 true [digit 1] {}, .step 1 true [digit 2] {},
    .step 0 true [digit 3] {}, .finish 1 {}, .finish 0 {}]

/-- The first state is that of the second group, and the first group gets one with its third row. -/
theorem groups_live_once_of_inTurns :
    let served := (secondTry.serveAll (fun _ => none) inTurns 0).1.2
    Served.Lifecycle (served.filter (·.call.group = 0)) ∧
      Served.Lifecycle (served.filter (·.call.group = 1)) ∧
      (∃ e ∈ served, e.context.failure? = some (Code.error, panicMessage.toUTF8)) := by
  obtain ⟨-, -, hserved, hgroups⟩ := groups_live_once secondTry inTurns 0
  refine ⟨(hgroups 0 [(false, [digit 1], {}), (true, [digit 1], {}), (true, [digit 3], {})] {} rfl).1,
    (hgroups 1 [(true, [digit 2], {})] {} rfl).1, _, List.mem_cons_of_mem _ List.mem_cons_self, ?_⟩
  exact (hserved _ (List.mem_cons_of_mem _ List.mem_cons_self)).2
    ⟨.init none, List.mem_cons_self, rfl⟩

end Aggregate

end GuardedSql
