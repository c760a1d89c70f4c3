import GuardedSql.Proofs.Runs

/-!
# Fresh statements

Whether an engine makes a statement as good as new when it is rewound and its parameters are cleared
is not for the library to say. What can be said is what that means: nothing that is done from then on
tells the statement from a fresh one.
-/

namespace GuardedSql

variable {σ : Type} [Engine σ]

/-! ### Statements of an engine -/

/-- An engine together with a statement of it. -/
structure Held (σ : Type) where
  /-- The engine. -/
  engine : σ
  /-- The statement. -/
  handle : PreparedHandle

namespace Held

/-- The answer to a call. -/
def reply (x : Held σ) (call : Call) : call.Reply := (Engine.call call x.engine).1

/-- The engine after a call. -/
def after (x : Held σ) (call : Call) : Held σ := { x with engine := (Engine.call call x.engine).2 }

end Held

/-- A way to take a fresh statement, all parameters of which are NULL, from an engine. -/
abbrev Supply (σ : Type) := σ → PreparedHandle × σ

/-- The fresh statement. -/
def Supply.fresh (take : Supply σ) (e : σ) : Held σ := ⟨(take e).2, (take e).1⟩

/-- A relation that is kept when parameters are set, the statements are stepped, their connection is
kept up and fresh ones are taken, and all answers are the same. -/
structure Simulates (c : ConnectionHandle) (take : Supply σ) (L : Held σ → Held σ → Prop) :
    Prop where
  bind : ∀ {x y}, L x y → ∀ i value copied,
    x.reply (.bind x.handle i value copied) = y.reply (.bind y.handle i value copied) ∧
      L (x.after (.bind x.handle i value copied)) (y.after (.bind y.handle i value copied))
  step : ∀ {x y}, L x y → x.reply (.step x.handle) = y.reply (.step y.handle) ∧
    L (x.after (.step x.handle)) (y.after (.step y.handle))
  ask : ∀ {x y}, L x y → ∀ call, call.upkeep? = some c → x.reply call = y.reply call ∧
    L (x.after call) (y.after call)
  fresh : ∀ {x y}, L x y → L (take.fresh x.engine) (take.fresh y.engine)

/-- Statements that cannot be told apart. -/
def Alike (c : ConnectionHandle) (take : Supply σ) (x y : Held σ) : Prop :=
  ∃ L, Simulates c take L ∧ L x y

namespace Alike

variable {c : ConnectionHandle} {take : Supply σ} {x y z : Held σ}

theorem refl (x : Held σ) : Alike c take x x := by
  refine ⟨Eq, ⟨?_, ?_, ?_, ?_⟩, rfl⟩
  · rintro x _ rfl i value copied
    exact ⟨rfl, rfl⟩
  · rintro x _ rfl
    exact ⟨rfl, rfl⟩
  · rintro x _ rfl call -
    exact ⟨rfl, rfl⟩
  · rintro x _ rfl
    rfl

theorem trans (h : Alike c take x y) (h' : Alike c take y z) : Alike c take x z := by
  obtain ⟨L, hL, hxy⟩ := h
  obtain ⟨L', hL', hyz⟩ := h'
  refine ⟨fun x z => ∃ y, L x y ∧ L' y z, ⟨?_, ?_, ?_, ?_⟩, y, hxy, hyz⟩
  · rintro x z ⟨y, hxy, hyz⟩ i value copied
    obtain ⟨hreply, hafter⟩ := hL.bind hxy i value copied
    obtain ⟨hreply', hafter'⟩ := hL'.bind hyz i value copied
    exact ⟨hreply.trans hreply', _, hafter, hafter'⟩
  · rintro x z ⟨y, hxy, hyz⟩
    obtain ⟨hreply, hafter⟩ := hL.step hxy
    obtain ⟨hreply', hafter'⟩ := hL'.step hyz
    exact ⟨hreply.trans hreply', _, hafter, hafter'⟩
  · rintro x z ⟨y, hxy, hyz⟩ call hcall
    obtain ⟨hreply, hafter⟩ := hL.ask hxy call hcall
    obtain ⟨hreply', hafter'⟩ := hL'.ask hyz call hcall
    exact ⟨hreply.trans hreply', _, hafter, hafter'⟩
  · rintro x z ⟨y, hxy, hyz⟩
    exact ⟨_, hL.fresh hxy, hL'.fresh hyz⟩

/-- What cannot be told apart at all is such a relation. -/
theorem simulates (c : ConnectionHandle) (take : Supply σ) : Simulates c take (Alike c take) where
  bind := fun ⟨L, hL, h⟩ i value copied => (hL.bind h i value copied).imp_right fun h => ⟨L, hL, h⟩
  step := fun ⟨L, hL, h⟩ => (hL.step h).imp_right fun h => ⟨L, hL, h⟩
  ask := fun ⟨L, hL, h⟩ call hcall => (hL.ask h call hcall).imp_right fun h => ⟨L, hL, h⟩
  fresh := fun ⟨L, hL, h⟩ => ⟨L, hL, hL.fresh h⟩

end Alike

/-! ### Renewal -/

/-- An engine comes out of another one by calls of a kind. -/
def Reaches (P : Call → Prop) (e e' : σ) : Prop := ∀ I : σ → Prop, KeptBy P I → I e → I e'

namespace Reaches

variable {P : Call → Prop} {e e' e'' : σ}

theorem refl (e : σ) : Reaches P e e := fun _ _ h => h

theorem trans (h : Reaches P e e') (h' : Reaches P e' e'') : Reaches P e e'' :=
  fun I hI he => h' I hI (h I hI he)

/-- One call of the kind is enough. -/
theorem call {call : Call} (h : P call) (e : σ) : Reaches P e (Engine.call call e).2 :=
  fun _ hI he => hI call e h he

theorem mono {P' : Call → Prop} (h : Reaches P e e') (hP : ∀ call, P call → P' call) :
    Reaches P' e e' := fun I hI he => h I (fun call e hcall => hI call e (hP call hcall)) he

end Reaches

/-- What has answered calls of a kind was reached by them. -/
theorem Answers.reaches {P : Call → Prop} {e e' : σ} {d : History} (h : Answers e d e')
    (hP : ∀ x ∈ d, P x.call) : Reaches P e e' := fun _ hI he => h.keeps hI hP he

/-- The calls that ask for the columns of a statement. -/
def Call.describes (p : PreparedHandle) (call : Call) : Prop :=
  call.isInquiry = true ∧ call.prepared? = some p

/-- The calls that a statement may be used with. -/
def Call.drives (c : ConnectionHandle) (p : PreparedHandle) (call : Call) : Prop :=
  call.upkeep? = some c ∨ call.prepared? = some p ∧ call.isFinalize = false

theorem Call.drives_of_describes {c : ConnectionHandle} {p : PreparedHandle} {call : Call}
    (h : call.describes p) : call.drives c p := by
  exact .inr ⟨h.2, (Call.still_of_isInquiry h.1).2.2⟩

/-- A statement can be rewound and its parameters can be cleared, and then it is as good as a fresh
one. -/
structure Held.Renews (c : ConnectionHandle) (take : Supply σ) (x : Held σ) : Prop where
  reset : x.reply (.reset x.handle) = Code.ok
  clear : (x.after (.reset x.handle)).reply (.clearBindings x.handle) = Code.ok
  alike : Alike c take ((x.after (.reset x.handle)).after (.clearBindings x.handle))
    (take.fresh x.engine)

/-- That is so of a statement that was just prepared, and whenever a step has found the end. -/
structure Renewable (c : ConnectionHandle) (take : Supply σ) (x : Held σ) : Prop where
  /-- Its columns were asked for at most. -/
  fresh : ∀ e, Reaches (Call.describes x.handle) x.engine e → Held.Renews c take ⟨e, x.handle⟩
  /-- The changed rows are counted then. -/
  finished : ∀ e, Reaches (Call.drives c x.handle) x.engine e →
    Held.reply ⟨e, x.handle⟩ (.step x.handle) = Code.done →
      Held.Renews c take ((Held.after ⟨e, x.handle⟩ (.step x.handle)).after (.changes c))

end GuardedSql
