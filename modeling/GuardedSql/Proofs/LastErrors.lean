import GuardedSql.Proofs.Inquiry
import GuardedSql.Proofs.Preparation

/-!
# The last error of a connection

An engine keeps for each connection what it says of its last failure, in words and as an extended
code. What is assumed of it is that a failing call puts its own failure there. The code of an error
comes from the call, its message and its extended code from the connection: `Fine` says that they are
of one failure, and that the library still knows of each statement on which connection it is.
-/

namespace GuardedSql

/-- Whether a call leaves the last errors of connections alone: one that asks for them, or that has
nothing to do with connections because it makes a box on the heap. -/
def Call.sparesErrors : Call → Bool
  | .errorCode _ | .errorMessage _ | .extendedErrorCode _ | .makeBox _ => true
  | _ => false

/-- Whether a failing call leaves the last error as it was: the refusal of a function for its
arguments is not noted down by the engine. -/
def Exchange.isUnnoted : Exchange → Bool
  | ⟨.createFunction .., code⟩ => code = Code.misuse
  | _ => false

/-- Only a call that hands a box over can be one of those. -/
theorem Exchange.isUnnoted_of_apart {x : Exchange} (h : x.call.handlesBox = false) :
    x.isUnnoted = false := by
  obtain ⟨call, reply⟩ := x
  cases call with
  | createFunction c name arity deterministic callbacks data destructor => cases h
  | _ => rfl

/-- The last errors of the connections of an engine, and the connections of its statements. -/
structure LastErrors (σ : Type) [Engine σ] where
  /-- What a connection says of its last error. -/
  message : σ → ConnectionHandle → NativeText
  /-- The extended code of its last error. -/
  extended : σ → ConnectionHandle → Code
  /-- The connection of a statement that was prepared and not released. -/
  home : σ → PreparedHandle → Option ConnectionHandle
  /-- The last error is what the engine reports. -/
  told : ∀ e c, (Engine.call (.errorMessage c) e).1 = message e c ∧
    (Engine.call (.extendedErrorCode c) e).1 = extended e c ∧
    (Engine.call (.errorCode c) e).1 = (extended e c).primary
  /-- Reporting it leaves it as it is, and so does the heap. -/
  spared : ∀ {e e' call reply}, Engine.call call e = (reply, e') → call.sparesErrors = true →
    ∀ c, message e' c = message e c ∧ extended e' c = extended e c
  /-- A failing call fails with a primary code, and its failure is the last error of its connection,
  or of that of its statement. -/
  noted : ∀ {e e' call reply code c}, Engine.call call e = (reply, e') →
    (Exchange.mk call reply).failure? = some code → (Exchange.mk call reply).isUnnoted = false →
    (Exchange.mk call reply).connection? = some c ∨
      (∃ p, call.prepared? = some p ∧ home e p = some c) →
    (extended e' c).primary = code
  /-- The refusal of a function is not noted. -/
  unnoted : ∀ {e e' c name arity deterministic callbacks data destructor},
    Engine.call (.createFunction c name arity deterministic callbacks data destructor) e =
      (Code.misuse, e') →
    message e' c = message e c ∧ extended e' c = extended e c
  /-- Neither is a failure to load an extension. -/
  unloaded : ∀ {e e' c path entry code detail},
    Engine.call (.loadExtension c path entry) e = ((code, detail), e') → code ≠ Code.ok →
    message e' c = message e c ∧ extended e' c = extended e c
  /-- A statement is of the connection that it was prepared on. Its name was free. -/
  prepared : ∀ {e e' c sql p}, Engine.call (.prepare c sql) e = ((Code.ok, some p), e') →
    home e p = none ∧ home e' p = some c
  /-- It stays there until it is released, and no call changes the connection of another one. -/
  kept : ∀ {e e' call reply p c}, Engine.call call e = (reply, e') → home e p = some c →
    call.isFinalize = false ∨ call.prepared? ≠ some p → home e' p = some c

namespace LastErrors

variable {σ : Type} [Engine σ]

/-- A call that is recorded is made. -/
theorem call_of_recorded {call : Call} {r r' : Recorder σ} {reply : call.Reply}
    (h : Engine.call call r = (reply, r')) : Engine.call call r.engine = (reply, r'.engine) := by
  cases h
  rfl

/-- What is recorded does not change what is the last error. -/
def recorded (V : LastErrors σ) : LastErrors (Recorder σ) where
  message r := V.message r.engine
  extended r := V.extended r.engine
  home r := V.home r.engine
  told r := V.told r.engine
  spared h := V.spared (call_of_recorded h)
  noted h := V.noted (call_of_recorded h)
  unnoted h := V.unnoted (call_of_recorded h)
  unloaded h := V.unloaded (call_of_recorded h)
  prepared h := V.prepared (call_of_recorded h)
  kept h := V.kept (call_of_recorded h)

/-- The last call of an engine failed with a code, and is what a connection says of its last error. -/
inductive JustFailed (V : LastErrors σ) (e' : σ) (c : ConnectionHandle) (code : Code) : Prop where
  /-- It was one on that connection, or on one of its statements. -/
  | failed {e : σ} {call : Call} {reply : call.Reply} (hcall : Engine.call call e = (reply, e'))
      (hx : (Exchange.mk call reply).failure? = some code)
      (hnoted : (Exchange.mk call reply).isUnnoted = false)
      (hon : (Exchange.mk call reply).connection? = some c ∨
        (∃ p, call.prepared? = some p ∧ V.home e p = some c))
  /-- A backup was refused. The code is not an answer to that, and is asked for. -/
  | refused {e : σ} {name : String} {source : ConnectionHandle} {sourceName : String}
      (hcall : Engine.call (.backupStart c name source sourceName) e = (none, e'))
      (hcode : (V.extended e' c).primary = code)

/-- The last error has the code. -/
theorem JustFailed.primary {V : LastErrors σ} {e : σ} {c : ConnectionHandle} {code : Code}
    (h : V.JustFailed e c code) : (V.extended e c).primary = code := by
  cases h with
  | failed hcall hx hnoted hon => exact V.noted hcall hx hnoted hon
  | refused hcall hcode => exact hcode

/-- An error that has an extended code has it and its message from behind the call that failed with
its code. -/
def Paired (V : LastErrors σ) : Error → Prop
  | .native message code extended => extended = Code.unset ∨ ∃ e c, V.JustFailed e c code ∧
    message = (V.message e c).textOrEmpty ∧ extended = V.extended e c
  | _ => True

/-- Without an extended code there is nothing to belong together. -/
theorem Paired.of_extendedCode {V : LastErrors σ} {e : Error} (h : e.extendedCode = Code.unset) :
    V.Paired e := by
  cases e with
  | native message code extended => exact .inl h
  | _ => trivial

/-- What a connection is asked behind a call is what it said then. -/
theorem told_of_askedFor (V : LastErrors σ) {e e' : σ} {c : ConnectionHandle}
    {message : NativeText} {extended : Code} {d : History}
    (h : Answers e (askedFor c message extended ++ d) e') :
    message = V.message e c ∧ extended = V.extended e c := by
  rw [askedFor, List.cons_append, List.cons_append] at h
  cases h with
  | call hmessage h =>
    cases h with
    | call hextended h =>
      have hsaid := congrArg Prod.fst hmessage
      have hcode := congrArg Prod.fst hextended
      rw [(V.told _ c).1] at hsaid
      rw [(V.told _ c).2.1, (V.spared hmessage rfl c).2] at hcode
      exact ⟨hsaid.symm, hcode.symm⟩

/-- The failure of a call from an engine is noted by a connection, and the call releases nothing. -/
structure Notes (V : LastErrors σ) (e : σ) (c : ConnectionHandle) (x : Exchange) : Prop where
  /-- It is none of those that are not noted. -/
  noted : x.isUnnoted = false
  /-- It releases no statement. -/
  keeps : x.call.isFinalize = false
  /-- If it is about a statement, that is one of the connection. -/
  home : ∀ p, x.call.prepared? = some p → V.home e p = some c

/-- To ask for the reason of a failure is no failure. -/
theorem Notes.of_askedFor {V : LastErrors σ} {e : σ} {c : ConnectionHandle} {message : NativeText}
    {extended : Code} {x : Exchange} (hx : x ∈ askedFor c message extended) : V.Notes e c x := by
  rcases List.mem_cons.mp hx with rfl | hx
  · exact ⟨rfl, rfl, nofun⟩
  · rw [List.mem_singleton.mp hx]
    exact ⟨rfl, rfl, nofun⟩

/-- The error of a call that was noted, and of what the connection was asked behind it. -/
theorem Paired.of_reports {V : LastErrors σ} {e e' : σ} {d : History} {c : ConnectionHandle}
    {error : Error} (hd : Answers e d e') (h : d.Reports c error) (hnotes : ∀ x ∈ d, V.Notes e c x) :
    V.Paired error := by
  cases h with
  | @intro before after x code text extended hsplit hx hon =>
    subst hsplit
    obtain ⟨e₁, hbefore, hrest⟩ := hd.split
    cases hrest with
    | call hcall hasked =>
      obtain ⟨hmessage, hextended⟩ := V.told_of_askedFor hasked
      obtain ⟨hnoted, -, hhome⟩ := hnotes _ (List.mem_append_right _ List.mem_cons_self)
      refine .inr ⟨_, c, .failed hcall hx hnoted ?_, by rw [hmessage], hextended⟩
      refine hon.imp id fun hp => ?_
      obtain ⟨p, hp⟩ := Option.isSome_iff_exists.mp hp
      -- the statement is where it was, for nothing was released before
      have hkept : KeptBy (·.isFinalize = false) fun e => V.home e p = some c :=
        fun call e hfinalize hhome => V.kept rfl hhome (.inl hfinalize)
      exact ⟨p, hp, hbefore.keeps hkept
        (fun y hy => (hnotes y (List.mem_append_left _ hy)).keeps) (hhome p hp)⟩

end LastErrors

/-- If a statement is there, it is one of its connection. -/
def Statement.Genuine {σ : Type} (q : Statement) (s : Store σ) : Prop :=
  ∀ k, s.cursors.get? q.cursor = some k → k.connection = q.database.connection

namespace LastErrors

variable {σ : Type} [Engine σ] (V : LastErrors σ)

/-- The library knows of each of its statements on which connection it is, and has each of them once.
Those that it gave out are genuine. -/
structure Sees (given : List Statement) (s : Store σ) : Prop where
  /-- The connections. -/
  homes : ∀ id k, s.cursors.get? id = some k → V.home s.engine k.handle = some k.connection
  /-- The statements. -/
  distinct : ∀ id id' k k', s.cursors.get? id = some k → s.cursors.get? id' = some k' →
    k.handle = k'.handle → id = id'
  /-- Those that were given out. -/
  genuine : ∀ q ∈ given, q.Genuine s
  /-- Their names are not given out again. -/
  named : ∀ q ∈ given, q.cursor.number < s.nextCursor

/-- What came of an action: the library still knows its statements, and the error, if there is one, is
as `E` says. -/
structure Fine (given : List Statement) (E : Error → Prop) {α : Type} (r : Except Error α × Store σ) :
    Prop where
  /-- The store. -/
  sees : V.Sees given r.2
  /-- The error. -/
  error : ∀ e, r.1 = .error e → E e

variable {V} {given : List Statement} {E : Error → Prop} {α β : Type} {s : Store σ}

namespace Sees

/-- A call that releases nothing comes between. -/
theorem call (h : V.Sees given s) {call : Call} {reply : call.Reply} {engine : σ}
    (hcall : Engine.call call s.engine = (reply, engine)) (hfinalize : call.isFinalize = false) :
    V.Sees given { s with engine } where
  homes id k hk := V.kept hcall (h.homes id k hk) (.inl hfinalize)
  distinct := h.distinct
  genuine := h.genuine
  named := h.named

/-- A note on a cursor. -/
theorem modify (h : V.Sees given s) (id : CursorId) {f : Cursor → Cursor}
    (hf : ∀ k, (f k).handle = k.handle ∧ (f k).connection = k.connection) :
    V.Sees given { s with cursors := s.cursors.modify id f } := by
  have hfound (j : CursorId) (k' : Cursor) (hk' : (s.cursors.modify id f).get? j = some k') :
      ∃ k, s.cursors.get? j = some k ∧ k'.handle = k.handle ∧ k'.connection = k.connection := by
    by_cases hj : j = id
    · subst hj
      rw [Table.get?_modify_self, Option.map_eq_some_iff] at hk'
      obtain ⟨k, hk, rfl⟩ := hk'
      exact ⟨k, hk, hf k⟩
    · rw [Table.get?_modify_of_ne _ _ hj] at hk'
      exact ⟨k', hk', rfl, rfl⟩
  refine ⟨?_, ?_, ?_, h.named⟩
  · intro j k' hk'
    obtain ⟨k, hk, hhandle, hconnection⟩ := hfound j k' hk'
    rw [hhandle, hconnection]
    exact h.homes j k hk
  · intro j j' k' l' hk' hl' hsame
    obtain ⟨k, hk, hhandle, -⟩ := hfound j k' hk'
    obtain ⟨l, hl, hhandle', -⟩ := hfound j' l' hl'
    exact h.distinct j j' k l hk hl (by rw [← hhandle, hsame, hhandle'])
  · intro q hq k' hk'
    obtain ⟨k, hk, -, hconnection⟩ := hfound q.cursor k' hk'
    rw [hconnection]
    exact h.genuine q hq k hk

/-- A statement is not looked at any more. -/
theorem tail {q : Statement} (h : V.Sees (q :: given) s) : V.Sees given s where
  homes := h.homes
  distinct := h.distinct
  genuine q' hq' := h.genuine q' (List.mem_cons_of_mem _ hq')
  named q' hq' := h.named q' (List.mem_cons_of_mem _ hq')

/-- A statement is stepped. -/
theorem advance {id : CursorId} {k : Cursor} (h : V.Sees given s)
    (hk : s.cursors.get? id = some k) : V.Sees given (s.advance id k) := by
  have hstepped : V.Sees given { s with engine := (Engine.call (.step k.handle) s.engine).2 } :=
    h.call rfl rfl
  have hmodified := hstepped.modify id (f := (·.advanced (s.stepCode k))) fun _ => ⟨rfl, rfl⟩
  rwa [Table.modify_of_get? hk] at hmodified

/-- It is rewound. -/
theorem ready {id : CursorId} {k : Cursor} (h : V.Sees given s)
    (hk : s.cursors.get? id = some k) : V.Sees given (s.ready id k) := by
  have hreset : V.Sees given { s with engine := (Engine.call (.reset k.handle) s.engine).2 } :=
    h.call rfl rfl
  have hmodified := hreset.modify id (f := Cursor.readied) fun _ => ⟨rfl, rfl⟩
  rwa [Table.modify_of_get? hk] at hmodified

/-- What is done through a statement leaves the library with what it knows. -/
theorem ran {id : CursorId} {d : History} {s' : Store σ} (h : V.Sees given s)
    (hd : s.Ran id d s') : V.Sees given s' := by
  induction hd with
  | nothing s => exact h
  | call hcall hrests _ ih => exact ih (h.call hcall hrests.leaves)
  | step hk hdone _ ih => exact ih (h.advance hk)
  | reset hk _ ih => exact ih (h.ready hk)

/-- So do calls that the library takes no note of, unless they release something. -/
theorem keptBy (cursors : Table CursorId Cursor) (n : Nat) :
    KeptBy (·.isFinalize = false) fun e => V.Sees given ⟨e, cursors, n⟩ :=
  fun _ _ hfinalize h => h.call rfl hfinalize

/-- A statement that was just prepared is registered, under a name that no statement has. -/
theorem prepared {c : ConnectionHandle} {sql : String} {p : PreparedHandle} {engine : σ}
    (h : V.Sees given s) (hcall : Engine.call (.prepare c sql) s.engine = ((Code.ok, some p), engine))
    {k : Cursor} (hhandle : k.handle = p) (hconnection : k.connection = c) :
    V.Sees given ⟨engine, s.cursors.set ⟨s.nextCursor⟩ k, s.nextCursor + 1⟩ := by
  obtain ⟨hfree, hhome⟩ := V.prepared hcall
  have hother (j : CursorId) (k' : Cursor) (hk' : s.cursors.get? j = some k') : k'.handle ≠ p := by
    rintro rfl
    rw [h.homes j k' hk'] at hfree
    cases hfree
  have hcases (j : CursorId) (k' : Cursor)
      (hk' : (s.cursors.set ⟨s.nextCursor⟩ k).get? j = some k') :
      j = ⟨s.nextCursor⟩ ∧ k' = k ∨ j ≠ ⟨s.nextCursor⟩ ∧ s.cursors.get? j = some k' := by
    by_cases hj : j = ⟨s.nextCursor⟩
    · rw [hj, Table.get?_set_self] at hk'
      exact .inl ⟨hj, (Option.some.inj hk').symm⟩
    · rw [Table.get?_set_of_ne _ _ hj] at hk'
      exact .inr ⟨hj, hk'⟩
  constructor
  case homes =>
    intro j k' hk'
    rcases hcases j k' hk' with ⟨-, rfl⟩ | ⟨-, hfound⟩
    · rw [hhandle, hconnection]
      exact hhome
    · exact V.kept hcall (h.homes j k' hfound) (.inl rfl)
  case distinct =>
    intro j j' k' l' hk' hl' hsame
    rcases hcases j k' hk' with ⟨rfl, rfl⟩ | ⟨-, hfound⟩ <;>
      rcases hcases j' l' hl' with ⟨rfl, rfl⟩ | ⟨-, hfound'⟩
    · rfl
    · exact absurd (hsame.symm.trans hhandle) (hother j' l' hfound')
    · exact absurd (hsame.trans hhandle) (hother j k' hfound)
    · exact h.distinct j j' k' l' hfound hfound' hsame
  case genuine =>
    intro q hq k' hk'
    rcases hcases q.cursor k' hk' with ⟨hnew, -⟩ | ⟨-, hfound⟩
    · have hnumber := h.named q hq
      rw [hnew] at hnumber
      exact absurd hnumber (Nat.lt_irrefl _)
    · exact h.genuine q hq k' hfound
  case named => exact fun q hq => Nat.lt_succ_of_lt (h.named q hq)

/-- A statement is given up. -/
theorem release (h : V.Sees given s) (id : CursorId) : V.Sees given (id.release s).2 := by
  cases hk : s.cursors.get? id with
  | none =>
    rw [CursorId.release_of_none hk]
    exact h
  | some k =>
    by_cases hlast : k.holders ≤ 1
    · rw [CursorId.release_of_last hk hlast]
      have hleft (j : CursorId) (k' : Cursor) (hk' : (s.cursors.erase id).get? j = some k') :
          j ≠ id ∧ s.cursors.get? j = some k' := by
        by_cases hj : j = id
        · rw [hj, Table.get?_erase_self] at hk'
          cases hk'
        · exact ⟨hj, by rwa [Table.get?_erase_of_ne _ hj] at hk'⟩
      refine ⟨fun j k' hk' => ?_, fun j j' k' l' hk' hl' => ?_, fun q hq k' hk' => ?_, h.named⟩
      · obtain ⟨hj, hk'⟩ := hleft j k' hk'
        refine V.kept rfl (h.homes j k' hk') (.inr fun hp => ?_)
        exact hj (h.distinct j id k' k hk' hk (Option.some.inj hp).symm)
      · exact h.distinct j j' k' l' (hleft j k' hk').2 (hleft j' l' hl').2
      · exact h.genuine q hq k' (hleft q.cursor k' hk').2
    · have hmodify := h.modify id (f := fun c => { c with holders := c.holders - 1 })
        fun _ => ⟨rfl, rfl⟩
      rw [Table.modify_of_get? hk] at hmodify
      rw [CursorId.release_of_more hk (by omega)]
      exact hmodify

/-- The calls through a statement that was given out are noted by its connection. -/
theorem notes {q : Statement} {d : History} {s' : Store σ} (h : V.Sees given s) (hq : q ∈ given)
    (hd : s.Ran q.cursor d s') (hboxes : ∀ x ∈ d, x.call.handlesBox = false) :
    ∀ x ∈ d, V.Notes s.engine q.database.connection x := by
  intro x hx
  obtain ⟨hprepared, -, hfinalize⟩ := hd.within hx
  refine ⟨Exchange.isUnnoted_of_apart (hboxes x hx), hfinalize, fun p hp => ?_⟩
  obtain ⟨k, hk, rfl⟩ := Option.map_eq_some_iff.mp (hprepared p hp)
  rw [h.homes q.cursor k hk, h.genuine q hq k hk]

end Sees

namespace Fine

/-- It succeeded. -/
theorem ok {x : α} (h : V.Sees given s) : V.Fine given E (.ok x, s) := ⟨h, nofun⟩

/-- It failed with such an error. -/
theorem failed {e : Error} (h : V.Sees given s) (he : E e) :
    V.Fine (α := α) given E (.error e, s) := ⟨h, fun _ h => Except.error.inj h ▸ he⟩

/-- Errors of a kind are of every wider kind. -/
theorem mono {E' : Error → Prop} {r : Except Error α × Store σ} (h : V.Fine given E r)
    (hE : ∀ e, E e → E' e) : V.Fine given E' r := ⟨h.sees, fun e he => hE e (h.error e he)⟩

/-- One action after another. -/
theorem bind {a : Action σ β} {f : β → Action σ α} (ha : V.Fine given E (a s))
    (hf : ∀ x s', a s = (.ok x, s') → V.Sees given s' → V.Fine given E (f x s')) :
    V.Fine given E ((a >>= f) s) := by
  rw [Action.bind_run]
  rcases hrun : a s with ⟨e | x, s'⟩
  · rw [hrun] at ha
    exact ⟨ha.sees, fun e' he' => ha.error e' (Except.error.inj he' ▸ rfl)⟩
  · rw [hrun] at ha
    exact hf x s' hrun ha.sees

end Fine

/-! ### Actions -/

variable (V given)

/-- An action leaves the library with what it knows of its statements, and the codes of its error
belong together. -/
def Heeds (a : Action σ α) : Prop := ∀ s, V.Sees given s → V.Fine given V.Paired (a s)

variable {V given}

namespace Heeds

/-- Nothing is done. -/
theorem pure {x : α} : V.Heeds given (pure x) := fun _ hs => .ok hs

/-- One action after another. -/
theorem bind {a : Action σ β} {f : β → Action σ α} (ha : V.Heeds given a)
    (hf : ∀ x, V.Heeds given (f x)) : V.Heeds given (a >>= f) :=
  fun s hs => .bind (ha s hs) fun x s' _ hs' => hf x s' hs'

/-- The result is dropped. -/
theorem discard {a : Action σ α} (ha : V.Heeds given a) : V.Heeds given (do let _ ← a) :=
  ha.bind fun _ => .pure

/-- Whoever holds a statement makes no difference. -/
theorem retain (id : CursorId) : V.Heeds given id.retain := fun _ hs =>
  .ok (hs.modify id fun _ => ⟨rfl, rfl⟩)

/-- A statement is given up without a word. -/
theorem release (id : CursorId) : V.Heeds given id.release := fun s hs =>
  ⟨hs.release id, by rw [(id.release_follows s).1]; exact nofun⟩

/-- What is done through a statement that was given out, and reported with what its connection says. -/
theorem of_statement {q : Statement} (hq : q ∈ given) {a : Action σ α}
    {Q : Option PreparedHandle → History → Except Error α → Prop}
    (ha : ∀ h, Follows q.cursor h (Q h) a)
    (hboxes : ∀ h d r, Q h d r → ∀ x ∈ d, x.call.handlesBox = false)
    (herror : ∀ h d e, Q h d (.error e) →
      d.Reports q.database.connection e ∨ e.extendedCode = Code.unset) : V.Heeds given a := by
  intro s hs
  obtain ⟨d, hd, hQ⟩ := ha _ s rfl
  refine ⟨hs.ran hd, fun e he => ?_⟩
  have hnotes := hs.notes hq hd (hboxes _ d _ hQ)
  rw [he] at hQ
  rcases herror _ d e hQ with hreports | hunset
  · exact .of_reports hd.answers hreports hnotes
  · exact .of_extendedCode hunset

/-- What is done without a statement. -/
theorem of_apart {a : Action σ α} {Q : History → Except Error α → Prop}
    (ha : ∀ h, Follows ⟨0⟩ h Q a)
    (hcalls : ∀ d r, Q d r → ∀ x ∈ d, x.call.isApart = true ∧ x.call.handlesBox = false)
    (herror : ∀ d e, Q d (.error e) → (∃ c, d.Reports c e) ∨ e.extendedCode = Code.unset) :
    V.Heeds given a := by
  intro s hs
  obtain ⟨d, hd, hQ⟩ := ha _ s rfl
  refine ⟨hs.ran hd, fun e he => ?_⟩
  have hcalls := hcalls d _ hQ
  rw [he] at hQ
  rcases herror d e hQ with ⟨c, hreports⟩ | hunset
  · refine .of_reports hd.answers hreports fun x hx => ?_
    obtain ⟨hapart, hbox⟩ := hcalls x hx
    refine ⟨Exchange.isUnnoted_of_apart hbox, (hd.within hx).2.2, fun p hp => ?_⟩
    rw [(Exchange.apart_of_isApart hapart).1] at hp
    cases hp
  · exact .of_extendedCode hunset

/-- Inquiries about statements. -/
theorem of_looks {E : Error → Prop} {a : Action σ α} (ha : Looks E a)
    (hE : ∀ e, E e → e.extendedCode = Code.unset) : V.Heeds given a := by
  intro s hs
  obtain ⟨hasked, herror⟩ := ha s
  refine ⟨?_, fun e he => .of_extendedCode (hE e (herror e he))⟩
  rw [hasked.stays]
  have hkept : KeptBy Call.Asks fun e => V.Sees given ⟨e, s.cursors, s.nextCursor⟩ :=
    fun call e hasks h => h.call rfl (Call.still_of_isInquiry hasks.1).2.2
  exact hasked.keeps hkept hs

end Heeds

end LastErrors

end GuardedSql
