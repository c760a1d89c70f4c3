import GuardedSql.Proofs.Telling

/-!
# Actions by their calls

Of an action it is often enough to know its calls, whatever the names are that it goes through.
`Yields` says how they go together with its result, and `Makes` which kinds of calls there are. A
`Confined` action also leaves every statement under its name, one that `Asks` changes nothing of the
library at all, and one that `Looks` only inquires about statements and fails, if it fails, for
reasons of a kind.
-/

namespace GuardedSql

variable {σ α β : Type}

/-- From one store to another only calls of a kind were made, and the library was left as it was. -/
structure Store.Asked [Engine σ] (P : Call → Prop) (s s' : Store σ) : Prop where
  /-- The calls. -/
  calls : ∃ d, Answers s.engine d s'.engine ∧ ∀ x ∈ d, P x.call
  /-- Nothing else is changed. -/
  stays : s' = { s with engine := s'.engine }

/-- The calls of an action go together with its result as `Q` says, whatever else it does. -/
def Yields [Engine σ] (Q : History → Except Error α → Prop) (a : Action σ α) : Prop :=
  ∀ s : Store σ, ∃ d, Answers s.engine d (a s).2.engine ∧ Q d (a s).1

/-- An action makes no other calls than those of a kind. -/
def Makes [Engine σ] (P : Call → Prop) (a : Action σ α) : Prop :=
  Yields (fun d _ => ∀ x ∈ d, P x.call) a

/-- An action makes no other calls than those of a kind, and the statements stay under their names. -/
structure Confined [Engine σ] (P : Call → Prop) (a : Action σ α) : Prop where
  /-- The calls. -/
  makes : Makes P a
  /-- The names. -/
  handles : ∀ s id, (a s).2.handleOf id = s.handleOf id

/-- An action makes no other calls than those of a kind, and leaves the library as it is. -/
def Asks [Engine σ] (P : Call → Prop) (a : Action σ α) : Prop :=
  ∀ s : Store σ, s.Asked P (a s).2

/-- An action only inquires about statements, and its error, if there is one, is as `E` says. -/
def Looks [Engine σ] (E : Error → Prop) (a : Action σ α) : Prop :=
  ∀ s : Store σ, s.Asked Call.Asks (a s).2 ∧ ∀ e, (a s).1 = .error e → E e

/-- An action that fails for its use has only inquired. -/
def Cautious [Engine σ] (a : Action σ α) : Prop :=
  ∀ s e, (a s).1 = .error e → e.isUsage = true → s.Asked (·.isInquiry = true) (a s).2

/-! ### Calls and results -/

namespace Yields

variable [Engine σ] {Q : History → Except Error α → Prop} {R : History → Except Error β → Prop}

/-- What an action through a statement yields. -/
theorem of_follows {id : CursorId} {a : Action σ α}
    {Q' : Option PreparedHandle → History → Except Error α → Prop} (ha : ∀ h, Follows id h (Q' h) a)
    (hQ : ∀ h d r, Q' h d r → Q d r) : Yields Q a := by
  intro s
  obtain ⟨d, hd, hr⟩ := ha _ s rfl
  exact ⟨d, hd.answers, hQ _ d _ hr⟩

/-- So does one that goes through no statement at all. -/
theorem of_any {a : Action σ α} (ha : ∀ id h, Follows id h Q a) : Yields Q a :=
  of_follows (ha ⟨0⟩) fun _ _ _ hd => hd

/-- Nothing is called. -/
theorem pure {x : α} (h : Q [] (.ok x)) : Yields (σ := σ) Q (pure x) := fun _ =>
  ⟨[], .nothing _, h⟩

/-- What goes with the calls may be said in other words. -/
theorem mono {Q' : History → Except Error α → Prop} {a : Action σ α} (ha : Yields Q a)
    (h : ∀ d r, Q d r → Q' d r) : Yields Q' a := by
  intro s
  obtain ⟨d, hd, hQ⟩ := ha s
  exact ⟨d, hd, h d _ hQ⟩

/-- One action after another. -/
theorem bind {a : Action σ β} {f : β → Action σ α} (ha : Yields R a)
    (hok : ∀ d x, R d (.ok x) → Yields (fun d' r => Q (d ++ d') r) (f x))
    (herror : ∀ d e, R d (.error e) → Q d (.error e)) : Yields Q (a >>= f) := by
  intro s
  obtain ⟨d, hd, hR⟩ := ha s
  rw [Action.bind_run]
  rcases hrun : a s with ⟨e | x, s'⟩
  · rw [hrun] at hd hR
    exact ⟨d, hd, herror d e hR⟩
  · rw [hrun] at hd hR
    obtain ⟨d', hd', hQ⟩ := hok d x hR s'
    exact ⟨d ++ d', hd.trans hd', hQ⟩

/-- The result is dropped. -/
theorem discard {a : Action σ β} {Q : History → Except Error Unit → Prop} (ha : Yields R a)
    (hQ : ∀ d r, R d r → Q d (r.map fun _ => ())) : Yields Q (do let _ ← a) := by
  refine bind ha (fun d x hd => pure ?_) fun d e hd => hQ d _ hd
  rw [List.append_nil]
  exact hQ d _ hd

/-- Whether it fails makes no difference. -/
theorem attempt {a : Action σ β} (ha : Yields R a) :
    Yields (fun d r => ∃ r', r = .ok r' ∧ R d r') (attempt a) := by
  intro s
  obtain ⟨d, hd, hR⟩ := ha s
  exact ⟨d, hd, _, rfl, hR⟩

/-- The calls come behind those of the record. -/
theorem appended {a : Action (Recorder σ) α} (ha : Yields Q a) (s : Store (Recorder σ)) :
    ∃ d, (a s).2.engine.exchanges = s.engine.exchanges ++ d ∧ Q d (a s).1 := by
  obtain ⟨d, hd, hQ⟩ := ha s
  exact ⟨d, hd.recorded.1, hQ⟩

/-- What is seen of the action. -/
theorem observed {a : Action (Recorder σ) α} (ha : Yields Q a) (s : Store σ) :
    Q (observe a s).exchanges (observe a s).result := by
  obtain ⟨d, hd, hQ⟩ := ha.appended s.recording
  have hexchanges : (observe a s).exchanges = d := hd
  rw [hexchanges]
  exact hQ

end Yields

/-! ### Calls of a kind -/

namespace Makes

variable [Engine σ] {P P' : Call → Prop}

/-- What an action through a statement makes. -/
theorem of_follows {id : CursorId} {a : Action σ α}
    {Q : Option PreparedHandle → History → Except Error α → Prop} (ha : ∀ h, Follows id h (Q h) a)
    (hQ : ∀ h d r, Q h d r → ∀ x ∈ d, P x.call) : Makes P a := Yields.of_follows ha hQ

/-- Calls of a kind are of every wider kind. -/
theorem mono {a : Action σ α} (ha : Makes P a) (h : ∀ call, P call → P' call) : Makes P' a :=
  Yields.mono ha fun _ _ hd x hx => h _ (hd x hx)

/-- Nothing is called. -/
theorem pure {x : α} : Makes (σ := σ) P (pure x) := Yields.pure nofun

/-- One action after another. -/
theorem bind {a : Action σ α} {f : α → Action σ β} (ha : Makes P a) (hf : ∀ x, Makes P (f x)) :
    Makes P (a >>= f) :=
  Yields.bind ha (fun _ x hd => Yields.mono (hf x) fun _ _ hd' =>
    List.forall_mem_append.mpr ⟨hd, hd'⟩) fun _ _ hd => hd

/-- The result is dropped. -/
theorem discard {a : Action σ α} (ha : Makes P a) : Makes P (do let _ ← a) :=
  .bind ha fun _ => .pure

/-- What the calls of the kind keep is kept. -/
theorem keeps {a : Action σ α} (ha : Makes P a) {I : σ → Prop} (hI : KeptBy P I) (s : Store σ)
    (hs : I s.engine) : I (a s).2.engine := by
  obtain ⟨d, hd, hP⟩ := ha s
  exact hd.keeps hI hP hs

/-- On an engine that writes its calls down they stand behind those that were there. -/
theorem appended {a : Action (Recorder σ) α} (ha : Makes P a) (s : Store (Recorder σ)) :
    ∃ d, (a s).2.engine.exchanges = s.engine.exchanges ++ d ∧ ∀ x ∈ d, P x.call :=
  Yields.appended ha s

/-- The calls of the record are those of the kind. -/
theorem recorded {a : Action (Recorder σ) α} (ha : Makes P a) (s : Store σ) :
    ∀ x ∈ (observe a s).exchanges, P x.call := Yields.observed ha s

end Makes

/-! ### Calls that leave the names -/

namespace Confined

variable [Engine σ] {P P' : Call → Prop}

/-- An action through a statement leaves the names. -/
theorem of_follows {id : CursorId} {a : Action σ α}
    {Q : Option PreparedHandle → History → Except Error α → Prop} (ha : ∀ h, Follows id h (Q h) a)
    (hQ : ∀ h d r, Q h d r → ∀ x ∈ d, P x.call) : Confined P a where
  makes := .of_follows ha hQ
  handles := fun s j => by
    obtain ⟨d, hd, -⟩ := ha _ s rfl
    exact hd.handleOf_eq j

/-- Calls of a kind are of every wider kind. -/
theorem mono {a : Action σ α} (ha : Confined P a) (h : ∀ call, P call → P' call) : Confined P' a :=
  ⟨ha.makes.mono h, ha.handles⟩

/-- The result is dropped. -/
theorem discard {a : Action σ α} (ha : Confined P a) : Confined P (do let _ ← a) where
  makes := ha.makes.discard
  handles := fun s id => by
    have h := ha.handles s id
    rw [Action.bind_run]
    rcases hrun : a s with ⟨e | x, s'⟩
    · rwa [hrun] at h
    · rwa [hrun] at h

end Confined

/-! ### Calls that leave the library -/

namespace Store.Asked

variable [Engine σ] {P P' : Call → Prop} {s s' s'' : Store σ}

/-- Nothing is asked. -/
theorem refl (s : Store σ) : s.Asked P s := ⟨⟨[], .nothing _, nofun⟩, rfl⟩

/-- Questions follow upon questions. -/
theorem trans (h : s.Asked P s') (h' : s'.Asked P s'') : s.Asked P s'' where
  calls := by
    obtain ⟨d, hd, hP⟩ := h.calls
    obtain ⟨d', hd', hP'⟩ := h'.calls
    refine ⟨d ++ d', hd.trans hd', fun x hx => ?_⟩
    rcases List.mem_append.mp hx with hx | hx
    · exact hP x hx
    · exact hP' x hx
  stays := by rw [h'.stays, h.stays]

/-- Fewer calls are less. -/
theorem mono (h : s.Asked P s') (hP : ∀ call, P call → P' call) : s.Asked P' s' := by
  obtain ⟨d, hd, hcalls⟩ := h.calls
  exact ⟨⟨d, hd, fun x hx => hP _ (hcalls x hx)⟩, h.stays⟩

/-- What the calls of the kind keep is kept. -/
theorem keeps (h : s.Asked P s') {I : σ → Prop} (hI : KeptBy P I) (hs : I s.engine) :
    I s'.engine := by
  obtain ⟨d, hd, hP⟩ := h.calls
  exact hd.keeps hI hP hs

/-- What is left: the library as it was, and calls of the kind in the record. -/
theorem observe {a : Action (Recorder σ) α} {s : Store σ}
    (h : s.recording.Asked P (a s.recording).2) :
    (observe a s).store.cursors = s.cursors ∧ (observe a s).store.nextCursor = s.nextCursor ∧
      ∀ e ∈ (observe a s).exchanges, P e.call := by
  refine ⟨?_, ?_, ?_⟩
  · rw [observe_eq, h.stays]
    rfl
  · rw [observe_eq, h.stays]
    rfl
  · obtain ⟨d, hd, hP⟩ := h.calls
    have hexchanges : (GuardedSql.observe a s).exchanges = d := hd.recorded.1
    rwa [hexchanges]

end Store.Asked

namespace Asks

variable [Engine σ] {P : Call → Prop}

/-- An action through a statement that does not move it leaves the library as it is. -/
theorem of_follows {id : CursorId} {a : Action σ α}
    {Q : Option PreparedHandle → History → Except Error α → Prop} (ha : ∀ h, Follows id h (Q h) a)
    (hQ : ∀ h d r, Q h d r → ∀ x ∈ d, P x.call) (hP : ∀ call, P call → call.moves = false) :
    Asks P a := by
  intro s
  obtain ⟨d, hd, hr⟩ := ha _ s rfl
  have hcalls := hQ _ d _ hr
  exact ⟨⟨d, hd.answers, hcalls⟩, hd.stays fun x hx => hP _ (hcalls x hx)⟩

/-- Its calls are of the kind. -/
theorem makes {a : Action σ α} (ha : Asks P a) : Makes P a := fun s => (ha s).calls

/-- What leaves the library as it is leaves the names. -/
theorem confined {a : Action σ α} (ha : Asks P a) : Confined P a :=
  ⟨ha.makes, fun s id => by rw [(ha s).stays, Store.handleOf, Store.handleOf]⟩

end Asks

/-! ### Inquiries about statements -/

namespace Looks

variable [Engine σ] {E : Error → Prop}

/-- Inquiries through one statement are inquiries, whether or not the statement is there. -/
theorem of_inquires {id : CursorId} {a : Action σ α} (ha : ∀ h, Inquires id h E a) : Looks E a := by
  intro s
  have hasked : Asks Call.Asks a := .of_follows ha (fun _ _ _ hr => hr.1) fun _ hc =>
    Call.not_moves_of_isInquiry hc.1
  obtain ⟨d, -, -, hE⟩ := ha _ s rfl
  exact ⟨hasked s, hE⟩

/-- They leave the library as it is. -/
theorem asks {a : Action σ α} (ha : Looks E a) : Asks Call.Asks a := fun s => (ha s).1

/-- Nothing is asked. -/
theorem pure {x : α} : Looks (σ := σ) E (pure x) := fun s => ⟨.refl s, nofun⟩

/-- One inquiry after another. -/
theorem bind {a : Action σ α} {f : α → Action σ β} (ha : Looks E a) (hf : ∀ x, Looks E (f x)) :
    Looks E (a >>= f) := by
  intro s
  obtain ⟨hasked, hE⟩ := ha s
  rw [Action.bind_run]
  rcases hrun : a s with ⟨e | x, s'⟩
  · rw [hrun] at hasked hE
    exact ⟨hasked, fun e' he => hE e' (Except.error.inj he ▸ rfl)⟩
  · rw [hrun] at hasked
    exact ⟨hasked.trans (hf x s').1, (hf x s').2⟩

/-- The result is dropped. -/
theorem discard {a : Action σ α} (ha : Looks E a) : Looks E (do let _ ← a) :=
  .bind ha fun _ => .pure

/-- A list of inquiries. -/
theorem mapM {γ : Type} {f : γ → Action σ α} (hf : ∀ x, Looks E (f x)) (l : List γ) :
    Looks E (l.mapM f) := by
  induction l with
  | nil => exact pure
  | cons x rest ih =>
    rw [List.mapM_cons]
    exact bind (hf x) fun _ => bind ih fun _ => pure

end Looks

/-! ### Checks that come first -/

namespace Cautious

variable [Engine σ]

/-- An action through a statement that has asked at most when it fails for its use. -/
theorem of_follows {id : CursorId} {a : Action σ α}
    {Q : Option PreparedHandle → History → Except Error α → Prop} (ha : ∀ h, Follows id h (Q h) a)
    (hQ : ∀ h d e, Q h d (.error e) → e.isUsage = true → ∀ x ∈ d, x.call.isInquiry = true) :
    Cautious a := by
  intro s e he husage
  obtain ⟨d, hd, hr⟩ := ha _ s rfl
  rw [he] at hr
  have hcalls := hQ _ d e hr husage
  exact ⟨⟨d, hd.answers, hcalls⟩, hd.stays fun x hx => Call.not_moves_of_isInquiry (hcalls x hx)⟩

/-- So is one that tells of its failures, and of other errors in time. -/
theorem of_does {id : CursorId} {c : ConnectionHandle} {K : Call → Prop} {a : Action σ α}
    (ha : ∀ h, Does id h c K (fun d e => e.Early d) a) : Cautious a := by
  refine .of_follows ha fun _ d e hd husage => ?_
  rcases hd.2.reports with hearly | hreports
  · exact hearly.2 husage
  · rw [hreports.isUsage_eq] at husage
    cases husage

/-- An action that does not fail for its use has nothing to ask before. -/
theorem of_sober {a : Action σ α} (ha : ∀ s e, (a s).1 = .error e → e.isUsage = false) :
    Cautious a := by
  intro s e he husage
  rw [ha s e he] at husage
  cases husage

/-- An operation that never does more than inquire has done no more when it fails. -/
theorem of_looks {E : Error → Prop} {a : Action σ α} (ha : Looks E a) : Cautious a :=
  fun s _ _ _ => (ha s).1.mono fun _ hc => hc.1

/-- The result is dropped. -/
theorem discard {a : Action σ α} (ha : Cautious a) : Cautious (do let _ ← a) := by
  intro s e h he
  rw [Action.bind_run] at h ⊢
  rcases hrun : a s with ⟨e' | x, s'⟩
  · rw [hrun] at h
    cases h
    have hasked := ha s e (congrArg Prod.fst hrun) he
    rwa [hrun] at hasked
  · rw [hrun] at h
    cases h

end Cautious

end GuardedSql
