import GuardedSql.Proofs.Upkeep

/-!
# Connections and backups as resources

The engine hands out connections and backups, and takes them back by closing and finishing. What
happened to them is counted on the record of all calls: how often one was given, how often the
library has let it go, and how often the engine has done so, which may refuse to close a connection.
A call is allowed while the resources that it uses are there; only the reason of a refusal may be
asked for after that.
-/

namespace GuardedSql

/-- What the engine hands out and takes back. -/
inductive Resource where
  | connection (c : ConnectionHandle)
  | backup (b : BackupHandle)
  deriving DecidableEq

/-- What a call is given to work on. -/
def Call.uses : Call → List Resource
  | .closeConnection c | .busyTimeout c _ | .execute c _ | .prepare c _ => [.connection c]
  | .changes c | .totalChanges c | .lastInsertRowid c => [.connection c]
  | .errorCode c | .extendedErrorCode c | .errorMessage c => [.connection c]
  | .allowExtensions c _ | .loadExtension c _ _ | .createFunction c .. => [.connection c]
  | .backupStart destination _ source _ => [.connection destination, .connection source]
  | .backupStep b _ | .backupRemaining b | .backupPageCount b | .backupFinish b => [.backup b]
  | _ => []

/-- What a call lets go. -/
def Call.frees? : Call → Option Resource
  | .closeConnection c => some (.connection c)
  | .backupFinish b => some (.backup b)
  | _ => none

/-- Whether a call asks for something new. -/
def Call.acquires : Call → Bool
  | .openConnection .. | .backupStart .. => true
  | _ => false

/-- Whether a call asks for the reason of a failure. -/
def Call.asksReason : Call → Bool
  | .errorMessage _ | .extendedErrorCode _ => true
  | _ => false

namespace Exchange

/-- What was handed out, whatever the code is. -/
def gives? : Exchange → Option Resource
  | ⟨.openConnection .., (_, c)⟩ => c.map .connection
  | ⟨.backupStart .., b⟩ => b.map .backup
  | _ => none

/-- What was taken back. A connection is not when the engine refuses to close it. -/
def releases? : Exchange → Option Resource
  | ⟨.closeConnection c, code⟩ => if code = Code.ok then some (.connection c) else none
  | ⟨.backupFinish b, _⟩ => some (.backup b)
  | _ => none

/-- A call that acquires nothing gives nothing. -/
theorem gives?_of_not_acquires {x : Exchange} (h : x.call.acquires = false) : x.gives? = none := by
  obtain ⟨call, reply⟩ := x
  cases call with
  | openConnection path flags vfs => cases h
  | backupStart destination name source sourceName => cases h
  | _ => rfl

/-- What is released was asked to be. -/
theorem frees?_of_releases? {x : Exchange} {r : Resource} (h : x.releases? = some r) :
    x.call.frees? = some r := by
  obtain ⟨call, reply⟩ := x
  cases call with
  | closeConnection c =>
    rw [releases?] at h
    split at h
    · exact h
    · cases h
  | backupFinish b => exact h
  | _ => cases h

end Exchange

/-! ### Counting -/

namespace History

variable (H H' : History) (x : Exchange) (r : Resource)

/-- How often a resource was handed out. -/
def given : Nat := H.countP (·.gives? = some r)

/-- How often the library has let it go. -/
def freed : Nat := H.countP (·.call.frees? = some r)

/-- How often the engine has taken it back. -/
def released : Nat := H.countP (·.releases? = some r)

@[simp] theorem given_nil : given [] r = 0 := rfl

@[simp] theorem freed_nil : freed [] r = 0 := rfl

@[simp] theorem released_nil : released [] r = 0 := rfl

@[simp] theorem given_cons :
    given (x :: H) r = given H r + if x.gives? = some r then 1 else 0 := by
  simp [given, List.countP_cons]

@[simp] theorem freed_cons :
    freed (x :: H) r = freed H r + if x.call.frees? = some r then 1 else 0 := by
  simp [freed, List.countP_cons]

@[simp] theorem released_cons :
    released (x :: H) r = released H r + if x.releases? = some r then 1 else 0 := by
  simp [released, List.countP_cons]

theorem given_append : given (H ++ H') r = given H r + given H' r := List.countP_append

theorem freed_append : freed (H ++ H') r = freed H r + freed H' r := List.countP_append

theorem released_append : released (H ++ H') r = released H r + released H' r :=
  List.countP_append

/-- The engine takes back what the library lets go. -/
theorem released_le_freed : released H r ≤ freed H r :=
  List.countP_mono_left fun _ _ hx => by
    simp only [decide_eq_true_eq] at hx ⊢
    exact Exchange.frees?_of_releases? hx

/-- A call may be made while each of the resources that it uses is there: the library has not let
it go as often as it was handed out. When the engine has refused to take it back, the reason may be
asked for. -/
def Allows : Prop :=
  ∀ r ∈ x.call.uses, freed H r < given H r ∨
    x.call.asksReason = true ∧ released H r < given H r

/-- All calls of a continuation are allowed. -/
def Admits (H : History) : History → Prop
  | [] => True
  | x :: rest => Allows H x ∧ Admits (H ++ [x]) rest

variable {H}

@[simp] theorem admits_nil : Admits H [] := trivial

@[simp] theorem admits_cons {x : Exchange} {d : History} :
    Admits H (x :: d) ↔ Allows H x ∧ Admits (H ++ [x]) d := Iff.rfl

/-- A history is admitted piece by piece. -/
theorem admits_append {d d' : History} :
    Admits H (d ++ d') ↔ Admits H d ∧ Admits (H ++ d) d' := by
  induction d generalizing H with
  | nil => simp
  | cons x d ih =>
    rw [List.cons_append, admits_cons, admits_cons, ih, List.append_assoc, List.singleton_append,
      and_assoc]

/-- Each of the calls is allowed after those before it. -/
theorem Admits.allows {d before after : History} {x : Exchange} (h : Admits H d)
    (hsplit : d = before ++ x :: after) : Allows (H ++ before) x := by
  rw [hsplit, admits_append, admits_cons] at h
  exact h.2.1

end History

/-! ### Calls that stay on a connection -/

/-- A call uses no connection but one, neither hands anything out nor lets anything go, and leaves
the boxes of functions alone. -/
structure Call.StaysOn (c : ConnectionHandle) (call : Call) : Prop where
  /-- It uses the connection or no resource. -/
  uses : ∀ r ∈ call.uses, r = .connection c
  /-- It lets nothing go. -/
  keeps : call.frees? = none
  /-- It asks for nothing new. -/
  acquires : call.acquires = false
  /-- It is about no box. -/
  apart : call.handlesBox = false

/-- What keeps a connection up stays on it. -/
theorem Call.StaysOn.of_upkeep? {c : ConnectionHandle} {call : Call} (h : call.upkeep? = some c) :
    call.StaysOn c := by
  cases call with
  | busyTimeout | execute | changes | totalChanges | lastInsertRowid | errorCode | extendedErrorCode
  | errorMessage | allowExtensions | loadExtension =>
    cases h
    exact ⟨by simp [Call.uses], rfl, rfl, rfl⟩
  | _ => cases h

/-- Calls about statements stay on any connection. -/
theorem Call.StaysOn.of_prepared? {c : ConnectionHandle} {call : Call} {p : PreparedHandle}
    (h : call.prepared? = some p) : call.StaysOn c := by
  cases call with
  | openConnection | closeConnection | busyTimeout | execute | prepare | changes | totalChanges
  | lastInsertRowid | errorCode | extendedErrorCode | errorMessage | allowExtensions | loadExtension
  | makeBox | dropBox | createFunction | backupStart | backupStep | backupRemaining | backupPageCount
  | backupFinish | readFile => cases h
  | _ => exact ⟨by simp [Call.uses], rfl, rfl, rfl⟩

/-- Compiling stays on the connection that is given. -/
theorem Call.StaysOn.prepare (c : ConnectionHandle) (sql : String) :
    (Call.prepare c sql).StaysOn c := ⟨by simp [Call.uses], rfl, rfl, rfl⟩

namespace History

variable {H d : History} {c : ConnectionHandle}

/-- Calls that stay on a connection do not change what is there. -/
theorem given_of_staysOn (hd : ∀ x ∈ d, x.call.StaysOn c) (r : Resource) : given d r = 0 := by
  rw [given, List.countP_eq_zero]
  intro x hx
  simp [Exchange.gives?_of_not_acquires (hd x hx).acquires]

/-- What stays on a connection gives nothing back. -/
theorem freed_of_staysOn (hd : ∀ x ∈ d, x.call.StaysOn c) (r : Resource) : freed d r = 0 := by
  rw [freed, List.countP_eq_zero]
  intro x hx
  simp [(hd x hx).keeps]

/-- A connection is there: it was not let go as often as it was handed out. -/
def Open (H : History) (c : ConnectionHandle) : Prop :=
  freed H (.connection c) < given H (.connection c)

/-- It is there as long as calls stay on a connection. -/
theorem Open.append (h : Open H c) {c' : ConnectionHandle} (hd : ∀ x ∈ d, x.call.StaysOn c') :
    Open (H ++ d) c := by
  rw [Open, freed_append, given_append, freed_of_staysOn hd, given_of_staysOn hd]
  exact h

/-- Calls that stay on it are allowed. -/
theorem Open.admits (h : Open H c) (hd : ∀ x ∈ d, x.call.StaysOn c) : Admits H d := by
  induction d generalizing H with
  | nil => exact trivial
  | cons x d ih =>
    have hx : ∀ y ∈ [x], y.call.StaysOn c := fun y hy => by
      rw [List.mem_singleton.mp hy]
      exact hd x List.mem_cons_self
    refine ⟨fun r hr => ?_, ih (h.append hx) fun y hy => hd y (List.mem_cons_of_mem x hy)⟩
    rw [(hd x List.mem_cons_self).uses r hr]
    exact .inl h

/-- So are those that come after them while it is there. -/
theorem Open.admits_append {d' : History} (h : Open H c) (hd : ∀ x ∈ d, x.call.StaysOn c)
    (hd' : Open (H ++ d) c → Admits (H ++ d) d') : Admits H (d ++ d') :=
  History.admits_append.mpr ⟨h.admits hd, hd' (h.append hd)⟩

end History

end GuardedSql
