import GuardedSql.Proofs.PresentRow
import Mathlib.Order.Bounds.Basic

/-!
# First columns of a name

A name leads to the first column that had it when the statement was prepared, however often it came
again behind that column and whatever bytes it was read from. A search in the names of the heading
says the same, and when the engine still gives these names, each name that it gives leads back to
its own column or to an earlier one of the same name.
-/

namespace GuardedSql

variable {σ : Type}

namespace Heading

/-- The places of the columns with a name. -/
def places (h : Heading) (name : String) : Set Nat := {n | h.names[n]? = some name}

variable {h : Heading} {name : String} {m n : Nat}

/-- The search for a name ends at the least of its places. -/
theorem idxOf?_eq_some_iff : h.names.idxOf? name = some n ↔ IsLeast (h.places name) n := by
  rw [List.idxOf?_eq_some_iff]
  constructor
  · rintro ⟨hn, hname, hbefore⟩
    refine ⟨List.getElem?_eq_some_iff.mpr ⟨hn, hname⟩, fun m hm => ?_⟩
    obtain ⟨_, hname'⟩ := List.getElem?_eq_some_iff.mp hm
    by_contra hlt
    exact hbefore m (Nat.lt_of_not_le hlt) hname'
  · rintro ⟨hn, hleast⟩
    obtain ⟨hn', hname⟩ := List.getElem?_eq_some_iff.mp hn
    refine ⟨hn', hname, fun m hm hname' => ?_⟩
    have hle := hleast (List.getElem?_eq_some_iff.mpr ⟨_, hname'⟩)
    omega

/-- A place is the least one exactly if the name does not stand before it. -/
theorem isLeast_iff_not_mem_take (hn : n ∈ h.places name) :
    IsLeast (h.places name) n ↔ name ∉ h.names.take n := by
  constructor
  · rintro ⟨-, hleast⟩ hmem
    obtain ⟨m, hm⟩ := List.mem_iff_getElem?.mp hmem
    rw [List.getElem?_take] at hm
    split at hm
    · have hle := hleast hm
      omega
    · cases hm
  · intro hbefore
    refine ⟨hn, fun m hm => ?_⟩
    by_contra hlt
    apply hbefore
    apply List.mem_iff_getElem?.mpr
    exact ⟨m, by rw [List.getElem?_take, if_pos (Nat.lt_of_not_le hlt)]; exact hm⟩

end Heading

/-! ### Looking a name up -/

/-- The names of a statement lead to the first columns of a heading. -/
structure LeadsToFirst (q : Statement) (s : Store σ) (k : Cursor) (h : Heading) : Prop where
  /-- The engine is not asked. -/
  silent : ∀ name, (observe (q.columnIndex name) s).exchanges = []
  /-- An index is found exactly if it is the least one with the name. -/
  found : ∀ name i, (observe (q.columnIndex name) s).result = .ok i ↔
    ∃ n : Nat, IsLeast (h.places name) n ∧ i.toInt = n
  /-- The only failure is that no column has the name. -/
  unknown : ∀ name e, (observe (q.columnIndex name) s).result = .error e ↔
    e = .unknownColumn name ∧ name ∉ h.names
  /-- What is found may be taken. -/
  allowed : ∀ name i, (observe (q.columnIndex name) s).result = .ok i → k.checkIndex i = .ok ()

namespace Statement

variable {q : Statement} {k : Cursor} {h : Heading}

/-- A name is looked up without a call. -/
theorem columnIndex_run {s : Store σ} (hk : s.cursors.get? q.cursor = some k) (name : String) :
    q.columnIndex name s = (k.columnIndex name, s) := by
  rw [columnIndex, Action.bind_of_ok (CursorId.live_of_some hk), require_run]

/-- A cursor that knows a heading leads to its first columns. -/
theorem leadsToFirst {s : Store σ} (hk : s.cursors.get? q.cursor = some k) (hknows : k.Knows h)
    (hlength : h.names.length = h.count.toInt.toNat) : LeadsToFirst q s k h := by
  have hresult : ∀ name, (observe (q.columnIndex name) s).result = k.columnIndex name :=
    fun name => by rw [observe_of_run (columnIndex_run (s := s.recording) hk name)]
  constructor
  · intro name
    rw [observe_of_run (columnIndex_run (s := s.recording) hk name)]
    rfl
  · intro name i
    rw [hresult, hknows.columnIndex_eq]
    have hbound := h.count.toInt_lt
    cases hfind : h.names.idxOf? name with
    | none =>
      have hnone := List.idxOf?_eq_none_iff.mp hfind
      refine ⟨fun h => (by cases h), fun ⟨n, hleast, _⟩ => ?_⟩
      exact absurd (List.mem_iff_getElem?.mpr ⟨n, hleast.1⟩) hnone
    | some m =>
      obtain ⟨hm, -⟩ := List.idxOf?_eq_some_iff.mp hfind
      have hleast := Heading.idxOf?_eq_some_iff.mp hfind
      have hvalue : (Int32.ofNat m).toInt = m := Int32.toInt_ofNat_of_lt (by omega)
      constructor
      · intro hi
        obtain rfl := Except.ok.inj hi
        exact ⟨m, hleast, hvalue⟩
      · rintro ⟨n, hleast', hi⟩
        obtain rfl := hleast.unique hleast'
        rw [Int32.toInt_inj.mp (hi.trans hvalue.symm)]
  · intro name e
    rw [hresult, hknows.columnIndex_eq]
    cases hfind : h.names.idxOf? name with
    | none =>
      have hnone := List.idxOf?_eq_none_iff.mp hfind
      exact ⟨fun he => ⟨(Except.error.inj he).symm, hnone⟩, fun he => congrArg _ he.1.symm⟩
    | some m =>
      obtain ⟨hm, hname, -⟩ := List.idxOf?_eq_some_iff.mp hfind
      exact ⟨fun he => (by cases he), fun he => absurd (hname ▸ List.getElem_mem hm) he.2⟩
  · intro name i hi
    rw [hresult] at hi
    exact hknows.names hlength name i hi

end Statement

/-- A name leads from each of its places to itself, or to a place before. -/
theorem LeadsToFirst.back {q : Statement} {s : Store σ} {k : Cursor} {h : Heading} {name : String}
    {n : Nat} (hleads : LeadsToFirst q s k h) (hn : h.names[n]? = some name) :
    ∃ j, (observe (q.columnIndex name) s).result = .ok j ∧ j.toInt ≤ n ∧
      (j.toInt = n ↔ name ∉ h.names.take n) := by
  cases hresult : (observe (q.columnIndex name) s).result with
  | error e =>
    have hnot := ((hleads.unknown name e).mp hresult).2
    exact absurd (List.mem_iff_getElem?.mpr ⟨n, hn⟩) hnot
  | ok j =>
    obtain ⟨m, hleast, hj⟩ := (hleads.found name j).mp hresult
    have hle := hleast.2 hn
    refine ⟨j, rfl, by omega, ?_⟩
    rw [← Heading.isLeast_iff_not_mem_take hn, hj]
    constructor
    · intro hmn
      rwa [← Int.ofNat_inj.mp hmn]
    · intro hleast'
      rw [hleast.unique hleast']

/-! ### The names that the engine gives now -/

namespace Statement

variable [Engine σ] {q : Statement} {k : Cursor}

/-- The names of some columns are asked for one after another, and read as at preparation. -/
theorem mapM_columnName_run (l : List Nat) (hl : ∀ i ∈ l, i < k.columnCount.toInt.toNat)
    (s : Store (Recorder σ)) (hk : s.cursors.get? q.cursor = some k) :
    ∃ texts engine,
      (l.mapM fun i => q.columnName (Int32.ofNat i)) s =
        (.ok (texts.map NativeText.textOrEmpty), { s with engine }) ∧
      engine.exchanges = s.engine.exchanges ++ namings k.handle l texts ∧
      texts.length = l.length := by
  induction l generalizing s with
  | nil => exact ⟨[], s.engine, rfl, (List.append_nil _).symm, rfl⟩
  | cons i rest ih =>
    obtain ⟨hi, hrest⟩ := List.forall_mem_cons.mp hl
    obtain ⟨text, engine, hcall, hrec⟩ := native_recorded (.columnName k.handle (Int32.ofNat i)) s
    have hone : q.columnName (Int32.ofNat i) s =
        (.ok (NativeText.textOrEmpty text), { s with engine }) := by
      rw [columnName, Action.bind_of_ok (CursorId.live_of_some hk), k.checkIndex_ofNat hi,
        Action.bind_of_ok (require_run _ _), Action.bind_of_ok hcall]
      rfl
    obtain ⟨texts, engine', hmore, hrec', hlength⟩ := ih hrest { s with engine } hk
    refine ⟨text :: texts, engine', ?_, ?_, congrArg (· + 1) hlength⟩
    · rw [List.mapM_cons, Action.bind_of_ok hone, Action.bind_of_ok hmore]
      rfl
    · rw [hrec', hrec, List.append_assoc]
      rfl

/-- All names are asked for. The cursors stay as they are. -/
theorem columnNames_observed {s : Store σ} (hk : s.cursors.get? q.cursor = some k) :
    ∃ texts, texts.length = k.columnCount.toInt.toNat ∧
      (observe q.columnNames s).result = .ok (texts.map NativeText.textOrEmpty) ∧
      (observe q.columnNames s).exchanges =
        namings k.handle (List.range k.columnCount.toInt.toNat) texts ∧
      (observe q.columnNames s).store.cursors = s.cursors := by
  obtain ⟨texts, engine, hrun, hrec, hlength⟩ :=
    mapM_columnName_run (List.range k.columnCount.toInt.toNat) (fun _ => List.mem_range.mp)
      s.recording hk
  have hnames : q.columnNames s.recording =
      (.ok (texts.map NativeText.textOrEmpty), { s.recording with engine }) := by
    rw [columnNames, Action.bind_of_ok (columnCount_run (s := s.recording) hk), hrun]
  rw [observe_of_run hnames]
  exact ⟨texts, by rw [hlength, List.length_range], rfl, hrec, rfl⟩

end Statement

namespace Client

variable [Engine σ]

/-- On every engine and after any operations, a name leads to the first column that had it at
preparation, as the names were read then, and an index that is found may be taken. All columns are
named as the engine names them now. If these are still the names of the preparation, then each of
them leads back to its own place if it does not stand before, and to a place before if it does. -/
theorem names_lead_to_first_columns (engine : σ) (ops : List Operation) (q : Statement)
    (hq : q ∈ (run engine ops).statements) :
    let c := run engine ops
    let s := c.store
    ∃ h k, h.GivenIn (Entry.about c.history q.cursor) ∧ s.cursors.get? q.cursor = some k ∧
      LeadsToFirst q s k h ∧
      ∃ texts : List NativeText, texts.length = h.count.toInt.toNat ∧
        let named := observe q.columnNames s
        let names := texts.map NativeText.textOrEmpty
        named.result = .ok names ∧
        named.exchanges = namings k.handle (List.range h.count.toInt.toNat) texts ∧
        LeadsToFirst q named.store k h ∧
        (names = h.names → ∀ (n : Nat) name, names[n]? = some name →
          ∃ j, (observe (q.columnIndex name) named.store).result = .ok j ∧ j.toInt ≤ n ∧
            (j.toInt = n ↔ name ∉ names.take n)) := by
  intro c s
  have hsound : c.Sound := run_sound engine ops
  obtain ⟨k, hk⟩ := Option.isSome_iff_exists.mp (hsound.get?_isSome_iff.mpr (.inl ⟨q, hq, rfl⟩))
  obtain ⟨h, hknows, hgiven⟩ := run_described engine ops q.cursor k hk
  have hlength := hgiven.length_names
  obtain ⟨texts, hcount, hresult, hcalls, hcursors⟩ := Statement.columnNames_observed hk
  rw [hknows.columnCount] at hcount hcalls
  have hk' : (observe q.columnNames s).store.cursors.get? q.cursor = some k := by
    rw [hcursors]
    exact hk
  have hleads := Statement.leadsToFirst hk' hknows hlength
  refine ⟨h, k, hgiven, hk, Statement.leadsToFirst hk hknows hlength, texts, hcount, hresult,
    hcalls, hleads, fun hsame n name hn => ?_⟩
  rw [hsame] at hn ⊢
  exact hleads.back hn

end Client

/-- An engine whose statements have the columns of a list. -/
structure Titles where
  /-- The bytes of their names. -/
  names : List ByteArray

instance : Engine Titles where
  call c s :=
    match c with
    | .prepare .. => ((Code.ok, some ⟨0⟩), s)
    | .columnCount _ => (Int32.ofNat s.names.length, s)
    | .columnName _ i => (s.names[i.toInt.toNat]?, s)
    | _ => (default, s)

namespace Client

/-- Two columns whose names are different bytes that read as the same text, and one more: the text
leads to the first column, from the second one, too. -/
theorem names_lead_to_first_columns_of_sameReading :
    let c := run (⟨[⟨#[0xFF]⟩, ⟨#[0xFE]⟩, ⟨#[0x61]⟩]⟩ : Titles) [.prepare ⟨⟨0⟩, ""⟩ "SELECT * FROM t"]
    ∃ q ∈ c.statements, (observe (q.columnIndex "\uFFFD") c.store).result = .ok 0 ∧
      (observe q.columnNames c.store).result = .ok ["\uFFFD", "\uFFFD", "a"] ∧
      ∃ j, (observe (q.columnIndex "\uFFFD") (observe q.columnNames c.store).store).result = .ok j ∧
        j.toInt ≤ 1 ∧ (j.toInt = 1 ↔ "\uFFFD" ∉ ["\uFFFD"]) := by
  intro c
  have hstatements : c.statements = [⟨⟨⟨0⟩, ""⟩, "SELECT * FROM t", ⟨0⟩⟩] := rfl
  have hq := List.mem_singleton_self (Statement.mk ⟨⟨0⟩, ""⟩ "SELECT * FROM t" ⟨0⟩)
  rw [← hstatements] at hq
  obtain ⟨h, k, hgiven, -, hleads, texts, -, hresult, -, -, hback⟩ :=
    names_lead_to_first_columns _ _ _ hq
  have hsaid : Heading.GivenIn ⟨3, ["\uFFFD", "\uFFFD", "a"]⟩ (Entry.about c.history ⟨0⟩) :=
    ⟨⟨0⟩, "SELECT * FROM t", ⟨0⟩, [some ⟨#[0xFF]⟩, some ⟨#[0xFE]⟩, some ⟨#[0x61]⟩], [], rfl, rfl,
      by decide +kernel⟩
  obtain rfl := hsaid.unique hgiven
  have hnames : (observe (Statement.mk ⟨⟨0⟩, ""⟩ "SELECT * FROM t" ⟨0⟩).columnNames c.store).result =
      .ok ["\uFFFD", "\uFFFD", "a"] := by decide +kernel
  have htexts := Except.ok.inj (hresult.symm.trans hnames)
  have hfirst : IsLeast (Heading.places ⟨3, ["\uFFFD", "\uFFFD", "a"]⟩ "\uFFFD") 0 :=
    ⟨rfl, fun _ _ => Nat.zero_le _⟩
  refine ⟨_, hq, (hleads.found _ _).mpr ⟨0, hfirst, rfl⟩, hnames, ?_⟩
  rw [htexts] at hback
  exact hback rfl 1 "\uFFFD" rfl

end Client

end GuardedSql
