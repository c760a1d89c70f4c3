import GuardedSql.Proofs.History

/-!
# Headings

What an engine says about the columns of a statement: how many there are and what they are called.
A cursor counts and names its columns as they were at preparation, and the calls by which it asked
for them are the first ones in the history of its statement.
-/

namespace GuardedSql

/-- The number and the names of the columns of a statement. -/
structure Heading where
  /-- The number. -/
  count : Int32
  /-- The names. -/
  names : List String
  deriving DecidableEq

/-- The calls that ask for the names of some columns, with the answers. -/
def namings (p : PreparedHandle) (indices : List Nat) (texts : List NativeText) : History :=
  List.zipWith (fun i text => ⟨.columnName p (Int32.ofNat i), text⟩) indices texts

/-- They are inquiries about the statement. -/
theorem asks_of_mem_namings {p : PreparedHandle} {indices : List Nat} {texts : List NativeText}
    {x : Exchange} (hx : x ∈ namings p indices texts) :
    x.call.isInquiry = true ∧ x.call.prepared? = some p := by
  induction indices generalizing texts with
  | nil => cases hx
  | cons i rest ih =>
    cases texts with
    | nil => cases hx
    | cons text texts =>
      rcases List.mem_cons.mp hx with rfl | hx
      · exact ⟨rfl, rfl⟩
      · exact ih hx

/-- As many names as are asked for can be read off the calls. -/
theorem namings_inj {p : PreparedHandle} {indices : List Nat} {texts texts' : List NativeText}
    (hlength : texts.length = indices.length) (hlength' : texts'.length = indices.length)
    (h : namings p indices texts = namings p indices texts') : texts = texts' := by
  induction indices generalizing texts texts' with
  | nil =>
    rw [List.eq_nil_of_length_eq_zero hlength, List.eq_nil_of_length_eq_zero hlength']
  | cons i rest ih =>
    cases texts with
    | nil => cases hlength
    | cons text texts =>
      cases texts' with
      | nil => cases hlength'
      | cons text' texts' =>
        obtain ⟨hhead, htail⟩ := List.cons.inj h
        cases hhead
        rw [ih (Nat.succ.inj hlength) (Nat.succ.inj hlength') htail]

namespace Heading

/-- A history begins with the preparation of a statement, and the engine gave a heading then. -/
def GivenIn (h : Heading) (H : History) : Prop :=
  ∃ connection sql p texts rest,
    H = ⟨.prepare connection sql, (Code.ok, some p)⟩ :: ⟨.columnCount p, h.count⟩ ::
      (namings p (List.range h.count.toInt.toNat) texts ++ rest) ∧
    texts.length = h.count.toInt.toNat ∧ h.names = texts.map NativeText.textOrEmpty

/-- A heading stays that of the preparation when there are more calls. -/
theorem GivenIn.append {h : Heading} {H : History} (hH : h.GivenIn H) (d : History) :
    h.GivenIn (H ++ d) := by
  obtain ⟨connection, sql, p, texts, rest, rfl, hlength, hnames⟩ := hH
  refine ⟨connection, sql, p, texts, rest ++ d, ?_, hlength, hnames⟩
  simp only [List.cons_append, List.append_assoc]

/-- A history tells the heading. -/
theorem GivenIn.unique {h h' : Heading} {H : History} (hH : h.GivenIn H) (hH' : h'.GivenIn H) :
    h' = h := by
  obtain ⟨count, names⟩ := h
  obtain ⟨count', names'⟩ := h'
  obtain ⟨_, _, p, texts, rest, heq, hlength, hnames⟩ := hH
  obtain ⟨_, _, p', texts', rest', heq', hlength', hnames'⟩ := hH'
  obtain ⟨hprepare, hrest⟩ := List.cons.inj (heq.symm.trans heq')
  cases hprepare
  obtain ⟨hcount, htail⟩ := List.cons.inj hrest
  cases hcount
  dsimp only at hlength hlength' hnames hnames' htail
  have htexts : (namings p (List.range count.toInt.toNat) texts).length =
      (namings p (List.range count.toInt.toNat) texts').length := by
    simp only [namings, List.length_zipWith, hlength, hlength']
  obtain ⟨hnamings, -⟩ := List.append_inj htail htexts
  have hsame := namings_inj (hlength.trans List.length_range.symm)
    (hlength'.trans List.length_range.symm) hnamings
  rw [hnames, hnames', hsame]

/-- There are as many names as columns. -/
theorem GivenIn.length_names {h : Heading} {H : History} (hH : h.GivenIn H) :
    h.names.length = h.count.toInt.toNat := by
  obtain ⟨_, _, _, texts, _, -, hlength, hnames⟩ := hH
  rw [hnames, List.length_map, hlength]

/-- What a lookup of a name finds: the first column with the name, or that there is none. -/
def Finds (h : Heading) (name : String) : Except Error Column → Prop
  | .ok v => ∃ n, v.index = Int32.ofNat n ∧ n < h.count.toInt.toNat ∧ h.names.idxOf? name = some n
  | .error e => e = .unknownColumn name ∧ name ∉ h.names

end Heading

namespace Cursor

/-- A cursor has the columns of a heading. -/
structure Knows (k : Cursor) (h : Heading) : Prop where
  /-- It counts them. -/
  columnCount : k.columnCount = h.count
  /-- It has the first index of each name. -/
  columnIndices : k.columnIndices = firstIndices h.names

/-- The names that are added to a table from an index on do not take over those that are there. -/
theorem get?_firstIndices_go (names : List String) (i : Int32) (t : Table String Int32)
    (name : String) :
    (firstIndices.go i names t).get? name =
      (t.get? name).or ((names.idxOf? name).map fun n => i + Int32.ofNat n) := by
  induction names generalizing i t with
  | nil => simp [firstIndices.go]
  | cons first rest ih =>
    rw [firstIndices.go, ih, List.idxOf?_cons]
    by_cases hname : first = name
    · subst hname
      rw [Table.has, beq_self_eq_true, if_pos rfl]
      cases hfirst : t.get? first with
      | some j => simp [hfirst]
      | none => simp
    · have hsame : (if t.has first then t else t.set first i).get? name = t.get? name := by
        split
        · rfl
        · exact Table.get?_set_of_ne _ _ (Ne.symm hname)
      rw [hsame, if_neg (by simpa using hname), Option.map_map]
      congr 2
      funext n
      rw [Function.comp_apply, Int32.ofNat_add, Int32.add_assoc, Int32.add_comm 1]
      rfl

/-- The table of first indices, as a search in the names. -/
theorem get?_firstIndices (names : List String) (name : String) :
    (firstIndices names).get? name = (names.idxOf? name).map Int32.ofNat := by
  rw [firstIndices, get?_firstIndices_go]
  simp [Table.get?, Table.find]

/-- The lookup of a name. -/
theorem Knows.columnIndex_eq {k : Cursor} {h : Heading} (hk : k.Knows h) (name : String) :
    k.columnIndex name =
      match h.names.idxOf? name with
      | some n => .ok (Int32.ofNat n)
      | none => .error (.unknownColumn name) := by
  rw [columnIndex, hk.columnIndices, get?_firstIndices]
  cases h.names.idxOf? name <;> rfl

end Cursor

end GuardedSql
