import GuardedSql.Proofs.FlatDocuments

/-!
# Tables without inner ones

A header makes a table of its own, and so does a key with points; neither is ever taken back. A
document whose table has no inner ones is therefore read from lines with one name each, and since a
name is new to the table when it is added, no name is given twice.
-/

namespace GuardedSql.Toml

/-- An item that is a table or an array of tables. -/
def Item.IsTable : Item → Prop
  | .value _ => False
  | _ => True

/-- There is an inner table among the fields. -/
def HasTable (fields : List (Entry Item)) : Prop := ∃ entry ∈ fields, entry.value.item.IsTable

section

variable {fields fields' : List (Entry Item)} {name : Name}
  {f : Option (Located Item) → Option (Located Item)}

/-! ### One entry -/

theorem hasTable_cons {entry : Entry Item} :
    HasTable (entry :: fields) ↔ entry.value.item.IsTable ∨ HasTable fields := by
  simp [HasTable]

/-- An update that always makes a table leaves one. -/
theorem hasTable_of_upsert (hf : ∀ {item? item'}, f item? = some item' → item'.item.IsTable)
    (hupsert : upsert name f fields = some fields') : HasTable fields' := by
  induction fields generalizing fields' with
  | nil =>
    obtain ⟨item, hitem, rfl⟩ := Option.map_eq_some_iff.mp hupsert
    rw [hasTable_cons]
    exact Or.inl (hf hitem)
  | cons entry fields ih =>
    rw [upsert] at hupsert
    split at hupsert
    · obtain ⟨item, hitem, rfl⟩ := Option.map_eq_some_iff.mp hupsert
      rw [hasTable_cons]
      exact Or.inl (hf hitem)
    · obtain ⟨rest, hrest, rfl⟩ := Option.map_eq_some_iff.mp hupsert
      rw [hasTable_cons]
      exact Or.inr (ih hrest)

/-- A path of tables has a table at its beginning. -/
theorem hasTable_of_descend {dotted : Bool} {g : List (Entry Item) → Option (List (Entry Item))}
    {names : List Name} (h : descend dotted g (name :: names) fields = some fields') :
    HasTable fields' := by
  rw [descend] at h
  apply hasTable_of_upsert _ h
  intro item? item' hitem
  split at hitem
  · obtain ⟨_, -, rfl⟩ := Option.map_eq_some_iff.mp hitem
    trivial
  · split at hitem
    · cases hitem
    · obtain ⟨_, -, rfl⟩ := Option.map_eq_some_iff.mp hitem
      trivial
  · obtain ⟨_, -, rfl⟩ := Option.map_eq_some_iff.mp hitem
    trivial
  · cases hitem

/-- A name that is added is new to its table. -/
theorem addEntry_eq_some {value : Located Datum}
    (h : addEntry [] name value fields = some fields') :
    (∀ entry ∈ fields, entry.name ≠ name.text) ∧
      fields' = fields ++ [⟨name.text, name.span, ⟨.value value.item, value.span?⟩⟩] := by
  rw [addEntry, descend] at h
  induction fields generalizing fields' with
  | nil =>
    cases h
    exact ⟨by simp, rfl⟩
  | cons entry fields ih =>
    rw [upsert] at h
    split at h
    · cases h
    · rename_i hne
      obtain ⟨rest, hrest, rfl⟩ := Option.map_eq_some_iff.mp h
      obtain ⟨hfresh, rfl⟩ := ih hrest
      refine ⟨?_, rfl⟩
      intro e he
      rcases List.mem_cons.mp he with rfl | he
      · simpa using hne
      · exact hfresh e he

theorem HasTable.addEntry {path : List Name} {value : Located Datum} (h : HasTable fields)
    (hadd : addEntry path name value fields = some fields') : HasTable fields' := by
  cases path with
  | nil =>
    rw [(addEntry_eq_some hadd).2]
    obtain ⟨entry, hentry, htable⟩ := h
    exact ⟨entry, List.mem_append_left _ hentry, htable⟩
  | cons => exact hasTable_of_descend hadd

/-! ### All lines -/

theorem HasTable.gather {lines rest : List Line} (h : HasTable fields)
    (hgather : gather fields lines = some (fields', rest)) : HasTable fields' := by
  fun_induction Toml.gather fields lines with
  | case1 fields names value rest name path hnames ih =>
    obtain ⟨next, hadd, hrest⟩ := Option.bind_eq_some_iff.mp hgather
    exact ih next (h.addEntry hadd) hrest
  | case2 => cases hgather
  | case3 =>
    cases hgather
    exact h

/-- A header makes a table, wherever its path ends. -/
theorem hasTable_of_header {path : List Name}
    (hf : ∀ {item? item'}, f item? = some item' → item'.item.IsTable)
    (h : descend false (upsert name f) path fields = some fields') : HasTable fields' := by
  cases path with
  | nil => exact hasTable_of_upsert hf h
  | cons => exact hasTable_of_descend h

/-- The lines from a header on leave a table. -/
theorem hasTable_of_assemble {lines : List Line} {fuel : Nat}
    (h : assemble fields fuel lines = some fields') (hlines : HasTable fields ∨ lines ≠ []) :
    HasTable fields' := by
  fun_induction assemble fields fuel lines with
  | case1 =>
    cases h
    exact hlines.resolve_right fun hne => hne rfl
  | case4 root fuel names span rest name path hnames ih =>
    obtain ⟨⟨inner, lines⟩, hgather, h⟩ := Option.bind_eq_some_iff.mp h
    obtain ⟨next, hnext, h⟩ := Option.bind_eq_some_iff.mp h
    refine ih lines next h (Or.inl (hasTable_of_header ?_ hnext))
    intro item? item' hitem
    split at hitem
    · cases hitem
      trivial
    · obtain ⟨_, -, rfl⟩ := Option.map_eq_some_iff.mp hitem
      trivial
    · cases hitem
  | case6 root fuel names span rest name path hnames ih =>
    obtain ⟨⟨inner, lines⟩, hgather, h⟩ := Option.bind_eq_some_iff.mp h
    obtain ⟨next, hnext, h⟩ := Option.bind_eq_some_iff.mp h
    refine ih lines next h (Or.inl (hasTable_of_header ?_ hnext))
    intro item? item' hitem
    split at hitem
    · cases hitem
      trivial
    · cases hitem
      trivial
    · cases hitem
  | _ => cases h

/-- Lines that leave no inner table have one name each, which is new to the table. -/
theorem gives_of_gather {lines : List Line} (h : gather fields lines = some (fields', []))
    (hflat : ¬HasTable fields') : ∃ given later, List.Forall₂ Line.Gives lines given ∧
      fields' = fields ++ later ∧ List.Forall₂ Entry.Holds later given ∧
        (∀ entry ∈ fields, entry.name ∉ given.map Prod.fst) ∧ (given.map Prod.fst).Nodup := by
  fun_induction gather fields lines with
  | case1 fields names value rest name path hnames ih =>
    obtain ⟨next, hadd, hrest⟩ := Option.bind_eq_some_iff.mp h
    obtain ⟨given, later, hgives, rfl, hholds, hfresh, hnodup⟩ := ih next hrest
    obtain rfl : path = [] := by
      by_contra hne
      obtain ⟨first, path', hpath⟩ := List.exists_cons_of_ne_nil (List.reverse_ne_nil_iff.mpr hne)
      rw [hpath] at hadd
      exact hflat ((hasTable_of_descend hadd).gather hrest)
    obtain ⟨hnew, rfl⟩ := addEntry_eq_some hadd
    obtain rfl : names = [name] := by simpa using congrArg List.reverse hnames
    refine ⟨(name.text, value.item) :: given, _ :: later, .cons (.intro name value) hgives,
      List.append_assoc _ _ _, .cons ⟨rfl, rfl⟩ hholds, ?_, ?_⟩
    · intro entry hentry
      rw [List.map_cons, List.mem_cons, not_or]
      exact ⟨hnew entry hentry, hfresh entry (List.mem_append_left _ hentry)⟩
    · rw [List.map_cons, List.nodup_cons]
      exact ⟨hfresh _ (List.mem_append_right _ List.mem_cons_self), hnodup⟩
  | case2 => cases h
  | case3 lines hlines =>
    cases h
    exact ⟨[], [], .nil, by simp, .nil, by simp, by simp⟩

end

/-! ### Documents -/

/-- A table whose entries are data has no inner ones. -/
theorem not_hasTable_of_holds {entries : List (Entry Item)} {fields : List (String × Datum)}
    (h : List.Forall₂ Entry.Holds entries fields) : ¬HasTable entries := by
  induction h with
  | nil => simp [HasTable]
  | cons hentry _ ih =>
    rw [hasTable_cons, hentry.2]
    exact fun htable => htable.elim id ih

/-- Entries hold one list of fields. -/
theorem Entry.Holds.rightUnique : Relator.RightUnique Entry.Holds := by
  rintro entry ⟨name, d⟩ ⟨name', d'⟩ ⟨hname, hitem⟩ ⟨hname', hitem'⟩
  have hd := Item.value.inj (hitem.symm.trans hitem')
  rw [Prod.mk.injEq]
  exact ⟨hname.symm.trans hname', hd⟩

/-- The text of a document without the mark of the byte order. -/
def unmarked (text : String) : List Char :=
  match text.toList with
  | '\uFEFF' :: rest => rest
  | cs => cs

theorem isFlatDocument_iff {text : String} {fields : List (String × Datum)} :
    IsFlatDocument text fields ↔ IsFlat (unmarked text) fields := by
  constructor
  · rintro ⟨cs, htext, hflat⟩
    have hmark := hflat.head?_ne
    have hcs : unmarked text = cs := by
      unfold unmarked
      split <;> rcases htext with h | h <;> simp_all
    rwa [hcs]
  · intro hflat
    refine ⟨_, ?_, hflat⟩
    unfold unmarked
    split
    · rename_i htext
      exact Or.inr htext
    · exact Or.inl rfl

/-- The lines are read first; those up to the first header make the table, and the others go into
it. -/
theorem readDocument_eq (text : String) : readDocument text =
    (readLines text.utf8ByteSize ((unmarked text).length + 1) (unmarked text)).bind fun lines =>
      (gather [] lines).bind fun r => assemble r.1 r.2.length r.2 := rfl

/-- A flat document whose names are given once is read as the fields of its lines, and what is read
as fields of simple kinds is such a document. -/
theorem readDocument_iff {text : String} {fields : List (String × Datum)} :
    (∃ entries, readDocument text = some entries ∧ List.Forall₂ Entry.Holds entries fields) ∧
        (∀ field ∈ fields, field.2.IsSimple) ↔
      IsFlatDocument text fields ∧ (fields.map Prod.fst).Nodup := by
  rw [isFlatDocument_iff, readDocument_eq]
  constructor
  · rintro ⟨⟨entries, h, hholds⟩, hsimple⟩
    have hflat := not_hasTable_of_holds hholds
    obtain ⟨lines, hlines, h⟩ := Option.bind_eq_some_iff.mp h
    obtain ⟨⟨root, headers⟩, hgather, h⟩ := Option.bind_eq_some_iff.mp h
    obtain rfl : headers = [] := by
      by_contra hne
      exact hflat (hasTable_of_assemble h (Or.inr hne))
    cases h
    obtain ⟨given, later, hgives, rfl, hlater, -, hnodup⟩ := gives_of_gather hgather hflat
    obtain rfl : given = fields := Entry.Holds.rightUnique.forall₂ hlater hholds
    exact ⟨isFlat_of_readLines hlines hgives hsimple, hnodup⟩
  · rintro ⟨hflat, hnodup⟩
    obtain ⟨lines, hlines, hread⟩ := hflat.readLines text.utf8ByteSize _ (Nat.le_succ _)
    obtain ⟨entries, hholds, hgather⟩ := gather_holds hlines hnodup [] (by simp)
    refine ⟨⟨entries, ?_, hholds⟩, hflat.isSimple⟩
    rw [hread, Option.bind_some, hgather, Option.bind_some]
    rfl

end GuardedSql.Toml
