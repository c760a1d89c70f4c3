import GuardedSql.Options.Document
import GuardedSql.Proofs.TomlDocuments
import Mathlib.Data.List.Nodup

/-!
# Options survive their document

Options are written one line for each, in the order of their keys, and the file layer only if there
is one. The document is read back as these fields, and taking them over one after the other, from
the default options on, leaves the options that were written.
-/

namespace GuardedSql

open Toml

theorem OptionKey.ofName?_name (key : OptionKey) : ofName? key.name = some key := by
  cases key <;> decide

theorem OptionKey.name_injective : Function.Injective OptionKey.name := by
  intro key key' h
  have hname := ofName?_name key
  rw [h, ofName?_name] at hname
  exact (Option.some.inj hname).symm

theorem OptionKey.isBareName (key : OptionKey) : IsBareName key.name.toList := by
  cases key <;> decide

theorem OpenMode.ofName?_name (mode : OpenMode) : ofName? mode.name = some mode := by
  cases mode <;> decide

namespace OpenOptions

/-- The values of the options that are written, under their keys. -/
def entries (o : OpenOptions) : List (OptionKey × Datum) :=
  [(.path, .string o.path), (.mode, .string o.mode.name), (.uri, .boolean o.uri),
    (.memory, .boolean o.memory), (.busyTimeoutMs, .integer o.busyTimeoutMs.toInt64)] ++
    (o.vfs.map fun s => (.vfs, .string s)).toList

/-- An entry under the name of its key. -/
def named (entry : OptionKey × Datum) : String × Datum := (entry.1.name, entry.2)

/-! ### Writing -/

theorem toList_tomlLine (key : OptionKey) (value rest : String) :
    (tomlLine key value ++ rest).toList = written key.name.toList value.toList rest.toList := by
  have hequals : " = ".toList = [' ', '=', ' '] := rfl
  have hend : "\n".toList = ['\n'] := rfl
  simp [tomlLine, written, hequals, hend]

theorem isDocument_tomlLine (key : OptionKey) {value rest : String} {d : Datum}
    {fields : List (String × Datum)} (hvalue : ReadsAs value.toList d)
    (hrest : IsDocument rest.toList fields) :
    IsDocument (tomlLine key value ++ rest).toList (named (key, d) :: fields) := by
  have hdocument := IsDocument.cons key.isBareName hvalue hrest
  rw [String.ofList_toList] at hdocument
  rw [toList_tomlLine]
  exact hdocument

theorem readsAs_tomlString (s : String) : ReadsAs (tomlString s).toList (.string s) := by
  have hstring := ReadsAs.string s.toList
  rw [String.ofList_toList] at hstring
  rw [tomlString, String.toList_ofList]
  exact hstring

theorem readsAs_int32 (n : Int32) : ReadsAs (toString n).toList (.integer n.toInt64) := by
  have hshown : toString n = toString n.toInt64 := by
    have hvalue := Int32.toInt_toInt64 n
    change n.toInt.repr = n.toInt64.toInt.repr
    rw [hvalue]
  rw [hshown]
  exact ReadsAs.integer n.toInt64

theorem isDocument_toToml (o : OpenOptions) :
    IsDocument o.toToml.toList (o.entries.map named) := by
  have hlines : ∀ {last : String} {fields : List (String × Datum)}, IsDocument last.toList fields →
      IsDocument (tomlLine .path (tomlString o.path) ++ (tomlLine .mode (tomlString o.mode.name) ++
        (tomlLine .uri (Shown.flag o.uri) ++ (tomlLine .memory (Shown.flag o.memory) ++
        (tomlLine .busyTimeoutMs (toString o.busyTimeoutMs) ++ last))))).toList
      (named (.path, .string o.path) :: named (.mode, .string o.mode.name) ::
        named (.uri, .boolean o.uri) :: named (.memory, .boolean o.memory) ::
        named (.busyTimeoutMs, .integer o.busyTimeoutMs.toInt64) :: fields) := by
    intro last fields hlast
    apply isDocument_tomlLine .path (readsAs_tomlString o.path)
    apply isDocument_tomlLine .mode (readsAs_tomlString o.mode.name)
    apply isDocument_tomlLine .uri (ReadsAs.boolean o.uri)
    apply isDocument_tomlLine .memory (ReadsAs.boolean o.memory)
    exact isDocument_tomlLine .busyTimeoutMs (readsAs_int32 o.busyTimeoutMs) hlast
  have hnone : IsDocument "".toList [] := IsDocument.nil
  simp only [toToml, entries, String.append_assoc]
  cases o.vfs with
  | none => exact hlines hnone
  | some s =>
    have hvfs := isDocument_tomlLine .vfs (readsAs_tomlString s) hnone
    rw [String.append_empty] at hvfs
    exact hlines hvfs

/-- No key is written twice. -/
theorem nodup_entries (o : OpenOptions) : ((o.entries.map named).map Prod.fst).Nodup := by
  have hkeys : (o.entries.map Prod.fst).Nodup := by
    cases hvfs : o.vfs <;> simp [entries, hvfs]
  have hnames := List.Nodup.map OptionKey.name_injective hkeys
  rw [List.map_map] at hnames ⊢
  exact hnames

/-! ### Reading -/

/-- Fields under the names of keys are taken over one after the other. -/
theorem ofFields_holds {fields : List (Entry Item)} {written : List (OptionKey × Datum)}
    (h : List.Forall₂ Entry.Holds fields (written.map named)) {o o' : OpenOptions}
    (hfold : written.foldlM (fun o entry => o.withItem (.value entry.2) entry.1) o = .ok o') :
    ofFields o fields = .ok o' := by
  induction written generalizing o fields with
  | nil =>
    cases h
    exact congrArg _ (Except.ok.inj hfold)
  | cons entry written ih =>
    cases h with
    | @cons field _ fields _ hfield hrest =>
      obtain ⟨hname, hitem⟩ := hfield
      have hkey : OptionKey.ofName? field.name = some entry.1 := by
        rw [hname]
        exact OptionKey.ofName?_name entry.1
      have hitem' : field.value.item = .value entry.2 := hitem
      rw [List.foldlM_cons] at hfold
      cases hwith : o.withItem (.value entry.2) entry.1 with
      | error objection =>
        rw [hwith] at hfold
        contradiction
      | ok next =>
        rw [hwith] at hfold
        have hfields := ih hrest hfold
        simp [ofFields, hkey, hitem', hwith, hfields]

theorem asInt32_toInt64 (n : Int32) : asInt32 (.value (.integer n.toInt64)) = .ok n := by
  have hlow := Int32.le_toInt n
  have hhigh := Int32.toInt_lt n
  have hrange : -2147483648 ≤ n.toInt64.toInt ∧ n.toInt64.toInt ≤ 2147483647 := by
    rw [Int32.toInt_toInt64]
    omega
  rw [asInt32, if_pos hrange, Int32.toInt32_toInt64]

theorem asMode_name (mode : OpenMode) : asMode (.value (.string mode.name)) = .ok mode := by
  rw [asMode, modeOfName, OpenMode.ofName?_name]

/-- Whatever is not written is as the default has it. -/
theorem foldlM_entries (o : OpenOptions) :
    o.entries.foldlM (fun o entry => o.withItem (.value entry.2) entry.1) {} = Except.ok o := by
  have hnext : ∀ (o : OpenOptions) (f : OpenOptions → Except Objection OpenOptions),
      (Except.ok o >>= f) = f o := fun _ _ => rfl
  obtain ⟨path, mode, uri, memory, busyTimeoutMs, vfs⟩ := o
  cases vfs <;>
    simp [entries, withItem, asString, asBool, asInt32_toInt64, asMode_name, Except.map, pure,
      Except.pure, hnext]

/-- Options that are written to a document are read back from it, whatever they are. -/
theorem ofToml_toToml (o : OpenOptions) : ofToml o.toToml = .ok o := by
  obtain ⟨entries, hentries, hread⟩ := o.isDocument_toToml.readDocument o.nodup_entries
  rw [String.ofList_toList] at hread
  have hfields := ofFields_holds hentries o.foldlM_entries
  simp [ofToml, hread, hfields]

end OpenOptions

end GuardedSql
