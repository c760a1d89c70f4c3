import GuardedSql.Proofs.FlatTables
import GuardedSql.Proofs.OptionsDocuments

/-!
# The documents that are options

Options are read from a flat document whose names are names of options, none of them given twice,
and whose values are of the kinds that the options take: two of them take any string, two a truth
value, one the name of a mode and one a whole number of 32 bits. The options that are given replace
those of the default, in whatever order they stand. Where the top of a document holds neither
arrays nor tables, nothing else is taken; a table could give the mode as well, by the name of its
one entry.
-/

namespace GuardedSql

namespace Toml

/-- Data that are neither arrays nor tables. -/
def Datum.IsScalar : Datum → Prop
  | .array _ | .table _ => False
  | _ => True

/-- Items that are neither arrays nor tables. -/
def Item.IsScalar : Item → Prop
  | .value d => d.IsScalar
  | _ => False

instance : DecidablePred Datum.IsScalar
  | .array _ | .table _ => .isFalse id
  | .string _ | .integer _ | .float _ | .boolean _ | .moment => .isTrue trivial

instance : DecidablePred Item.IsScalar
  | .value d => inferInstanceAs (Decidable d.IsScalar)
  | .table .. | .tables _ => .isFalse id

theorem Datum.IsSimple.isScalar {d : Datum} (h : d.IsSimple) : d.IsScalar := by
  cases d <;> trivial

/-- The fields of a table whose items are scalars. -/
theorem exists_fields {entries : List (Entry Item)}
    (h : ∀ entry ∈ entries, entry.value.item.IsScalar) :
    ∃ fields, List.Forall₂ Entry.Holds entries fields ∧ ∀ field ∈ fields, field.2.IsScalar := by
  induction entries with
  | nil => exact ⟨[], .nil, by simp⟩
  | cons entry entries ih =>
    obtain ⟨fields, hholds, hscalars⟩ := ih fun e he => h e (List.mem_cons_of_mem _ he)
    have hscalar := h entry List.mem_cons_self
    cases hitem : entry.value.item with
    | value d =>
      rw [hitem] at hscalar
      refine ⟨(entry.name, d) :: fields, .cons ⟨rfl, hitem⟩ hholds, ?_⟩
      intro field hfield
      rcases List.mem_cons.mp hfield with rfl | hfield
      · exact hscalar
      · exact hscalars field hfield
    | _ =>
      rw [hitem] at hscalar
      exact hscalar.elim

end Toml

open Toml

/-- A name of an option with a value that it takes. -/
inductive IsOption : String → Datum → Prop where
  | path (s : String) : IsOption "path" (.string s)
  | mode {s : String} (hs : s ∈ ["read-only", "read-write", "create"]) : IsOption "mode" (.string s)
  | uri (b : Bool) : IsOption "uri" (.boolean b)
  | memory (b : Bool) : IsOption "memory" (.boolean b)
  | busyTimeoutMs {n : Int64} (hlow : -2147483648 ≤ n.toInt) (hhigh : n.toInt ≤ 2147483647) :
      IsOption "busy_timeout_ms" (.integer n)
  | vfs (s : String) : IsOption "vfs" (.string s)

/-- A document of options, with the fields that it gives. -/
structure IsOptionsDocument (text : String) (fields : List (String × Datum)) : Prop where
  /-- The document is well-formed. -/
  flat : IsFlatDocument text fields
  /-- No name is given twice. -/
  nodup : (fields.map Prod.fst).Nodup
  /-- Each name is one of an option, and has a value that the option takes. -/
  options : ∀ field ∈ fields, IsOption field.1 field.2

theorem IsOption.isSimple {name : String} {d : Datum} (h : IsOption name d) : d.IsSimple := by
  cases h <;> trivial

/-- An option has a key. -/
theorem IsOption.exists_key {name : String} {d : Datum} (h : IsOption name d) :
    ∃ key : OptionKey, key.name = name := by
  cases h with
  | path => exact ⟨.path, rfl⟩
  | mode => exact ⟨.mode, rfl⟩
  | uri => exact ⟨.uri, rfl⟩
  | memory => exact ⟨.memory, rfl⟩
  | busyTimeoutMs => exact ⟨.busyTimeoutMs, rfl⟩
  | vfs => exact ⟨.vfs, rfl⟩

theorem OptionKey.name_of_ofName? {s : String} {key : OptionKey} (h : ofName? s = some key) :
    key.name = s := by
  simpa using List.find?_some h

theorem OpenMode.name_injective : Function.Injective OpenMode.name := by
  intro m m' h
  have hname := ofName?_name m
  rw [h, ofName?_name] at hname
  exact (Option.some.inj hname).symm

theorem OpenMode.ofName?_eq_some_iff {s : String} {m : OpenMode} :
    ofName? s = some m ↔ m.name = s := by
  constructor
  · intro h
    simpa using List.find?_some h
  · rintro rfl
    exact ofName?_name m

theorem OpenMode.exists_name_iff {s : String} :
    (∃ m : OpenMode, m.name = s) ↔ s ∈ ["read-only", "read-write", "create"] := by
  constructor
  · rintro ⟨m, rfl⟩
    cases m <;> decide
  · intro h
    simp only [List.mem_cons, List.not_mem_nil, or_false] at h
    rcases h with rfl | rfl | rfl
    · exact ⟨.readOnly, rfl⟩
    · exact ⟨.readWrite, rfl⟩
    · exact ⟨.create, rfl⟩

namespace OpenOptions

/-- The value of an option as a document holds it, if it has one. -/
def datum? (o : OpenOptions) : OptionKey → Option Datum
  | .path => some (.string o.path)
  | .mode => some (.string o.mode.name)
  | .uri => some (.boolean o.uri)
  | .memory => some (.boolean o.memory)
  | .busyTimeoutMs => some (.integer o.busyTimeoutMs.toInt64)
  | .vfs => o.vfs.map .string

/-- Options are known by their values. -/
theorem datum?_injective : Function.Injective datum? := by
  intro o o' h
  have hpath := congrFun h .path
  have hmode := congrFun h .mode
  have huri := congrFun h .uri
  have hmemory := congrFun h .memory
  have htimeout := congrFun h .busyTimeoutMs
  have hvfs := congrFun h .vfs
  simp only [datum?, Option.some.injEq, Datum.string.injEq, Datum.boolean.injEq,
    Datum.integer.injEq] at hpath hmode huri hmemory htimeout hvfs
  have hmode := OpenMode.name_injective hmode
  have htimeout := Function.LeftInverse.injective Int32.toInt32_toInt64 htimeout
  have hvfs := Option.map_injective (fun _ _ => Datum.string.inj) hvfs
  cases o
  cases o'
  simp_all

/-! ### One option -/

section

variable {d : Datum}

theorem asString_eq_ok_iff {s : String} : asString (.value d) = .ok s ↔ d = .string s := by
  cases d <;> simp [asString]

theorem asBool_eq_ok_iff {b : Bool} : asBool (.value d) = .ok b ↔ d = .boolean b := by
  cases d <;> simp [asBool]

theorem toInt64_toInt32 {n : Int64} (hlow : -2147483648 ≤ n.toInt) (hhigh : n.toInt ≤ 2147483647) :
    n.toInt32.toInt64 = n := by
  rw [← Int64.toInt_inj, Int32.toInt_toInt64, Int64.toInt_toInt32]
  apply Int.bmod_eq_of_le <;> omega

theorem asInt32_eq_ok_iff {k : Int32} :
    asInt32 (.value d) = .ok k ↔ d = .integer k.toInt64 := by
  constructor
  · intro h
    unfold asInt32 at h
    split at h
    · split at h
      · rename_i n heq hrange
        cases heq
        cases h
        rw [toInt64_toInt32 hrange.1 hrange.2]
      · cases h
    · cases h
  · rintro rfl
    exact asInt32_toInt64 k

/-- A mode that is no table is given by its name. -/
theorem asMode_eq_ok_iff (hscalar : d.IsScalar) {m : OpenMode} :
    asMode (.value d) = .ok m ↔ d = .string m.name := by
  constructor
  · intro h
    cases d with
    | string s =>
      rw [asMode, modeOfName] at h
      split at h
      · rename_i m' hm
        cases h
        rw [OpenMode.ofName?_eq_some_iff.mp hm]
      · cases h
    | table => exact hscalar.elim
    | _ => cases h
  · rintro rfl
    exact asMode_name m

theorem exists_of_map_eq_ok {ε α β : Type} {x : Except ε α} {f : α → β} {b : β}
    (h : x.map f = .ok b) : ∃ a, x = .ok a ∧ f a = b := by
  cases x with
  | error => cases h
  | ok a =>
    cases h
    exact ⟨a, rfl, rfl⟩

variable {o o' : OpenOptions} {key : OptionKey}

/-- What is taken over replaces one option and leaves the others. -/
theorem isOption_of_withItem (hscalar : d.IsScalar) (h : o.withItem (.value d) key = .ok o') :
    IsOption key.name d ∧
      ∀ other, o'.datum? other = if other = key then some d else o.datum? other := by
  cases key with
  | path =>
    obtain ⟨s, hs, rfl⟩ := exists_of_map_eq_ok h
    obtain rfl := asString_eq_ok_iff.mp hs
    exact ⟨.path s, fun other => by cases other <;> rfl⟩
  | mode =>
    obtain ⟨m, hm, rfl⟩ := exists_of_map_eq_ok h
    obtain rfl := (asMode_eq_ok_iff hscalar).mp hm
    exact ⟨.mode (OpenMode.exists_name_iff.mp ⟨m, rfl⟩), fun other => by cases other <;> rfl⟩
  | uri =>
    obtain ⟨b, hb, rfl⟩ := exists_of_map_eq_ok h
    obtain rfl := asBool_eq_ok_iff.mp hb
    exact ⟨.uri b, fun other => by cases other <;> rfl⟩
  | memory =>
    obtain ⟨b, hb, rfl⟩ := exists_of_map_eq_ok h
    obtain rfl := asBool_eq_ok_iff.mp hb
    exact ⟨.memory b, fun other => by cases other <;> rfl⟩
  | busyTimeoutMs =>
    obtain ⟨k, hk, rfl⟩ := exists_of_map_eq_ok h
    obtain rfl := asInt32_eq_ok_iff.mp hk
    have hlow := Int32.le_toInt k
    have hhigh := Int32.toInt_lt k
    have hvalue := Int32.toInt_toInt64 k
    exact ⟨.busyTimeoutMs (by omega) (by omega), fun other => by cases other <;> rfl⟩
  | vfs =>
    obtain ⟨s, hs, rfl⟩ := exists_of_map_eq_ok h
    obtain rfl := asString_eq_ok_iff.mp hs
    exact ⟨.vfs s, fun other => by cases other <;> rfl⟩

/-- A value that an option takes is taken over. -/
theorem exists_withItem {name : String} (h : IsOption name d) (hkey : key.name = name)
    (o : OpenOptions) : ∃ o', o.withItem (.value d) key = .ok o' := by
  cases h with
  | path s =>
    obtain rfl : key = .path := OptionKey.name_injective hkey
    exact ⟨_, rfl⟩
  | mode hs =>
    obtain rfl : key = .mode := OptionKey.name_injective hkey
    obtain ⟨m, rfl⟩ := OpenMode.exists_name_iff.mpr hs
    exact ⟨_, by rw [withItem, asMode_name, Except.map]⟩
  | uri b =>
    obtain rfl : key = .uri := OptionKey.name_injective hkey
    exact ⟨_, rfl⟩
  | memory b =>
    obtain rfl : key = .memory := OptionKey.name_injective hkey
    exact ⟨_, rfl⟩
  | @busyTimeoutMs n hlow hhigh =>
    obtain rfl : key = .busyTimeoutMs := OptionKey.name_injective hkey
    exact ⟨_, by rw [withItem, asInt32, if_pos ⟨hlow, hhigh⟩, Except.map]⟩
  | vfs s =>
    obtain rfl : key = .vfs := OptionKey.name_injective hkey
    exact ⟨_, rfl⟩

end

/-! ### All options -/

/-- The options that fields give, and the default ones where they give none. -/
def GivenBy (o : OpenOptions) (fields : List (String × Datum)) : Prop :=
  ∀ key, o.datum? key = (fields.lookup key.name).or (datum? {} key)

section

variable {entries : List (Entry Item)} {fields : List (String × Datum)} {o o' : OpenOptions}

/-- Fields that are taken over one after the other are options, and replace those that they name. -/
theorem options_of_ofFields (h : List.Forall₂ Entry.Holds entries fields)
    (hscalars : ∀ field ∈ fields, field.2.IsScalar) (hok : ofFields o entries = .ok o') :
    (∀ field ∈ fields, IsOption field.1 field.2) ∧ ((fields.map Prod.fst).Nodup →
      ∀ key, o'.datum? key = (fields.lookup key.name).or (o.datum? key)) := by
  induction h generalizing o with
  | nil =>
    cases hok
    exact ⟨by simp, fun _ _ => rfl⟩
  | @cons entry field entries fields hentry _ ih =>
    obtain ⟨name, d⟩ := field
    obtain ⟨hname, hitem⟩ := hentry
    rw [ofFields, hname, hitem] at hok
    split at hok
    · cases hok
    · rename_i key hkey
      obtain rfl : key.name = name := OptionKey.name_of_ofName? hkey
      split at hok
      · rename_i next hnext
        obtain ⟨hoption, hdatum⟩ := isOption_of_withItem (hscalars _ List.mem_cons_self) hnext
        have hscalars' := fun f hf => hscalars f (List.mem_cons_of_mem _ hf)
        obtain ⟨hoptions, hrest⟩ := ih hscalars' hok
        refine ⟨?_, fun hnodup other => ?_⟩
        · intro f hf
          rcases List.mem_cons.mp hf with rfl | hf
          · exact hoption
          · exact hoptions f hf
        · rw [List.map_cons, List.nodup_cons] at hnodup
          rw [hrest hnodup.2 other, hdatum other, List.lookup_cons]
          by_cases hother : other = key
          · -- the name is not given again, so that its value stays
            subst hother
            have hnone : fields.lookup other.name = none := by
              rw [List.lookup_eq_none_iff]
              rintro ⟨name, d⟩ hmem
              have hne : other.name ≠ name := by
                rintro rfl
                exact hnodup.1 (List.mem_map.mpr ⟨_, hmem, rfl⟩)
              simpa using hne
            simp [hnone]
          · have hne : (other.name == key.name) = false := by
              simpa using fun heq => hother (OptionKey.name_injective heq)
            simp [hother, hne]
      · cases hok

/-- Fields that are options are taken over. -/
theorem exists_ofFields (h : List.Forall₂ Entry.Holds entries fields)
    (hoptions : ∀ field ∈ fields, IsOption field.1 field.2) (o : OpenOptions) :
    ∃ o', ofFields o entries = .ok o' := by
  induction h generalizing o with
  | nil => exact ⟨o, rfl⟩
  | @cons entry field entries fields hentry _ ih =>
    obtain ⟨hname, hitem⟩ := hentry
    have hoption := hoptions field List.mem_cons_self
    obtain ⟨key, hkey⟩ := hoption.exists_key
    obtain ⟨next, hnext⟩ := exists_withItem hoption hkey o
    obtain ⟨o', ho'⟩ := ih (fun f hf => hoptions f (List.mem_cons_of_mem _ hf)) next
    refine ⟨o', ?_⟩
    rw [ofFields, hname, hitem, ← hkey, OptionKey.ofName?_name]
    simp only [hnext, ho']

end

/-! ### Documents -/

section

variable {text : String} {fields : List (String × Datum)} {o : OpenOptions}

theorem ofToml_eq_ok_iff : ofToml text = .ok o ↔
    ∃ entries, readDocument text = some entries ∧ ofFields {} entries = .ok o := by
  unfold ofToml
  constructor
  · intro h
    split at h
    · cases h
    · rename_i entries hread
      split at h
      · rename_i o' hok
        cases h
        exact ⟨entries, hread, hok⟩
      · cases h
      · cases h
  · rintro ⟨entries, hread, hok⟩
    simp only [hread, hok]

/-- Whatever is wrong with a document, the fault is one of options. -/
theorem exists_fault {e : Error} (h : ofToml text = .error e) : ∃ fault, e = .options fault := by
  unfold ofToml at h
  split at h
  · cases h
    exact ⟨_, rfl⟩
  · split at h
    · cases h
    · cases h
      exact ⟨_, rfl⟩
    · cases h
      exact ⟨_, rfl⟩

/-- A document of options is taken for those that it gives. -/
theorem exists_ofToml (h : IsOptionsDocument text fields) :
    ∃ o, ofToml text = .ok o ∧ o.GivenBy fields := by
  obtain ⟨⟨entries, hread, hholds⟩, hsimple⟩ := readDocument_iff.mpr ⟨h.flat, h.nodup⟩
  obtain ⟨o, hok⟩ := exists_ofFields hholds h.options {}
  have hscalars : ∀ field ∈ fields, field.2.IsScalar := fun f hf => (hsimple f hf).isScalar
  obtain ⟨-, hgiven⟩ := options_of_ofFields hholds hscalars hok
  exact ⟨o, ofToml_eq_ok_iff.mpr ⟨entries, hread, hok⟩, hgiven h.nodup⟩

theorem isOptionsDocument_of_ofToml
    (hscalars : ∀ entries ∈ readDocument text, ∀ entry ∈ entries, entry.value.item.IsScalar)
    (h : ofToml text = .ok o) : ∃ fields, IsOptionsDocument text fields ∧ o.GivenBy fields := by
  obtain ⟨entries, hread, hok⟩ := ofToml_eq_ok_iff.mp h
  obtain ⟨fields, hholds, hscalars⟩ := exists_fields (hscalars entries hread)
  obtain ⟨hoptions, hgiven⟩ := options_of_ofFields hholds hscalars hok
  have hsimple : ∀ field ∈ fields, field.2.IsSimple := fun f hf => (hoptions f hf).isSimple
  obtain ⟨hflat, hnodup⟩ := readDocument_iff.mp ⟨⟨entries, hread, hholds⟩, hsimple⟩
  exact ⟨fields, ⟨hflat, hnodup, hoptions⟩, hgiven hnodup⟩

end

/-- A document whose top holds neither arrays nor tables is taken for options exactly if it is one
of options, and then for those that it gives; otherwise the fault is one of the document. -/
theorem ofToml_takes_options_documents (text : String)
    (hscalars : ∀ entries ∈ readDocument text, ∀ entry ∈ entries, entry.value.item.IsScalar) :
    (∀ o, ofToml text = .ok o ↔ ∃ fields, IsOptionsDocument text fields ∧ o.GivenBy fields) ∧
      ((∃ o, ofToml text = .ok o) ↔ ∃ fields, IsOptionsDocument text fields) ∧
        ∀ e, ofToml text = .error e → ∃ fault, e = .options fault := by
  have hsound := fun o => isOptionsDocument_of_ofToml (o := o) hscalars
  refine ⟨fun o => ⟨hsound o, ?_⟩, ⟨?_, ?_⟩, fun e => exists_fault⟩
  · rintro ⟨fields, hdocument, hgiven⟩
    obtain ⟨o', hok, hgiven'⟩ := exists_ofToml hdocument
    have hsame := fun key => (hgiven key).trans (hgiven' key).symm
    rw [datum?_injective (funext hsame)]
    exact hok
  · rintro ⟨o, hok⟩
    obtain ⟨fields, hdocument, -⟩ := hsound o hok
    exact ⟨fields, hdocument⟩
  · rintro ⟨fields, hdocument⟩
    obtain ⟨o, hok, -⟩ := exists_ofToml hdocument
    exact ⟨o, hok⟩

theorem ofToml_takes_options_documents_of_mixedForms :
    let text := "\"mode\" = 'read-only' # nothing is written\n\n" ++
      " busy_timeout_ms=0x7fff_ffff\nvfs = \"\"\"\nunix\"\"\""
    (∀ entries ∈ readDocument text, ∀ entry ∈ entries, entry.value.item.IsScalar) ∧
      ∃ fields, IsOptionsDocument text fields ∧
        GivenBy { mode := .readOnly, busyTimeoutMs := 2147483647, vfs := some "unix" } fields := by
  intro text
  have hscalars : ∀ entries ∈ readDocument text, ∀ entry ∈ entries, entry.value.item.IsScalar := by
    decide +kernel
  have hok : ofToml text =
      .ok { mode := .readOnly, busyTimeoutMs := 2147483647, vfs := some "unix" } := by
    decide +kernel
  exact ⟨hscalars, ((ofToml_takes_options_documents text hscalars).1 _).mp hok⟩

/-- What is almost an option is none. -/
example : ∀ text ∈ ["busy_timeout_ms = 2147483648", "busy_timeout_ms = 1.0", "mode = 'Create'",
    "uri = 'true'", "vfs = ''\n'vfs' = ''"], (ofToml text).toOption = none := by
  decide +kernel

end OpenOptions

end GuardedSql
