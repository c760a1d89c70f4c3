import GuardedSql.Text.Shown
import GuardedSql.Proofs.TomlValueForms
import Mathlib.Data.List.Forall2

/-!
# Written documents are read back

A document of `key = value` lines is read back as the entries it was written from. A value is any
text that the reader takes up to the end of its line, whatever comes behind; written strings, truth
values and whole numbers are such texts. A document is then read line by line, and the lines are
gathered to one table, which no name may enter twice.
-/

namespace GuardedSql.Toml

/-! ### Whole numbers -/

/-- No zero stands in front of other digits. -/
theorem head?_toDigits {n : Nat} (h : n ≠ 0) : (Nat.toDigits 10 n).head? ≠ some '0' := by
  induction n using Nat.strongRecOn with
  | ind n ih =>
    rcases Nat.lt_or_ge n 10 with hlt | hge
    · rw [Nat.toDigits_of_lt_base hlt]
      have hsmall : ∀ m < 10, m ≠ 0 → Nat.digitChar m ≠ '0' := by decide
      simpa using hsmall n hlt h
    · have hdiv : n / 10 ≠ 0 := by omega
      have hhead := ih (n / 10) (by omega) hdiv
      rw [Nat.toDigits_of_base_le (by omega) hge, List.head?_append_of_ne_nil _ Nat.toDigits_ne_nil]
      exact hhead

theorem isDigit_of_mem_toDigits {n : Nat} : ∀ c ∈ Nat.toDigits 10 n, isDigit c = true := by
  intro c hc
  rw [isDigit_eq]
  exact Nat.isDigit_of_mem_toDigits (by omega) (by omega) hc

theorem decimalValue_toDigits (n : Nat) : decimalValue (Nat.toDigits 10 n) = n := by
  have hvalue := @Nat.ofDigitChars_ten_toDigits n
  simpa [decimalValue, digitValue, Nat.ofDigitChars, Nat.mul_comm] using hvalue

theorem exists_toDigits (n : Nat) : ∃ c ds, Nat.toDigits 10 n = c :: ds ∧ isDigit c = true := by
  obtain ⟨c, ds, hdigits⟩ := List.exists_cons_of_ne_nil (@Nat.toDigits_ne_nil n 10)
  have hc : isDigit c = true := by
    apply isDigit_of_mem_toDigits (n := n)
    rw [hdigits]
    exact List.mem_cons_self
  exact ⟨c, ds, hdigits, hc⟩

theorem digits_append {ds : List Char} (hdigits : ∀ c ∈ ds, isDigitOf 10 c = true) (hds : ds ≠ [])
    (rest : List Char) : Digits (isDigitOf 10) (ds ++ rest) ds rest := by
  induction ds with
  | nil => exact absurd rfl hds
  | cons c ds ih =>
    have hc := hdigits c List.mem_cons_self
    cases ds with
    | nil => exact .one hc
    | cons d ds => exact .next hc (ih (fun e he => hdigits e (List.mem_cons_of_mem c he)) (by simp))

/-- The digits of a number are what it is written as in base ten. -/
theorem isDecimal_toDigits (n : Nat) (rest : List Char) :
    IsDecimal (Nat.toDigits 10 n ++ rest) (Nat.toDigits 10 n) rest := by
  refine ⟨digits_append (fun c hc => ?_) Nat.toDigits_ne_nil rest, fun hzero => ?_⟩
  · rw [isDigitOf_ten]
    exact isDigit_of_mem_toDigits c hc
  · rcases Nat.eq_zero_or_pos n with rfl | hpos
    · rfl
    · exact absurd hzero (head?_toDigits (Nat.ne_of_gt hpos))

theorem positional_toDigits (n : Nat) : positional 10 (Nat.toDigits 10 n) = n := by
  rw [positional_ten isDigit_of_mem_toDigits, decimalValue_toDigits]

/-! ### Values -/

/-- Whatever comes behind the end of its line, a text is read as a value. -/
structure ReadsAs (value : List Char) (d : Datum) : Prop where
  /-- No blank stands in front. -/
  starts : ∃ c t, value = c :: t ∧ isBlank c = false
  /-- The reader stops at the end of the line. -/
  reads : ∀ total fuel depth rest, ∃ span, readValue total (fuel + 1) depth (value ++ '\n' :: rest) =
    some (⟨d, some span⟩, '\n' :: rest)

/-- A written text begins with a quote. -/
theorem exists_writeString (cs : List Char) :
    ∃ t, writeString cs = '"' :: t ∨ writeString cs = '\'' :: t := by
  by_cases hraw : isRaw cs = true <;> by_cases hline : '\n' ∈ cs
  · exact ⟨_, Or.inr (writeString_raw_long hraw hline)⟩
  · by_cases hquote : '\'' ∈ cs
    · exact ⟨_, Or.inr (writeString_raw_quoted hraw hline hquote)⟩
    · exact ⟨_, Or.inr (writeString_raw hraw hline hquote)⟩
  · exact ⟨_, Or.inl (writeString_long hraw hline)⟩
  · exact ⟨_, Or.inl (writeString_basic hraw hline)⟩

theorem follows_newline (rest : List Char) : Follows ('\n' :: rest) := by
  rintro c ⟨⟩
  simp

/-- What is written by the rules is read, whatever comes behind the end of its line. -/
theorem ReadsAs.of_isValue {value : List Char} {d : Datum}
    (hstarts : ∃ c t, value = c :: t ∧ isBlank c = false)
    (h : ∀ rest, IsValue (value ++ '\n' :: rest) d ('\n' :: rest)) : ReadsAs value d :=
  ⟨hstarts, fun total fuel depth rest => (h rest).readValue (follows_newline rest) total fuel depth⟩

theorem ReadsAs.string (cs : List Char) :
    ReadsAs (writeString cs) (.string (String.ofList cs)) := by
  apply ReadsAs.of_isValue
  · obtain ⟨t, hquote⟩ := exists_writeString cs
    rcases hquote with h | h <;> exact ⟨_, t, h, by decide⟩
  · intro rest
    exact .string (readString_iff.mp (readString_writeString cs rest))

theorem ReadsAs.boolean (b : Bool) : ReadsAs (Shown.flag b).toList (.boolean b) := by
  cases b
  · exact ReadsAs.of_isValue ⟨'f', _, rfl, by decide⟩ fun _ => .no
  · exact ReadsAs.of_isValue ⟨'t', _, rfl, by decide⟩ fun _ => .yes

/-- The digits of a 64-bit integer, behind a minus if it is negative. -/
theorem toList_toString (n : Int64) : (toString n).toList =
    if n.toInt < 0 then '-' :: Nat.toDigits 10 n.toInt.natAbs
    else Nat.toDigits 10 n.toInt.natAbs := by
  have hshown : toString n = n.toInt.repr := rfl
  rw [hshown]
  cases n.toInt with
  | ofNat k => simp [Int.repr, Nat.repr_eq_ofList_toDigits]
  | negSucc k => simp [Int.repr, Nat.repr_eq_ofList_toDigits, Int.negSucc_lt_zero]

theorem ReadsAs.integer (n : Int64) : ReadsAs (toString n).toList (.integer n) := by
  have hvalue := positional_toDigits n.toInt.natAbs
  have hdecimal := fun rest => isDecimal_toDigits n.toInt.natAbs ('\n' :: rest)
  rw [toList_toString]
  split
  · have hn : n.toInt = -(positional 10 (Nat.toDigits 10 n.toInt.natAbs) : Int) := by omega
    apply ReadsAs.of_isValue ⟨'-', _, rfl, by decide⟩
    intro rest
    have hinteger := IsInteger.minus (hdecimal rest)
    rw [← hn] at hinteger
    exact .integer hinteger
  · have hn : n.toInt = positional 10 (Nat.toDigits 10 n.toInt.natAbs) := by omega
    obtain ⟨c, ds, hdigits, hc⟩ := exists_toDigits n.toInt.natAbs
    apply ReadsAs.of_isValue
    · have hother := opensOther_of_isDigit hc
      simp only [opensOther, Bool.or_eq_false_iff] at hother
      exact ⟨c, ds, hdigits, hother.1.1.1.1⟩
    · intro rest
      have hinteger := IsInteger.plain (hdecimal rest)
      rw [← hn] at hinteger
      exact .integer hinteger

/-! ### Lines -/

/-- A name that is written without quotes. -/
def IsBareName (name : List Char) : Prop := name ≠ [] ∧ ∀ c ∈ name, isBare c = true

instance (name : List Char) : Decidable (IsBareName name) :=
  decidable_of_iff (name ≠ [] ∧ name.all isBare = true) (by rw [IsBareName, List.all_eq_true])

section

variable {name value : List Char}

theorem dropWhile_append {p : Char → Bool} {front rest : List Char}
    (hfront : ∀ c ∈ front, p c = true) (hrest : ∀ c, rest.head? = some c → p c = false) :
    (front ++ rest).dropWhile p = rest := by
  rw [List.dropWhile_append_of_pos hfront]
  cases rest with
  | nil => rfl
  | cons c t => exact List.dropWhile_cons_of_neg (by rw [hrest c rfl]; exact Bool.false_ne_true)

theorem takeWhile_append {p : Char → Bool} {front rest : List Char}
    (hfront : ∀ c ∈ front, p c = true) (hrest : ∀ c, rest.head? = some c → p c = false) :
    (front ++ rest).takeWhile p = front := by
  have hsplit := List.takeWhile_append_dropWhile (p := p) (l := front ++ rest)
  rw [dropWhile_append hfront hrest] at hsplit
  exact List.append_cancel_right hsplit

@[simp] theorem skipBlanks_space (cs : List Char) : skipBlanks (' ' :: cs) = skipBlanks cs := rfl

theorem skipBlanks_cons {c : Char} (hc : isBlank c = false) (cs : List Char) :
    skipBlanks (c :: cs) = c :: cs :=
  List.dropWhile_cons_of_neg (by simp [hc])

theorem isBlank_of_isBare {c : Char} (hc : isBare c = true) : isBlank c = false := by
  have hspace : c ≠ ' ' := ne_of_accepts hc (by decide)
  have htab : c ≠ '\t' := ne_of_accepts hc (by decide)
  simp [isBlank, hspace, htab]

theorem readTrailing_bare {c : Char} (hc : isBare c = true) (cs : List Char) :
    readTrailing (c :: cs) = none := by
  have hcomment : c ≠ '#' := ne_of_accepts hc (by decide)
  have hline : c ≠ '\n' := ne_of_accepts hc (by decide)
  have hreturn : c ≠ '\r' := ne_of_accepts hc (by decide)
  have hskip : skipComment (c :: cs) = c :: cs := by rw [skipComment]; simp_all
  rw [readTrailing, skipBlanks_cons (isBlank_of_isBare hc), hskip, readLineEnd] <;> simp_all

theorem readTrailing_newline (rest : List Char) : readTrailing ('\n' :: rest) = some ((), rest) := by
  simp [readTrailing, skipBlanks_cons, isBlank, skipComment, readLineEnd]

theorem readName_bare {rest : List Char} (hname : IsBareName name)
    (hrest : ∀ c, rest.head? = some c → isBare c = false) (total : Nat) :
    ∃ span, readName total (name ++ rest) = some (⟨String.ofList name, span⟩, rest) := by
  obtain ⟨hne, hbare⟩ := hname
  have htake := takeWhile_append hbare hrest
  have hdrop := dropWhile_append hbare hrest
  obtain ⟨c, t, rfl⟩ := List.exists_cons_of_ne_nil hne
  have hc := hbare c List.mem_cons_self
  have hquote : c ≠ '"' := ne_of_accepts hc (by decide)
  have hapostrophe : c ≠ '\'' := ne_of_accepts hc (by decide)
  rw [List.cons_append] at htake hdrop ⊢
  unfold readName
  split <;> simp_all

theorem readKey_bare (hname : IsBareName name) (total fuel : Nat) (rest : List Char) :
    ∃ span, readKey total (fuel + 1) (name ++ ' ' :: '=' :: rest) =
      some ([⟨String.ofList name, span⟩], ' ' :: '=' :: rest) := by
  have hspace : ∀ c, (' ' :: '=' :: rest).head? = some c → isBare c = false := by
    rintro c ⟨⟩
    decide
  obtain ⟨span, hread⟩ := readName_bare hname hspace total
  have hequals : skipBlanks ('=' :: rest) = '=' :: rest := skipBlanks_cons (by decide) rest
  use span
  rw [readKey, hread]
  simp [hequals]

/-- A line as it is written, with what comes behind it. -/
def written (name value rest : List Char) : List Char :=
  name ++ ' ' :: '=' :: ' ' :: (value ++ '\n' :: rest)

/-- A line with a name and a value, at whatever places. -/
def Line.Holds (line : Line) (field : String × Datum) : Prop :=
  ∃ nameSpan span, line = .entry [⟨field.1, nameSpan⟩] ⟨field.2, some span⟩

theorem readLine_written {d : Datum} (hname : IsBareName name) (hvalue : ReadsAs value d)
    (total : Nat) (rest : List Char) :
    ∃ line, line.Holds (String.ofList name, d) ∧
      readLine total (written name value rest) = some (some line, rest) := by
  obtain ⟨nameSpan, hkey⟩ := readKey_bare hname total (written name value rest).length
    (' ' :: (value ++ '\n' :: rest))
  obtain ⟨span, hread⟩ := hvalue.reads total (written name value rest).length nestingLimit rest
  have hbefore : skipBlanks (value ++ '\n' :: rest) = value ++ '\n' :: rest := by
    obtain ⟨v, vs, rfl, hv⟩ := hvalue.starts
    exact skipBlanks_cons hv _
  have hequals : skipBlanks ('=' :: ' ' :: (value ++ '\n' :: rest)) =
      '=' :: ' ' :: (value ++ '\n' :: rest) := skipBlanks_cons (by decide) _
  obtain ⟨hne, hbare⟩ := hname
  cases name with
  | nil => contradiction
  | cons c cs =>
    have hc := hbare c List.mem_cons_self
    have hopen : c ≠ '[' := ne_of_accepts hc (by decide)
    have hstart : skipBlanks (written (c :: cs) value rest) = written (c :: cs) value rest :=
      skipBlanks_cons (isBlank_of_isBare hc) _
    have htrailing : readTrailing (written (c :: cs) value rest) = none :=
      readTrailing_bare hc _
    have hend := readTrailing_newline rest
    refine ⟨_, ⟨nameSpan, span, rfl⟩, ?_⟩
    unfold readLine
    rw [hstart]
    split
    · simp_all [written]
    · simp_all [written]
    · rw [htrailing]
      simp only [written] at hkey hread ⊢
      simp only [hkey, hread, hend, hequals, hbefore, skipBlanks_space, Option.bind_eq_bind,
        Option.bind_some]

end

/-! ### Documents -/

/-- Lines that are written one below the other. -/
inductive IsDocument : List Char → List (String × Datum) → Prop
  | nil : IsDocument [] []
  | cons {name value rest : List Char} {d : Datum} {fields : List (String × Datum)} :
      IsBareName name → ReadsAs value d → IsDocument rest fields →
      IsDocument (written name value rest) ((String.ofList name, d) :: fields)

section

variable {text : List Char} {fields : List (String × Datum)}

theorem IsDocument.readLines (h : IsDocument text fields) (total : Nat) :
    ∀ fuel, text.length ≤ fuel →
      ∃ lines, List.Forall₂ Line.Holds lines fields ∧ readLines total fuel text = some lines := by
  induction h with
  | nil =>
    intro fuel _
    refine ⟨[], List.Forall₂.nil, ?_⟩
    cases fuel <;> simp [Toml.readLines]
  | @cons name value rest d fields hname hvalue _ ih =>
    intro fuel hfuel
    obtain ⟨line, hline, hread⟩ := readLine_written hname hvalue total rest
    have hlength : rest.length < (written name value rest).length := by
      simp [written]
      omega
    cases fuel with
    | zero => omega
    | succ fuel =>
      obtain ⟨lines, hlines, hreads⟩ := ih fuel (by omega)
      have hmore : (written name value rest).isEmpty = false := by simp [written]
      refine ⟨line :: lines, List.Forall₂.cons hline hlines, ?_⟩
      simp [Toml.readLines, hmore, hread, hreads]

/-- A field of a table under a name, with a value. -/
def Entry.Holds (entry : Entry Item) (field : String × Datum) : Prop :=
  entry.name = field.1 ∧ entry.value.item = .value field.2

/-- A name that is new to a table is added at the end. -/
theorem addEntry_fresh {entries : List (Entry Item)} {name : Name}
    (h : ∀ entry ∈ entries, entry.name ≠ name.text) (value : Located Datum) :
    addEntry [] name value entries =
      some (entries ++ [⟨name.text, name.span, ⟨.value value.item, value.span?⟩⟩]) := by
  rw [addEntry, descend]
  induction entries with
  | nil => rfl
  | cons entry entries ih =>
    have hentry := h entry List.mem_cons_self
    have hrest := ih fun e he => h e (List.mem_cons_of_mem entry he)
    simp [upsert, hentry, hrest]

/-- Lines whose names are given once become one table. -/
theorem gather_holds {lines : List Line} (h : List.Forall₂ Line.Holds lines fields)
    (hnodup : (fields.map Prod.fst).Nodup) (earlier : List (Entry Item))
    (hfresh : ∀ entry ∈ earlier, entry.name ∉ fields.map Prod.fst) :
    ∃ entries, List.Forall₂ Entry.Holds entries fields ∧
      gather earlier lines = some (earlier ++ entries, []) := by
  induction h generalizing earlier with
  | nil => exact ⟨[], List.Forall₂.nil, by simp [gather]⟩
  | @cons line field lines fields hline _ ih =>
    obtain ⟨nameSpan, span, rfl⟩ := hline
    rw [List.map_cons, List.nodup_cons] at hnodup
    have hadd : addEntry [] ⟨field.1, nameSpan⟩ ⟨field.2, some span⟩ earlier =
        some (earlier ++ [⟨field.1, nameSpan, ⟨.value field.2, some span⟩⟩]) := by
      apply addEntry_fresh
      intro entry hentry heq
      have hnot := hfresh entry hentry
      simp [heq] at hnot
    have hfresh' : ∀ entry ∈ earlier ++ [⟨field.1, nameSpan, ⟨.value field.2, some span⟩⟩],
        entry.name ∉ fields.map Prod.fst := by
      intro entry hentry
      rcases List.mem_append.mp hentry with hold | hnew
      · have hnot := hfresh entry hold
        rw [List.map_cons, List.mem_cons] at hnot
        tauto
      · rw [List.mem_singleton.mp hnew]
        exact hnodup.1
    obtain ⟨entries, hentries, hgather⟩ := ih hnodup.2 _ hfresh'
    refine ⟨⟨field.1, nameSpan, ⟨.value field.2, some span⟩⟩ :: entries,
      List.Forall₂.cons ⟨rfl, rfl⟩ hentries, ?_⟩
    simp [gather, hadd, hgather]

/-- No mark of the byte order stands in front of a document of lines. -/
theorem IsDocument.head?_ne (h : IsDocument text fields) : text.head? ≠ some '\uFEFF' := by
  cases h with
  | nil => simp
  | @cons name value rest _ _ hname =>
    obtain ⟨hne, hbare⟩ := hname
    cases name with
    | nil => contradiction
    | cons c cs =>
      have hc := ne_of_accepts (hbare c List.mem_cons_self) (d := '\uFEFF') (by decide)
      simpa [written] using hc

/-- A document is read back as the fields it was written from, in their order. -/
theorem IsDocument.readDocument (h : IsDocument text fields)
    (hnodup : (fields.map Prod.fst).Nodup) :
    ∃ entries, List.Forall₂ Entry.Holds entries fields ∧
      readDocument (String.ofList text) = some entries := by
  obtain ⟨lines, hlines, hread⟩ :=
    h.readLines (String.ofList text).utf8ByteSize (text.length + 1) (by omega)
  obtain ⟨entries, hentries, hgather⟩ := gather_holds hlines hnodup [] (by simp)
  have hmark := h.head?_ne
  refine ⟨entries, hentries, ?_⟩
  unfold Toml.readDocument
  split
  · simp_all
  · simp_all [assemble]

end

end GuardedSql.Toml
