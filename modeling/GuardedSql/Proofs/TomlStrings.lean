import GuardedSql.Toml.Quoted

/-!
# Written strings are read back

Whatever characters a text has, one of the five forms in which it may be written is chosen, and
reading that form gives the text again. Between double quotes this holds character by character,
since each escape is read as the character it stands for. A raw text is its own written form; what
has to be shown is that it does not end before its closing apostrophes.
-/

namespace GuardedSql.Toml

@[simp] theorem Read.cons_some (c : Char) (cs rest : List Char) :
    Read.cons c (some (cs, rest)) = some (c :: cs, rest) := rfl

/-! ### Escapes -/

/-- The characters that are written by number have small numbers. -/
theorem toNat_lt_of_not_isPlain {c : Char} (h : isPlain c = false) : c.toNat < 128 := by
  simp only [isPlain, Bool.or_eq_false_iff, Bool.and_eq_false_iff, decide_eq_false_iff_not,
    bne_eq_false_iff_eq] at h
  omega

/-- A small number is read from its four hexadecimal digits. -/
theorem hexChar?_hex4 :
    ∀ n < 128, (hex4 n).length = 4 ∧ hexChar? (hex4 n) = some (Char.ofNat n) := by
  decide +kernel

theorem exists_hex4 {c : Char} (h : isPlain c = false) :
    ∃ x y z w, hex4 c.toNat = [x, y, z, w] ∧ hexChar? [x, y, z, w] = some c := by
  obtain ⟨hlength, hread⟩ := hexChar?_hex4 c.toNat (toNat_lt_of_not_isPlain h)
  rw [Char.ofNat_toNat] at hread
  match hdigits : hex4 c.toNat, hlength with
  | [x, y, z, w], _ =>
    rw [hdigits] at hread
    exact ⟨x, y, z, w, rfl, hread⟩

/-- A character of a one-line string is read back. -/
theorem readBasic_escaped (c : Char) (rest : List Char) :
    readBasic (escaped false c ++ rest) = Read.cons c (readBasic rest) := by
  unfold escaped
  split
  case h_8 =>
    split
    · simp_all [readBasic]
    · rename_i hplain
      obtain ⟨x, y, z, w, hdigits, hread⟩ := exists_hex4 (by simpa using hplain)
      simp [hdigits, readBasic, hread]
  all_goals simp [readBasic, letterEscape?]

/-- So is one of a string over several lines. -/
theorem readLongBasic_escaped (c : Char) (rest : List Char) :
    readLongBasic false (escaped true c ++ rest) = Read.cons c (readLongBasic false rest) := by
  unfold escaped
  split
  case h_8 =>
    split
    · simp_all [readLongBasic]
    · rename_i hplain
      obtain ⟨x, y, z, w, hdigits, hread⟩ := exists_hex4 (by simpa using hplain)
      simp [hdigits, readLongBasic, hread]
  all_goals simp [readLongBasic, letterEscape?]

/-- Nothing is written so that it begins with a double quote. -/
theorem exists_escaped_eq_cons (long : Bool) (c : Char) :
    ∃ d t, escaped long c = d :: t ∧ d ≠ '"' := by
  unfold escaped
  split
  case h_3 => cases long <;> simp
  case h_8 => split <;> simp_all
  all_goals simp

/-! ### Between double quotes -/

theorem readBasic_flatMap (cs rest : List Char) :
    readBasic (cs.flatMap (escaped false) ++ '"' :: rest) = some (cs, rest) := by
  induction cs with
  | nil => simp [readBasic]
  | cons c cs ih => rw [List.flatMap_cons, List.append_assoc, readBasic_escaped, ih, Read.cons_some]

theorem readLongBasic_flatMap (cs rest : List Char) (h : rest.head? ≠ some '"') :
    readLongBasic false (cs.flatMap (escaped true) ++ '"' :: '"' :: '"' :: rest) =
      some (cs, rest) := by
  induction cs with
  | nil =>
    cases rest with
    | nil => simp [readLongBasic]
    | cons d rest =>
      have hd : d ≠ '"' := by simpa using h
      simp [readLongBasic, hd]
  | cons c cs ih =>
    rw [List.flatMap_cons, List.append_assoc, readLongBasic_escaped, ih, Read.cons_some]

/-! ### Between apostrophes -/

theorem ne_return_of_isPlain {c : Char} (h : isPlain c = true) : c ≠ '\r' := by
  rintro rfl
  simp [isPlain] at h

theorem ne_newline_of_isPlain {c : Char} (h : isPlain c = true) : c ≠ '\n' := by
  rintro rfl
  simp [isPlain] at h

theorem readLiteral_plain {cs : List Char} (hplain : ∀ c ∈ cs, isPlain c = true)
    (hquote : '\'' ∉ cs) (rest : List Char) :
    readLiteral (cs ++ '\'' :: rest) = some (cs, rest) := by
  induction cs with
  | nil => simp [readLiteral]
  | cons c cs ih =>
    have hc : c ≠ '\'' := by
      rintro rfl
      simp at hquote
    have hrest := ih (fun d hd => hplain d (List.mem_cons_of_mem c hd)) (by simp_all)
    simp [readLiteral, hc, hplain c (by simp), hrest]

theorem le_apostrophes (run : Nat) (cs : List Char) : run ≤ apostrophes run cs := by
  induction cs generalizing run with
  | nil => simp [apostrophes]
  | cons c cs ih =>
    have hrun := ih (run + 1)
    unfold apostrophes
    split <;> omega

theorem apostrophes_mono {j k : Nat} (h : j ≤ k) (cs : List Char) :
    apostrophes j cs ≤ apostrophes k cs := by
  induction cs generalizing j k with
  | nil => simpa [apostrophes] using h
  | cons c cs ih =>
    have hrun := ih (Nat.succ_le_succ h)
    unfold apostrophes
    split <;> omega

theorem apostrophes_tail (c : Char) (cs : List Char) :
    apostrophes 0 cs ≤ apostrophes 0 (c :: cs) := by
  have hmono := apostrophes_mono (Nat.zero_le 1) cs
  rw [apostrophes]
  split <;> omega

/-- One or two apostrophes do not end a string between three of them. -/
theorem readLongLiteral_quote {l : List Char} (h : ∀ t, l ≠ '\'' :: '\'' :: t) :
    readLongLiteral ('\'' :: l) = Read.cons '\'' (readLongLiteral l) := by
  have hplain : isPlain '\'' = true := by decide
  match l, h with
  | [], _ => simp [readLongLiteral, hplain]
  | [d], _ => simp [readLongLiteral, hplain]
  | d :: e :: t, h =>
    have hquotes : ¬(d = '\'' ∧ e = '\'') := by
      rintro ⟨rfl, rfl⟩
      exact h t rfl
    rw [readLongLiteral] <;> simp_all

theorem readLongLiteral_plain {cs : List Char} (rest : List Char)
    (hplain : ∀ c ∈ cs, isPlain c = true ∨ c = '\n') (hrun : apostrophes 0 cs < 3)
    (hlast : cs.getLast? ≠ some '\'') (hrest : rest.head? ≠ some '\'') :
    readLongLiteral (cs ++ '\'' :: '\'' :: '\'' :: rest) = some (cs, rest) := by
  induction cs with
  | nil =>
    cases rest with
    | nil => simp [readLongLiteral]
    | cons d rest =>
      have hd : d ≠ '\'' := by simpa using hrest
      simp [readLongLiteral, hd]
  | cons c cs ih =>
    have htail : apostrophes 0 cs < 3 := by
      have hle := apostrophes_tail c cs
      omega
    have hlast' : cs.getLast? ≠ some '\'' := by
      cases cs with
      | nil => simp
      | cons d cs => simpa using hlast
    have hread := ih (fun d hd => hplain d (List.mem_cons_of_mem c hd)) htail hlast'
    by_cases hq : c = '\''
    · subst hq
      -- a third apostrophe would come from the text, or from the closing ones with the text at its end
      have hends : ∀ t, cs ++ '\'' :: '\'' :: '\'' :: rest ≠ '\'' :: '\'' :: t := by
        intro t heq
        match cs, heq with
        | [], _ => simp at hlast
        | [d], heq => simp_all
        | d :: e :: cs, heq =>
          have hthree := le_apostrophes 3 cs
          simp_all [apostrophes]
          omega
      rw [List.cons_append, readLongLiteral_quote hends, hread, Read.cons_some]
    · rcases hplain c List.mem_cons_self with hc | rfl
      · have hr := ne_return_of_isPlain hc
        have hn := ne_newline_of_isPlain hc
        rw [List.cons_append, readLongLiteral] <;> simp_all
      · simp [readLongLiteral, hread]

/-! ### All forms -/

section

variable {cs : List Char}

theorem isRaw_iff (cs : List Char) : isRaw cs = true ↔ '\\' ∈ cs ∧
    (∀ c ∈ cs, isPlain c = true ∨ c = '\n') ∧ apostrophes 0 cs < 3 ∧ cs.getLast? ≠ some '\'' := by
  simp [isRaw, and_assoc]

theorem writeString_raw_long (hraw : isRaw cs = true) (hline : '\n' ∈ cs) :
    writeString cs = '\'' :: '\'' :: '\'' :: '\n' :: (cs ++ ['\'', '\'', '\'']) := by
  have hopen : "'''\n".toList = ['\'', '\'', '\'', '\n'] := rfl
  have hclose : "'''".toList = ['\'', '\'', '\''] := rfl
  simp [writeString, hraw, hline, hopen, hclose]

theorem writeString_raw_quoted (hraw : isRaw cs = true) (hline : '\n' ∉ cs) (hquote : '\'' ∈ cs) :
    writeString cs = '\'' :: '\'' :: '\'' :: (cs ++ ['\'', '\'', '\'']) := by
  have hclose : "'''".toList = ['\'', '\'', '\''] := rfl
  simp [writeString, hraw, hline, hquote, hclose]

theorem writeString_raw (hraw : isRaw cs = true) (hline : '\n' ∉ cs) (hquote : '\'' ∉ cs) :
    writeString cs = '\'' :: (cs ++ ['\'']) := by
  simp [writeString, hraw, hline, hquote]

theorem writeString_long (hraw : isRaw cs ≠ true) (hline : '\n' ∈ cs) :
    writeString cs =
      '"' :: '"' :: '"' :: '\n' :: (cs.flatMap (escaped true) ++ ['"', '"', '"']) := by
  have hopen : "\"\"\"\n".toList = ['"', '"', '"', '\n'] := rfl
  have hclose : "\"\"\"".toList = ['"', '"', '"'] := rfl
  simp [writeString, hraw, hline, hopen, hclose]

theorem writeString_basic (hraw : isRaw cs ≠ true) (hline : '\n' ∉ cs) :
    writeString cs = '"' :: (cs.flatMap (escaped false) ++ ['"']) := by
  simp [writeString, hraw, hline]

theorem readString_basic {l : List Char} (h : ∀ t, l ≠ '"' :: '"' :: t) :
    readString ('"' :: l) = readBasic l := by
  rw [readString]
  simp_all

theorem readString_literal {l : List Char} (h : ∀ t, l ≠ '\'' :: '\'' :: t) :
    readString ('\'' :: l) = readLiteral l := by
  rw [readString]
  simp_all

theorem afterOpeningLine_plain {c : Char} (h : isPlain c = true) (cs : List Char) :
    afterOpeningLine (c :: cs) = c :: cs := by
  have hr := ne_return_of_isPlain h
  have hn := ne_newline_of_isPlain h
  rw [afterOpeningLine] <;> simp_all

end

/-- A text at the end of its line is read back as it was written. -/
theorem readString_writeString (cs rest : List Char) :
    readString (writeString cs ++ '\n' :: rest) = some (cs, '\n' :: rest) := by
  by_cases hraw : isRaw cs = true
  · obtain ⟨hback, hplain, hrun, hlast⟩ := (isRaw_iff cs).mp hraw
    have hlong := readLongLiteral_plain ('\n' :: rest) hplain hrun hlast (by simp)
    by_cases hline : '\n' ∈ cs
    · simp [writeString_raw_long hraw hline, readString, afterOpeningLine, hlong]
    · have hplain' : ∀ c ∈ cs, isPlain c = true := fun c hc =>
        (hplain c hc).resolve_right fun heq => hline (heq ▸ hc)
      obtain ⟨c, l, rfl⟩ := List.exists_cons_of_ne_nil (List.ne_nil_of_mem hback)
      by_cases hquote : '\'' ∈ c :: l
      · have hopen := afterOpeningLine_plain (hplain' c List.mem_cons_self)
        rw [List.cons_append] at hlong
        simp [writeString_raw_quoted hraw hline hquote, readString, hopen, hlong]
      · have hliteral := readLiteral_plain hplain' hquote ('\n' :: rest)
        have hends : ∀ t, c :: l ++ '\'' :: '\n' :: rest ≠ '\'' :: '\'' :: t := by
          intro t heq
          have hc : c = '\'' := by simp_all
          simp [hc] at hquote
        have hread := readString_literal hends
        simpa [writeString_raw hraw hline hquote] using hread.trans hliteral
  · by_cases hline : '\n' ∈ cs
    · have hlong := readLongBasic_flatMap cs ('\n' :: rest) (by simp)
      simp [writeString_long hraw hline, readString, afterOpeningLine, hlong]
    · have hbasic := readBasic_flatMap cs ('\n' :: rest)
      have hends : ∀ t, cs.flatMap (escaped false) ++ '"' :: '\n' :: rest ≠ '"' :: '"' :: t := by
        intro t heq
        cases cs with
        | nil => simp at heq
        | cons c cs =>
          obtain ⟨d, l, hc, hd⟩ := exists_escaped_eq_cons false c
          simp [hc, hd] at heq
      simp [writeString_basic hraw hline, readString_basic hends, hbasic]

end GuardedSql.Toml
