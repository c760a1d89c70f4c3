import GuardedSql.Proofs.TomlStrings

/-!
# The forms of strings

What a string is written as, by the grammar: on one line between double quotes, with escapes, or
between apostrophes, as it is; and over several lines between three of either. Each rule relates a
text to what it begins with and to the rest of the text. The reader goes by these rules, in both
directions: it takes all that they allow, and nothing else.
-/

namespace GuardedSql.Toml

/-! ### The rules -/

/-- A character as it is written between double quotes. -/
inductive Glyph : List Char → Char → List Char → Prop where
  /-- It stands for itself. -/
  | plain {c : Char} {rest : List Char} (hc : isPlain c = true) (hquote : c ≠ '"')
      (hback : c ≠ '\\') : Glyph (c :: rest) c rest
  /-- It is escaped by a letter. -/
  | letter {e x : Char} {rest : List Char} (h : letterEscape? e = some x) :
      Glyph ('\\' :: e :: rest) x rest
  /-- It is escaped by its number in four digits. -/
  | four {a b c d x : Char} {rest : List Char} (h : hexChar? [a, b, c, d] = some x) :
      Glyph ('\\' :: 'u' :: a :: b :: c :: d :: rest) x rest
  /-- It is escaped by its number in eight digits. -/
  | eight {a b c d e f g h x : Char} {rest : List Char}
      (hx : hexChar? [a, b, c, d, e, f, g, h] = some x) :
      Glyph ('\\' :: 'U' :: a :: b :: c :: d :: e :: f :: g :: h :: rest) x rest

/-- The end of a line. -/
inductive Newline : List Char → List Char → Prop where
  | feed {rest : List Char} : Newline ('\n' :: rest) rest
  | returnFeed {rest : List Char} : Newline ('\r' :: '\n' :: rest) rest

/-- All blanks and line ends in front. -/
inductive Gap : List Char → List Char → Prop where
  | nil {cs : List Char} (hblank : ∀ c, cs.head? = some c → isBlank c = false)
      (hline : ∀ rest, ¬Newline cs rest) : Gap cs cs
  | blank {c : Char} {cs rest : List Char} (hc : isBlank c = true) (h : Gap cs rest) :
      Gap (c :: cs) rest
  | newline {cs mid rest : List Char} (hline : Newline cs mid) (h : Gap mid rest) : Gap cs rest

/-- Blanks up to the end of a line. -/
inductive LineEnds : List Char → Prop where
  | blank {c : Char} {cs : List Char} (hc : isBlank c = true) (h : LineEnds cs) : LineEnds (c :: cs)
  | newline {cs rest : List Char} (hline : Newline cs rest) : LineEnds cs

/-- A string on one line behind its opening double quote. -/
inductive Basic : List Char → List Char → List Char → Prop where
  | close {rest : List Char} : Basic ('"' :: rest) [] rest
  | glyph {cs mid value rest : List Char} {x : Char} (hx : Glyph cs x mid)
      (h : Basic mid value rest) : Basic cs (x :: value) rest

/-- A string on one line behind its opening apostrophe. -/
inductive Raw : List Char → List Char → List Char → Prop where
  | close {rest : List Char} : Raw ('\'' :: rest) [] rest
  | plain {c : Char} {cs value rest : List Char} (hc : isPlain c = true) (hquote : c ≠ '\'')
      (h : Raw cs value rest) : Raw (c :: cs) (c :: value) rest

/-- The three quotes that close a string over several lines, with up to two more before them that
belong to the string. -/
def Closes (q : Char) (cs value rest : List Char) : Prop :=
  ∃ n ≤ 2, cs = List.replicate (n + 3) q ++ rest ∧ value = List.replicate n q ∧
    (rest.head? = some q → n = 2)

/-- A string over several lines behind its opening, between double quotes. -/
inductive LongBasic : List Char → List Char → List Char → Prop where
  | close {cs value rest : List Char} (h : Closes '"' cs value rest) : LongBasic cs value rest
  | glyph {cs mid value rest : List Char} {x : Char} (hx : Glyph cs x mid)
      (h : LongBasic mid value rest) : LongBasic cs (x :: value) rest
  | newline {cs mid value rest : List Char} (hline : Newline cs mid)
      (h : LongBasic mid value rest) : LongBasic cs ('\n' :: value) rest
  /-- A backslash at the end of a line takes the gap away. -/
  | joint {cs mid value rest : List Char} (hends : LineEnds cs) (hgap : Gap cs mid)
      (h : LongBasic mid value rest) : LongBasic ('\\' :: cs) value rest
  /-- A quote that is not one of three stands for itself. -/
  | quote {cs value rest : List Char} (hthree : ∀ t, cs ≠ '"' :: '"' :: t)
      (h : LongBasic cs value rest) : LongBasic ('"' :: cs) ('"' :: value) rest

/-- A string over several lines behind its opening, between apostrophes. -/
inductive LongRaw : List Char → List Char → List Char → Prop where
  | close {cs value rest : List Char} (h : Closes '\'' cs value rest) : LongRaw cs value rest
  | plain {c : Char} {cs value rest : List Char} (hc : isPlain c = true) (hquote : c ≠ '\'')
      (h : LongRaw cs value rest) : LongRaw (c :: cs) (c :: value) rest
  | newline {cs mid value rest : List Char} (hline : Newline cs mid) (h : LongRaw mid value rest) :
      LongRaw cs ('\n' :: value) rest
  /-- An apostrophe that is not one of three stands for itself. -/
  | quote {cs value rest : List Char} (hthree : ∀ t, cs ≠ '\'' :: '\'' :: t)
      (h : LongRaw cs value rest) : LongRaw ('\'' :: cs) ('\'' :: value) rest

/-- What follows opening triple quotes, without the rest of their line if that is empty. -/
inductive Opens : List Char → List Char → Prop where
  | line {cs rest : List Char} (hline : Newline cs rest) : Opens cs rest
  | text {cs : List Char} (hline : ∀ rest, ¬Newline cs rest) : Opens cs cs

/-- What a string is written as. -/
inductive IsString : List Char → List Char → List Char → Prop where
  | basic {cs value rest : List Char} (h : Basic cs value rest)
      (hthree : ∀ t, cs ≠ '"' :: '"' :: t) : IsString ('"' :: cs) value rest
  | raw {cs value rest : List Char} (h : Raw cs value rest) (hthree : ∀ t, cs ≠ '\'' :: '\'' :: t) :
      IsString ('\'' :: cs) value rest
  | longBasic {cs mid value rest : List Char} (hopens : Opens cs mid)
      (h : LongBasic mid value rest) : IsString ('"' :: '"' :: '"' :: cs) value rest
  | longRaw {cs mid value rest : List Char} (hopens : Opens cs mid) (h : LongRaw mid value rest) :
      IsString ('\'' :: '\'' :: '\'' :: cs) value rest

/-! ### One line -/

theorem Read.cons_eq_some_iff {c : Char} {r : Read (List Char)} {value rest : List Char} :
    Read.cons c r = some (value, rest) ↔ ∃ v, value = c :: v ∧ r = some (v, rest) := by
  cases r with
  | none => simp [Read.cons]
  | some r =>
    obtain ⟨v, t⟩ := r
    simp only [Read.cons_some, Option.some.injEq, Prod.mk.injEq]
    constructor
    · rintro ⟨rfl, rfl⟩
      exact ⟨v, rfl, rfl, rfl⟩
    · rintro ⟨_, rfl, rfl, rfl⟩
      exact ⟨rfl, rfl⟩

theorem Glyph.readBasic {cs rest : List Char} {x : Char} (h : Glyph cs x rest) :
    readBasic cs = Read.cons x (readBasic rest) := by
  cases h with
  | plain hc hquote hback => rw [Toml.readBasic] <;> simp_all
  | letter h =>
    unfold letterEscape? at h
    split at h <;> cases h <;> simp [Toml.readBasic, letterEscape?]
  | four h => simp [Toml.readBasic, h]
  | eight h => simp [Toml.readBasic, h]

/-- A string on one line is read by the rules. -/
theorem readBasic_iff {cs value rest : List Char} :
    readBasic cs = some (value, rest) ↔ Basic cs value rest := by
  constructor
  · intro h
    fun_induction readBasic cs generalizing value with
    | case1 => cases h
    | case2 rest => cases h; exact .close
    | case3 a b c d more x hx ih =>
      obtain ⟨v, rfl, hv⟩ := Read.cons_eq_some_iff.mp h
      exact .glyph (.four hx) (ih hv)
    | case5 a b c d e f g h' more x hx ih =>
      obtain ⟨v, rfl, hv⟩ := Read.cons_eq_some_iff.mp h
      exact .glyph (.eight hx) (ih hv)
    | case7 e more _ _ x hx ih =>
      obtain ⟨v, rfl, hv⟩ := Read.cons_eq_some_iff.mp h
      exact .glyph (.letter hx) (ih hv)
    | case9 c more hquote _ _ _ hc ih =>
      obtain ⟨v, rfl, hv⟩ := Read.cons_eq_some_iff.mp h
      simp only [Bool.and_eq_true, bne_iff_ne] at hc
      exact .glyph (.plain hc.2 hquote hc.1) (ih hv)
    | _ => cases h
  · intro h
    induction h with
    | close => rfl
    | glyph hx _ ih => rw [hx.readBasic, ih, Read.cons_some]

/-- So is one between apostrophes. -/
theorem readLiteral_iff {cs value rest : List Char} :
    readLiteral cs = some (value, rest) ↔ Raw cs value rest := by
  constructor
  · intro h
    fun_induction readLiteral cs generalizing value with
    | case1 => cases h
    | case2 c more hc =>
      obtain rfl := eq_of_beq hc
      cases h
      exact .close
    | case3 c more hquote hc ih =>
      obtain ⟨v, rfl, hv⟩ := Read.cons_eq_some_iff.mp h
      exact .plain hc (by simpa using hquote) (ih hv)
    | case4 => cases h
  · intro h
    induction h with
    | close => simp [readLiteral]
    | plain hc hquote _ ih => simp [readLiteral, hc, hquote, ih]

/-! ### Several lines -/

theorem not_newline_cons {c : Char} (hfeed : c ≠ '\n') (hreturn : c ≠ '\r') (cs rest : List Char) :
    ¬Newline (c :: cs) rest := by
  intro h
  cases h <;> contradiction

theorem isBlank_iff {c : Char} : isBlank c = true ↔ c = ' ' ∨ c = '\t' := by
  simp [isBlank]

theorem LineEnds.joinsLines {cs : List Char} (h : LineEnds cs) : joinsLines cs = true := by
  induction h with
  | blank hc _ ih => rcases isBlank_iff.mp hc with rfl | rfl <;> simpa [Toml.joinsLines, isBlank]
  | newline hline => cases hline <;> simp [Toml.joinsLines]

theorem lineEnds_of_joinsLines {cs : List Char} (h : joinsLines cs = true) : LineEnds cs := by
  fun_induction joinsLines cs with
  | case1 rest => exact .newline .feed
  | case2 rest => exact .newline .returnFeed
  | case3 c rest _ _ ih =>
    rw [Bool.and_eq_true] at h
    exact .blank h.1 (ih h.2)
  | case4 => cases h

/-- What ends a line is no escape. -/
theorem LineEnds.exists_cons {cs : List Char} (h : LineEnds cs) :
    ∃ c t, cs = c :: t ∧ letterEscape? c = none ∧ c ≠ 'u' ∧ c ≠ 'U' := by
  cases h with
  | @blank c cs hc =>
    rcases isBlank_iff.mp hc with rfl | rfl <;> exact ⟨_, _, rfl, by decide⟩
  | newline hline => cases hline <;> exact ⟨_, _, rfl, by decide⟩

/-- A string is closed by the first three quotes that no other one follows. -/
theorem closes_of_ne {q : Char} {rest : List Char} (n : Nat) (hn : n ≤ 2)
    (h : ∀ t, rest = q :: t → False) :
    Closes q (List.replicate (n + 3) q ++ rest) (List.replicate n q) rest := by
  refine ⟨n, hn, rfl, rfl, fun hhead => ?_⟩
  obtain ⟨t, rfl⟩ := List.head?_eq_some_iff.mp hhead
  exact (h t rfl).elim

/-- Behind a joining backslash the gap is taken away first. -/
def Passes (joining : Bool) (cs mid : List Char) : Prop :=
  if joining = true then Gap cs mid else mid = cs

theorem passes_cons {joining : Bool} {c : Char} (hblank : (joining && isBlank c) = false)
    (hfeed : c ≠ '\n') (hreturn : c ≠ '\r') (cs : List Char) :
    Passes joining (c :: cs) (c :: cs) := by
  cases joining with
  | false => rfl
  | true => exact Gap.nil (by simpa using hblank) (not_newline_cons hfeed hreturn cs)

theorem passes_quote (joining : Bool) (cs : List Char) : Passes joining ('"' :: cs) ('"' :: cs) :=
  passes_cons (by simp [isBlank]) (by decide) (by decide) cs

theorem passes_backslash (joining : Bool) (cs : List Char) :
    Passes joining ('\\' :: cs) ('\\' :: cs) :=
  passes_cons (by simp [isBlank]) (by decide) (by decide) cs

theorem longBasic_of_passes {cs value rest : List Char}
    (h : ∃ mid, Passes false cs mid ∧ LongBasic mid value rest) : LongBasic cs value rest := by
  obtain ⟨mid, hmid, hlong⟩ := h
  obtain rfl : mid = cs := hmid
  exact hlong

/-- What is read begins behind the gap, if one is skipped. -/
theorem exists_longBasic_of_readLongBasic {joining : Bool} {cs value rest : List Char}
    (h : readLongBasic joining cs = some (value, rest)) :
    ∃ mid, Passes joining cs mid ∧ LongBasic mid value rest := by
  fun_induction readLongBasic joining cs generalizing value with
  | case1 joining more =>
    cases h
    exact ⟨_, passes_quote joining _, .close ⟨2, by decide, rfl, rfl, fun _ => rfl⟩⟩
  | case2 joining more hmore =>
    cases h
    exact ⟨_, passes_quote joining _, .close (closes_of_ne 1 (by decide) hmore)⟩
  | case3 joining more _ hmore =>
    cases h
    exact ⟨_, passes_quote joining _, .close (closes_of_ne 0 (by decide) hmore)⟩
  | case4 joining a b c d more x hx ih =>
    obtain ⟨v, rfl, hv⟩ := Read.cons_eq_some_iff.mp h
    exact ⟨_, passes_backslash joining _, .glyph (.four hx) (longBasic_of_passes (ih hv))⟩
  | case6 joining a b c d e f g h' more x hx ih =>
    obtain ⟨v, rfl, hv⟩ := Read.cons_eq_some_iff.mp h
    exact ⟨_, passes_backslash joining _, .glyph (.eight hx) (longBasic_of_passes (ih hv))⟩
  | case8 joining e more _ _ x hx ih =>
    obtain ⟨v, rfl, hv⟩ := Read.cons_eq_some_iff.mp h
    exact ⟨_, passes_backslash joining _, .glyph (.letter hx) (longBasic_of_passes (ih hv))⟩
  | case9 joining e more _ _ _ hjoins ih =>
    obtain ⟨mid, hgap, hlong⟩ := ih h
    exact ⟨_, passes_backslash joining _, .joint (lineEnds_of_joinsLines hjoins) hgap hlong⟩
  | case11 more ih =>
    obtain ⟨mid, hgap, hlong⟩ := ih h
    exact ⟨mid, Gap.newline .returnFeed hgap, hlong⟩
  | case12 joining more hnot ih =>
    obtain ⟨v, rfl, hv⟩ := Read.cons_eq_some_iff.mp h
    obtain rfl : joining = false := by simpa using hnot
    exact ⟨_, rfl, .newline .returnFeed (longBasic_of_passes (ih hv))⟩
  | case13 more ih =>
    obtain ⟨mid, hgap, hlong⟩ := ih h
    exact ⟨mid, Gap.newline .feed hgap, hlong⟩
  | case14 joining more hnot ih =>
    obtain ⟨v, rfl, hv⟩ := Read.cons_eq_some_iff.mp h
    obtain rfl : joining = false := by simpa using hnot
    exact ⟨_, rfl, .newline .feed (longBasic_of_passes (ih hv))⟩
  | case15 joining c more _ _ _ _ _ _ _ _ hblank ih =>
    obtain ⟨rfl, hc⟩ : joining = true ∧ isBlank c = true := by simpa using hblank
    obtain ⟨mid, hgap, hlong⟩ := ih h
    exact ⟨mid, Gap.blank hc hgap, hlong⟩
  | case16 joining c more _ _ hthree _ _ _ _ hfeed hblank hc ih =>
    obtain ⟨v, rfl, hv⟩ := Read.cons_eq_some_iff.mp h
    obtain ⟨hback, hplain⟩ : c ≠ '\\' ∧ isPlain c = true := by simpa using hc
    refine ⟨_, passes_cons (by simpa using hblank) hfeed (ne_return_of_isPlain hplain) more, ?_⟩
    by_cases hquote : c = '"'
    · subst hquote
      exact .quote (fun t heq => hthree t rfl heq) (longBasic_of_passes (ih hv))
    · exact .glyph (.plain hplain hquote hback) (longBasic_of_passes (ih hv))
  | _ => cases h

/-- Behind a joining backslash, what is no blank and no line end is read as anywhere else. -/
theorem readLongBasic_joining {cs : List Char}
    (hblank : ∀ c, cs.head? = some c → isBlank c = false) (hline : ∀ rest, ¬Newline cs rest) :
    readLongBasic true cs = readLongBasic false cs := by
  fun_cases readLongBasic true cs with
  | case11 more => exact absurd .returnFeed (hline more)
  | case13 more => exact absurd .feed (hline more)
  | case15 c more => simp_all
  | _ => rw [readLongBasic] <;> simp_all

theorem Gap.readLongBasic {cs mid : List Char} (h : Gap cs mid) :
    readLongBasic true cs = readLongBasic false mid := by
  induction h with
  | nil hblank hline => exact readLongBasic_joining hblank hline
  | @blank c cs rest hc _ ih =>
    rcases isBlank_iff.mp hc with rfl | rfl <;> simp [Toml.readLongBasic, isBlank, ih]
  | newline hline _ ih => cases hline <;> simp [Toml.readLongBasic, ih]

theorem Glyph.readLongBasic {cs rest : List Char} {x : Char} (h : Glyph cs x rest) :
    readLongBasic false cs = Read.cons x (readLongBasic false rest) := by
  cases h with
  | plain hc hquote hback =>
    have hfeed := ne_newline_of_isPlain hc
    have hreturn := ne_return_of_isPlain hc
    rw [Toml.readLongBasic] <;> simp_all
  | letter h =>
    unfold letterEscape? at h
    split at h <;> cases h <;> simp [Toml.readLongBasic, letterEscape?]
  | four h => simp [Toml.readLongBasic, h]
  | eight h => simp [Toml.readLongBasic, h]

/-- A quote that is not one of three is read as itself. -/
theorem readLongBasic_quote {cs : List Char} (h : ∀ t, cs ≠ '"' :: '"' :: t) :
    readLongBasic false ('"' :: cs) = Read.cons '"' (readLongBasic false cs) := by
  have hplain : isPlain '"' = true := by decide
  rw [readLongBasic] <;> simp_all

theorem readLongBasic_closes {cs value rest : List Char} (h : Closes '"' cs value rest) :
    readLongBasic false cs = some (value, rest) := by
  obtain ⟨n, hn, rfl, rfl, hhead⟩ := h
  match n, hn with
  | 2, _ => rfl
  | 1, _ => cases rest <;> simp_all [readLongBasic]
  | 0, _ => cases rest <;> simp_all [readLongBasic]

/-- A string over several lines is read by the rules. -/
theorem readLongBasic_iff {cs value rest : List Char} :
    readLongBasic false cs = some (value, rest) ↔ LongBasic cs value rest := by
  constructor
  · intro h
    exact longBasic_of_passes (exists_longBasic_of_readLongBasic h)
  · intro h
    induction h with
    | close hcloses => exact readLongBasic_closes hcloses
    | glyph hx _ ih => rw [hx.readLongBasic, ih, Read.cons_some]
    | newline hline _ ih => cases hline <;> simp [readLongBasic, ih]
    | joint hends hgap _ ih =>
      have hjoins := hends.joinsLines
      have hread := hgap.readLongBasic
      obtain ⟨c, t, rfl, hnone, hu, hU⟩ := hends.exists_cons
      rw [readLongBasic] <;> simp_all
    | quote hthree _ ih => rw [readLongBasic_quote hthree, ih, Read.cons_some]

theorem readLongLiteral_closes {cs value rest : List Char} (h : Closes '\'' cs value rest) :
    readLongLiteral cs = some (value, rest) := by
  obtain ⟨n, hn, rfl, rfl, hhead⟩ := h
  match n, hn with
  | 2, _ => rfl
  | 1, _ => cases rest <;> simp_all [readLongLiteral]
  | 0, _ => cases rest <;> simp_all [readLongLiteral]

/-- So is one between apostrophes. -/
theorem readLongLiteral_iff {cs value rest : List Char} :
    readLongLiteral cs = some (value, rest) ↔ LongRaw cs value rest := by
  constructor
  · intro h
    fun_induction readLongLiteral cs generalizing value with
    | case1 more =>
      cases h
      exact .close ⟨2, by decide, rfl, rfl, fun _ => rfl⟩
    | case2 more hmore =>
      cases h
      exact .close (closes_of_ne 1 (by decide) hmore)
    | case3 more _ hmore =>
      cases h
      exact .close (closes_of_ne 0 (by decide) hmore)
    | case4 more ih =>
      obtain ⟨v, rfl, hv⟩ := Read.cons_eq_some_iff.mp h
      exact .newline .returnFeed (ih hv)
    | case5 more ih =>
      obtain ⟨v, rfl, hv⟩ := Read.cons_eq_some_iff.mp h
      exact .newline .feed (ih hv)
    | case6 c more _ _ hthree _ _ hc ih =>
      obtain ⟨v, rfl, hv⟩ := Read.cons_eq_some_iff.mp h
      by_cases hquote : c = '\''
      · subst hquote
        exact .quote (fun t heq => hthree t rfl heq) (ih hv)
      · exact .plain hc hquote (ih hv)
    | _ => cases h
  · intro h
    induction h with
    | close hcloses => exact readLongLiteral_closes hcloses
    | @plain c cs value rest hc hquote _ ih =>
      have hfeed := ne_newline_of_isPlain hc
      have hreturn := ne_return_of_isPlain hc
      rw [readLongLiteral] <;> simp_all
    | newline hline _ ih => cases hline <;> simp [readLongLiteral, ih]
    | quote hthree _ ih => rw [readLongLiteral_quote hthree, ih, Read.cons_some]

/-! ### All forms -/

theorem opens_afterOpeningLine (cs : List Char) : Opens cs (afterOpeningLine cs) := by
  fun_cases afterOpeningLine cs with
  | case1 rest => exact .line .returnFeed
  | case2 rest => exact .line .feed
  | case3 cs hreturn hfeed =>
    refine .text fun rest hline => ?_
    cases hline with
    | feed => exact hfeed rest rfl
    | returnFeed => exact hreturn rest rfl

theorem Opens.eq {cs mid : List Char} (h : Opens cs mid) : afterOpeningLine cs = mid := by
  cases h with
  | line hline => cases hline <;> rfl
  | text hline =>
    rw [afterOpeningLine]
    · rintro rest rfl
      exact hline rest .returnFeed
    · rintro rest rfl
      exact hline rest .feed

/-- A string is read by the rules, whichever form it has. -/
theorem readString_iff {cs value rest : List Char} :
    readString cs = some (value, rest) ↔ IsString cs value rest := by
  constructor
  · intro h
    unfold readString at h
    split at h
    · exact .longBasic (opens_afterOpeningLine _) (readLongBasic_iff.mp h)
    · exact .longRaw (opens_afterOpeningLine _) (readLongLiteral_iff.mp h)
    · rename_i hthree
      exact .basic (readBasic_iff.mp h) hthree
    · rename_i hthree
      exact .raw (readLiteral_iff.mp h) hthree
    · cases h
  · intro h
    cases h with
    | basic h hthree => rw [readString_basic hthree, readBasic_iff.mpr h]
    | raw h hthree => rw [readString_literal hthree, readLiteral_iff.mpr h]
    | longBasic hopens h => rw [readString, hopens.eq, readLongBasic_iff.mpr h]
    | longRaw hopens h => rw [readString, hopens.eq, readLongLiteral_iff.mpr h]

/-! ### What is left

Each rule leaves an end of its text.
-/

section

variable {cs mid value rest : List Char}

theorem Glyph.suffix {x : Char} (h : Glyph cs x rest) : rest <:+ cs := by
  cases h with
  | plain => exact List.suffix_append [_] rest
  | letter => exact List.suffix_append [_, _] rest
  | four => exact List.suffix_append [_, _, _, _, _, _] rest
  | eight => exact List.suffix_append [_, _, _, _, _, _, _, _, _, _] rest

theorem Newline.suffix (h : Newline cs rest) : rest <:+ cs := by
  cases h with
  | feed => exact List.suffix_append [_] rest
  | returnFeed => exact List.suffix_append [_, _] rest

theorem Gap.suffix (h : Gap cs rest) : rest <:+ cs := by
  induction h with
  | nil => exact List.suffix_rfl
  | blank _ _ ih => exact ih.trans (List.suffix_cons _ _)
  | newline hline _ ih => exact ih.trans hline.suffix

theorem Basic.suffix (h : Basic cs value rest) : rest <:+ cs := by
  induction h with
  | close => exact List.suffix_cons _ _
  | glyph hx _ ih => exact ih.trans hx.suffix

theorem Raw.suffix (h : Raw cs value rest) : rest <:+ cs := by
  induction h with
  | close => exact List.suffix_cons _ _
  | plain _ _ _ ih => exact ih.trans (List.suffix_cons _ _)

theorem Closes.suffix {q : Char} (h : Closes q cs value rest) : rest <:+ cs := by
  obtain ⟨n, -, rfl, -, -⟩ := h
  exact List.suffix_append _ _

theorem LongBasic.suffix (h : LongBasic cs value rest) : rest <:+ cs := by
  induction h with
  | close hcloses => exact hcloses.suffix
  | glyph hx _ ih => exact ih.trans hx.suffix
  | newline hline _ ih => exact ih.trans hline.suffix
  | joint _ hgap _ ih => exact (ih.trans hgap.suffix).trans (List.suffix_cons _ _)
  | quote _ _ ih => exact ih.trans (List.suffix_cons _ _)

theorem LongRaw.suffix (h : LongRaw cs value rest) : rest <:+ cs := by
  induction h with
  | close hcloses => exact hcloses.suffix
  | plain _ _ _ ih => exact ih.trans (List.suffix_cons _ _)
  | newline hline _ ih => exact ih.trans hline.suffix
  | quote _ _ ih => exact ih.trans (List.suffix_cons _ _)

theorem Opens.suffix (h : Opens cs rest) : rest <:+ cs := by
  cases h with
  | line hline => exact hline.suffix
  | text => exact List.suffix_rfl

theorem IsString.suffix (h : IsString cs value rest) : rest <:+ cs := by
  cases h with
  | basic h => exact h.suffix.trans (List.suffix_cons _ _)
  | raw h => exact h.suffix.trans (List.suffix_cons _ _)
  | longBasic hopens h =>
    exact (h.suffix.trans hopens.suffix).trans (List.suffix_append [_, _, _] _)
  | longRaw hopens h =>
    exact (h.suffix.trans hopens.suffix).trans (List.suffix_append [_, _, _] _)

end

end GuardedSql.Toml
