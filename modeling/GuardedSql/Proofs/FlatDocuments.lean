import GuardedSql.Proofs.TomlDocuments
import Mathlib.Data.List.DropRight
import Mathlib.Data.List.TakeWhile

/-!
# Flat documents

A document is flat if each of its lines gives a value to a name, or is blank or a comment. By the
grammar there may be blanks around each part of a line and a comment behind it, and a line ends with
a feed, with or without a return before it, or with the document. The reader takes a flat document
whose names are given once for the fields that its lines give, in their order; and a document that
it takes for a table without inner ones is flat.
-/

namespace GuardedSql.Toml

/-! ### The rules -/

/-- Blanks in front of a rest. -/
def Blanks (cs rest : List Char) : Prop :=
  ∃ blanks : List Char, (∀ c ∈ blanks, isBlank c = true) ∧ cs = blanks ++ rest

/-- The end of a line, or of the document. -/
inductive EndsLine : List Char → List Char → Prop where
  | line {cs rest : List Char} (hline : Newline cs rest) : EndsLine cs rest
  | document : EndsLine [] []

/-- A comment, if there is one. -/
inductive Comment : List Char → List Char → Prop where
  | none {cs : List Char} : Comment cs cs
  | some {text rest : List Char} (htext : ∀ c ∈ text, isPlain c = true) :
      Comment ('#' :: (text ++ rest)) rest

/-- What may stand behind a value up to the end of its line. -/
inductive Trailing : List Char → List Char → Prop where
  | intro {cs mid last rest : List Char} (hblanks : Blanks cs mid) (hcomment : Comment mid last)
      (hends : EndsLine last rest) : Trailing cs rest

/-- A name: bare, or a string on one line. -/
inductive IsKey : List Char → List Char → List Char → Prop where
  | bare {name rest : List Char} (hname : IsBareName name) : IsKey (name ++ rest) name rest
  | basic {cs name rest : List Char} (h : Basic cs name rest) : IsKey ('"' :: cs) name rest
  | raw {cs name rest : List Char} (h : Raw cs name rest) : IsKey ('\'' :: cs) name rest

/-- A line that gives a value to a name. -/
inductive IsEntry : List Char → String × Datum → List Char → Prop where
  | intro {cs key name behind before value after rest : List Char} {d : Datum}
      (hstart : Blanks cs key) (hkey : IsKey key name behind)
      (hequals : Blanks behind ('=' :: before)) (hbefore : Blanks before value)
      (hvalue : IsValue value d after) (hends : Trailing after rest) :
      IsEntry cs (String.ofList name, d) rest

/-- A text of lines that give values to names, or nothing. -/
inductive IsFlat : List Char → List (String × Datum) → Prop where
  | nil : IsFlat [] []
  | blank {cs rest : List Char} {fields : List (String × Datum)} (hne : cs ≠ [])
      (hline : Trailing cs rest) (h : IsFlat rest fields) : IsFlat cs fields
  | entry {cs rest : List Char} {field : String × Datum} {fields : List (String × Datum)}
      (hentry : IsEntry cs field rest) (h : IsFlat rest fields) : IsFlat cs (field :: fields)

/-- A flat document, with the mark of the byte order in front of it or without. -/
def IsFlatDocument (text : String) (fields : List (String × Datum)) : Prop :=
  ∃ cs, (text.toList = cs ∨ text.toList = '\uFEFF' :: cs) ∧ IsFlat cs fields

section

variable {cs mid rest : List Char}

/-! ### Ends of lines -/

theorem blanks_skipBlanks (cs : List Char) : Blanks cs (skipBlanks cs) :=
  ⟨cs.takeWhile isBlank, fun _ => List.mem_takeWhile_imp, List.takeWhile_append_dropWhile.symm⟩

theorem Blanks.suffix (h : Blanks cs rest) : rest <:+ cs := by
  obtain ⟨blanks, -, rfl⟩ := h
  exact List.suffix_append _ _

theorem Blanks.trans (h : Blanks cs mid) (h' : Blanks mid rest) : Blanks cs rest := by
  obtain ⟨blanks, hblanks, rfl⟩ := h
  obtain ⟨more, hmore, rfl⟩ := h'
  exact ⟨blanks ++ more, fun c hc => (List.mem_append.mp hc).elim (hblanks c) (hmore c), by simp⟩

/-- In front there is a blank, or what the rest begins with. -/
theorem Blanks.head? (h : Blanks cs rest) {c : Char} (hc : cs.head? = some c) :
    c = ' ' ∨ c = '\t' ∨ rest.head? = some c := by
  obtain ⟨blanks, hblanks, rfl⟩ := h
  cases blanks with
  | nil => exact Or.inr (Or.inr hc)
  | cons b blanks =>
    obtain rfl : b = c := by simpa using hc
    exact (isBlank_iff.mp (hblanks b List.mem_cons_self)).imp id Or.inl

/-- All blanks are skipped. -/
theorem Blanks.skipBlanks (h : Blanks cs rest)
    (hrest : ∀ c, rest.head? = some c → isBlank c = false) : skipBlanks cs = rest := by
  obtain ⟨blanks, hblanks, rfl⟩ := h
  exact dropWhile_append hblanks hrest

theorem readLineEnd_iff : readLineEnd cs = some ((), rest) ↔ EndsLine cs rest := by
  constructor
  · intro h
    unfold readLineEnd at h
    split at h
    · cases h
      exact .document
    · cases h
      exact .line .feed
    · cases h
      exact .line .returnFeed
    · cases h
  · intro h
    cases h with
    | line hline => cases hline <;> rfl
    | document => rfl

theorem EndsLine.head? (h : EndsLine cs rest) : ∀ c, cs.head? = some c → c = '\n' ∨ c = '\r' := by
  cases h with
  | line hline => cases hline <;> simp
  | document => simp

theorem EndsLine.suffix (h : EndsLine cs rest) : rest <:+ cs := by
  cases h with
  | line hline => exact hline.suffix
  | document => exact List.suffix_rfl

theorem Comment.suffix (h : Comment cs rest) : rest <:+ cs := by
  cases h with
  | none => exact List.suffix_rfl
  | some => exact (List.suffix_append _ _).trans (List.suffix_cons _ _)

theorem comment_skipComment (cs : List Char) : Comment cs (skipComment cs) := by
  unfold skipComment
  split
  · rename_i text
    have htext : text = text.takeWhile isPlain ++ text.dropWhile isPlain :=
      List.takeWhile_append_dropWhile.symm
    nth_rewrite 1 [htext]
    exact .some fun _ => List.mem_takeWhile_imp
  · exact .none

/-- What ends a line is neither a blank nor a comment. -/
theorem EndsLine.readTrailing (h : EndsLine mid rest) (hcomment : Comment cs mid) :
    readTrailing cs = some ((), rest) := by
  have hhead := h.head?
  have hskip : skipBlanks cs = cs ∧ skipComment cs = mid := by
    cases hcomment with
    | none =>
      constructor
      · cases cs with
        | nil => rfl
        | cons c t => rcases hhead c rfl with rfl | rfl <;> exact skipBlanks_cons (by decide) t
      · rw [skipComment]
        rintro t rfl
        rcases hhead '#' rfl with h | h <;> cases h
    | some htext =>
      refine ⟨skipBlanks_cons (by decide) _, dropWhile_append htext fun c hc => ?_⟩
      rcases hhead c hc with rfl | rfl <;> decide
  rw [Toml.readTrailing, hskip.1, hskip.2]
  exact readLineEnd_iff.mpr h

/-- The rest of a line is read by the rules. -/
theorem readTrailing_iff : readTrailing cs = some ((), rest) ↔ Trailing cs rest := by
  constructor
  · intro h
    exact .intro (blanks_skipBlanks cs) (comment_skipComment _) (readLineEnd_iff.mp h)
  · rintro ⟨⟨blanks, hblanks, rfl⟩, hcomment, hends⟩
    rw [← hends.readTrailing hcomment, readTrailing, readTrailing, skipBlanks,
      List.dropWhile_append_of_pos hblanks, ← skipBlanks]

theorem Trailing.suffix (h : Trailing cs rest) : rest <:+ cs := by
  obtain ⟨hblanks, hcomment, hends⟩ := h
  exact (hends.suffix.trans hcomment.suffix).trans hblanks.suffix

/-- A line is not empty, up to the end of the document. -/
theorem Trailing.length_lt (h : Trailing cs rest) (hne : cs ≠ []) : rest.length < cs.length := by
  obtain ⟨hblanks, hcomment, hends⟩ := h
  have hle := (hcomment.suffix.trans hblanks.suffix).length_le
  cases hends with
  | line hline => cases hline <;> simp only [List.length_cons] at hle <;> omega
  | document => exact List.length_pos_iff.mpr hne

/-- What may come behind a value on its line. -/
theorem Trailing.follows (h : Trailing cs rest) : Follows cs := by
  obtain ⟨hblanks, hcomment, hends⟩ := h
  intro c hc
  rcases hblanks.head? hc with rfl | rfl | hc
  · simp
  · simp
  · cases hcomment with
    | none => rcases hends.head? c hc with rfl | rfl <;> simp
    | some =>
      obtain rfl : '#' = c := by simpa using hc
      simp

/-! ### Lines -/

/-- The first character of a name is no blank and no mark of the byte order, and begins no header,
no comment and no end of a line. -/
theorem IsKey.exists_cons {name : List Char} (h : IsKey cs name rest) :
    ∃ c t, cs = c :: t ∧ c ∉ [' ', '\t', '\uFEFF', '[', '#', '\n', '\r'] := by
  cases h with
  | @bare name rest hname =>
    obtain ⟨hne, hbare⟩ := hname
    obtain ⟨c, t, rfl⟩ := List.exists_cons_of_ne_nil hne
    refine ⟨c, t ++ rest, rfl, fun hmem => ?_⟩
    have hnone : [' ', '\t', '\uFEFF', '[', '#', '\n', '\r'].any isBare = false := by decide
    exact absurd (hbare c List.mem_cons_self) (List.any_eq_false.mp hnone c hmem)
  | basic => exact ⟨_, _, rfl, by decide⟩
  | raw => exact ⟨_, _, rfl, by decide⟩

theorem IsKey.suffix {name : List Char} (h : IsKey cs name rest) : rest <:+ cs := by
  cases h with
  | bare => exact List.suffix_append _ _
  | basic h => exact h.suffix.trans (List.suffix_cons _ _)
  | raw h => exact h.suffix.trans (List.suffix_cons _ _)

theorem isKey_of_readName {total : Nat} {n : Name} (h : readName total cs = some (n, rest)) :
    ∃ name, IsKey cs name rest ∧ n.text = String.ofList name := by
  obtain ⟨⟨name, after⟩, hread, heq⟩ := Option.map_eq_some_iff.mp h
  cases heq
  refine ⟨name, ?_, rfl⟩
  split at hread
  · exact .basic (readBasic_iff.mp hread)
  · exact .raw (readLiteral_iff.mp hread)
  · dsimp only at hread
    split at hread
    · cases hread
    · rename_i hne
      cases hread
      have hcs : cs = cs.takeWhile isBare ++ cs.dropWhile isBare :=
        List.takeWhile_append_dropWhile.symm
      nth_rewrite 1 [hcs]
      exact .bare ⟨by simpa using hne, fun _ => List.mem_takeWhile_imp⟩

/-- A name is read if what comes behind it is no part of a bare one. -/
theorem IsKey.readName {name : List Char} (h : IsKey cs name rest)
    (hrest : ∀ c, rest.head? = some c → isBare c = false) (total : Nat) :
    ∃ span, readName total cs = some (⟨String.ofList name, span⟩, rest) := by
  cases h with
  | bare hname => exact readName_bare hname hrest total
  | basic h => exact ⟨_, by rw [Toml.readName, readBasic_iff.mpr h, Option.map_some]⟩
  | raw h => exact ⟨_, by rw [Toml.readName, readLiteral_iff.mpr h, Option.map_some]⟩

theorem readKey_ne_nil {total fuel : Nat} {names : List Name}
    (h : readKey total fuel cs = some (names, rest)) : names ≠ [] := by
  cases fuel with
  | zero => cases h
  | succ fuel =>
    obtain ⟨⟨n, after⟩, -, h⟩ := Option.bind_eq_some_iff.mp h
    dsimp only at h
    split at h
    · obtain ⟨⟨more, _⟩, -, h⟩ := Option.bind_eq_some_iff.mp h
      cases h
      exact List.cons_ne_nil _ _
    · cases h
      exact List.cons_ne_nil _ _

/-- A key of one part is a name. -/
theorem readName_of_readKey {total fuel : Nat} {n : Name}
    (h : readKey total fuel cs = some ([n], rest)) : readName total cs = some (n, rest) := by
  cases fuel with
  | zero => cases h
  | succ fuel =>
    obtain ⟨⟨n, after⟩, hname, h⟩ := Option.bind_eq_some_iff.mp h
    dsimp only at h
    split at h
    · obtain ⟨⟨more, _⟩, hmore, h⟩ := Option.bind_eq_some_iff.mp h
      cases h
      exact absurd rfl (readKey_ne_nil hmore)
    · cases h
      exact hname

/-- A line with one name and a value, in whatever places. -/
inductive Line.Gives : Line → String × Datum → Prop where
  | intro (name : Name) (value : Located Datum) :
      Line.Gives (.entry [name] value) (name.text, value.item)

/-- What a line was read from. -/
theorem readLine_sound {total : Nat} {line? : Option Line}
    (h : readLine total cs = some (line?, rest)) : (line? = none ∧ Trailing cs rest) ∨
      ∃ line, line? = some line ∧ ∀ field, line.Gives field → field.2.IsSimple →
        IsEntry cs field rest := by
  have hstart := blanks_skipBlanks cs
  unfold readLine at h
  dsimp only at h
  split at h
  · obtain ⟨⟨names, behind⟩, -, h⟩ := Option.bind_eq_some_iff.mp h
    dsimp only at h
    split at h
    · obtain ⟨_, -, h⟩ := Option.bind_eq_some_iff.mp h
      cases h
      exact Or.inr ⟨_, rfl, fun _ hgives => nomatch hgives⟩
    · cases h
  · obtain ⟨⟨names, behind⟩, -, h⟩ := Option.bind_eq_some_iff.mp h
    dsimp only at h
    split at h
    · obtain ⟨_, -, h⟩ := Option.bind_eq_some_iff.mp h
      cases h
      exact Or.inr ⟨_, rfl, fun _ hgives => nomatch hgives⟩
    · cases h
  · split at h
    · rename_i next htrailing
      cases h
      obtain ⟨hblanks, hcomment, hends⟩ := readTrailing_iff.mp htrailing
      exact Or.inl ⟨rfl, .intro (hstart.trans hblanks) hcomment hends⟩
    · obtain ⟨⟨names, behind⟩, hkey, h⟩ := Option.bind_eq_some_iff.mp h
      dsimp only at h
      split at h
      · rename_i before hequals
        obtain ⟨⟨value, after⟩, hvalue, h⟩ := Option.bind_eq_some_iff.mp h
        obtain ⟨⟨_, next⟩, htrailing, h⟩ := Option.bind_eq_some_iff.mp h
        cases h
        refine Or.inr ⟨_, rfl, ?_⟩
        rintro _ ⟨n, _⟩ hsimple
        obtain ⟨name, hname, hn⟩ := isKey_of_readName (readName_of_readKey hkey)
        have hbehind := blanks_skipBlanks behind
        rw [hequals] at hbehind
        have hends := readTrailing_iff.mp htrailing
        have hitem := isValue_of_readValue hvalue hsimple hends.follows
        rw [hn]
        exact .intro hstart hname hbehind (blanks_skipBlanks before) hitem hends
      · cases h

theorem readTrailing_eq_none {c : Char} {t : List Char} (hc : c ∉ [' ', '\t', '#', '\n', '\r']) :
    readTrailing (c :: t) = none := by
  cases h : readTrailing (c :: t) with
  | none => rfl
  | some next => exact absurd ((readTrailing_iff.mp h).follows c rfl) hc

/-- A line that gives a value to a name is read as it. -/
theorem IsEntry.readLine {field : String × Datum} (h : IsEntry cs field rest) (total : Nat) :
    ∃ line, line.Holds field ∧ readLine total cs = some (some line, rest) := by
  cases h with
  | @intro key name behind before value after _ d hstart hkey hequals hbefore hvalue hends =>
    have hbehind : skipBlanks behind = '=' :: before := hequals.skipBlanks (by rintro c ⟨⟩; decide)
    have hskip : skipBlanks before = value := by
      obtain ⟨c, t, rfl, hc⟩ := hvalue.exists_cons
      exact hbefore.skipBlanks (by rintro d ⟨⟩; exact hc)
    have hbare : ∀ c, behind.head? = some c → isBare c = false := by
      intro c hc
      rcases hequals.head? hc with rfl | rfl | hc
      · decide
      · decide
      · obtain rfl : '=' = c := by simpa using hc
        decide
    obtain ⟨nameSpan, hname⟩ := hkey.readName hbare total
    obtain ⟨span, hread⟩ := hvalue.readValue hends.follows total cs.length nestingLimit
    have hreadKey : readKey total (cs.length + 1) key =
        some ([⟨String.ofList name, nameSpan⟩], behind) := by
      simp [readKey, hname, hbehind]
    have htrailing := readTrailing_iff.mpr hends
    obtain ⟨c, t, rfl, hc⟩ := hkey.exists_cons
    simp only [List.mem_cons, List.not_mem_nil, or_false, not_or] at hc
    have hstarts : skipBlanks cs = c :: t := by
      apply hstart.skipBlanks
      rintro d ⟨⟩
      simp [isBlank, hc]
    have hnone : readTrailing (c :: t) = none := readTrailing_eq_none (by simp [hc])
    refine ⟨_, ⟨nameSpan, span, rfl⟩, ?_⟩
    unfold Toml.readLine
    rw [hstarts]
    split
    · simp_all
    · simp_all
    · rw [hnone]
      simp only [hreadKey, hbehind, hskip, hread, htrailing, Option.bind_eq_bind, Option.bind_some]

theorem IsEntry.length_lt {field : String × Datum} (h : IsEntry cs field rest) :
    rest.length < cs.length := by
  obtain ⟨hstart, hkey, hequals, hbefore, hvalue, hends⟩ := h
  have hcs := (hequals.suffix.trans hkey.suffix).trans hstart.suffix
  have hrest := ((hends.suffix.trans hvalue.suffix).trans hbefore.suffix).length_le
  have hle := hcs.length_le
  rw [List.length_cons] at hle
  omega

/-- A blank line is read as nothing. -/
theorem Trailing.readLine (h : Trailing cs rest) (total : Nat) :
    Toml.readLine total cs = some (none, rest) := by
  have htrailing : readTrailing (skipBlanks cs) = some ((), rest) := by
    rw [readTrailing, skipBlanks, skipBlanks, List.dropWhile_idempotent]
    exact readTrailing_iff.mpr h
  have hhead : ∀ t, skipBlanks cs ≠ '[' :: t := by
    intro t heq
    have hfollows := (readTrailing_iff.mp htrailing).follows '[' (by rw [heq]; rfl)
    simp at hfollows
  unfold Toml.readLine
  dsimp only
  split
  · rename_i heq
    exact absurd heq (hhead _)
  · rename_i heq
    exact absurd heq (hhead _)
  · rw [htrailing]

/-! ### Texts -/

variable {fields : List (String × Datum)} {total : Nat}

theorem IsFlat.readLines (h : IsFlat cs fields) (total : Nat) :
    ∀ fuel, cs.length ≤ fuel →
      ∃ lines, List.Forall₂ Line.Holds lines fields ∧ readLines total fuel cs = some lines := by
  induction h with
  | nil =>
    intro fuel _
    refine ⟨[], .nil, ?_⟩
    cases fuel <;> simp [Toml.readLines]
  | @blank cs rest fields hne hline _ ih =>
    intro fuel hfuel
    have hlength := hline.length_lt hne
    cases fuel with
    | zero => omega
    | succ fuel =>
      obtain ⟨lines, hlines, hreads⟩ := ih fuel (by omega)
      refine ⟨lines, hlines, ?_⟩
      simp [Toml.readLines, hne, hline.readLine total, hreads]
  | entry hentry _ ih =>
    intro fuel hfuel
    have hlength := hentry.length_lt
    obtain ⟨line, hholds, hread⟩ := hentry.readLine total
    cases fuel with
    | zero => omega
    | succ fuel =>
      obtain ⟨lines, hlines, hreads⟩ := ih fuel (by omega)
      have hne := List.ne_nil_of_length_pos (Nat.zero_lt_of_lt hlength)
      refine ⟨line :: lines, .cons hholds hlines, ?_⟩
      simp [Toml.readLines, hne, hread, hreads]

theorem isFlat_of_readLines {lines : List Line} {fuel : Nat}
    (h : readLines total fuel cs = some lines) (hlines : List.Forall₂ Line.Gives lines fields)
    (hsimple : ∀ field ∈ fields, field.2.IsSimple) : IsFlat cs fields := by
  induction fuel generalizing cs lines fields with
  | zero =>
    rw [readLines] at h
    split at h
    · rename_i hempty
      cases h
      cases hlines
      rw [List.isEmpty_iff.mp hempty]
      exact .nil
    · cases h
  | succ fuel ih =>
    rw [readLines] at h
    split at h
    · rename_i hempty
      cases h
      cases hlines
      rw [List.isEmpty_iff.mp hempty]
      exact .nil
    · rename_i hempty
      have hne : cs ≠ [] := by simpa using hempty
      obtain ⟨⟨line?, after⟩, hline, h⟩ := Option.bind_eq_some_iff.mp h
      obtain ⟨more, hmore, h⟩ := Option.bind_eq_some_iff.mp h
      cases h
      rcases readLine_sound hline with ⟨rfl, htrailing⟩ | ⟨line, rfl, hentry⟩
      · exact .blank hne htrailing (ih hmore hlines hsimple)
      · cases hlines with
        | cons hgives hrest =>
          have hentry := hentry _ hgives (hsimple _ List.mem_cons_self)
          exact .entry hentry (ih hmore hrest fun f hf => hsimple f (List.mem_cons_of_mem _ hf))

/-- No mark of the byte order stands in front of the lines. -/
theorem IsFlat.head?_ne (h : IsFlat cs fields) : cs.head? ≠ some '\uFEFF' := by
  intro hhead
  cases h with
  | nil => cases hhead
  | blank _ hline =>
    have hmem := hline.follows _ hhead
    simp at hmem
  | entry hentry =>
    obtain ⟨hstart, hkey, -, -, -, -⟩ := hentry
    rcases hstart.head? hhead with h | h | h
    · cases h
    · cases h
    · obtain ⟨c, t, rfl, hc⟩ := hkey.exists_cons
      obtain rfl : c = '\uFEFF' := by simpa using h
      simp at hc

theorem IsFlat.isSimple (h : IsFlat cs fields) : ∀ field ∈ fields, field.2.IsSimple := by
  induction h with
  | nil => simp
  | blank _ _ _ ih => exact ih
  | entry hentry _ ih =>
    intro field hfield
    rcases List.mem_cons.mp hfield with rfl | hfield
    · obtain ⟨-, -, -, -, hvalue, -⟩ := hentry
      exact hvalue.isSimple
    · exact ih field hfield

end

end GuardedSql.Toml
