import GuardedSql.Proofs.TomlStringForms
import GuardedSql.Toml.Reader
import Mathlib.Data.List.Basic

/-!
# The forms of values

Truth values and whole numbers by the grammar, and with the strings all values that an option can
take. A whole number is written in base ten with or without a sign and with no zero in front of
others, or without a sign in base sixteen, eight or two; between two digits a single underscore may
stand. Where a number ends is settled by what comes behind it on its line.
-/

namespace GuardedSql.Toml

/-! ### The rules -/

/-- Whether a character is a digit in a base. -/
def isDigitOf (base : Nat) (c : Char) : Bool := (hexDigit? c).any (· < base)

/-- The value of digits in a base, each one worth the base times as much as the next. -/
def positional (base : Nat) (ds : List Char) : Nat :=
  ds.foldl (fun v d => v * base + (hexDigit? d).getD 0) 0

/-- Digits of a kind, with single underscores between them. -/
inductive Digits (accept : Char → Bool) : List Char → List Char → List Char → Prop where
  | one {c : Char} {rest : List Char} (hc : accept c = true) : Digits accept (c :: rest) [c] rest
  | next {c : Char} {cs ds rest : List Char} (hc : accept c = true) (h : Digits accept cs ds rest) :
      Digits accept (c :: cs) (c :: ds) rest
  | apart {c : Char} {cs ds rest : List Char} (hc : accept c = true)
      (h : Digits accept cs ds rest) : Digits accept (c :: '_' :: cs) (c :: ds) rest

/-- Digits in base ten: no zero stands in front of others. -/
def IsDecimal (cs ds rest : List Char) : Prop :=
  Digits (isDigitOf 10) cs ds rest ∧ (ds.head? = some '0' → ds = ['0'])

/-- The letters of the other bases. -/
inductive BaseLetter : Char → Nat → Prop where
  | sixteen : BaseLetter 'x' 16
  | eight : BaseLetter 'o' 8
  | two : BaseLetter 'b' 2

/-- What a whole number is written as. -/
inductive IsInteger : List Char → Int → List Char → Prop where
  | plain {cs ds rest : List Char} (h : IsDecimal cs ds rest) : IsInteger cs (positional 10 ds) rest
  | plus {cs ds rest : List Char} (h : IsDecimal cs ds rest) :
      IsInteger ('+' :: cs) (positional 10 ds) rest
  | minus {cs ds rest : List Char} (h : IsDecimal cs ds rest) :
      IsInteger ('-' :: cs) (-(positional 10 ds : Int)) rest
  | based {letter : Char} {base : Nat} {cs ds rest : List Char} (hbase : BaseLetter letter base)
      (h : Digits (isDigitOf base) cs ds rest) :
      IsInteger ('0' :: letter :: cs) (positional base ds) rest

/-- What a value is written as that an option can take. -/
inductive IsValue : List Char → Datum → List Char → Prop where
  | string {cs value rest : List Char} (h : IsString cs value rest) :
      IsValue cs (.string (String.ofList value)) rest
  | yes {rest : List Char} : IsValue ('t' :: 'r' :: 'u' :: 'e' :: rest) (.boolean true) rest
  | no {rest : List Char} : IsValue ('f' :: 'a' :: 'l' :: 's' :: 'e' :: rest) (.boolean false) rest
  /-- The number fits 64 bits. -/
  | integer {cs rest : List Char} {n : Int64} (h : IsInteger cs n.toInt rest) :
      IsValue cs (.integer n) rest

/-- What may come behind a value on its line: nothing, a blank, a comment or the end of the line. -/
def Follows (rest : List Char) : Prop := ∀ c, rest.head? = some c → c ∈ [' ', '\t', '#', '\n', '\r']

/-- Whether a datum is of one of the kinds that an option can take. -/
def Datum.IsSimple : Datum → Prop
  | .string _ | .integer _ | .boolean _ => True
  | _ => False

/-! ### Digits -/

@[simp] theorem isDigit_eq (c : Char) : isDigit c = c.isDigit := by
  simp only [isDigit, Char.isDigit, Char.le_def, ge_iff_le]

theorem ne_of_accepts {accept : Char → Bool} {c d : Char} (hc : accept c = true)
    (hd : accept d = false) : c ≠ d := by
  rintro rfl
  rw [hc] at hd
  contradiction

section

variable {accept : Char → Bool} {cs ds rest : List Char}

/-- A run of digits is over. -/
def Ends (accept : Char → Bool) (rest : List Char) : Prop :=
  ∀ c, rest.head? = some c → accept c = false ∧ c ≠ '_'

theorem Digits.exists_cons (h : Digits accept cs ds rest) :
    ∃ c t u, cs = c :: t ∧ ds = c :: u ∧ accept c = true := by
  cases h with
  | one hc => exact ⟨_, _, _, rfl, rfl, hc⟩
  | next hc => exact ⟨_, _, _, rfl, rfl, hc⟩
  | apart hc => exact ⟨_, _, _, rfl, rfl, hc⟩

theorem Digits.all (h : Digits accept cs ds rest) : ∀ c ∈ ds, accept c = true := by
  induction h with
  | one hc => simpa using hc
  | next hc _ ih => simpa using ⟨hc, ih⟩
  | apart hc _ ih => simpa using ⟨hc, ih⟩

theorem Digits.suffix (h : Digits accept cs ds rest) : rest <:+ cs := by
  induction h with
  | one => exact List.suffix_cons _ _
  | next _ _ ih => exact ih.trans (List.suffix_cons _ _)
  | apart _ _ ih => exact ih.trans (List.suffix_append [_, _] _)

/-- A run of digits is read as far as it goes. -/
theorem readDigits_iff (hunderscore : accept '_' = false) :
    readDigits accept cs = some (ds, rest) ↔ Digits accept cs ds rest ∧ Ends accept rest := by
  constructor
  · intro h
    fun_induction readDigits accept cs generalizing ds with
    | case3 c hc more ih =>
      obtain ⟨v, rfl, hv⟩ := Read.cons_eq_some_iff.mp h
      obtain ⟨hdigits, hends⟩ := ih hv
      exact ⟨.apart (by simpa using hc) hdigits, hends⟩
    | case4 c hc =>
      cases h
      exact ⟨.one (by simpa using hc), by simp [Ends]⟩
    | case5 c hc d more hd hnext ih =>
      obtain ⟨v, rfl, hv⟩ := Read.cons_eq_some_iff.mp h
      obtain ⟨hdigits, hends⟩ := ih hv
      exact ⟨.next (by simpa using hc) hdigits, hends⟩
    | case6 c hc d more hd hnext =>
      cases h
      refine ⟨.one (by simpa using hc), ?_⟩
      rintro e he
      obtain rfl : d = e := by simpa using he
      exact ⟨by simpa using hnext, fun heq => hd heq⟩
    | _ => cases h
  · rintro ⟨h, hends⟩
    induction h with
    | @one c rest hc =>
      cases rest with
      | nil => simp [readDigits, hc]
      | cons d more =>
        obtain ⟨hd, hnot⟩ := hends d rfl
        simp [readDigits, hc, hd]
    | next hc hdigits ih =>
      obtain ⟨d, t, u, rfl, rfl, hd⟩ := hdigits.exists_cons
      have hnot : d ≠ '_' := ne_of_accepts hd hunderscore
      simp [readDigits, hc, hd, ih hends]
    | apart hc _ ih => simp [readDigits, hc, ih hends]

end

theorem isDigitOf_eq (base : Nat) (c : Char) : isDigitOf base c = match hexDigit? c with
    | some d => decide (d < base)
    | none => false := by
  rw [isDigitOf]
  cases hexDigit? c <;> rfl

theorem hexDigit?_of_isDigit {c : Char} (hc : isDigit c = true) :
    hexDigit? c = some (digitValue c) := by
  have hrange : '0' ≤ c ∧ c ≤ '9' := by simpa [isDigit] using hc
  simp [hexDigit?, hrange, digitValue]

/-- The letters are worth ten and more. -/
theorem isDigitOf_ten (c : Char) : isDigitOf 10 c = isDigit c := by
  cases hc : isDigit c with
  | true =>
    have hrange : '0' ≤ c ∧ c ≤ '9' := by simpa [isDigit] using hc
    have hle : c.toNat ≤ 57 := hrange.2
    rw [isDigitOf, hexDigit?_of_isDigit hc, Option.any_some, digitValue]
    have hzero : '0'.toNat = 48 := rfl
    simp only [decide_eq_true_eq, hzero]
    omega
  | false =>
    have hrange : ¬('0' ≤ c ∧ c ≤ '9') := by simpa [isDigit] using hc
    rw [isDigitOf, hexDigit?, if_neg hrange]
    split
    · simp
    · split <;> simp

theorem positional_ten {ds : List Char} (h : ∀ c ∈ ds, isDigit c = true) :
    positional 10 ds = decimalValue ds := by
  rw [positional, decimalValue]
  have hstep : ∀ v, ∀ c ∈ ds, v * 10 + (hexDigit? c).getD 0 = v * 10 + digitValue c := by
    intro v c hc
    rw [hexDigit?_of_isDigit (h c hc), Option.getD_some]
  exact List.foldl_ext _ _ 0 hstep

/-! ### Whole numbers -/

section

variable {cs ds rest : List Char}

theorem Follows.ends (hfollows : Follows rest) : Ends isDigit rest := by
  intro c hc
  have hmem := hfollows c hc
  simp only [List.mem_cons, List.not_mem_nil, or_false] at hmem
  rcases hmem with rfl | rfl | rfl | rfl | rfl <;> decide

theorem decimal_iff : IsDecimal cs ds rest ↔
    Digits isDigit cs ds rest ∧ (ds.head? = some '0' → ds = ['0']) := by
  have hkind : isDigitOf 10 = isDigit := funext isDigitOf_ten
  rw [IsDecimal, hkind]

/-- Behind a zero in front there are no other digits. -/
theorem decimal_zero_iff {t : List Char} :
    IsDecimal ('0' :: t) ds rest ↔ ds = ['0'] ∧ rest = t := by
  rw [decimal_iff]
  constructor
  · rintro ⟨hdigits, hzero⟩
    obtain ⟨_, _, _, ⟨rfl, rfl⟩, rfl, _⟩ := hdigits.exists_cons
    have hds := hzero rfl
    rw [List.cons.injEq] at hds
    obtain ⟨-, rfl⟩ := hds
    cases hdigits with
    | one => exact ⟨rfl, rfl⟩
    | next _ h => obtain ⟨_, _, _, _, hcons, _⟩ := h.exists_cons; cases hcons
    | apart _ h => obtain ⟨_, _, _, _, hcons, _⟩ := h.exists_cons; cases hcons
  · rintro ⟨rfl, rfl⟩
    exact ⟨.one (by decide), fun _ => rfl⟩

theorem readInteger_zero (t : List Char) :
    readInteger ('0' :: t) = some (ds, rest) ↔ (ds = ['0'] ∧ rest = t) ∧ Ends isDigit rest := by
  have hread : readInteger ('0' :: t) = some (ds, rest) ↔
      (ds = ['0'] ∧ rest = t) ∧ Ends isDigit t := by
    cases t with
    | nil =>
      simp only [readInteger, Option.some.injEq, Prod.mk.injEq]
      constructor
      · rintro ⟨rfl, rfl⟩
        exact ⟨⟨rfl, rfl⟩, by simp [Ends]⟩
      · rintro ⟨⟨rfl, rfl⟩, -⟩
        exact ⟨rfl, rfl⟩
    | cons c t =>
      have hends : Ends isDigit (c :: t) ↔ (isDigit c || c == '_') = false := by simp [Ends]
      rw [hends, readInteger]
      cases isDigit c || c == '_' with
      | true => simp
      | false =>
        simp only [Bool.false_eq_true, if_false, Option.some.injEq, Prod.mk.injEq, and_true]
        constructor
        · rintro ⟨rfl, rfl⟩
          exact ⟨rfl, rfl⟩
        · rintro ⟨rfl, rfl⟩
          exact ⟨rfl, rfl⟩
  rw [hread]
  constructor
  · rintro ⟨⟨rfl, rfl⟩, h⟩
    exact ⟨⟨rfl, rfl⟩, h⟩
  · rintro ⟨⟨rfl, rfl⟩, h⟩
    exact ⟨⟨rfl, rfl⟩, h⟩

/-- The digits of a number in base ten are read as far as they go. -/
theorem readInteger_iff :
    readInteger cs = some (ds, rest) ↔ IsDecimal cs ds rest ∧ Ends isDigit rest := by
  by_cases hhead : cs.head? = some '0'
  · obtain ⟨t, rfl⟩ := List.head?_eq_some_iff.mp hhead
    rw [readInteger_zero, decimal_zero_iff]
  · have hread : readInteger cs = readDigits isDigit cs := by
      rw [readInteger]
      rintro t rfl
      exact hhead rfl
    rw [hread, readDigits_iff (by decide), decimal_iff]
    constructor
    · rintro ⟨hdigits, hends⟩
      refine ⟨⟨hdigits, fun hzero => absurd hzero ?_⟩, hends⟩
      obtain ⟨c, t, u, rfl, rfl, -⟩ := hdigits.exists_cons
      exact hhead
    · rintro ⟨⟨hdigits, -⟩, hends⟩
      exact ⟨hdigits, hends⟩

/-- A number fits 64 bits or is no datum. -/
theorem integer?_eq_some_iff {negative : Bool} {k : Nat} {d : Datum} :
    integer? negative k = some d ↔
      ∃ n : Int64, d = .integer n ∧ n.toInt = if negative = true then -(k : Int) else k := by
  cases negative with
  | true =>
    simp only [integer?, if_true]
    constructor
    · intro h
      split at h
      · cases h
        rename_i hk
        refine ⟨_, rfl, Int64.toInt_ofInt_of_le ?_ ?_⟩ <;> omega
      · cases h
    · rintro ⟨n, rfl, hn⟩
      have hlow := Int64.le_toInt n
      rw [if_pos (by omega), ← hn, Int64.ofInt_toInt]
  | false =>
    simp only [integer?, Bool.false_eq_true, if_false]
    constructor
    · intro h
      split at h
      · cases h
        rename_i hk
        refine ⟨_, rfl, ?_⟩
        rw [← Int64.ofInt_eq_ofNat]
        refine Int64.toInt_ofInt_of_le ?_ ?_ <;> omega
      · cases h
    · rintro ⟨n, rfl, hn⟩
      have hhigh := Int64.toInt_lt n
      rw [if_pos (by omega), ← Int64.ofInt_eq_ofNat, ← hn, Int64.ofInt_toInt]

theorem readBased_eq (base : Nat) (cs : List Char) :
    readBased base cs = (readDigits (isDigitOf base) cs).bind fun r =>
      (integer? false (positional base r.1)).bind fun d => some (d, r.2) := by
  rw [funext (isDigitOf_eq base)]
  rfl

/-- A number in another base is read as far as it goes. -/
theorem readBased_iff {base : Nat} {d : Datum} :
    readBased base cs = some (d, rest) ↔ ∃ ds, ∃ n : Int64, d = .integer n ∧
      n.toInt = positional base ds ∧ Digits (isDigitOf base) cs ds rest ∧
        Ends (isDigitOf base) rest := by
  have hunderscore : isDigitOf base '_' = false := by
    have hnone : hexDigit? '_' = none := by decide
    rw [isDigitOf, hnone, Option.any_none]
  rw [readBased_eq]
  constructor
  · intro h
    obtain ⟨⟨ds, after⟩, hdigits, h⟩ := Option.bind_eq_some_iff.mp h
    obtain ⟨d, hinteger, h⟩ := Option.bind_eq_some_iff.mp h
    cases h
    obtain ⟨n, rfl, hn⟩ := integer?_eq_some_iff.mp hinteger
    obtain ⟨hdigits, hends⟩ := (readDigits_iff hunderscore).mp hdigits
    exact ⟨ds, n, rfl, by simpa using hn, hdigits, hends⟩
  · rintro ⟨ds, n, rfl, hn, hdigits, hends⟩
    have hinteger : integer? false (positional base ds) = some (.integer n) :=
      integer?_eq_some_iff.mpr ⟨n, rfl, by simpa using hn⟩
    rw [(readDigits_iff hunderscore).mpr ⟨hdigits, hends⟩, Option.bind_some, hinteger,
      Option.bind_some]

theorem eq_of_readFraction {cs rest : List Char} (h : readFraction cs = some (none, rest)) :
    rest = cs := by
  unfold readFraction at h
  split at h
  · obtain ⟨_, _, hsome⟩ := Option.map_eq_some_iff.mp h
    cases hsome
  · cases h
    rfl

theorem eq_of_readPower {cs rest : List Char} (h : readPower cs = some (none, rest)) :
    rest = cs := by
  unfold readPower at h
  split at h
  · split at h
    · obtain ⟨_, _, hsome⟩ := Option.map_eq_some_iff.mp h
      cases hsome
    · cases h
      rfl
  · cases h
    rfl

/-- What follows a value is no point and no power. -/
theorem Follows.readFraction (hfollows : Follows rest) : readFraction rest = some (none, rest) := by
  rw [Toml.readFraction]
  rintro t rfl
  have hmem := hfollows '.' rfl
  simp at hmem

theorem Follows.readPower (hfollows : Follows rest) : readPower rest = some (none, rest) := by
  cases rest with
  | nil => rfl
  | cons c t =>
    have hmem := hfollows c rfl
    simp only [List.mem_cons, List.not_mem_nil, or_false] at hmem
    rcases hmem with rfl | rfl | rfl | rfl | rfl <;> rfl

/-- Behind its sign, a number in base ten without a point and a power is a whole number. -/
theorem readDecimal_iff {sign : Option Bool} {digits : List Char} {d : Datum}
    (hsign : readSign cs = (sign, digits)) (hfollows : Follows rest) :
    readDecimal cs = some (d, rest) ∧ d.IsSimple ↔ ∃ ds, ∃ n : Int64, d = .integer n ∧
      IsDecimal digits ds rest ∧
        n.toInt = if sign = some true then -(positional 10 ds : Int) else positional 10 ds := by
  constructor
  · rintro ⟨h, hsimple⟩
    simp only [readDecimal, hsign] at h
    split at h
    · cases h
      exact hsimple.elim
    · cases h
      exact hsimple.elim
    · have hfloat : ∀ {b : Bool} {x : Float} {t : List Char},
          (if b = true then none else some (Datum.float x, t)) ≠ some (d, rest) := by
        intro b x t h
        cases b <;> cases h
        exact hsimple
      obtain ⟨⟨ds, after⟩, hwhole, h⟩ := Option.bind_eq_some_iff.mp h
      obtain ⟨⟨fraction?, after'⟩, hfraction, h⟩ := Option.bind_eq_some_iff.mp h
      obtain ⟨⟨power?, after''⟩, hpower, h⟩ := Option.bind_eq_some_iff.mp h
      cases fraction? with
      | none =>
        cases power? with
        | none =>
          obtain rfl := eq_of_readFraction hfraction
          obtain rfl := eq_of_readPower hpower
          obtain ⟨d, hinteger, heq⟩ := Option.map_eq_some_iff.mp h
          cases heq
          obtain ⟨hdecimal, -⟩ := readInteger_iff.mp hwhole
          obtain ⟨n, hn, hvalue⟩ := integer?_eq_some_iff.mp hinteger
          have hdigits := (decimal_iff.mp hdecimal).1
          refine ⟨ds, n, hn, hdecimal, ?_⟩
          rw [positional_ten hdigits.all]
          simpa using hvalue
        | some power => exact (hfloat h).elim
      | some fraction => exact (hfloat h).elim
  · rintro ⟨ds, n, rfl, hdecimal, hn⟩
    refine ⟨?_, trivial⟩
    have hwhole := readInteger_iff.mpr ⟨hdecimal, hfollows.ends⟩
    have hdigits := (decimal_iff.mp hdecimal).1
    have hinteger : integer? (sign = some true) (decimalValue ds) = some (.integer n) := by
      apply integer?_eq_some_iff.mpr
      rw [positional_ten hdigits.all] at hn
      exact ⟨n, rfl, by simpa using hn⟩
    obtain ⟨c, t, u, rfl, rfl, hc⟩ := hdigits.exists_cons
    have hi : c ≠ 'i' := ne_of_accepts hc (by decide)
    have hnan : c ≠ 'n' := ne_of_accepts hc (by decide)
    simp only [readDecimal, hsign]
    split
    · simp_all
    · simp_all
    · simp [hwhole, hfollows.readFraction, hfollows.readPower, hinteger]

/-! ### Values -/

theorem head?_dropWhile {p : Char → Bool} {c : Char} (hc : p c = false) :
    ∀ (k : Nat) (l : List Char), (l.take k).all p = true → l[k]? = some c →
      (l.dropWhile p).head? = some c := by
  intro k
  induction k with
  | zero =>
    intro l _ hget
    cases l with
    | nil => cases hget
    | cons d l =>
      obtain rfl : d = c := by simpa using hget
      rw [List.dropWhile_cons_of_neg (by simp [hc]), List.head?_cons]
  | succ k ih =>
    intro l hall hget
    cases l with
    | nil => cases hget
    | cons d l =>
      rw [List.take_succ_cons, List.all_cons, Bool.and_eq_true] at hall
      rw [List.dropWhile_cons_of_pos hall.1]
      exact ih l hall.2 (by simpa using hget)

/-- Behind the first digits of a number there is an underscore, or what may follow a value. -/
theorem Digits.head?_dropWhile (h : Digits isDigit cs ds rest) (hfollows : Follows rest) :
    ∀ c, (cs.dropWhile isDigit).head? = some c → c ∈ ['_', ' ', '\t', '#', '\n', '\r'] := by
  induction h with
  | @one c rest hc =>
    intro d hd
    have hrest : rest.dropWhile isDigit = rest := by
      cases rest with
      | nil => rfl
      | cons e t =>
        have he := (hfollows.ends e rfl).1
        exact List.dropWhile_cons_of_neg (by rw [he]; exact Bool.false_ne_true)
    rw [List.dropWhile_cons_of_pos hc, hrest] at hd
    exact List.mem_cons_of_mem '_' (hfollows d hd)
  | next hc _ ih =>
    rw [List.dropWhile_cons_of_pos hc]
    exact ih hfollows
  | apart hc _ _ =>
    intro d hd
    rw [List.dropWhile_cons_of_pos hc, List.dropWhile_cons_of_neg (by decide)] at hd
    obtain rfl : '_' = d := by simpa using hd
    exact List.mem_cons_self

/-- A number in base ten is no date and no time, and no number in another base. -/
theorem IsDecimal.readScalar (h : IsDecimal cs ds rest) (hfollows : Follows rest) :
    readScalar cs = readDecimal cs := by
  have hdigits := (decimal_iff.mp h).1
  have hbehind := hdigits.head?_dropWhile hfollows
  have hdate : startsDate cs = false := by
    rw [Bool.eq_false_iff]
    intro hstarts
    simp only [startsDate, Bool.and_eq_true, beq_iff_eq] at hstarts
    have hmem := hbehind '-' (head?_dropWhile (by decide) 4 cs hstarts.1.2 hstarts.2)
    simp at hmem
  have htime : startsTime cs = false := by
    rw [Bool.eq_false_iff]
    intro hstarts
    simp only [startsTime, Bool.and_eq_true, beq_iff_eq] at hstarts
    have hmem := hbehind ':' (head?_dropWhile (by decide) 2 cs hstarts.1.2 hstarts.2)
    simp at hmem
  obtain ⟨c, t, u, rfl, rfl, hc⟩ := hdigits.exists_cons
  have hother : ∀ other v, other ∈ ['t', 'f'] → c :: t ≠ other :: v := by
    rintro other v hmem heq
    cases heq
    simp only [List.mem_cons, List.not_mem_nil, or_false] at hmem
    rcases hmem with rfl | rfl <;> contradiction
  have hletter : ∀ letter v, letter ∈ ['x', 'o', 'b'] → c :: t ≠ '0' :: letter :: v := by
    rintro letter v hmem heq
    cases heq
    obtain ⟨-, rfl⟩ := decimal_zero_iff.mp h
    have hfollow := hfollows letter rfl
    simp only [List.mem_cons, List.not_mem_nil, or_false] at hmem
    rcases hmem with rfl | rfl | rfl <;> simp at hfollow
  rw [Toml.readScalar]
  · simp [hdate, htime]
  · exact fun v => hother 't' _ (by simp)
  · exact fun v => hother 'f' _ (by simp)
  · exact fun v => hletter 'x' v (by simp)
  · exact fun v => hletter 'o' v (by simp)
  · exact fun v => hletter 'b' v (by simp)

theorem eq_moment_of_readMoment {d : Datum} (h : readMoment cs = some (d, rest)) : d = .moment := by
  unfold readMoment at h
  split at h
  · obtain ⟨_, -, heq⟩ := Option.map_eq_some_iff.mp h
    cases heq
    rfl
  · obtain ⟨⟨_, after⟩, -, h⟩ := Option.bind_eq_some_iff.mp h
    simp only at h
    split at h
    · split at h
      · obtain ⟨_, -, h⟩ := Option.bind_eq_some_iff.mp h
        obtain ⟨_, -, h⟩ := Option.bind_eq_some_iff.mp h
        cases h
        rfl
      · cases h
        rfl
    · cases h
      rfl

theorem isInteger_of_readDecimal {d : Datum} (h : readDecimal cs = some (d, rest))
    (hsimple : d.IsSimple) (hfollows : Follows rest) :
    ∃ n : Int64, d = .integer n ∧ IsInteger cs n.toInt rest := by
  have hread := fun (sign : Option Bool) (digits : List Char)
    (hsign : readSign cs = (sign, digits)) => (readDecimal_iff hsign hfollows).mp ⟨h, hsimple⟩
  fun_cases readSign cs with
  | case1 digits =>
    obtain ⟨ds, n, rfl, hdecimal, hn⟩ := hread _ _ rfl
    exact ⟨n, rfl, hn ▸ .plus hdecimal⟩
  | case2 digits =>
    obtain ⟨ds, n, rfl, hdecimal, hn⟩ := hread _ _ rfl
    exact ⟨n, rfl, hn ▸ .minus hdecimal⟩
  | case3 _ hplus hminus =>
    obtain ⟨ds, n, rfl, hdecimal, hn⟩ := hread none cs (by rw [readSign] <;> assumption)
    exact ⟨n, rfl, hn ▸ .plain hdecimal⟩

theorem isValue_of_readScalar {d : Datum} (h : readScalar cs = some (d, rest))
    (hsimple : d.IsSimple) (hfollows : Follows rest) : IsValue cs d rest := by
  have hbased : ∀ {letter : Char} {base : Nat} {t : List Char}, BaseLetter letter base →
      readBased base t = some (d, rest) → IsValue ('0' :: letter :: t) d rest := by
    intro letter base t hletter h
    obtain ⟨ds, n, rfl, hn, hdigits, -⟩ := readBased_iff.mp h
    have hinteger := IsInteger.based hletter hdigits
    rw [← hn] at hinteger
    exact .integer hinteger
  unfold Toml.readScalar at h
  split at h
  · cases h
    exact .yes
  · cases h
    exact .no
  · exact hbased .sixteen h
  · exact hbased .eight h
  · exact hbased .two h
  · split at h
    · obtain rfl := eq_moment_of_readMoment h
      exact hsimple.elim
    · obtain ⟨n, rfl, hinteger⟩ := isInteger_of_readDecimal h hsimple hfollows
      exact .integer hinteger

theorem Follows.ends_of_base (hfollows : Follows rest) (base : Nat) :
    Ends (isDigitOf base) rest := by
  intro c hc
  have hmem := hfollows c hc
  simp only [List.mem_cons, List.not_mem_nil, or_false] at hmem
  have hnone : hexDigit? c = none ∧ c ≠ '_' := by
    rcases hmem with rfl | rfl | rfl | rfl | rfl <;> decide
  exact ⟨by rw [isDigitOf, hnone.1, Option.any_none], hnone.2⟩

/-- A whole number that fits is read up to what follows it. -/
theorem IsInteger.readScalar {n : Int64} {k : Int} (h : IsInteger cs k rest) (hk : n.toInt = k)
    (hfollows : Follows rest) : readScalar cs = some (.integer n, rest) := by
  cases h with
  | plain hdecimal =>
    have hsign : readSign cs = (none, cs) := by
      obtain ⟨c, t, u, rfl, rfl, hc⟩ := hdecimal.1.exists_cons
      rw [readSign] <;> rintro t heq <;> cases heq <;> contradiction
    rw [hdecimal.readScalar hfollows]
    exact ((readDecimal_iff hsign hfollows).mpr ⟨_, n, rfl, hdecimal, by simpa using hk⟩).1
  | @plus cs _ _ hdecimal =>
    have hscalar : Toml.readScalar ('+' :: cs) = readDecimal ('+' :: cs) := by
      simp [Toml.readScalar, startsDate, startsTime]
    have hsign : readSign ('+' :: cs) = (some false, cs) := rfl
    rw [hscalar]
    exact ((readDecimal_iff hsign hfollows).mpr ⟨_, n, rfl, hdecimal, by simpa using hk⟩).1
  | @minus cs _ _ hdecimal =>
    have hscalar : Toml.readScalar ('-' :: cs) = readDecimal ('-' :: cs) := by
      simp [Toml.readScalar, startsDate, startsTime]
    have hsign : readSign ('-' :: cs) = (some true, cs) := rfl
    rw [hscalar]
    exact ((readDecimal_iff hsign hfollows).mpr ⟨_, n, rfl, hdecimal, by simpa using hk⟩).1
  | based hbase hdigits =>
    have hread := readBased_iff.mpr ⟨_, n, rfl, hk, hdigits, hfollows.ends_of_base _⟩
    cases hbase <;> exact hread

/-- The characters that begin a blank, an array, a table or a text. -/
def opensOther (c : Char) : Bool :=
  isBlank c || c == '[' || c == '\x7b' || c == '"' || c == '\''

theorem opensOther_of_isDigit {c : Char} (hc : isDigit c = true) : opensOther c = false := by
  simp only [opensOther, isBlank, Bool.or_eq_false_iff, beq_eq_false_iff_ne]
  refine ⟨⟨⟨⟨⟨?_, ?_⟩, ?_⟩, ?_⟩, ?_⟩, ?_⟩ <;> exact ne_of_accepts hc (by decide)

/-- The first character of a whole number. -/
theorem IsInteger.exists_cons {k : Int} (h : IsInteger cs k rest) :
    ∃ c t, cs = c :: t ∧ opensOther c = false := by
  cases h with
  | plain hdecimal =>
    obtain ⟨c, t, u, rfl, rfl, hc⟩ := (decimal_iff.mp hdecimal).1.exists_cons
    exact ⟨c, t, rfl, opensOther_of_isDigit hc⟩
  | _ => exact ⟨_, _, rfl, by decide⟩

theorem readValue_scalar {c : Char} {t : List Char} (hc : opensOther c = false)
    (total fuel depth : Nat) :
    readValue total (fuel + 1) depth (c :: t) = (readScalar (c :: t)).map fun r =>
      (⟨r.1, some (spanOf total (c :: t) r.2)⟩, r.2) := by
  simp only [opensOther, Bool.or_eq_false_iff, beq_eq_false_iff_ne] at hc
  rw [readValue] <;> simp_all

/-- What a value of a simple kind was read from: a string or a scalar. -/
theorem readValue_cases {d : Datum} {span? : Option Span} {total fuel depth : Nat}
    (h : readValue total (fuel + 1) depth cs = some (⟨d, span?⟩, rest)) (hsimple : d.IsSimple) :
    (∃ value, readString cs = some (value, rest) ∧ d = .string (String.ofList value)) ∨
      readScalar cs = some (d, rest) := by
  -- whatever its place, the item is the one that was read
  have hlocated : ∀ {r : Option (Datum × List Char)} {start : List Char},
      r.map (fun x => (Located.mk x.1 (some (spanOf total start x.2)), x.2)) =
        some (⟨d, span?⟩, rest) → r = some (d, rest) := by
    intro r start h
    obtain ⟨⟨d', after⟩, rfl, heq⟩ := Option.map_eq_some_iff.mp h
    cases heq
    rfl
  unfold readValue at h
  dsimp only at h
  split at h
  · split at h
    · cases h
    · obtain ⟨_, -, heq⟩ := Option.map_eq_some_iff.mp (hlocated h)
      cases heq
      exact hsimple.elim
  · split at h
    · cases h
    · split at h
      · cases hlocated h
        exact hsimple.elim
      · obtain ⟨_, -, heq⟩ := Option.map_eq_some_iff.mp (hlocated h)
        cases heq
        exact hsimple.elim
  · obtain ⟨⟨value, after⟩, hread, heq⟩ := Option.map_eq_some_iff.mp (hlocated h)
    cases heq
    exact Or.inl ⟨value, hread, rfl⟩
  · obtain ⟨⟨value, after⟩, hread, heq⟩ := Option.map_eq_some_iff.mp (hlocated h)
    cases heq
    exact Or.inl ⟨value, hread, rfl⟩
  · exact Or.inr (hlocated h)

theorem IsString.readValue {value : List Char} (h : IsString cs value rest)
    (total fuel depth : Nat) : readValue total (fuel + 1) depth cs =
      some (⟨.string (String.ofList value), some (spanOf total cs rest)⟩, rest) := by
  have hread := readString_iff.mpr h
  cases h <;> simp [Toml.readValue, hread]

/-- A value of a kind that an option can take is read by the rules. -/
theorem isValue_of_readValue {d : Datum} {span? : Option Span} {total fuel depth : Nat}
    (h : readValue total (fuel + 1) depth cs = some (⟨d, span?⟩, rest)) (hsimple : d.IsSimple)
    (hfollows : Follows rest) : IsValue cs d rest := by
  rcases readValue_cases h hsimple with ⟨value, hread, rfl⟩ | hread
  · exact .string (readString_iff.mp hread)
  · exact isValue_of_readScalar hread hsimple hfollows

/-- What the rules allow is read, if it is followed as a value on its line is. -/
theorem IsValue.readValue {d : Datum} (h : IsValue cs d rest) (hfollows : Follows rest)
    (total fuel depth : Nat) :
    ∃ span, readValue total (fuel + 1) depth cs = some (⟨d, some span⟩, rest) := by
  cases h with
  | string h => exact ⟨_, h.readValue total fuel depth⟩
  | yes => exact ⟨_, rfl⟩
  | no => exact ⟨_, rfl⟩
  | integer h =>
    have hread := h.readScalar rfl hfollows
    obtain ⟨c, t, rfl, hc⟩ := h.exists_cons
    exact ⟨_, by rw [readValue_scalar hc, hread, Option.map_some]⟩

theorem IsValue.isSimple {d : Datum} (h : IsValue cs d rest) : d.IsSimple := by
  cases h <;> trivial

theorem IsInteger.suffix {k : Int} (h : IsInteger cs k rest) : rest <:+ cs := by
  cases h with
  | plain hdecimal => exact hdecimal.1.suffix
  | plus hdecimal => exact hdecimal.1.suffix.trans (List.suffix_cons _ _)
  | minus hdecimal => exact hdecimal.1.suffix.trans (List.suffix_cons _ _)
  | based _ hdigits => exact hdigits.suffix.trans (List.suffix_append [_, _] _)

theorem IsValue.suffix {d : Datum} (h : IsValue cs d rest) : rest <:+ cs := by
  cases h with
  | string h => exact h.suffix
  | yes => exact List.suffix_append [_, _, _, _] rest
  | no => exact List.suffix_append [_, _, _, _, _] rest
  | integer h => exact h.suffix

/-- No blank stands in front of a value. -/
theorem IsValue.exists_cons {d : Datum} (h : IsValue cs d rest) :
    ∃ c t, cs = c :: t ∧ isBlank c = false := by
  cases h with
  | string h => cases h <;> exact ⟨_, _, rfl, by decide⟩
  | yes => exact ⟨_, _, rfl, by decide⟩
  | no => exact ⟨_, _, rfl, by decide⟩
  | integer h =>
    obtain ⟨c, t, rfl, hc⟩ := h.exists_cons
    simp only [opensOther, Bool.or_eq_false_iff] at hc
    exact ⟨c, t, rfl, hc.1.1.1.1⟩

end

end GuardedSql.Toml
