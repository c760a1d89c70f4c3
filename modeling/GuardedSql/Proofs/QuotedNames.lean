import GuardedSql.Proofs.GuardScripts

/-!
# Names stay between their quotes

The rule of the language for names between double quotes: a quote inside the name is written twice,
and one that stands alone ends it. Tokens are cut by this rule. The names of savepoints are written
by it, so that there is one way to read the statements of a savepoint: their keywords, and the name
up to the end of the text, whatever characters it has.
-/

namespace GuardedSql

namespace Sql

/-! ### The rule -/

/-- What stands between the quotes of a name. -/
inductive Inside : List Char → List Char → Prop where
  /-- The end. -/
  | nil : Inside [] []
  /-- A character stands for itself. -/
  | plain {c : Char} {text value : List Char} (hc : c ≠ '"') (h : Inside text value) :
      Inside (c :: text) (c :: value)
  /-- Two quotes stand for one. -/
  | quote {text value : List Char} (h : Inside text value) :
      Inside ('"' :: '"' :: text) ('"' :: value)

/-- A text begins with a name between quotes; the quote that ends it is not followed by another. -/
structure Begins (cs piece value rest : List Char) : Prop where
  /-- The text. -/
  text : cs = piece ++ rest
  /-- The piece between its quotes. -/
  quoted : ∃ inside, piece = '"' :: (inside ++ ['"']) ∧ Inside inside value
  /-- No other quote follows. -/
  alone : rest.head? ≠ some '"'

variable {inside value rest : List Char}

theorem quotedLength_of_ne {c : Char} (hc : c ≠ '"') (n : Nat) (cs : List Char) :
    Token.quotedLength '"' n (c :: cs) = Token.quotedLength '"' (n + 1) cs := by
  conv_lhs => unfold Token.quotedLength
  exact if_neg (by simpa using hc)

theorem halve_of_ne {c : Char} (hc : c ≠ '"') (cs : List Char) :
    Token.unquote.halve '"' (c :: cs) = c :: Token.unquote.halve '"' cs := by
  conv_lhs => unfold Token.unquote.halve
  exact if_neg (by simpa using hc)

/-- The end of a piece is found by the rule. -/
theorem Inside.quotedLength (h : Inside inside value) (hrest : rest.head? ≠ some '"') (n : Nat) :
    Token.quotedLength '"' n (inside ++ '"' :: rest) = some (n + inside.length + 1) := by
  induction h generalizing n with
  | nil =>
    cases rest with
    | nil => rfl
    | cons d rest =>
      have hd : d ≠ '"' := by simpa using hrest
      simp [Token.quotedLength, hd]
  | plain hc _ ih =>
    rw [List.cons_append, quotedLength_of_ne hc, ih, List.length_cons]
    congr 1
    omega
  | quote _ ih =>
    simp [Token.quotedLength, ih]
    omega

/-- What is found to be a piece is one by the rule. -/
theorem exists_inside_of_quotedLength {cs : List Char} {n m : Nat}
    (h : Token.quotedLength '"' n cs = some m) :
    ∃ inside value rest, cs = inside ++ '"' :: rest ∧ Inside inside value ∧
      rest.head? ≠ some '"' ∧ m = n + inside.length + 1 := by
  fun_induction Token.quotedLength '"' n cs with
  | case1 => cases h
  | case2 n c hc d more hd ih =>
    obtain rfl : c = '"' := by simpa using hc
    obtain rfl : d = '"' := by simpa using hd
    obtain ⟨inside, value, rest, rfl, hinside, hrest, rfl⟩ := ih h
    refine ⟨_, _, rest, rfl, .quote hinside, hrest, ?_⟩
    simp only [List.length_cons]
    omega
  | case3 n c hc d more hd =>
    obtain rfl : c = '"' := by simpa using hc
    exact ⟨[], [], d :: more, rfl, .nil, by simpa using hd, (Option.some.inj h).symm⟩
  | case4 n c hc =>
    obtain rfl : c = '"' := by simpa using hc
    exact ⟨[], [], [], rfl, .nil, by simp, (Option.some.inj h).symm⟩
  | case5 n c rest hc ih =>
    obtain ⟨inside, value, rest, rfl, hinside, hrest, rfl⟩ := ih h
    refine ⟨_, _, rest, rfl, .plain (by simpa using hc) hinside, hrest, ?_⟩
    simp only [List.length_cons]
    omega

/-- One of each two quotes is left of a piece. -/
theorem Inside.halve (h : Inside inside value) : Token.unquote.halve '"' inside = value := by
  induction h with
  | nil => rfl
  | plain hc _ ih => rw [halve_of_ne hc, ih]
  | quote _ ih => simp [Token.unquote.halve, ih]

namespace Begins

variable {cs piece piece' value' rest' : List Char}

/-- A name between quotes is cut off as one. -/
theorem front (h : Begins ('"' :: cs) piece value rest) :
    Token.front '"' cs = (some .quotedName, piece.length) := by
  obtain ⟨inside, rfl, hinside⟩ := h.quoted
  have hcs : cs = inside ++ '"' :: rest := by simpa using h.text
  have hfront : Token.front '"' cs = (some (Token.quoted .quotedName '"' cs).1,
    (Token.quoted .quotedName '"' cs).2) := rfl
  rw [hfront, Token.quoted, hcs, hinside.quotedLength h.alone]
  simp only [List.length_cons, List.length_append, List.length_nil, Prod.mk.injEq, true_and]
  omega

/-- What is cut off as a name between quotes is one. -/
theorem exists_of_front {n : Nat} (h : Token.front '"' cs = (some .quotedName, n)) :
    ∃ piece value rest, Begins ('"' :: cs) piece value rest ∧ piece.length = n := by
  have hfront : Token.front '"' cs = (some (Token.quoted .quotedName '"' cs).1,
    (Token.quoted .quotedName '"' cs).2) := rfl
  rw [hfront, Token.quoted] at h
  cases hlength : Token.quotedLength '"' 1 cs with
  | none =>
    rw [hlength] at h
    cases h
  | some m =>
    rw [hlength] at h
    obtain ⟨inside, value, rest, rfl, hinside, hrest, rfl⟩ := exists_inside_of_quotedLength hlength
    obtain ⟨-, rfl⟩ := Prod.mk.inj h
    refine ⟨_, value, rest, ⟨?_, ⟨inside, rfl, hinside⟩, hrest⟩, ?_⟩
    · simp
    · simp only [List.length_cons, List.length_append, List.length_nil]
      omega

/-- The name is what is left when the quotes are taken off. -/
theorem unquote (h : Begins cs piece value rest) :
    Token.unquote (String.ofList piece) = String.ofList value := by
  obtain ⟨inside, rfl, hinside⟩ := h.quoted
  rw [Token.unquote, String.toList_ofList]
  change String.ofList (Token.unquote.halve '"' (inside ++ ['"']).dropLast) = _
  rw [List.dropLast_concat, hinside.halve]

/-- There is one way to read a name between quotes at the front of a text. -/
theorem unique (h : Begins cs piece value rest) (h' : Begins cs piece' value' rest') :
    piece' = piece ∧ value' = value ∧ rest' = rest := by
  obtain ⟨inside, hpiece, -⟩ := h.quoted
  have hcs : cs = '"' :: (inside ++ ['"'] ++ rest) := by
    rw [h.text, hpiece]
    rfl
  have hlength : piece'.length = piece.length := by
    subst hcs
    exact (Prod.mk.inj (h'.front.symm.trans h.front)).2
  obtain ⟨rfl, rfl⟩ := List.append_inj (h'.text.symm.trans h.text) hlength
  have hvalue := h'.unquote.symm.trans h.unquote
  exact ⟨rfl, String.ofList_injective hvalue, rfl⟩

end Begins

/-- Tokens are cut by the rule. -/
theorem front_iff_begins (cs : List Char) (n : Nat) :
    Token.front '"' cs = (some .quotedName, n) ↔
      ∃ piece value rest, Begins ('"' :: cs) piece value rest ∧ piece.length = n := by
  constructor
  · exact Begins.exists_of_front
  · rintro ⟨piece, value, rest, h, rfl⟩
    exact h.front

/-! ### Names as they are written -/

/-- What is doubled stands between quotes for what it was. -/
theorem inside_doubled (cs : List Char) : Inside (doubled cs) cs := by
  induction cs with
  | nil => exact .nil
  | cons c cs ih =>
    rw [doubled_cons]
    by_cases hc : c = '"'
    · rw [if_pos hc, hc]
      exact .quote ih
    · rw [if_neg hc]
      exact .plain hc ih

/-- A written name is read by the rule, and not in another way. -/
theorem begins_doubleQuoted_iff (name : String) (piece value rest : List Char) :
    Begins (doubleQuoted name).toList piece value rest ↔
      piece = (doubleQuoted name).toList ∧ value = name.toList ∧ rest = [] := by
  have hread : Begins (doubleQuoted name).toList (doubleQuoted name).toList name.toList [] :=
    ⟨(List.append_nil _).symm, ⟨_, toList_doubleQuoted name, inside_doubled _⟩, by simp⟩
  constructor
  · exact hread.unique
  · rintro ⟨rfl, rfl, rfl⟩
    exact hread

theorem doubleQuoted_injective : Function.Injective doubleQuoted :=
  Function.LeftInverse.injective unquote_doubleQuoted

/-- Different names give different scripts. -/
theorem append_doubleQuoted_injective (head : String) :
    Function.Injective fun name => head ++ doubleQuoted name := by
  intro name name' h
  have hchars := congrArg String.toList h
  rw [String.toList_append, String.toList_append] at hchars
  exact doubleQuoted_injective (String.toList_injective (List.append_cancel_left hchars))

/-- An engine sees all of a script without a zero character. -/
theorem visibleChars_of_not_nul {script : String} (h : '\x00' ∉ script.toList) :
    Token.visibleChars script = script.toList := by
  apply List.takeWhile_eq_self_iff.mpr
  intro c hc
  have hne : c ≠ '\x00' := fun heq => h (heq ▸ hc)
  simpa using hne

/-- An engine cuts a script into keywords and a name that ends where the script ends. -/
theorem scan_visibleChars {head name : String} (words : List Token) (n : Nat)
    (hnul : '\x00' ∉ (head ++ doubleQuoted name).toList)
    (hhead : ∀ fuel rest, Token.scanFrom 0 (fuel + n) (head.toList ++ '"' :: rest) =
      words ++ Token.scanFrom head.toList.length fuel ('"' :: rest)) (hn : n ≤ head.toList.length) :
    Token.scan (Token.visibleChars (head ++ doubleQuoted name)) = words ++
      [⟨.quotedName, doubleQuoted name, head.length, (head ++ doubleQuoted name).length⟩] := by
  have hscan := scan_append_doubleQuoted head.toList words n name hhead hn
  rw [visibleChars_of_not_nul hnul, String.length_append, ← String.length_toList,
    ← String.length_toList, String.toList_append]
  exact hscan

end Sql

/-! ### The scripts of a guard -/

/-- The script that is handed over by a call. -/
def Exchange.script? (x : Exchange) : Option String :=
  match x.call with
  | .execute _ script => some script
  | _ => none

/-- The scripts that are handed over, in their order. -/
def History.scripts (H : History) : List String := H.filterMap Exchange.script?

/-- All calls of a guard, from its construction to its drop. -/
def GuardLife.exchanges {κ γ : Type} : GuardLife κ γ → History
  | refused _ construction => construction
  | led construction _ calls drop => construction ++ (calls.flatMap Answered.exchanges ++ drop)

theorem History.scripts_append (H H' : History) :
    History.scripts (H ++ H') = History.scripts H ++ History.scripts H' := List.filterMap_append

theorem Ran.scripts {c : ConnectionHandle} {script : String} {code : Code} {d : History}
    {r : Except Error Int32} (h : Ran c script code d r) : History.scripts d = [script] := by
  cases h <;> rfl

/-- A call of a guard hands over its script or none. -/
theorem Manner.Course.mem_scripts {κ γ : Type} {m : Manner κ γ} {calls : List (Answered κ γ)}
    {g : γ} (h : m.Course calls g) {script : String}
    (hscript : script ∈ History.scripts (calls.flatMap Answered.exchanges)) :
    ∃ call, script = m.script call := by
  have hstays : ∀ a, m.Stays a → ∀ t ∈ History.scripts a.exchanges, ∃ call, t = m.script call := by
    intro a ha t ht
    obtain ⟨code, r, hran, -⟩ := ha.ran
    rw [hran.scripts] at ht
    exact ⟨a.call, List.mem_singleton.mp ht⟩
  have hcloses : ∀ a, m.Closes a →
      ∀ t ∈ History.scripts a.exchanges, ∃ call, t = m.script call := by
    intro a ha t ht
    obtain ⟨n, hran⟩ := ha.ran
    rw [hran.scripts] at ht
    exact ⟨a.call, List.mem_singleton.mp ht⟩
  have hrefuses : ∀ a, m.Refuses a → ∀ t ∈ History.scripts a.exchanges,
      ∃ call, t = m.script call := by
    intro a ha t ht
    rw [ha.exchanges] at ht
    cases ht
  obtain ⟨x, hx, hxs⟩ := List.mem_filterMap.mp hscript
  obtain ⟨a, ha, hxa⟩ := List.mem_flatMap.mp hx
  have hone : script ∈ History.scripts a.exchanges := List.mem_filterMap.mpr ⟨x, hxa, hxs⟩
  cases h with
  | kept hall => exact hstays a (hall a ha) script hone
  | ended hbefore hclose hafter =>
    obtain hin | hin := List.mem_append.mp ha
    · exact hstays a (hbefore a hin) script hone
    · obtain rfl | hin := List.mem_cons.mp hin
      · exact hcloses a hclose script hone
      · exact hrefuses a (hafter a hin) script hone

namespace Savepoint

open Sql

/-- A drop rolls back to the savepoint or releases it, if it does anything. -/
theorem Dropped.mem_scripts {p : Savepoint} {d : History} (h : p.Dropped d) {script : String}
    (hscript : script ∈ History.scripts d) :
    script = releaseSql p.name ∨ script = rollbackSql p.name := by
  cases h with
  | released => cases hscript
  | failed _ hback =>
    rw [hback.scripts] at hscript
    exact .inr (List.mem_singleton.mp hscript)
  | undone _ hback hrelease =>
    rw [History.scripts_append, hback.scripts, hrelease.scripts] at hscript
    obtain h | h := List.mem_append.mp hscript
    · exact .inr (List.mem_singleton.mp h)
    · exact .inl (List.mem_singleton.mp h)

/-- A guard sets its savepoint, and whatever it hands over later releases it or goes back to it. -/
theorem scripts_of_leads {db : Database} {name : String} {calls : List Request}
    {life : GuardLife Request Savepoint} (hname : '\x00' ∉ name.toList)
    (h : (manner db name).Leads (WasSet db name) Dropped calls life) :
    ∃ later, History.scripts life.exchanges = setSql name :: later ∧
      ∀ script ∈ later, script = releaseSql name ∨ script = rollbackSql name := by
  cases h with
  | refused hmade =>
    cases hmade with
    | refused _ hran => exact ⟨[], hran.scripts, by simp⟩
    | unspeakable hnul => exact absurd hnul hname
  | @led construction drop answered last hmade hcalls hcourse hdrop =>
    cases hmade with
    | set _ hran =>
      refine ⟨History.scripts (answered.flatMap Answered.exchanges) ++ History.scripts drop, ?_,
        fun script hscript => ?_⟩
      · rw [GuardLife.exchanges, History.scripts_append, History.scripts_append, hran.scripts]
        rfl
      · obtain hin | hin := List.mem_append.mp hscript
        · obtain ⟨call, rfl⟩ := hcourse.mem_scripts hin
          cases call with
          | release => exact .inl rfl
          | rollbackTo => exact .inr rfl
        · have hlast : last.name = name := by
            obtain rfl | rfl := hcourse.guard_eq <;> rfl
          rw [← hlast]
          exact hdrop.mem_scripts hin

/-- Whatever characters a name has but the zero character: tokens are cut by the rule for names
between quotes, and by this rule there is one way to read the name as it is written. The scripts
that set a savepoint, release it and go back to it are their keywords and this one token, which ends
where they end. Different names have different scripts. On every engine and whatever it answers, all
that a guard hands over from its construction to its drop are these three scripts for its one
name. -/
theorem names_stay_quoted {σ : Type} [Engine σ] (name : String) (hname : '\x00' ∉ name.toList)
    (db : Database) (os : List (Occasion σ Request)) (meanwhile : Store σ → Store σ)
    (s : Store σ) :
    (∀ cs n, Token.front '"' cs = (some .quotedName, n) ↔
      ∃ piece value rest, Begins ('"' :: cs) piece value rest ∧ piece.length = n) ∧
    (∀ piece value rest, Begins (doubleQuoted name).toList piece value rest ↔
      piece = (doubleQuoted name).toList ∧ value = name.toList ∧ rest = []) ∧
    Token.unquote (doubleQuoted name) = name ∧
    Token.scan (Token.visibleChars (setSql name)) =
      [⟨.word, "SAVEPOINT", 0, 9⟩,
        ⟨.quotedName, doubleQuoted name, 10, (setSql name).length⟩] ∧
    Token.scan (Token.visibleChars (releaseSql name)) =
      [⟨.word, "RELEASE", 0, 7⟩, ⟨.word, "SAVEPOINT", 8, 17⟩,
        ⟨.quotedName, doubleQuoted name, 18, (releaseSql name).length⟩] ∧
    Token.scan (Token.visibleChars (rollbackSql name)) =
      [⟨.word, "ROLLBACK", 0, 8⟩, ⟨.word, "TO", 9, 11⟩, ⟨.word, "SAVEPOINT", 12, 21⟩,
        ⟨.quotedName, doubleQuoted name, 22, (rollbackSql name).length⟩] ∧
    (Function.Injective setSql ∧ Function.Injective releaseSql ∧ Function.Injective rollbackSql) ∧
    ∃ later, History.scripts (GuardLife.exchanges
        (.lead (set db name) (fun call p => p.request call) drop os meanwhile s)) =
          setSql name :: later ∧
      ∀ script ∈ later, script = releaseSql name ∨ script = rollbackSql name := by
  refine ⟨front_iff_begins, begins_doubleQuoted_iff name, unquote_doubleQuoted name, ?_, ?_, ?_,
    ⟨append_doubleQuoted_injective _, append_doubleQuoted_injective _,
      append_doubleQuoted_injective _⟩,
    scripts_of_leads hname (leads_lead db name os meanwhile s)⟩
  · exact scan_visibleChars [⟨.word, "SAVEPOINT", 0, 9⟩] 2 (nul_not_mem_setSql hname)
      (fun _ _ => rfl) (by decide)
  · exact scan_visibleChars [⟨.word, "RELEASE", 0, 7⟩, ⟨.word, "SAVEPOINT", 8, 17⟩] 4
      (nul_not_mem_releaseSql hname) (fun _ _ => rfl) (by decide)
  · exact scan_visibleChars
      [⟨.word, "ROLLBACK", 0, 8⟩, ⟨.word, "TO", 9, 11⟩, ⟨.word, "SAVEPOINT", 12, 21⟩] 6
      (nul_not_mem_rollbackSql hname) (fun _ _ => rfl) (by decide)

/-- A name that looks like the end of the statement and a second one, with quotes at both ends. -/
theorem names_stay_quoted_of_semicolon :
    '\x00' ∉ "\"; DROP TABLE t;\"\"".toList ∧
    Token.scan (Token.visibleChars (setSql "\"; DROP TABLE t;\"\"")) =
      [⟨.word, "SAVEPOINT", 0, 9⟩,
        ⟨.quotedName, "\"\"\"; DROP TABLE t;\"\"\"\"\"", 10, 33⟩] ∧
    ∃ later, History.scripts (GuardLife.exchanges
        (.lead (set ⟨⟨0⟩, ""⟩ "\"; DROP TABLE t;\"\"") (fun call p => p.request call) drop
          [⟨id, .rollbackTo⟩, ⟨id, .release⟩] id ({ engine := ⟨[]⟩ } : Store Script))) =
          "SAVEPOINT \"\"\"; DROP TABLE t;\"\"\"\"\"" :: later ∧
      ∀ script ∈ later, script = "RELEASE SAVEPOINT \"\"\"; DROP TABLE t;\"\"\"\"\"" ∨
        script = "ROLLBACK TO SAVEPOINT \"\"\"; DROP TABLE t;\"\"\"\"\"" := by
  have hname : '\x00' ∉ "\"; DROP TABLE t;\"\"".toList := by decide
  obtain ⟨-, -, -, hset, -, -, -, hscripts⟩ := names_stay_quoted _ hname ⟨⟨0⟩, ""⟩
    [⟨id, .rollbackTo⟩, ⟨id, .release⟩] id ({ engine := ⟨[]⟩ } : Store Script)
  exact ⟨hname, hset, hscripts⟩

end Savepoint

end GuardedSql
