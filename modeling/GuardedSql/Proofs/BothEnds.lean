import GuardedSql.Proofs.RangeEquality
import Mathlib.Data.List.Nodup

/-!
# Column ranges from both ends

A range over the columns of a row gives them from the front and from the back, in any mixture, until
its ends meet. Where it stands is told by two numbers, how many columns came from each end: this is
what a call carries over to the next one. A clone goes on from where its original stood.
-/

namespace GuardedSql

/-- An end of a range. -/
inductive End where
  | front
  | back
  deriving DecidableEq, Repr

namespace ColumnRange

variable {i : ColumnRange}

/-- The next column from an end, if any is left, and the range after it. -/
def take (i : ColumnRange) : End → Option Column × ColumnRange
  | .front =>
    match i.next? with
    | some (c, i) => (some c, i)
    | none => (none, i)
  | .back =>
    match i.nextBack? with
    | some (c, i) => (some c, i)
    | none => (none, i)

theorem take_of_isExhausted (h : i.isExhausted = true) (e : End) : i.take e = (none, i) := by
  cases e with
  | front => rw [take, next?, if_pos h]
  | back => rw [take, nextBack?, if_pos h]

theorem take_front (h : ¬i.isExhausted = true) :
    i.take .front = (some { cursor := i.cursor, index := i.front, stamp := i.stamp },
      { i with front := i.front + 1 }) := by
  rw [take, next?, if_neg h]

theorem take_back (h : ¬i.isExhausted = true) :
    i.take .back = (some { cursor := i.cursor, index := i.back - 1, stamp := i.stamp },
      { i with back := i.back - 1 }) := by
  rw [take, nextBack?, if_neg h]

/-- A call leaves a range with its statement. -/
theorem take_cursor (i : ColumnRange) (e : End) : (i.take e).2.cursor = i.cursor := by
  by_cases h : i.isExhausted = true
  · rw [take_of_isExhausted h]
  · cases e with
    | front => rw [take_front h]
    | back => rw [take_back h]

end ColumnRange

namespace Row

/-- The number of columns that there are to give. -/
def width (r : Row) : Nat := r.columnCount.toInt.toNat

/-- The column of a place. -/
def place (r : Row) (j : Nat) : Column :=
  { cursor := r.cursor, index := Int32.ofNat j, stamp := r.stamp }

/-- The columns without `f` at the front and `b` at the back. -/
def between (r : Row) (f b : Nat) : ColumnRange :=
  ⟨r.cursor, r.stamp, Int32.ofNat f, r.columnCount - Int32.ofNat b⟩

variable {r : Row} {f b : Nat}

theorem width_lt (r : Row) : r.width < 2147483648 := by
  have hbound := r.columnCount.toInt_lt
  unfold width
  omega

/-- Places are told apart by their indices. -/
theorem place_index_inj {j k : Nat} (hj : j < r.width) (hk : k < r.width)
    (h : (r.place j).index = (r.place k).index) : j = k := by
  have hwidth := r.width_lt
  have hindex := congrArg Int32.toInt h
  simp only [place] at hindex
  rw [Int32.toInt_ofNat_of_lt (by omega), Int32.toInt_ofNat_of_lt (by omega)] at hindex
  omega

theorem columns_eq_between (r : Row) : r.columns = r.between 0 0 := by
  rw [columns, between]
  congr
  exact (Int32.sub_zero _).symm

theorem between_front (h : f + b ≤ r.width) : (r.between f b).front.toInt = f := by
  have hwidth := r.width_lt
  exact Int32.toInt_ofNat_of_lt (by omega)

/-- The end of a range does not run below the numbers there are. -/
theorem between_back (h : f + b ≤ r.width) :
    (r.between f b).back.toInt = r.columnCount.toInt - b := by
  have hwidth := r.width_lt
  have hlow := r.columnCount.le_toInt
  have hhigh := r.columnCount.toInt_lt
  have hcount : r.columnCount.toInt.toNat = r.width := rfl
  rw [between, Int32.toInt_sub, Int32.toInt_ofNat_of_lt (by omega)]
  exact Int.bmod_eq_of_le (by omega) (by omega)

/-- The ends meet once as many columns came as there are. -/
theorem between_isExhausted (h : f + b ≤ r.width) :
    (r.between f b).isExhausted = true ↔ f + b = r.width := by
  have hcount : r.columnCount.toInt.toNat = r.width := rfl
  rw [ColumnRange.isExhausted, decide_eq_true_eq, Int32.le_iff_toInt_le, between_front h,
    between_back h]
  omega

/-- The size of a range is what has not come yet. -/
theorem between_size (h : f + b ≤ r.width) : (r.between f b).size = r.width - (f + b) := by
  have hwidth := r.width_lt
  have hlow := r.columnCount.le_toInt
  have hcount : r.columnCount.toInt.toNat = r.width := rfl
  rw [ColumnRange.size, Int32.toInt_sub, between_front h, between_back h,
    Int.bmod_eq_of_le (by omega) (by omega)]
  omega

/-- From the front comes the column after all that came from there. -/
theorem between_take_front (h : f + b < r.width) :
    (r.between f b).take .front = (some (r.place f), r.between (f + 1) b) := by
  have hopen : ¬(r.between f b).isExhausted = true := by
    rw [between_isExhausted (Nat.le_of_lt h)]
    omega
  have hnext : Int32.ofNat f + 1 = Int32.ofNat (f + 1) := (Int32.ofNat_add f 1).symm
  rw [ColumnRange.take_front hopen]
  simp only [between, hnext, place]

/-- From the back comes the column before all that came from there. -/
theorem between_take_back (h : f + b < r.width) :
    (r.between f b).take .back = (some (r.place (r.width - 1 - b)), r.between f (b + 1)) := by
  have hopen : ¬(r.between f b).isExhausted = true := by
    rw [between_isExhausted (Nat.le_of_lt h)]
    omega
  have hwidth := r.width_lt
  have hcount : r.columnCount.toInt.toNat = r.width := rfl
  have hone : (1 : Int32).toInt = 1 := rfl
  have hback : (r.between f b).back - 1 = (r.between f (b + 1)).back := by
    rw [← Int32.toInt_inj, Int32.toInt_sub, between_back (Nat.le_of_lt h), between_back (by omega), hone,
      Int.bmod_eq_of_le (by omega) (by omega)]
    omega
  have hindex : (r.between f b).back - 1 = Int32.ofNat (r.width - 1 - b) := by
    rw [hback, ← Int32.toInt_inj, between_back (by omega), Int32.toInt_ofNat_of_lt (by omega)]
    omega
  rw [ColumnRange.take_back hopen]
  simp only [place, ← hindex]
  rw [hback]
  rfl

/-- Once the ends have met nothing comes from either of them. -/
theorem between_take_of_isExhausted (h : f + b = r.width) (e : End) :
    (r.between f b).take e = (none, r.between f b) :=
  ColumnRange.take_of_isExhausted ((between_isExhausted (Nat.le_of_eq h)).mpr h) e

end Row

/-! ### Answers -/

/-- A range with the answers of its ends so far. -/
structure Traversal where
  /-- What is left. -/
  range : ColumnRange
  /-- Which end was asked and what came, the oldest first. -/
  answers : List (End × Option Column) := []

namespace Traversal

/-- Asks an end. -/
def ask (t : Traversal) (e : End) : Traversal :=
  ⟨(t.range.take e).2, t.answers ++ [(e, (t.range.take e).1)]⟩

/-- The columns from one end, in their order. -/
def given (t : Traversal) (e : End) : List Column :=
  t.answers.filterMap fun a => if a.1 = e then a.2 else none

/-- The columns from both ends, in their order. -/
def columns (t : Traversal) : List Column := t.answers.filterMap (·.2)

theorem given_ask (t : Traversal) (e e' : End) :
    (t.ask e).given e' = t.given e' ++ if e = e' then (t.range.take e).1.toList else [] := by
  rw [given, ask, List.filterMap_append, ← given]
  split
  · rename_i h
    cases (t.range.take e).1 <;> simp [h]
  · rename_i h
    simp [h]

/-- Every column comes from one end. -/
theorem columns_perm (t : Traversal) : t.columns.Perm (t.given .front ++ t.given .back) := by
  obtain ⟨range, answers⟩ := t
  simp only [columns, given]
  induction answers with
  | nil => exact List.Perm.refl _
  | cons a rest ih =>
    obtain ⟨e, c?⟩ := a
    cases c? with
    | none => simpa using ih
    | some c =>
      cases e with
      | front => simpa using ih
      | back =>
        have hmiddle := (ih.cons c).trans List.perm_middle.symm
        simpa using hmiddle

/-- `f` columns of a row came from the front and `b` from the back. -/
structure At (t : Traversal) (r : Row) (f b : Nat) : Prop where
  /-- Everything else is left. -/
  range : t.range = r.between f b
  /-- The places of those from the front go up. -/
  front : t.given .front = (List.range f).map r.place
  /-- The places of those from the back go down. -/
  back : t.given .back = (List.range b).map fun j => r.place (r.width - 1 - j)
  /-- Every call brought one as long as there were any. -/
  total : f + b = min r.width t.answers.length
  /-- No call did after that. -/
  answered : ∀ j a, t.answers[j]? = some a → (a.2.isSome = true ↔ j < r.width)

variable {t : Traversal} {r : Row} {f b : Nat}

theorem At.start (r : Row) : At ⟨r.columns, []⟩ r 0 0 where
  range := r.columns_eq_between
  front := rfl
  back := rfl
  total := by simp
  answered := by simp

/-- One more answer is a column if not all have come. -/
theorem At.answered_ask (h : t.At r f b) (e : End)
    (hnew : (t.range.take e).1.isSome = true ↔ f + b < r.width) (j : Nat) (a : End × Option Column)
    (ha : (t.ask e).answers[j]? = some a) : a.2.isSome = true ↔ j < r.width := by
  have htotal := h.total
  rw [ask, List.getElem?_append] at ha
  split at ha
  · exact h.answered j a ha
  · rename_i hj
    have hlast : j = t.answers.length := by
      have hlt := (List.getElem?_eq_some_iff.mp ha).1
      rw [List.length_singleton] at hlt
      omega
    subst hlast
    rw [Nat.sub_self] at ha
    cases ha
    rw [hnew]
    omega

/-- A call moves one of the numbers on by one, or none once the ends have met. -/
theorem At.ask (h : t.At r f b) (e : End) : ∃ f' b', (t.ask e).At r f' b' := by
  have htotal := h.total
  have hlength : (t.ask e).answers.length = t.answers.length + 1 := List.length_append
  by_cases hopen : f + b < r.width
  · cases e with
    | front =>
      have htake := r.between_take_front hopen
      rw [← h.range] at htake
      have hnew : (t.range.take .front).1.isSome = true ↔ f + b < r.width := by simp [htake, hopen]
      refine ⟨f + 1, b, congrArg Prod.snd htake, ?_, ?_, by omega, h.answered_ask .front hnew⟩
      · rw [given_ask, h.front, htake, List.range_succ, List.map_append]
        rfl
      · rw [given_ask, h.back]
        simp
    | back =>
      have htake := r.between_take_back hopen
      rw [← h.range] at htake
      have hnew : (t.range.take .back).1.isSome = true ↔ f + b < r.width := by simp [htake, hopen]
      refine ⟨f, b + 1, congrArg Prod.snd htake, ?_, ?_, by omega, h.answered_ask .back hnew⟩
      · rw [given_ask, h.front]
        simp
      · rw [given_ask, h.back, htake, List.range_succ, List.map_append]
        rfl
  · have htake := r.between_take_of_isExhausted (f := f) (b := b) (by omega) e
    rw [← h.range] at htake
    have hnew : (t.range.take e).1.isSome = true ↔ f + b < r.width := by simp [htake, hopen]
    refine ⟨f, b, ?_, ?_, ?_, by omega, h.answered_ask e hnew⟩
    · rw [Traversal.ask, htake, h.range]
    · rw [given_ask, h.front, htake]
      simp
    · rw [given_ask, h.back, htake]
      simp

/-- Any number of calls does. -/
theorem At.foldl_ask (h : t.At r f b) (es : List End) :
    ∃ f' b', (es.foldl Traversal.ask t).At r f' b' := by
  induction es generalizing t f b with
  | nil => exact ⟨f, b, h⟩
  | cons e es ih =>
    obtain ⟨f', b', hnext⟩ := h.ask e
    exact ih hnext

theorem At.length_columns (h : t.At r f b) : t.columns.length = f + b := by
  rw [t.columns_perm.length_eq, h.front, h.back, List.length_append, List.length_map, List.length_map,
    List.length_range, List.length_range]

/-- The two ends do not give the same column, and neither gives one twice. -/
theorem At.nodup (h : t.At r f b) : (t.columns.map Column.index).Nodup := by
  have htotal := h.total
  rw [(t.columns_perm.map _).nodup_iff, h.front, h.back, List.map_append, List.map_map, List.map_map,
    List.nodup_append]
  refine ⟨?_, ?_, ?_⟩
  · refine List.Nodup.map_on (fun j hj k hk hjk => ?_) List.nodup_range
    rw [List.mem_range] at hj hk
    exact Row.place_index_inj (by omega) (by omega) hjk
  · refine List.Nodup.map_on (fun j hj k hk hjk => ?_) List.nodup_range
    rw [List.mem_range] at hj hk
    have hplace := Row.place_index_inj (r := r) (by omega) (by omega) hjk
    omega
  · intro i hi i' hi' heq
    obtain ⟨j, hj, rfl⟩ := List.mem_map.mp hi
    obtain ⟨k, hk, rfl⟩ := List.mem_map.mp hi'
    rw [List.mem_range] at hj hk
    have hplace := Row.place_index_inj (r := r) (by omega) (by omega) heq
    omega

end Traversal

/-! ### Several ranges -/

/-- What is done with ranges that are being walked over. -/
inductive Pull where
  /-- An end of one of them is asked. -/
  | ask (i : Nat) (e : End)
  /-- One of them is cloned. -/
  | clone (i : Nat)
  deriving DecidableEq, Repr

/-- The ranges after it; a clone has the answers of its original behind it. -/
def Pull.act (ts : List Traversal) : Pull → List Traversal
  | .ask i e => ts.modify i (·.ask e)
  | .clone i => ts ++ ts[i]?.toList

/-- The range over the columns of a row and its clones, after some calls of them. -/
def Row.traversals (r : Row) (pulls : List Pull) : List Traversal :=
  pulls.foldl Pull.act [⟨r.columns, []⟩]

/-- Each range stands where its own calls and those before it was cloned have brought it. -/
theorem Pull.act_at {r : Row} {ts : List Traversal} (p : Pull)
    (h : ∀ t ∈ ts, ∃ f b, t.At r f b) : ∀ t ∈ p.act ts, ∃ f b, t.At r f b := by
  intro t ht
  cases p with
  | ask i e =>
    obtain ⟨j, hj⟩ := List.mem_iff_getElem?.mp ht
    rw [Pull.act, List.getElem?_modify] at hj
    obtain ⟨t', ht', rfl⟩ := Option.map_eq_some_iff.mp hj
    obtain ⟨f, b, hat⟩ := h t' (List.mem_of_getElem? ht')
    split
    · exact hat.ask e
    · exact ⟨f, b, hat⟩
  | clone i =>
    rw [Pull.act, List.mem_append, Option.mem_toList] at ht
    rcases ht with hold | hnew
    · exact h t hold
    · exact h t (List.mem_of_getElem? hnew)

theorem Row.traversals_at (r : Row) (pulls : List Pull) :
    ∀ t ∈ r.traversals pulls, ∃ f b, t.At r f b := by
  have hrun (ts : List Traversal) (h : ∀ t ∈ ts, ∃ f b, t.At r f b) :
      ∀ t ∈ pulls.foldl Pull.act ts, ∃ f b, t.At r f b := by
    induction pulls generalizing ts with
    | nil => exact h
    | cons p rest ih => exact ih _ (p.act_at h)
  refine hrun _ fun t ht => ⟨0, 0, ?_⟩
  rw [List.mem_singleton.mp ht]
  exact .start r

/-- The answers of a range enumerate the columns of a row. -/
structure Traversal.Enumerates (t : Traversal) (r : Row) : Prop where
  /-- From the front come the places from 0 on. -/
  front : t.given .front = (List.range (t.given .front).length).map r.place
  /-- From the back come the places from the last one down. -/
  back : t.given .back =
    (List.range (t.given .back).length).map fun j => r.place (r.width - 1 - j)
  /-- No index comes twice. -/
  distinct : (t.columns.map Column.index).Nodup
  /-- As many come as there are calls, but no more than there are columns. -/
  total : t.columns.length = min r.width t.answers.length
  /-- It is the first calls that bring one; after them no call does. -/
  answered : ∀ j a, t.answers[j]? = some a → (a.2.isSome = true ↔ j < r.width)
  /-- The size is the number of columns that have not come. -/
  size : t.range.size = r.width - t.columns.length
  /-- It is the number of columns that will come, whichever ends are asked and however often. -/
  remaining : ∀ es : List End, (es.foldl Traversal.ask t).columns.length =
    t.columns.length + min t.range.size es.length

theorem Traversal.length_foldl_ask (t : Traversal) (es : List End) :
    (es.foldl Traversal.ask t).answers.length = t.answers.length + es.length := by
  induction es generalizing t with
  | nil => rfl
  | cons e es ih =>
    have hlength : (t.ask e).answers.length = t.answers.length + 1 := List.length_append
    rw [List.foldl_cons, ih, hlength, List.length_cons]
    omega

theorem Traversal.At.enumerates {t : Traversal} {r : Row} {f b : Nat} (h : t.At r f b) :
    t.Enumerates r := by
  have htotal := h.total
  have hsize : t.range.size = r.width - (f + b) := by
    rw [h.range]
    exact Row.between_size (by omega)
  refine ⟨?_, ?_, h.nodup, ?_, h.answered, ?_, fun es => ?_⟩
  · rw [h.front, List.length_map, List.length_range]
  · rw [h.back, List.length_map, List.length_range]
  · rw [h.length_columns, htotal]
  · rw [h.length_columns, hsize]
  · obtain ⟨f', b', hlater⟩ := h.foldl_ask es
    have htotal' := hlater.total
    rw [t.length_foldl_ask es] at htotal'
    rw [h.length_columns, hlater.length_columns, hsize]
    omega

/-- Ranges that are found equal give columns of one index, or none, and are found equal again. -/
theorem ColumnRange.Equals.take {σ : Type} {a b : ColumnRange} {s : Store σ} (h : a.Equals b s)
    (e : End) :
    (a.take e).1.map Column.index = (b.take e).1.map Column.index ∧
      (a.take e).2.Equals (b.take e).2 s := by
  by_cases hlive : a.IsLive s ∧ b.IsLive s
  · obtain rfl := (equals_of_isLive hlive.1 hlive.2).mp h
    have hkept : (a.take e).2.IsLive s := by
      rw [IsLive, take_cursor]
      exact hlive.1
    exact ⟨rfl, (equals_of_isLive hkept hkept).mpr rfl⟩
  · have hends := (equals_of_not_isLive hlive).mp h
    rw [take_of_isExhausted hends.1, take_of_isExhausted hends.2]
    exact ⟨rfl, h⟩

/-- Whichever ends of the range over a row's columns and of its clones are asked, and in whatever
order, each of them enumerates the columns. Ranges that are found equal stay so under the same calls,
which give columns of the same index. -/
theorem Row.columns_enumerated (r : Row) (pulls : List Pull) :
    (∀ t ∈ r.traversals pulls, t.Enumerates r) ∧
      ∀ (σ : Type) (s : Store σ) (a b : ColumnRange) (e : End), a.Equals b s →
        (a.take e).1.map Column.index = (b.take e).1.map Column.index ∧
          (a.take e).2.Equals (b.take e).2 s := by
  refine ⟨fun t ht => ?_, fun σ s a b e h => h.take e⟩
  obtain ⟨f, b, hat⟩ := r.traversals_at pulls t ht
  exact hat.enumerates

/-- A row of three columns. -/
def Row.three : Row := ⟨⟨0⟩, ⟨0, 1⟩, 3⟩

/-- The range over its columns is asked at the front and cloned, and the clone is asked until nothing
is left. -/
def Row.threePulls : List Pull :=
  [.ask 0 .front, .clone 0, .ask 1 .back, .ask 1 .front, .ask 1 .back]

/-- What the clone gives, and the ranges over a row whose statement is there, asked at the back. -/
theorem Row.columns_enumerated_of_three :
    (∃ t, (three.traversals threePulls)[1]? = some t ∧
        t.answers.map (fun a => a.2.map Column.index) = [some 0, some 2, some 1, none] ∧
          t.Enumerates three) ∧
      ∃ s : Store Script, three.columns.Equals three.columns s ∧
        three.columns.IsLive s ∧
          (three.columns.take .back).2.Equals (three.columns.take .back).2 s := by
  obtain ⟨henumerates, htake⟩ := Row.columns_enumerated three threePulls
  have hclone := List.mem_of_getElem? (l := three.traversals threePulls) (i := 1) rfl
  let cursor : Cursor :=
    { connection := ⟨0⟩, handle := ⟨0⟩, columnCount := 3, columnIndices := Table.empty }
  let s : Store Script := { engine := ⟨[]⟩, cursors := Table.empty.set ⟨0⟩ cursor }
  have hlive : three.columns.IsLive s := rfl
  have hequal := (ColumnRange.equals_of_isLive hlive hlive).mpr rfl
  exact ⟨⟨_, rfl, by decide, henumerates _ hclone⟩, s, hequal, hlive, (htake _ s _ _ .back hequal).2⟩

end GuardedSql
