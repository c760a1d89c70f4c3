/-!
# Finite tables

A finite map with the most recently written entry in front. The store of prepared
statements, the engine's handles and the named objects of a session are tables; each
operation is described by what it does to `get?`, and nothing else looks at the entries.
-/

namespace GuardedSql

/-- A finite map from keys to values; a key occurs at most once. -/
structure Table (κ : Type) (α : Type u) where
  /-- The entries, the most recently written first. -/
  entries : List (κ × α) := []

namespace Table

variable {κ : Type} {α : Type u} [DecidableEq κ]

/-- The table without entries. -/
def empty : Table κ α := {}

instance : Inhabited (Table κ α) := ⟨empty⟩

/-- The first value that a list of entries holds for a key. -/
def find (k : κ) : List (κ × α) → Option α
  | [] => none
  | (j, a) :: rest => if j = k then some a else find k rest

/-- The entries of other keys. -/
def without (k : κ) : List (κ × α) → List (κ × α)
  | [] => []
  | (j, a) :: rest => if j = k then without k rest else (j, a) :: without k rest

/-- The value of a key. -/
def get? (t : Table κ α) (k : κ) : Option α := find k t.entries

/-- Writes a key, whether or not it was there. -/
def set (t : Table κ α) (k : κ) (a : α) : Table κ α := ⟨(k, a) :: without k t.entries⟩

/-- Removes a key. -/
def erase (t : Table κ α) (k : κ) : Table κ α := ⟨without k t.entries⟩

/-- Updates the value of a key that is there. -/
def modify (t : Table κ α) (k : κ) (f : α → α) : Table κ α :=
  match t.get? k with
  | some a => t.set k (f a)
  | none => t

/-- Whether a key is there. -/
def has (t : Table κ α) (k : κ) : Bool := (t.get? k).isSome

/-- The values, the most recently written first. -/
def values (t : Table κ α) : List α := t.entries.map (·.2)

theorem find_without_self (k : κ) (l : List (κ × α)) : find k (without k l) = none := by
  induction l with
  | nil => rfl
  | cons e rest ih =>
    obtain ⟨j, a⟩ := e
    by_cases h : j = k
    · simpa [without, h] using ih
    · simpa [without, find, h] using ih

theorem find_without_of_ne {k j : κ} (h : j ≠ k) (l : List (κ × α)) :
    find j (without k l) = find j l := by
  induction l with
  | nil => rfl
  | cons e rest ih =>
    obtain ⟨i, a⟩ := e
    by_cases hk : i = k
    · have hj : i ≠ j := fun hij => h (hij.symm.trans hk)
      simpa [without, find, hk, hj, Ne.symm h] using ih
    · by_cases hj : i = j
      · simp [without, find, hj, h]
      · simpa [without, find, hk, hj] using ih

theorem without_without (k : κ) (l : List (κ × α)) : without k (without k l) = without k l := by
  induction l with
  | nil => rfl
  | cons e rest ih =>
    obtain ⟨j, a⟩ := e
    by_cases h : j = k
    · simpa [without, h] using ih
    · simpa [without, h] using ih

@[simp] theorem get?_empty (k : κ) : (empty : Table κ α).get? k = none := rfl

@[simp] theorem get?_set_self (t : Table κ α) (k : κ) (a : α) : (t.set k a).get? k = some a := by
  simp [get?, set, find]

theorem get?_set_of_ne (t : Table κ α) {k j : κ} (a : α) (h : j ≠ k) :
    (t.set k a).get? j = t.get? j := by
  have hk : k ≠ j := fun hkj => h hkj.symm
  simpa [get?, set, find, hk] using find_without_of_ne h t.entries

@[simp] theorem set_set (t : Table κ α) (k : κ) (a b : α) : (t.set k a).set k b = t.set k b := by
  simp [set, without, without_without]

@[simp] theorem get?_erase_self (t : Table κ α) (k : κ) : (t.erase k).get? k = none :=
  find_without_self k t.entries

theorem get?_erase_of_ne (t : Table κ α) {k j : κ} (h : j ≠ k) : (t.erase k).get? j = t.get? j :=
  find_without_of_ne h t.entries

@[simp] theorem get?_modify_self (t : Table κ α) (k : κ) (f : α → α) :
    (t.modify k f).get? k = (t.get? k).map f := by
  unfold modify
  cases h : t.get? k with
  | none => simp [h]
  | some a => simp

theorem modify_of_get? {t : Table κ α} {k : κ} {a : α} (h : t.get? k = some a) (f : α → α) :
    t.modify k f = t.set k (f a) := by
  rw [modify, h]

theorem get?_modify_of_ne (t : Table κ α) {k j : κ} (f : α → α) (h : j ≠ k) :
    (t.modify k f).get? j = t.get? j := by
  unfold modify
  cases t.get? k with
  | none => rfl
  | some a => exact get?_set_of_ne t (f a) h

end Table

end GuardedSql
