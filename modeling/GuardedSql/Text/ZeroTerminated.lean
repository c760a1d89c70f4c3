/-!
# Zero characters in text

Names, paths and scripts reach the engine as zero-terminated text, so a text that holds a
zero character cannot be handed over. `Nul.position?` finds the first one, counted in bytes.
-/

namespace GuardedSql.Nul

/-- The position of the first zero character, `offset` bytes having gone before. -/
def positionFrom (offset : Nat) : List Char → Option Nat
  | [] => none
  | c :: rest => if c = '\x00' then some offset else positionFrom (offset + c.utf8Size) rest

/-- The byte position of the first zero character of a text. -/
def position? (s : String) : Option Nat := positionFrom 0 s.toList

theorem positionFrom_eq_none_iff (offset : Nat) (cs : List Char) :
    positionFrom offset cs = none ↔ '\x00' ∉ cs := by
  induction cs generalizing offset with
  | nil => simp [positionFrom]
  | cons c rest ih =>
    by_cases h : c = '\x00'
    · simp [positionFrom, h]
    · simp [positionFrom, h, ih, Ne.symm h]

/-- A text has a position exactly when it holds a zero character. -/
theorem position?_eq_none_iff (s : String) : position? s = none ↔ '\x00' ∉ s.toList :=
  positionFrom_eq_none_iff 0 s.toList

end GuardedSql.Nul
