/-!
# TOML documents

The data of a TOML document, with the places it was written at. A place is a stretch of
bytes; reports of unsuitable data quote it.
-/

namespace GuardedSql.Toml

/-- A stretch of a document, in bytes. -/
structure Span where
  /-- The first byte. -/
  start : Nat
  /-- The byte after the last. -/
  stop : Nat
  deriving DecidableEq, Repr, Inhabited

/-- An item with the place it was written at; tables that are only implied have none. -/
structure Located (α : Type) where
  /-- The item. -/
  item : α
  /-- Where it was written. -/
  span? : Option Span

/-- A named entry of a table. -/
structure Entry (α : Type) where
  /-- The name. -/
  name : String
  /-- Where the name was written. -/
  nameSpan : Span
  /-- The entry. -/
  value : Located α

/-- The data of a document. -/
inductive Datum where
  | string (s : String)
  | integer (n : Int64)
  | float (x : Float)
  | boolean (b : Bool)
  /-- A date, a time or both. -/
  | moment
  | array (items : List (Located Datum))
  | table (fields : List (Entry Datum))

instance : Inhabited Datum := ⟨.moment⟩

end GuardedSql.Toml
