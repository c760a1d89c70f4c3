import GuardedSql.Database
import GuardedSql.Options.Document

/-!
# Options in files

Options can be kept in a file next to the rest of a program's settings.
-/

namespace GuardedSql.OpenOptions

/-- Reads options from a file. -/
def load {σ : Type} [Engine σ] (path : String) : Action σ OpenOptions := do
  match ← native (.readFile path) with
  | .error fault => throw (.file fault)
  | .ok bytes =>
    match Utf8.decode? bytes with
    | some text => require (ofToml text)
    | none => throw (.file .notText)

end GuardedSql.OpenOptions
