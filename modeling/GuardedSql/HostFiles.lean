import GuardedSql.Error

/-!
# Files next to the engine

An engine whose files can be written from outside, as other programs of its host could.
-/

namespace GuardedSql

/-- Engines whose host lets files be written. -/
class HostFiles (σ : Type) where
  /-- Writes a file. -/
  write : String → ByteArray → σ → Except FileFault Unit × σ

end GuardedSql
