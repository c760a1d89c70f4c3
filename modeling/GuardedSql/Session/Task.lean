import GuardedSql.Session.Run

/-!
# Tasks

A task is one question about the values of the library, or a whole session.
-/

namespace GuardedSql.Session

/-- The public numbers with the version of the engine. -/
def constantsAnswer : Answer :=
  .record (publicConstants.map (fun c => (c.1, .number c.2.toInt)) ++
    [("lib_version", .text engineVersion), ("lib_version_number", .number engineVersionNumber.toInt)])

/-- What a value says about itself. -/
def valueAnswer (v : Value) : Answer :=
  .record
    [("column_type", .text v.columnType.name),
     ("raw", .number v.columnType.raw.toInt),
     ("is_null", .flag v.isNull),
     ("as_i64", ToAnswer.answer v.asInt64?),
     ("as_f64", ToAnswer.answer v.asFloat?),
     ("as_str", ToAnswer.answer v.asText?),
     ("as_bytes", ToAnswer.answer v.asBytes?),
     ("param", .binding (binding v))]

/-- What an error says about itself. -/
def errorAnswer (kind : String) (e : Error) : Answer :=
  .record
    [("kind", .text kind), ("message", .text e.message), ("code", .number e.code.toInt),
     ("extended_code", .number e.extendedCode.toInt),
     ("code_str", .optionalText e.codeDescription?), ("is_native", .flag e.isNative)]

/-- Answers a task, a session starting from a state of the engine. -/
def Task.answer {σ : Type} [Engine σ] [HostFiles σ] (engine : σ) : Task → Answer
  | .constants => .success constantsAnswer
  | .columnType raw =>
    let t := ColumnType.ofRaw raw
    .success (.record [("name", .text t.name), ("raw", .number t.raw.toInt)])
  | .value v => .success (valueAnswer v)
  | .valueFrom v => .success (.value v)
  | .param b => .success (.binding b)
  | .error kind e => .success (errorAnswer kind e)
  | .config toml => .ofExcept ((OpenOptions.ofToml toml).map Answer.ofOptions)
  | .session requests => .success (.list (answers engine requests))

end GuardedSql.Session
