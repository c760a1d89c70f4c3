import GuardedSql.Proofs.Groups
import GuardedSql.Proofs.Lifetime
import GuardedSql.Proofs.NestedTransactions
import GuardedSql.Proofs.StatementMachine
import GuardedSql.Proofs.ViewSafety
import GuardedSql.Proofs.Walks
import GuardedSql.Session.Task
import GuardedSql.Sql.Machine
import GuardedSql.Proofs.ColumnLookup
import GuardedSql.Proofs.SingleValue
import GuardedSql.Proofs.RegisterReading
import GuardedSql.Proofs.Asking
import GuardedSql.Proofs.Calling
import GuardedSql.Proofs.Transport
import GuardedSql.Proofs.InteriorNul
import GuardedSql.Proofs.Parameters
import GuardedSql.Proofs.UsageErrors
import GuardedSql.Proofs.FailingFunctions
import GuardedSql.Proofs.Bringing
import GuardedSql.Proofs.ColumnReading
import GuardedSql.Proofs.FirstColumn
import GuardedSql.Proofs.OptionsDocuments
import GuardedSql.Proofs.Retention
import GuardedSql.Proofs.Batch
import GuardedSql.Proofs.Release
import GuardedSql.Proofs.GuardScripts
import GuardedSql.Proofs.AccessPaths
import GuardedSql.Proofs.RangeEquality
import GuardedSql.Proofs.TextReading
import GuardedSql.Proofs.BothEnds
import GuardedSql.Proofs.Failures
import GuardedSql.Proofs.ChangedRows
import GuardedSql.Proofs.LastErrors
import GuardedSql.Proofs.PairedCodes
import GuardedSql.Proofs.LeftoverCodes
import GuardedSql.Proofs.QuotedNames
import GuardedSql.Proofs.FirstIndices
import GuardedSql.Proofs.OptionsLanguage
