import FarmRegistry.Registry.Event
import FarmRegistry.Sql.Statement
import FarmRegistry.Text.Search

namespace FarmRegistry.Sql

inductive FailureKind where
  | uniqueViolation
  | foreignKeyViolation
  | serializationFailure
  | readOnlyTransaction
  | notNullViolation
  | checkViolation
  | closedConnection
  | unableToSendCommand
  | unknown
deriving DecidableEq

namespace FailureKind

def ofCode : String → FailureKind
  | "23505" => uniqueViolation
  | "23503" => foreignKeyViolation
  | "40001" => serializationFailure
  | "25006" => readOnlyTransaction
  | "23502" => notNullViolation
  | "23514" => checkViolation
  | _ => unknown

def name : FailureKind → String
  | uniqueViolation => "UniqueViolation"
  | foreignKeyViolation => "ForeignKeyViolation"
  | serializationFailure => "SerializationFailure"
  | readOnlyTransaction => "ReadOnlyTransaction"
  | notNullViolation => "NotNullViolation"
  | checkViolation => "CheckViolation"
  | closedConnection => "ClosedConnection"
  | unableToSendCommand => "UnableToSendCommand"
  | unknown => "Unknown"

end FailureKind

structure Failure where
  kind : FailureKind
  message : String
  constraint : Option String
deriving DecidableEq

inductive Answer where
  | rows (rows : List Row)
  | affected (count : Nat)
  | failed (failure : Failure)

namespace Answer

def nothing : Answer :=
  .affected 0

def toRows : Answer → List Row
  | .rows rs => rs
  | _ => []

def count : Answer → Nat
  | .rows rs => rs.length
  | .affected n => n
  | .failed _ => 0

end Answer

abbrev Database (δ : Type) := Statement → δ → Answer × δ

abbrev Link (δ : Type) := Except String (Database δ)

inductive QueryError where
  | failed (failure : Failure)
  | noRecord
  | unexpectedNull
deriving DecidableEq

namespace QueryError

def message : QueryError → String
  | failed f => f.message
  | noRecord => "Record not found"
  | unexpectedNull => "Unexpected null for non-null column"

def event : QueryError → Event
  | failed f => .statementFailed f.kind.name f.message f.constraint
  | e => .resultUnusable e.message

def isRace (f : Failure) : Bool :=
  f.kind = .serializationFailure || f.kind = .uniqueViolation ||
    Text.occursIn "deadlock detected".toList f.message.toList

def storeError : QueryError → StoreError
  | failed f =>
    if isRace f then .conflict f.message
    else if f.kind = .closedConnection then .connection f.message
    else .query f.message
  | noRecord => .query "record not found"
  | unexpectedNull => .query unexpectedNull.message

def breaksTotals (f : Failure) : Bool :=
  f.kind = .checkViolation && f.constraint.any fun c => "farmers_".toList.isPrefixOf c.toList

def writeError (farmerId : FarmerId) : QueryError → StoreError
  | failed f =>
    if f.kind = .foreignKeyViolation then .farmerNotFound farmerId
    else if breaksTotals f then .negativeAggregate farmerId
    else (failed f).storeError
  | e => e.storeError

end QueryError

end FarmRegistry.Sql
