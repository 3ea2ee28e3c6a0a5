import RecordSql.Error
/-! # Outcomes of statements -/
set_option autoImplicit false
namespace RecordSql

structure ExecResult where
  rowsAffected : UInt64
  /-- The identifier of the last inserted row, where the database tells it. -/
  lastInsertId : Option Int64
  deriving DecidableEq

inductive QueryOutput
  | rows (count : Nat)
  | affected (result : ExecResult)
  deriving DecidableEq

/-- The report of a command; fetched records count as affected rows. -/
def QueryOutput.toExecResult : QueryOutput → ExecResult
  | rows count => ⟨.ofNat count, none⟩
  | affected result => result

abbrev Outcome : Type := Except Error QueryOutput

end RecordSql
