import RecordSql.Middleware.Chain
import RecordSql.WhereScan
/-! # Guards

Middlewares that refuse statements: every deletion, or every change without conditions. -/
set_option autoImplicit false
namespace RecordSql

def deletionRefusal (table : String) : Error :=
  .aborted ("delete statements are disabled (table `" ++ table ++ "`)")

def noDelete {σ : Type} : Middleware σ where
  handle rest x :=
    if x.queryType = .delete then (.error (deletionRefusal x.table), x) else rest x

def unconditionalRefusal (queryType : QueryType) : Error :=
  .aborted (queryType.name ++ " without WHERE is not allowed")

def QueryType.isGuarded : QueryType → Bool
  | update => true
  | delete => true
  | raw => true
  | _ => false

/-- Whether the text of a statement of this kind passes: it has conditions, or it is a raw
statement that does not begin like a change. -/
def textPasses (queryType : QueryType) (sql : String) : Bool :=
  (queryType == .raw && !startsLikeChange sql) || sqlHasWhere sql

/-- Refuses updates and deletions without conditions. What the statement knows of its
conditions decides; otherwise its text does. -/
def safeChanges {σ : Type} : Middleware σ where
  handle rest x :=
    if x.queryType.isGuarded then
      match x.buildable.hasWhere with
      | some true => rest x
      | some false => (.error (unconditionalRefusal x.queryType), x)
      | none =>
        match x.buildQuery with
        | (.error e, x) => (.error e, x)
        | (.ok q, x) =>
          if textPasses x.queryType q.sql then rest x
          else (.error (unconditionalRefusal x.queryType), x)
    else rest x

end RecordSql
