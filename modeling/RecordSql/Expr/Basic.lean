import RecordSql.Entity
/-! # Expressions

What stands in conditions, projections and assignments. A column is named by the field it
stores and may be qualified by a table; a raw fragment is text with its own arguments. -/
set_option autoImplicit false
namespace RecordSql

structure Table where
  entity : Entity
  aliasName : Option String

/-- A field of the statement's own entity or of a table, with an alias for projections. -/
structure Column where
  name : String
  aliasName : Option String
  table : Option Table

/-- Text that is passed through as it is, and the arguments of its placeholders. -/
structure RawExpr where
  sql : String
  args : List Value
  deriving DecidableEq

inductive Comparison
  | eq | ne | lt | le | gt | ge | like
  deriving DecidableEq

def Comparison.sql : Comparison → String
  | eq => "=" | ne => "!=" | lt => "<" | le => "<=" | gt => ">" | ge => ">=" | like => "LIKE"

mutual

/-- An operand. An assignment has its place in lists of assignments only. -/
inductive Expr
  | predicate (p : Predicate)
  | column (c : Column)
  | value (v : Value)
  | raw (r : RawExpr)
  | assignment (field : String) (value : Expr)

inductive Predicate
  | compare (left : Column) (op : Comparison) (right : Expr)
  | and (left right : Predicate)
  | or (left right : Predicate)
  | not (p : Predicate)
  | raw (r : RawExpr)

end

inductive Operator
  | comparison (op : Comparison)
  | not | and | or
  deriving DecidableEq

def Operator.sql : Operator → String
  | comparison op => op.sql
  | not => "NOT" | and => "AND" | or => "OR"

namespace Predicate

def left? : Predicate → Option Expr
  | compare left _ _ => some (.column left)
  | and left _ => some (.predicate left)
  | or left _ => some (.predicate left)
  | not _ => none
  | raw r => some (.raw r)

def operator? : Predicate → Option Operator
  | compare _ op _ => some (.comparison op)
  | and _ _ => some .and
  | or _ _ => some .or
  | not _ => some .not
  | raw _ => none

def right? : Predicate → Option Expr
  | compare _ _ right => some right
  | and _ right => some (.predicate right)
  | or _ right => some (.predicate right)
  | not p => some (.predicate p)
  | raw _ => none

/-- All conditions of a list joined from the left; nothing for an empty list. -/
def all? : List Predicate → Option Predicate
  | [] => none
  | p :: rest => some (rest.foldl and p)

end Predicate

/-- `field = value` in a list of assignments. -/
structure Assignment where
  field : String
  value : Expr

/-- An item of a list of assignments: an explicit one, or a bare column for the value that
the statement already carries. -/
inductive Assignable
  | assignment (a : Assignment)
  | column (c : Column)

inductive AggregateFunction
  | avg | sum | count | max | min
  deriving DecidableEq

def AggregateFunction.sql : AggregateFunction → String
  | avg => "AVG" | sum => "SUM" | count => "COUNT" | max => "MAX" | min => "MIN"

structure Aggregate where
  function : AggregateFunction
  field : String
  aliasName : Option String
  deriving DecidableEq

inductive Selectable
  | column (c : Column)
  | aggregate (a : Aggregate)
  | raw (r : RawExpr)

structure SortKey where
  column : Column
  descending : Bool

end RecordSql
