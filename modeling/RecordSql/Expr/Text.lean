import RecordSql.Expr.Source
import RecordSql.Value.Text
/-! # Expressions and sources in log lines -/
set_option autoImplicit false
namespace RecordSql

open Text

def quotedOption (s : Option String) : String := Text.optional (s.map quoted)

def Table.inspect (t : Table) : String :=
  record "Table"
    [("entity", applied "EntityRef" (quoted t.entity.typeName)),
      ("alias", quotedOption t.aliasName)]
    false

def Column.inspect (c : Column) : String :=
  record "Column"
    [("name", quoted c.name), ("alias", quotedOption c.aliasName),
     ("table", Text.optional (c.table.map fun t => applied "Table" t.inspect))]
    false

def RawExpr.inspect (r : RawExpr) : String :=
  record "RawExpr" [("sql", quoted r.sql), ("args", Value.inspectList r.args)] false

def Comparison.shownName : Comparison → String
  | eq => "Eq" | ne => "Ne" | lt => "Lt" | le => "Le" | gt => "Gt" | ge => "Ge" | like => "Like"

def inspectParts (left operator right : Option String) : String :=
  record "Predicate"
    [("left", Text.optional left), ("op", Text.optional operator), ("right", Text.optional right)]
    false

mutual

def Expr.inspect : Expr → String
  | .predicate p => applied "Predicate" p.inspect
  | .column c => applied "Column" c.inspect
  | .value v => applied "Value" v.inspect
  | .raw r => applied "Raw" r.inspect
  | .assignment field value =>
    applied "Assignment"
      (record "Assignment" [("column", quoted field), ("value", value.inspect)] false)

def Predicate.inspect : Predicate → String
  | .compare left op right =>
    inspectParts (some (applied "Column" left.inspect)) (some op.shownName) (some right.inspect)
  | .and left right =>
    inspectParts (some (applied "Predicate" left.inspect)) (some "And")
      (some (applied "Predicate" right.inspect))
  | .or left right =>
    inspectParts (some (applied "Predicate" left.inspect)) (some "Or")
      (some (applied "Predicate" right.inspect))
  | .not p => inspectParts none (some "Not") (some (applied "Predicate" p.inspect))
  | .raw r => inspectParts (some (applied "Raw" r.inspect)) none none

end

def JoinKind.shownName : JoinKind → String
  | inner => "Inner" | left => "Left" | right => "Right"

def Source.inspect : Source → String
  | .table t => applied "Table" t.inspect
  | .join kind left right fields conditions =>
    applied "Join" <| record "Join"
      [("left", left.inspect), ("right", right.inspect), ("kind", kind.shownName),
       ("using", bracketed (fields.map quoted)),
       ("on", bracketed (conditions.map Predicate.inspect))]
      false

end RecordSql
