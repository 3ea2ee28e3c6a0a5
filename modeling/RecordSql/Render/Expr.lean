import RecordSql.Expr.Source
import RecordSql.Render.Basic
/-! # Rendering of expressions and sources

Every operand of an operator is written as a name, a placeholder or a group in parentheses,
so the text needs no rule of precedence. -/
set_option autoImplicit false
namespace RecordSql

open Render

def renderAlias : Option String → Render Unit
  | none => pure ()
  | some name => do
    write " AS "
    quoted name

namespace Column

/-- The column of the field in its model, behind the alias of its table if that has one. -/
def render (c : Column) : Render Unit :=
  match c.table with
  | none => do
    let column ← ownColumn c.name
    quoted column
  | some table => do
    let model ← modelOf table.entity
    let column ← ofExcept (model.columnOf c.name)
    match table.aliasName with
    | none => quoted column
    | some name => do
      quoted name
      write "."
      quoted column

def renderProjected (c : Column) : Render Unit := do
  c.render
  renderAlias c.aliasName

end Column

def misplacedAssignment (field : String) : Error :=
  .invalidExpression ("assignment to `" ++ field ++ "` used as an expression")

mutual

/-- An operand: a condition or a raw fragment stands in parentheses. -/
def Expr.renderOperand : Expr → Render Unit
  | .predicate p => parenthesized p.render
  | .column c => c.render
  | .value v => bound v
  | .raw r => parenthesized (raw r)
  | .assignment field _ => fail (misplacedAssignment field)

def Predicate.render : Predicate → Render Unit
  | .compare left op right => do
    left.render
    write (" " ++ op.sql ++ " ")
    right.renderOperand
  | .and left right => do
    parenthesized left.render
    write " AND "
    parenthesized right.render
  | .or left right => do
    parenthesized left.render
    write " OR "
    parenthesized right.render
  | .not p => do
    write "NOT "
    parenthesized p.render
  | .raw r => parenthesized (raw r)

end

/-- An expression that stands alone: a condition needs no parentheses. -/
def Expr.render : Expr → Render Unit
  | .predicate p => p.render
  | e => e.renderOperand

/-- The conditions of a list joined from the left; nothing for an empty list. -/
def renderAll (conditions : List Predicate) : Render Unit :=
  match Predicate.all? conditions with
  | none => pure ()
  | some p => p.render

def renderClause (keyword : String) (conditions : List Predicate) : Render Unit :=
  match conditions with
  | [] => pure ()
  | _ :: _ => do
    write keyword
    renderAll conditions

def Assignment.render (a : Assignment) : Render Unit := do
  let column ← ownColumn a.field
  quoted column
  write "="
  a.value.render

def renderUsing (fields : List String) : Render Unit :=
  match fields with
  | [] => pure ()
  | _ :: _ => do
    write " USING ("
    commaList (fun field => do quoted (← ownColumn field)) fields
    write ")"

def Table.render (t : Table) : Render Unit := do
  let model ← modelOf t.entity
  quoted model.table
  renderAlias t.aliasName

/-- A source; joins stand in parentheses. -/
def Source.render : Source → Render Unit
  | .table t => t.render
  | .join kind left right fields conditions => do
    write "("
    left.render
    write (" " ++ kind.sql ++ " ")
    right.render
    renderUsing fields
    renderClause " ON " conditions
    write ")"

/-- The source of a statement; without one, the table of its own entity. -/
def renderSource : Option Source → Render Unit
  | none => do
    let model ← ownModel
    quoted model.table
  | some source => source.render

end RecordSql
