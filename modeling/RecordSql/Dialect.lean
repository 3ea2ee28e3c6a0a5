import RecordSql.Render.Expr
/-! # Dialects

Where the supported databases differ: the character around names and the clause for rows
that exist already. -/
set_option autoImplicit false
namespace RecordSql

inductive Dialect
  | mysql | sqlite | postgres
  deriving DecidableEq

/-- What an insert does with a row that exists already: the assignments to make, and the
fields by which it is recognised where the dialect asks for them. -/
structure Upsert where
  assignments : List Assignable
  conflictFields : List String

namespace Dialect

def name : Dialect → String
  | mysql => "mysql" | sqlite => "sqlite" | postgres => "postgres"

def quote : Dialect → Char
  | mysql => '\x60' | sqlite => '\x60' | postgres => '"'

end Dialect

open Render

/-- The column of a bare item of an assignment list, which must be of the statement's own
table. -/
def assignableColumn (c : Column) : Render String :=
  match c.table with
  | some _ => fail (.unsupportedAssignable c.name)
  | none => ownColumn c.name

namespace Upsert

/-- An assignment, where a bare column takes the value that was to be inserted: its name
between two texts. -/
def renderItem (before after : String) : Assignable → Render Unit
  | .assignment a => a.render
  | .column c => do
    let column ← assignableColumn c
    quoted column
    write before
    quoted column
    write after

def renderDuplicateKey (u : Upsert) : Render Unit := do
  write " ON DUPLICATE KEY UPDATE "
  commaList (renderItem "=VALUES(" ")") u.assignments

/-- The fields that recognise a row; nothing when there are none. -/
def renderTarget (u : Upsert) : Render Unit :=
  match u.conflictFields with
  | [] => write " ON CONFLICT DO UPDATE SET "
  | _ :: _ => do
    write " ON CONFLICT("
    commaList (fun field => do quoted (← ownColumn field)) u.conflictFields
    write ") DO UPDATE SET "

def renderConflict (u : Upsert) : Render Unit := do
  u.renderTarget
  commaList (renderItem "=excluded." "") u.assignments

/-- The clause of a dialect. PostgreSQL insists on the fields that recognise a row. -/
def render (dialect : Dialect) (u : Upsert) : Render Unit :=
  match dialect with
  | .mysql => u.renderDuplicateKey
  | .sqlite => u.renderConflict
  | .postgres =>
    if u.conflictFields.isEmpty then
      fail (.invalidExpression "postgres upsert requires conflict columns")
    else u.renderConflict

end Upsert

end RecordSql
