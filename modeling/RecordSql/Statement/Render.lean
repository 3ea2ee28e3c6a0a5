import RecordSql.Statement.Basic
/-! # Rendering of statements

The text of each kind of statement, and its construction: a statement is built against a
registry, which it may extend even when it fails. -/
set_option autoImplicit false
namespace RecordSql

open Render

/-- How a session writes statements and reads rows. -/
structure Style where
  dialect : Dialect
  materializer : Materializer
  deriving DecidableEq

namespace Selectable

def render : Selectable → Render Unit
  | column c => c.renderProjected
  | aggregate a => do
    write a.function.sql
    parenthesized (do quoted (← ownColumn a.field))
    renderAlias a.aliasName
  | raw r => Render.raw r

end Selectable

namespace SortKey

def render (key : SortKey) : Render Unit := do
  key.column.render
  write (if key.descending then " DESC" else " ASC")

end SortKey

/-- A list behind its keyword; nothing for an empty list. -/
def renderList {α : Type} (keyword : String) (item : α → Render Unit) (items : List α) :
    Render Unit :=
  match items with
  | [] => pure ()
  | _ :: _ => do
    write keyword
    commaList item items

def renderCount (keyword : String) : Option UInt64 → Render Unit
  | none => pure ()
  | some n => do
    write keyword
    bound (.uint n)

namespace Select

def renderProjection (items : List Selectable) : Render Unit :=
  match items with
  | [] => write "*"
  | _ :: _ => commaList Selectable.render items

def render (s : Select) : Render Unit := do
  write "SELECT "
  renderProjection s.projection
  write " FROM "
  renderSource s.source
  renderClause " WHERE " s.conditions
  renderList " GROUP BY " Column.render s.groupBy
  renderClause " HAVING " s.having
  renderList " ORDER BY " SortKey.render s.orderBy
  renderCount " LIMIT " s.limit
  renderCount " OFFSET " s.offset

end Select

namespace Insert

variable {e : Entity}

def resolveFields (m : Model) : List String → Except Error (List MappedField)
  | [] => .ok []
  | name :: rest =>
    match m.field? name with
    | none => .error (.unknownField name)
    | some field =>
      match resolveFields m rest with
      | .error err => .error err
      | .ok fields => .ok (field :: fields)

def targetFields (m : Model) (names : List String) : Except Error (List MappedField) :=
  match names with
  | [] => .ok m.fields
  | _ :: _ => resolveFields m names

def renderCell (k : Materializer) (r : e.Record) (field : MappedField) : Render Unit := do
  let m ← ownModel
  bound (← ofExcept (k.field m e r field.name))

def render (style : Style) (s : Insert e) : Render Unit := do
  let m ← ownModel
  let fields ← ofExcept (targetFields m s.fields)
  write "INSERT INTO "
  quoted m.table
  parenthesized (commaList (fun field => quoted field.column) fields)
  write " VALUES "
  commaList (fun r => parenthesized (commaList (renderCell style.materializer r) fields)) s.records
  match s.upsert with
  | none => pure ()
  | some upsert => upsert.render style.dialect

end Insert

namespace Update

variable {e : Entity}

def renderField (k : Materializer) (r : e.Record) (name column : String) : Render Unit := do
  let m ← ownModel
  quoted column
  write "="
  bound (← ofExcept (k.field m e r name))

/-- An assignment, where a bare column takes its value from the record. -/
def renderItem (k : Materializer) (record : Option e.Record) : Assignable → Render Unit
  | .assignment a => a.render
  | .column c =>
    match record, c.table with
    | some r, none => do renderField k r c.name (← ownColumn c.name)
    | _, _ => fail (.unsupportedAssignable c.name)

/-- The assignments; without any, all fields of the record. -/
def renderAssignments (k : Materializer) (s : Update e) : Render Unit :=
  match s.assignments, s.record with
  | [], none => fail .emptyAssignments
  | [], some r => do
    let m ← ownModel
    commaList (fun field => renderField k r field.name field.column) m.fields
  | items@(_ :: _), record => commaList (renderItem k record) items

def isVoid (s : Update e) : Bool := s.assignments.isEmpty && s.record.isNone

def render (style : Style) (s : Update e) : Render Unit := do
  let m ← ownModel
  if s.isVoid then fail .emptyAssignments
  write "UPDATE "
  quoted m.table
  write " SET "
  renderAssignments style.materializer s
  renderClause " WHERE " s.conditions

end Update

namespace Delete

def render (s : Delete) : Render Unit := do
  let m ← ownModel
  write "DELETE FROM "
  quoted (s.table.getD m.table)
  renderClause " WHERE " s.conditions

end Delete

structure Built where
  result : Except Error Query
  registry : Registry

def draftFor {α : Type} (e : Entity) (x : Render α) (registry : Registry) : Draft α :=
  match registry.get e with
  | .error err => ⟨[], registry, .error err⟩
  | .ok (model, after) => x model after

namespace Statement

variable {e : Entity}

def render (style : Style) : Statement e → Render Unit
  | select s => s.render
  | insert s => s.render style
  | update s => s.render style
  | delete s => s.render
  | raw r => Render.raw r

/-- The statement's pieces. A raw statement is its own only piece; the others end with a
semicolon. An insert without records fails before any model is asked for. -/
def draft (style : Style) (registry : Registry) : Statement e → Draft Unit
  | raw r => ⟨[.raw r], registry, .ok ()⟩
  | insert ⟨[], _, _⟩ => ⟨[], registry, .error .insertZeroRow⟩
  | s => draftFor e (do s.render style; write ";") registry

def build (style : Style) (registry : Registry) (s : Statement e) : Built :=
  let draft := s.draft style registry
  ⟨draft.result.map fun () => .ofPieces style.dialect.quote draft.pieces, draft.registry⟩

end Statement

end RecordSql
