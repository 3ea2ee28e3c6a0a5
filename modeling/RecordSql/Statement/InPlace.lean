import RecordSql.Render.InPlace
import RecordSql.Statement.Render
/-! # Statements in place

The construction of a statement as a run over one builder, whose text and arguments are two buffers
that each step extends on its own. Loops go by position and put the separators themselves. -/
set_option autoImplicit false
namespace RecordSql

/-- The model of the statement's own entity, which the builder holds. -/
def InPlace.ownModel : InPlace Model := fun b => (.ok b.model, b)

open InPlace

def writeClause (keyword : String) (conditions : List Predicate) : InPlace Unit :=
  if conditions.isEmpty then pure ()
  else do
    text keyword
    writeAll conditions

def writeList {α : Type} (keyword : String) (item : α → InPlace Unit) (list : List α) :
    InPlace Unit :=
  if list.isEmpty then pure ()
  else do
    text keyword
    items item list

def writeCount (keyword : String) : Option UInt64 → InPlace Unit
  | none => pure ()
  | some n => do
    text keyword
    argument (.uint n)

def Selectable.writeTo : Selectable → InPlace Unit
  | column c => c.writeTo true
  | aggregate a => do
    text a.function.sql
    char '('
    Column.writeTo ⟨a.field, none, none⟩ false
    char ')'
    writeAlias a.aliasName
  | raw r => InPlace.raw r

def SortKey.writeTo (key : SortKey) : InPlace Unit := do
  key.column.writeTo false
  text (if key.descending then " DESC" else " ASC")

namespace Select

def writeProjection (projection : List Selectable) : InPlace Unit :=
  if projection.isEmpty then char '*' else items Selectable.writeTo projection

def writeTo (s : Select) : InPlace Unit := do
  text "SELECT "
  writeProjection s.projection
  text " FROM "
  writeSource s.source
  writeClause " WHERE " s.conditions
  writeList " GROUP BY " (Column.writeTo · false) s.groupBy
  writeClause " HAVING " s.having
  writeList " ORDER BY " SortKey.writeTo s.orderBy
  writeCount " LIMIT " s.limit
  writeCount " OFFSET " s.offset

end Select

namespace Insert

variable {e : Entity}

def writeCell (k : Materializer) (r : e.Record) (field : MappedField) : InPlace Unit := do
  let m ← ownModel
  argument (← ofExcept (k.field m e r field.name))

def writeRow (k : Materializer) (fields : List MappedField) (r : e.Record) : InPlace Unit := do
  char '('
  items (writeCell k r) fields
  char ')'

/-- The fields are looked up before anything is written. -/
def writeTo (style : Style) (s : Insert e) : InPlace Unit := do
  let m ← ownModel
  let fields ← ofExcept (targetFields m s.fields)
  text "INSERT INTO "
  quote m.table
  char '('
  items (fun field => quote field.column) fields
  text ") VALUES "
  items (writeRow style.materializer fields) s.records
  match s.upsert with
  | none => pure ()
  | some upsert => upsert.writeTo style.dialect

end Insert

namespace Update

variable {e : Entity}

def writeField (k : Materializer) (r : e.Record) (name column : String) : InPlace Unit := do
  let m ← ownModel
  quote column
  char '='
  argument (← ofExcept (k.field m e r name))

def writeItem (k : Materializer) (record : Option e.Record) : Assignable → InPlace Unit
  | .assignment a => a.writeTo
  | .column c =>
    match record, c.table with
    | some r, none => do writeField k r c.name (← ownColumn c.name)
    | _, _ => fail (.unsupportedAssignable c.name)

def writeRecord (k : Materializer) (s : Update e) : InPlace Unit :=
  if s.assignments.isEmpty then
    match s.record with
    | none => pure ()
    | some r => do
      let m ← ownModel
      items (fun field => writeField k r field.name field.column) m.fields
  else pure ()

/-- What is assigned is looked at before anything is written, and later in two loops, of which one
has nothing to do. -/
def writeTo (style : Style) (s : Update e) : InPlace Unit := do
  let m ← ownModel
  if s.isVoid then fail .emptyAssignments
  text "UPDATE "
  quote m.table
  text " SET "
  s.writeRecord style.materializer
  items (writeItem style.materializer s.record) s.assignments
  writeClause " WHERE " s.conditions

end Update

def Delete.writeTo (s : Delete) : InPlace Unit := do
  let m ← ownModel
  text "DELETE FROM "
  quote (s.table.getD m.table)
  writeClause " WHERE " s.conditions

namespace Statement

variable {e : Entity}

def writeTo (style : Style) : Statement e → InPlace Unit
  | select s => s.writeTo
  | insert s => s.writeTo style
  | update s => s.writeTo style
  | delete s => s.writeTo
  | raw r => InPlace.raw r

/-- The statement written into a builder of its own, which is finished if nothing fails. A raw
statement is handed on, and an insert without records fails before there is a builder. -/
def construct (style : Style) (registry : Registry) : Statement e → Built
  | raw r => ⟨.ok ⟨r.sql, r.args⟩, registry⟩
  | insert ⟨[], _, _⟩ => ⟨.error .insertZeroRow, registry⟩
  | s =>
    match registry.get e with
    | .error err => ⟨.error err, registry⟩
    | .ok (model, after) =>
      match s.writeTo style (.empty model style.dialect after) with
      | (.error err, b) => ⟨.error err, b.registry⟩
      | (.ok (), b) => ⟨.ok b.finish, b.registry⟩

end Statement

end RecordSql
