import RecordSql.Model
import RecordSql.Tag.Table
/-! # Indexed models

A model with two tables of positions, by which fields are looked up: one by their names and one by
their columns. Options find their field by its name. The tables are made anew when a column has
changed, so that no key of an earlier column is left. -/
set_option autoImplicit false
namespace RecordSql

/-- The position of the last entry with each key. -/
def positionsBy (key : MappedField → String) (fields : List MappedField) :
    Std.HashMap String Nat :=
  fields.zipIdx.foldl (fun table entry => table.insert (key entry.1) entry.2) ∅

structure IndexedModel where
  model : Model
  byName : Std.HashMap String Nat
  byColumn : Std.HashMap String Nat

namespace IndexedModel

def ofModel (m : Model) : IndexedModel :=
  ⟨m, positionsBy MappedField.name m.fields, positionsBy MappedField.column m.fields⟩

/-- The field at the position of a name. There is nothing at a position out of range. -/
def field? (x : IndexedModel) (name : String) : Option (Option MappedField) :=
  x.byName[name]?.map fun i => x.model.fields[i]?

def fieldByColumn? (x : IndexedModel) (column : String) : Option (Option MappedField) :=
  x.byColumn[column]?.map fun i => x.model.fields[i]?

def applyOption (x : IndexedModel) : ModelOption → Except Error IndexedModel
  | .tableName name => .ok { x with model := { x.model with table := name } }
  | .columnName name column =>
    match x.byName[name]? with
    | none => .error (.unknownField name)
    | some i =>
      .ok (ofModel
        { x.model with fields := x.model.fields.modify i fun field => { field with column } })

def applyOptions (x : IndexedModel) : List ModelOption → Except Error IndexedModel
  | [] => .ok x
  | option :: rest =>
    match x.applyOption option with
    | .error err => .error err
    | .ok x => x.applyOptions rest

def ofEntity (e : Entity) (options : List ModelOption) : Except Error IndexedModel :=
  if e.fields.isEmpty then .error (.invalidType e.typeName)
  else
    match Model.mapFields 0 e.fields with
    | .error err => .error err
    | .ok fields => applyOptions (ofModel ⟨Model.declaredTable e, fields⟩) options

end IndexedModel

theorem getElem?_positionsBy (key : MappedField → String) (fields : List MappedField) (k : String) :
    (positionsBy key fields)[k]? =
      (fields.zipIdx.findRev? fun entry => key entry.1 == k).map Prod.snd :=
  getElem?_foldl_insert (fun entry : MappedField × Nat => key entry.1) Prod.snd fields.zipIdx k

end RecordSql
