import RecordSql.Entity
import RecordSql.Naming
import RecordSql.Tag
/-! # Models

The model of an entity names its table and the column of every field. Names come from the
declaration, then options are applied in order. -/
set_option autoImplicit false
namespace RecordSql

structure MappedField where
  name : String
  column : String
  typeName : String
  /-- The position of the field in the declaration. -/
  index : Nat
  deriving DecidableEq

structure Model where
  table : String
  fields : List MappedField
  deriving DecidableEq

/-- A change to a derived model. A column is taken as it is written. -/
inductive ModelOption
  | tableName (name : String)
  | columnName (field column : String)
  deriving DecidableEq

namespace Model

/-- The field with this name; of several the last. -/
def field? (m : Model) (name : String) : Option MappedField :=
  m.fields.findRev? fun field => field.name == name

/-- The field stored in this column; of several the last. -/
def fieldByColumn? (m : Model) (column : String) : Option MappedField :=
  m.fields.findRev? fun field => field.column == column

def columnOf (m : Model) (name : String) : Except Error String :=
  match m.field? name with
  | some field => .ok field.column
  | none => .error (.unknownField name)

/-- The column that a declaration gives a field: the one that the tag names, else the
field's own name, in database spelling. -/
def declaredColumn (tag : Tag) (name : String) : String :=
  underscoreName <|
    match tag.get? "column" with
    | some column => if column.isEmpty then name else column
    | none => name

def mapFields (index : Nat) : List Field → Except Error (List MappedField)
  | [] => .ok []
  | field :: rest =>
    match Tag.parse field.tag with
    | .error e => .error e
    | .ok tag =>
      match mapFields (index + 1) rest with
      | .error e => .error e
      | .ok mapped =>
        .ok (⟨field.name, declaredColumn tag field.name, field.type.name, index⟩ :: mapped)

/-- The table of an entity: the one it names, else its type's name in database spelling. -/
def declaredTable (e : Entity) : String :=
  if e.tableHook.isEmpty then underscoreName e.typeName else e.tableHook

def setColumn (m : Model) (index : Nat) (column : String) : Model :=
  { m with fields := m.fields.map fun field =>
      if field.index = index then { field with column } else field }

def applyOption (m : Model) : ModelOption → Except Error Model
  | .tableName name => .ok { m with table := name }
  | .columnName name column =>
    match m.field? name with
    | some field => .ok (m.setColumn field.index column)
    | none => .error (.unknownField name)

def applyOptions (m : Model) : List ModelOption → Except Error Model
  | [] => .ok m
  | option :: rest =>
    match m.applyOption option with
    | .error e => .error e
    | .ok m => m.applyOptions rest

def ofEntity (e : Entity) (options : List ModelOption) : Except Error Model :=
  if e.fields.isEmpty then .error (.invalidType e.typeName)
  else
    match mapFields 0 e.fields with
    | .error err => .error err
    | .ok fields => applyOptions ⟨declaredTable e, fields⟩ options

end Model

end RecordSql
