import RecordSql.Model
import RecordSql.Row
/-! # Materializers

A materializer writes the cells of a result row into a record and reads the fields of a
record. There are two: one goes by the names of fields, the other by positions in the
accessor table. Both refuse a row before they touch the record when its length or one of
its columns is wrong. -/
set_option autoImplicit false
namespace RecordSql

inductive Materializer
  | reflect | accessor
  deriving DecidableEq

/-- The column that a row with a wrong number of values is blamed on: the first column
without a value, else the last. -/
def blamedColumn (row : Row) : String :=
  row.columns.getD (min row.values.length (row.columns.length - 1)) ""

def lengthMismatch (row : Row) : Error :=
  .decode (blamedColumn row) <|
    "row has " ++ toString row.values.length ++ " values for " ++ toString row.columns.length
      ++ " columns"

namespace Materializer

variable {e : Entity}

abbrev Setter (e : Entity) : Type := e.Record → Value → Except Error e.Record

def setByName (e : Entity) (field column : String) : Setter e := fun r v =>
  match e.setField? r field v with
  | none => .error (.unknownField field)
  | some (.error refusal) => .error (.ofConversion column refusal)
  | some (.ok after) => .ok after

def setByAccessor (a : e.Accessor) (column : String) : Setter e := fun r v =>
  match a.set r v with
  | .error refusal => .error (.ofConversion column refusal)
  | .ok after => .ok after

def setter? (k : Materializer) (m : Model) (e : Entity) (column : String) : Option (Setter e) :=
  match k with
  | reflect => (m.fieldByColumn? column).map fun field => setByName e field.name column
  | accessor =>
    ((m.fieldByColumn? column).bind fun field => e.accessor? field.index).map fun a =>
      setByAccessor a column

def setters (k : Materializer) (m : Model) (e : Entity) :
    List String → Except Error (List (Setter e))
  | [] => .ok []
  | column :: rest =>
    match k.setter? m e column with
    | none => .error (.unknownColumn column)
    | some setter =>
      match k.setters m e rest with
      | .error err => .error err
      | .ok more => .ok (setter :: more)

/-- Writes the cells one after the other. The first error stops, and what was written
before it stays. -/
def writeCells (r : e.Record) : List (Setter e × Value) → Except Error Unit × e.Record
  | [] => (.ok (), r)
  | (setter, v) :: rest =>
    match setter r v with
    | .error err => (.error err, r)
    | .ok after => writeCells after rest

/-- Writes a row into a record: the outcome, and the record as it is then. -/
def setColumns (k : Materializer) (m : Model) (r : e.Record) (row : Row) :
    Except Error Unit × e.Record :=
  if row.columns.length ≠ row.values.length then (.error (lengthMismatch row), r)
  else
    match k.setters m e row.columns with
    | .error err => (.error err, r)
    | .ok setters => writeCells r (setters.zip row.values)

def field (k : Materializer) (m : Model) (e : Entity) (r : e.Record) (name : String) :
    Except Error Value :=
  let found := match k with
    | reflect => (m.field? name).bind fun field => e.fieldValue? r field.name
    | accessor =>
      ((m.field? name).bind fun field => e.accessor? field.index).map fun a => a.get r
  match found with
  | some v => .ok v
  | none => .error (.unknownField name)

def decodeRow (k : Materializer) (m : Model) (e : Entity) (row : Row) : Except Error e.Record :=
  match k.setColumns m (Record.initial : e.Record) row with
  | (.ok (), r) => .ok r
  | (.error err, _) => .error err

def decodeRows (k : Materializer) (m : Model) (e : Entity) :
    List Row → Except Error (List e.Record)
  | [] => .ok []
  | row :: rest =>
    match k.decodeRow m e row with
    | .error err => .error err
    | .ok r =>
      match k.decodeRows m e rest with
      | .error err => .error err
      | .ok more => .ok (r :: more)

end Materializer

end RecordSql
