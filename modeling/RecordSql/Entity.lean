import RecordSql.Value.Convert
/-! # Entities and their records

An entity is a record type that is mapped to a table: a name, fields with types and tags,
and the two ways to reach the fields of a record, by position in the accessor table and by
name. An entity written by hand may have a shorter accessor table or hide names; a derived
one has neither. -/
set_option autoImplicit false
namespace RecordSql

structure Field where
  name : String
  type : FieldType
  tag : String
  deriving DecidableEq

structure Record (fields : List Field) where
  content : (i : Fin fields.length) → fields[i].type.Content

namespace Record

variable {fields : List Field}

def initial : Record fields := ⟨fun i => fields[i].type.initial⟩

def value (r : Record fields) (i : Fin fields.length) : Value :=
  fields[i].type.toValue (r.content i)

def put (r : Record fields) (i : Fin fields.length) (c : fields[i].type.Content) : Record fields :=
  ⟨fun j => if same : j = i then same ▸ c else r.content j⟩

def set (r : Record fields) (i : Fin fields.length) (v : Value) :
    Except ConversionError (Record fields) :=
  (fields[i].type.ofValue v).map (r.put i)

def values (r : Record fields) : List Value := (List.finRange fields.length).map r.value

theorem content_put_self (r : Record fields) (i : Fin fields.length) (c : fields[i].type.Content) :
    (r.put i c).content i = c := by
  simp [put]

theorem content_put_of_ne (r : Record fields) {i j : Fin fields.length}
    (c : fields[i].type.Content) (distinct : j ≠ i) : (r.put i c).content j = r.content j := by
  simp [put, distinct]

theorem ext_content {r s : Record fields} (same : ∀ i, r.content i = s.content i) : r = s := by
  obtain ⟨f⟩ := r
  obtain ⟨g⟩ := s
  congr
  exact funext same

end Record

/-- A record type that is mapped to a table. Two entities are the same type when they have
the same identity, whatever they declare. -/
structure Entity where
  identity : Nat
  typeName : String
  /-- The table that the type names; empty when the table follows from the type's name. -/
  tableHook : String
  fields : List Field
  /-- How many fields the accessor table reaches. -/
  accessorCount : Nat
  /-- The names by which no field is reached. -/
  hidden : List String
  deriving DecidableEq

namespace Entity

abbrev Record (e : Entity) : Type := RecordSql.Record e.fields

/-- An entity with an accessor for every field and no hidden names. -/
def derived (identity : Nat) (typeName tableHook : String) (fields : List Field) : Entity :=
  { identity, typeName, tableHook, fields, accessorCount := fields.length, hidden := [] }

/-- An accessor: the position of a field that the accessor table reaches. -/
structure Accessor (e : Entity) where
  position : Fin e.fields.length
  reached : position.val < e.accessorCount

namespace Accessor

variable {e : Entity}

def name (a : Accessor e) : String := e.fields[a.position].name

def get (a : Accessor e) (r : e.Record) : Value := r.value a.position

def set (a : Accessor e) (r : e.Record) (v : Value) : Except ConversionError e.Record :=
  r.set a.position v

end Accessor

def accessor? (e : Entity) (index : Nat) : Option e.Accessor :=
  if declared : index < e.fields.length then
    if reached : index < e.accessorCount then some ⟨⟨index, declared⟩, reached⟩ else none
  else none

def accessors (e : Entity) : List e.Accessor :=
  (List.range e.fields.length).filterMap e.accessor?

def position? (e : Entity) (name : String) : Option (Fin e.fields.length) :=
  if e.hidden.contains name then none else e.fields.findFinIdx? fun field => field.name == name

def fieldValue? (e : Entity) (r : e.Record) (name : String) : Option Value :=
  (e.position? name).map r.value

def setField? (e : Entity) (r : e.Record) (name : String) (v : Value) :
    Option (Except ConversionError e.Record) :=
  (e.position? name).map fun i => r.set i v

def toList (e : Entity) (r : e.Record) : List (String × Value) :=
  (e.fields.map Field.name).zip r.values

end Entity

end RecordSql
