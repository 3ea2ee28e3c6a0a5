import RecordSql.Declare
/-! # What generated code does

The parts that are generated for an item refer to one another, to the fields and to types by
name. Where all names can be resolved, they give the accessor table of the records and the two
ways to reach a field by its name. -/
set_option autoImplicit false
namespace RecordSql.Declare

/-- A type with what generated code needs of it. A copy has the value of the original. -/
structure Convertible where
  Content : Type
  copy : Content → Content
  toValue : Content → Value
  ofValue : Value → Except ConversionError Content
  toValue_copy : ∀ c, toValue (copy c) = toValue c

def Convertible.ofFieldType (t : FieldType) : Convertible :=
  { Content := t.Content
    copy := id
    toValue := t.toValue
    ofValue := t.ofValue
    toValue_copy := fun _ => rfl }

/-- What the types of source text stand for. -/
abbrev Scope : Type 1 := List Token → Convertible

variable {scope : Scope} {fields : List ItemField}

abbrev Scope.typeOf (scope : Scope) (i : Fin fields.length) : Convertible :=
  scope (fields.get i).type

structure Object (scope : Scope) (fields : List ItemField) where
  content : (i : Fin fields.length) → (scope.typeOf i).Content

namespace Object

def value (o : Object scope fields) (i : Fin fields.length) : Value :=
  (scope.typeOf i).toValue ((scope.typeOf i).copy (o.content i))

def put (o : Object scope fields) (i : Fin fields.length) (c : (scope.typeOf i).Content) :
    Object scope fields :=
  ⟨fun j => if same : j = i then same ▸ c else o.content j⟩

def assign (i : Fin fields.length) (v : Value) :
    ExceptT ConversionError (StateM (Object scope fields)) Unit := do
  let c ← liftExcept ((scope.typeOf i).ofValue v)
  modify fun o : Object scope fields => o.put i c

def mapAssign (i : Fin fields.length) (v : Value) :
    StateM (Object scope fields) (Except ConversionError Unit) :=
  match (scope.typeOf i).ofValue v with
  | .error refusal => return .error refusal
  | .ok c => do
    modify fun o : Object scope fields => o.put i c
    return .ok ()

theorem content_put_self (o : Object scope fields) (i : Fin fields.length)
    (c : (scope.typeOf i).Content) : (o.put i c).content i = c := by
  simp [put]

theorem content_put_of_ne (o : Object scope fields) {i j : Fin fields.length}
    (c : (scope.typeOf i).Content) (distinct : j ≠ i) :
    (o.put i c).content j = o.content j := by
  simp [put, distinct]

end Object

/-! ## Resolving names -/

def place? (fields : List ItemField) (identifier : String) : Option (Fin fields.length) :=
  fields.findFinIdx? fun field => field.name == unmarked identifier

def target? (fields : List ItemField) (identifier : String) (type : List Token) :
    Option (Fin fields.length) :=
  (place? fields identifier).filter fun i => (fields.get i).type == type

/-- Sets a part of a record to a value, or refuses it. -/
abbrev Setter (scope : Scope) (fields : List ItemField) : Type :=
  Value → ExceptT ConversionError (StateM (Object scope fields)) Unit

structure Accessor (scope : Scope) (fields : List ItemField) where
  name : String
  get : Object scope fields → Value
  set : Setter scope fields

structure Implementation (scope : Scope) (fields : List ItemField) where
  schema : List SchemaField
  accessors : List (Accessor scope fields)
  getArms : List (String × Fin fields.length)
  setArms : List (String × Fin fields.length)

namespace Expansion

def getter? (x : Expansion) (name : String) : Option (Object scope fields → Value) :=
  match x.functions.find? fun function => function.name == name with
  | some (.getter _ identifier) => (place? fields identifier).map fun i o => o.value i
  | _ => none

def setter? (x : Expansion) (name : String) : Option (Setter scope fields) :=
  match x.functions.find? fun function => function.name == name with
  | some (.setter _ identifier type) => (target? fields identifier type).map Object.assign
  | _ => none

def accessor? (x : Expansion) (entry : AccessorEntry) : Option (Accessor scope fields) := do
  let get ← x.getter? entry.getter
  let set ← x.setter? entry.setter
  return ⟨entry.name, get, set⟩

/-- The code with all names resolved, unless one cannot be or two functions share one. -/
def link? (x : Expansion) (scope : Scope) (fields : List ItemField) :
    Option (Implementation scope fields) := do
  guard (x.functions.map AccessorFunction.name).Nodup
  let accessors ← x.entries.mapM x.accessor?
  let getArms ← x.getArms.mapM fun arm => (place? fields arm.identifier).map (arm.name, ·)
  let setArms ← x.setArms.mapM fun arm =>
    (target? fields arm.identifier arm.type).map (arm.name, ·)
  return ⟨x.schema, accessors, getArms, setArms⟩

end Expansion

namespace Implementation

def fieldValue? (m : Implementation scope fields) (o : Object scope fields) (name : String) :
    Option Value :=
  (m.getArms.find? fun arm => arm.1 == name).map fun arm => o.value arm.2

def setFieldValue? (m : Implementation scope fields) (name : String) (v : Value) :
    StateM (Object scope fields) (Option (Except ConversionError Unit)) := do
  match m.setArms.find? fun arm => arm.1 == name with
  | some arm => return some (← Object.mapAssign arm.2 v)
  | none => return none

end Implementation

end RecordSql.Declare
