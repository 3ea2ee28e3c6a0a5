import RecordSql.Declare.Item
import RecordSql.Entity
import RecordSql.Tag
/-! # Declarations of record types

A record type is declared by an item of source text: a struct with named fields, whose
attributes give the table and the tags. The item is checked in a fixed order, and an
accepted one yields the schema of an entity. -/
set_option autoImplicit false
namespace RecordSql.Declare

inductive Refusal
  | generic
  | unnamedFields
  | notStruct
  | notPlainKey
  | notText
  /-- The text of an attribute cannot be read at all. -/
  | malformed
  deriving DecidableEq

/-- The wording of a refusal; what cannot be read has none of its own. -/
def Refusal.message? : Refusal → Option String
  | generic => some "Entity cannot be derived for generic structs"
  | unnamedFields => some "Entity can only be derived for structs with named fields"
  | notStruct => some "Entity can only be derived for structs"
  | notPlainKey => some "expected a plain key"
  | notText => some "expected a string literal value"
  | malformed => none

structure SchemaField where
  name : String
  tag : String
  typeName : String
  deriving DecidableEq

structure Schema where
  typeName : String
  table : Option String
  fields : List SchemaField
  deriving DecidableEq

def judge : Key × Literal → Except Refusal (String × String)
  | (.name written, .text s) => .ok (written, s)
  | (.name _, .bare) => .error .notText
  | (.path, _) => .error .notPlainKey

def judgeAll : List (Key × Literal) → Except Refusal (List (String × String))
  | [] => .ok []
  | entry :: rest =>
    match judge entry with
    | .error r => .error r
    | .ok pair =>
      match judgeAll rest with
      | .error r => .error r
      | .ok pairs => .ok (pair :: pairs)

def readPairs : Argument → Except Refusal (List (String × String))
  | .pairs entries => judgeAll entries
  | _ => .error .malformed

def isMapping (a : Attribute) : Bool := a.key == .name "orm"

def readAll : List Attribute → Except Refusal (List (String × String))
  | [] => .ok []
  | a :: rest =>
    match readPairs a.argument with
    | .error r => .error r
    | .ok pairs =>
      match readAll rest with
      | .error r => .error r
      | .ok more => .ok (pairs ++ more)

/-- The table that the attributes of an item name; the last one counts. -/
def tableOf (attributes : List Attribute) : Except Refusal (Option String) :=
  (readAll (attributes.filter isMapping)).map fun pairs => Tag.get? pairs "table"

/-- The pieces of tag text that an attribute of a field gives. Plain text is taken as it
is. -/
def tagPieces : Argument → Except Refusal (List String)
  | .text s => .ok [s]
  | argument =>
    (readPairs argument).map fun pairs => pairs.map fun (key, value) => key ++ "=" ++ value

def allTagPieces : List Attribute → Except Refusal (List String)
  | [] => .ok []
  | a :: rest =>
    match tagPieces a.argument with
    | .error r => .error r
    | .ok pieces =>
      match allTagPieces rest with
      | .error r => .error r
      | .ok more => .ok (pieces ++ more)

def tagOf (attributes : List Attribute) : Except Refusal String :=
  (allTagPieces (attributes.filter isMapping)).map fun pieces => ",".intercalate pieces

/-! ## What is generated for an item -/

inductive AccessorFunction
  /-- Gives the value of a copy of the field. -/
  | getter (name identifier : String)
  /-- Converts a value to the type and assigns the result to the field. -/
  | setter (name identifier : String) (type : List Token)
  deriving DecidableEq

def AccessorFunction.name : AccessorFunction → String
  | getter name _ => name
  | setter name _ _ => name

structure AccessorEntry where
  name : String
  getter : String
  setter : String
  deriving DecidableEq

structure GetArm where
  name : String
  identifier : String
  deriving DecidableEq

structure SetArm where
  name : String
  identifier : String
  type : List Token
  deriving DecidableEq

/-- What is generated for an item. -/
structure Expansion where
  typeName : String
  table : Option String
  schema : List SchemaField
  functions : List AccessorFunction
  entries : List AccessorEntry
  getArms : List GetArm
  setArms : List SetArm
  deriving DecidableEq

namespace ItemField

def getterName (f : ItemField) : String := "__gsql_get_" ++ f.name

def setterName (f : ItemField) : String := "__gsql_set_" ++ f.name

def functions (f : ItemField) : List AccessorFunction :=
  [.getter f.getterName f.identifier, .setter f.setterName f.identifier f.type]

def entry (f : ItemField) : AccessorEntry := ⟨f.name, f.getterName, f.setterName⟩

def getArm (f : ItemField) : GetArm := ⟨f.name, f.identifier⟩

def setArm (f : ItemField) : SetArm := ⟨f.name, f.identifier, f.type⟩

end ItemField

namespace Expansion

def add (x : Expansion) (field : ItemField) : Except Refusal Expansion :=
  (tagOf field.attributes).map fun tag =>
    { x with
      schema := x.schema ++ [⟨field.name, tag, joined field.type⟩]
      functions := x.functions ++ field.functions
      entries := x.entries ++ [field.entry]
      getArms := x.getArms ++ [field.getArm]
      setArms := x.setArms ++ [field.setArm] }

def addAll (x : Expansion) : List ItemField → Except Refusal Expansion
  | [] => .ok x
  | field :: rest =>
    match x.add field with
    | .error r => .error r
    | .ok x => x.addAll rest

end Expansion

/-- What is generated for an item. Checked in this order: generics, kind, the item's attributes,
the fields. -/
def expand (item : Item) : Except Refusal Expansion :=
  if item.isGeneric then .error .generic
  else match item.kind with
    | .namedStruct =>
      match tableOf item.attributes with
      | .error r => .error r
      | .ok table => Expansion.addAll ⟨item.name, table, [], [], [], [], []⟩ item.fields
    | .tupleStruct | .unitStruct => .error .unnamedFields
    | .enumeration | .union => .error .notStruct

/-! ## Schemas -/

def derive (item : Item) : Except Refusal Schema :=
  (expand item).map fun x => ⟨x.typeName, x.table, x.schema⟩

def deriveSource (source : String) : Except Refusal Schema :=
  match Item.ofSource? source with
  | none => .error .malformed
  | some item => derive item

def SchemaField.toFields? : List SchemaField → Option (List Field)
  | [] => some []
  | field :: rest =>
    match FieldType.ofName? field.typeName, toFields? rest with
    | some type, some fields => some (⟨field.name, type, field.tag⟩ :: fields)
    | _, _ => none

def Schema.entity? (s : Schema) (identity : Nat) : Option Entity :=
  (SchemaField.toFields? s.fields).map fun fields =>
    .derived identity s.typeName (s.table.getD "") fields

end RecordSql.Declare
