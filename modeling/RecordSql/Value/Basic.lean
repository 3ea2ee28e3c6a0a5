import RecordSql.Number.Binary
import RecordSql.Time.Timestamp
/-! # Values

What a statement binds to a placeholder and what a database hands back for a cell,
independent of the database. -/
set_option autoImplicit false
namespace RecordSql

structure Uuid where
  bytes : List UInt8
  length_eq : bytes.length = 16
  deriving DecidableEq

namespace Uuid

def nil : Uuid := ⟨List.replicate 16 0, by decide⟩

def ofBytes? (bytes : List UInt8) : Option Uuid :=
  if length_eq : bytes.length = 16 then some ⟨bytes, length_eq⟩ else none

theorem ofBytes?_bytes (u : Uuid) : ofBytes? u.bytes = some u := by
  simp [ofBytes?, u.length_eq]

end Uuid

inductive Value
  | null
  | bool (b : Bool)
  | int (n : Int64)
  | uint (n : UInt64)
  | float (x : Binary64)
  | text (s : String)
  | bytes (bytes : List UInt8)
  | timestamp (t : Timestamp)
  | uuid (u : Uuid)
  deriving DecidableEq

namespace Value

def isNull : Value → Bool
  | null => true
  | _ => false

def kind : Value → String
  | null => "null"
  | bool _ => "bool"
  | int _ => "int"
  | uint _ => "uint"
  | float _ => "float"
  | text _ => "text"
  | bytes _ => "bytes"
  | timestamp _ => "timestamp"
  | uuid _ => "uuid"

def integer? : Value → Option Int
  | int n => some n.toInt
  | uint n => some n.toNat
  | _ => none

/-- Equality of values: the same kind and the same content, where numbers compare as
numbers. -/
def equal : Value → Value → Bool
  | float x, float y => x.equal y
  | v, w => v == w

def equalList : List Value → List Value → Bool
  | [], [] => true
  | v :: vs, w :: ws => v.equal w && equalList vs ws
  | _, _ => false

def isNaN : Value → Bool
  | float x => x.isNaN
  | _ => false

theorem equal_self (v : Value) : v.equal v = !v.isNaN := by
  cases v <;> simp [equal, isNaN, Binary64.equal_self]

end Value

end RecordSql
