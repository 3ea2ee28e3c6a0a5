import RecordSql.Value.Basic
/-! # Field types

The types that a field of a record may have, the content of a field of each type, and the
two conversions: every content has a value, and a value becomes content of a type or is
refused. A conversion never changes an integer: one that does not fit is refused. -/
set_option autoImplicit false
namespace RecordSql

inductive ScalarType
  | int8 | int16 | int32 | int64 | uint8 | uint16 | uint32 | uint64
  | bool | float32 | float64 | text | bytes | timestamp | utcTimestamp | uuid | value
  deriving DecidableEq

inductive FieldType
  | scalar (t : ScalarType)
  | optional (t : FieldType)
  deriving DecidableEq

namespace ScalarType

def name : ScalarType → String
  | int8 => "i8" | int16 => "i16" | int32 => "i32" | int64 => "i64"
  | uint8 => "u8" | uint16 => "u16" | uint32 => "u32" | uint64 => "u64"
  | bool => "bool" | float32 => "f32" | float64 => "f64"
  | text => "String" | bytes => "Vec<u8>"
  | timestamp => "NaiveDateTime" | utcTimestamp => "DateTime<Utc>"
  | uuid => "Uuid" | value => "Value"

def all : List ScalarType :=
  [int8, int16, int32, int64, uint8, uint16, uint32, uint64, bool, float32, float64, text, bytes,
   timestamp, utcTimestamp, uuid, value]

abbrev Content : ScalarType → Type
  | int8 => Int8 | int16 => Int16 | int32 => Int32 | int64 => Int64
  | uint8 => UInt8 | uint16 => UInt16 | uint32 => UInt32 | uint64 => UInt64
  | bool => Bool | float32 => Binary32 | float64 => Binary64
  | text => String | bytes => List UInt8
  | timestamp => Timestamp | utcTimestamp => Timestamp
  | uuid => Uuid | value => Value

def initial : (t : ScalarType) → t.Content
  | int8 => (0 : Int8) | int16 => (0 : Int16) | int32 => (0 : Int32) | int64 => (0 : Int64)
  | uint8 => (0 : UInt8) | uint16 => (0 : UInt16) | uint32 => (0 : UInt32) | uint64 => (0 : UInt64)
  | bool => false | float32 => Binary32.zero | float64 => Binary64.zero
  | text => "" | bytes => ([] : List UInt8)
  | timestamp => Timestamp.epoch | utcTimestamp => Timestamp.epoch
  | uuid => Uuid.nil | value => Value.null

def toValue : (t : ScalarType) → t.Content → Value
  | int8, n => .int (.ofInt (Int8.toInt n))
  | int16, n => .int (.ofInt (Int16.toInt n))
  | int32, n => .int (.ofInt (Int32.toInt n))
  | int64, n => .int n
  | uint8, n => .int (.ofNat (UInt8.toNat n))
  | uint16, n => .int (.ofNat (UInt16.toNat n))
  | uint32, n => .int (.ofNat (UInt32.toNat n))
  | uint64, n => .uint n
  | bool, b => .bool b
  | float32, x => .float (Binary32.toBinary64 x)
  | float64, x => .float x
  | text, s => .text s
  | bytes, b => .bytes b
  | timestamp, t => .timestamp t
  | utcTimestamp, t => .timestamp t
  | uuid, u => .uuid u
  | value, v => v

end ScalarType

/-- Why a value is refused: the type that was wanted and what was found instead. -/
structure ConversionError where
  expected : String
  found : String
  deriving DecidableEq

namespace ConversionError

/-- The refusal of a value; integers are shown with their digits. -/
def of (expected : String) : Value → ConversionError
  | .int n => ⟨expected, "int " ++ toString n.toInt⟩
  | .uint n => ⟨expected, "uint " ++ toString n.toNat⟩
  | v => ⟨expected, v.kind⟩

def message (e : ConversionError) : String :=
  "cannot convert " ++ e.found ++ " into " ++ e.expected

end ConversionError

namespace ScalarType

def ofInteger {α : Type} (expected : String) (least greatest : Int) (content : Int → α)
    (v : Value) : Except ConversionError α :=
  match v.integer? with
  | some n => if least ≤ n ∧ n ≤ greatest then .ok (content n) else .error (.of expected v)
  | none => .error (.of expected v)

def ofBool : Value → Except ConversionError Bool
  | .bool b => .ok b
  | .int n =>
    if n = 0 then .ok false else if n = 1 then .ok true else .error (.of "bool" (.int n))
  | .uint n =>
    if n = 0 then .ok false else if n = 1 then .ok true else .error (.of "bool" (.uint n))
  | v => .error (.of "bool" v)

/-- A number from a number or an integer, rounded to the nearest. -/
def ofNumber : Value → Except ConversionError Binary64
  | .float x => .ok x
  | .int n => .ok (.ofInt n.toInt)
  | .uint n => .ok (.ofInt n.toNat)
  | v => .error (.of "f64" v)

def ofText : Value → Except ConversionError String
  | .text s => .ok s
  | v => .error (.of "String" v)

def ofBytes : Value → Except ConversionError (List UInt8)
  | .bytes b => .ok b
  | .text s => .ok s.toUTF8.data.toList
  | v => .error (.of "Vec<u8>" v)

def ofTimestamp : Value → Except ConversionError Timestamp
  | .timestamp t => .ok t
  | v => .error (.of "NaiveDateTime" v)

def ofUuid : Value → Except ConversionError Uuid
  | .uuid u => .ok u
  | .bytes b =>
    match Uuid.ofBytes? b with
    | some u => .ok u
    | none => .error (.of "Uuid" (.bytes b))
  | v => .error (.of "Uuid" v)

def ofValue : (t : ScalarType) → Value → Except ConversionError t.Content
  | int8, v => ofInteger "i8" (-128) 127 Int8.ofInt v
  | int16, v => ofInteger "i16" (-32768) 32767 Int16.ofInt v
  | int32, v => ofInteger "i32" (-2147483648) 2147483647 Int32.ofInt v
  | int64, v => ofInteger "i64" (-9223372036854775808) 9223372036854775807 Int64.ofInt v
  | uint8, v => ofInteger "u8" 0 255 UInt8.ofInt v
  | uint16, v => ofInteger "u16" 0 65535 UInt16.ofInt v
  | uint32, v => ofInteger "u32" 0 4294967295 UInt32.ofInt v
  | uint64, v => ofInteger "u64" 0 18446744073709551615 UInt64.ofInt v
  | bool, v => ofBool v
  | float32, v => (ofNumber v).map Binary64.toBinary32
  | float64, v => ofNumber v
  | text, v => ofText v
  | bytes, v => ofBytes v
  | timestamp, v => ofTimestamp v
  | utcTimestamp, v => ofTimestamp v
  | uuid, v => ofUuid v
  | value, v => .ok v

end ScalarType

namespace FieldType

def name : FieldType → String
  | scalar t => t.name
  | optional t => "Option<" ++ t.name ++ ">"

def Content : FieldType → Type
  | scalar t => t.Content
  | optional t => Option t.Content

def initial : (t : FieldType) → t.Content
  | scalar t => t.initial
  | optional _ => (none : Option _)

/-- The value of a content; an absent one is null. -/
def toValue : (t : FieldType) → t.Content → Value
  | scalar t, c => t.toValue c
  | optional t, c => match (c : Option t.Content) with
    | none => .null
    | some c => t.toValue c

/-- The content of a field that is set to a value. Null makes an optional field absent. -/
def ofValue : (t : FieldType) → Value → Except ConversionError t.Content
  | scalar t, v => t.ofValue v
  | optional _, .null => .ok (none : Option _)
  | optional t, v => (t.ofValue v).map (some : t.Content → Option t.Content)

def ofNameWithin? (written : String) : Nat → Option FieldType
  | 0 => none
  | depth + 1 =>
    match ScalarType.all.find? fun t => t.name == written with
    | some t => some (scalar t)
    | none =>
      let opening := "Option<".toList
      let cs := written.toList
      if opening.isPrefixOf cs && cs.getLast? == some '>' then
        (ofNameWithin? (.ofList (cs.drop opening.length).dropLast) depth).map optional
      else none

def ofName? (written : String) : Option FieldType := ofNameWithin? written (written.length + 1)

end FieldType

end RecordSql
