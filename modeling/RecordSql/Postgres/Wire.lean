import RecordSql.Error
/-! # The binary format of PostgreSQL

How values are sent as parameters of a column type, and how cells of a column type are read.
Integers are sent as an integer type only if they fit. -/
set_option autoImplicit false
namespace RecordSql.Postgres

inductive ColumnType
  | bool | int2 | int4 | int8 | float4 | float8
  | text | varchar | bpchar | name | unknown
  | bytea | timestamp | timestamptz | uuid
  | other (name : String)
  deriving DecidableEq

namespace ColumnType

def named : List (String × ColumnType) :=
  [("bool", bool), ("int2", int2), ("int4", int4), ("int8", int8), ("float4", float4),
   ("float8", float8), ("text", text), ("varchar", varchar), ("bpchar", bpchar), ("name", name),
   ("unknown", unknown), ("bytea", bytea), ("timestamp", timestamp), ("timestamptz", timestamptz),
   ("uuid", uuid)]

def ofName (written : String) : ColumnType :=
  match named.find? fun entry => entry.1 == written with
  | some (_, t) => t
  | none => other written

def isAccepted : ColumnType → Bool
  | other _ => false
  | _ => true

def isText : ColumnType → Bool
  | text | varchar | bpchar | name | unknown => true
  | _ => false

/-- The types of trees of labels and of questions to them. Their cells have a number in front
that tells the version of the format. -/
def versioned : List String := ["ltree", "lquery", "ltxtquery"]

/-- Whether cells can have the type. Beyond what parameters may have, some types of extensions
are read as texts. -/
def isReadable : ColumnType → Bool
  | other written => written == "citext" || versioned.contains written
  | _ => true

end ColumnType

def patterns (width : Nat) : Nat := 1 <<< (8 * width)

/-- A number in `width` bytes, the highest first. -/
def bigEndian : (width : Nat) → Nat → List UInt8
  | 0, _ => []
  | width + 1, n => .ofNat (n >>> (8 * width)) :: bigEndian width n

def ofBigEndian (bytes : List UInt8) : Nat := bytes.foldl (fun n b => n * 256 + b.toNat) 0

/-- An integer in `width` bytes, in two's complement. -/
def signedBytes (width : Nat) (n : Int) : List UInt8 := bigEndian width (n % patterns width).toNat

/-- The integer that bytes hold in two's complement. -/
def ofSignedBytes (bytes : List UInt8) : Int :=
  let n : Int := ofBigEndian bytes
  if 2 * n < patterns bytes.length then n else n - patterns bytes.length

def fits (width : Nat) (n : Int) : Bool :=
  decide (-(patterns width : Int) ≤ 2 * n) && decide (2 * n < patterns width)

def sendChecked (width : Nat) (n : Int) : Except BindCause (List UInt8) :=
  if fits width n then .ok (signedBytes width n) else .error .outOfRange

def utf8Bytes (s : String) : List UInt8 := s.toUTF8.data.toList

def sendInteger (n : Int) : ColumnType → Except BindCause (List UInt8)
  | .int2 => sendChecked 2 n
  | .int4 => sendChecked 4 n
  | .int8 => .ok (signedBytes 8 n)
  | .float4 => .ok (bigEndian 4 (Binary32.ofInt n).bits.toNat)
  | .float8 => .ok (bigEndian 8 (Binary64.ofInt n).bits.toNat)
  | .bool => .ok [if n = 0 then 0 else 1]
  | .text | .varchar => .ok (utf8Bytes (toString n))
  | _ => .error .wrongType

def sendValue (v : Value) (t : ColumnType) : Except BindCause (List UInt8) :=
  match v, t with
  | .bool b, .bool => .ok [if b then 1 else 0]
  | .int n, t => sendInteger n.toInt t
  | .uint n, t => if n.toNat < UInt64.size / 2 then sendInteger n.toNat t else .error .outOfRange
  | .float x, .float4 => .ok (bigEndian 4 x.toBinary32.bits.toNat)
  | .float x, .float8 => .ok (bigEndian 8 x.bits.toNat)
  | .text s, t => if t.isText then .ok (utf8Bytes s) else .error .wrongType
  | .bytes b, .bytea => .ok b
  | .timestamp t, .timestamp => .ok (signedBytes 8 t.microsSince2000)
  | .timestamp t, .timestamptz => .ok (signedBytes 8 t.microsSince2000)
  | .uuid u, .uuid => .ok u.bytes
  | _, _ => .error .wrongType

/-- A value as a parameter. Null is sent as no bytes to every accepted type. -/
def send (v : Value) (t : ColumnType) : Except BindCause (Option (List UInt8)) :=
  if t.isAccepted then
    match v with
    | .null => .ok none
    | v => (sendValue v t).map some
  else .error .wrongType

def timestamp? (bytes : List UInt8) : Option Timestamp :=
  if bytes.length = 8 then
    let t := Timestamp.ofMicrosSince2000 (ofSignedBytes bytes)
    if t.inRange then some t else none
  else none

def integer? (width : Nat) (bytes : List UInt8) : Option Value :=
  if bytes.length = width then some (.int (.ofInt (ofSignedBytes bytes))) else none

def text? (bytes : List UInt8) : Option Value := (String.fromUTF8? ⟨bytes.toArray⟩).map .text

/-- A text behind the only version that there is. -/
def versionedText? : List UInt8 → Option Value
  | 1 :: rest => text? rest
  | _ => none

def readBytes (t : ColumnType) (bytes : List UInt8) : Option Value :=
  match t with
  | .bool => match bytes with
    | [b] => some (.bool (b != 0))
    | _ => none
  | .int2 => integer? 2 bytes
  | .int4 => integer? 4 bytes
  | .int8 => integer? 8 bytes
  | .float4 =>
    if bytes.length = 4 then some (.float (Binary32.mk (.ofNat (ofBigEndian bytes))).toBinary64)
    else none
  | .float8 => if bytes.length = 8 then some (.float ⟨.ofNat (ofBigEndian bytes)⟩) else none
  | .text | .varchar | .bpchar | .name | .unknown => text? bytes
  | .bytea => some (.bytes bytes)
  | .timestamp | .timestamptz => (timestamp? bytes).map .timestamp
  | .uuid => (Uuid.ofBytes? bytes).map .uuid
  | .other name =>
    if name == "citext" then text? bytes
    else if ColumnType.versioned.contains name then versionedText? bytes
    else none

def read (t : ColumnType) (cell : Option (List UInt8)) : Option Value :=
  match cell with
  | some bytes => readBytes t bytes
  | none => if t.isReadable then some .null else none

end RecordSql.Postgres
